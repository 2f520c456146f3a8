import NodeLaunch.Text.System

/-!
# File names

A path is kept as the bytes it was given; nothing is resolved or made absolute.
Two readings of them matter: the *components*, by which paths are compared, and
the *parent*, which is a shorter text. Repeated slashes, a slash at the end and
a `.` anywhere but at the very front belong to no component.
-/

namespace NodeLaunch

/-- A file name as written. Equality of paths as values is equality of texts;
`Path.same` compares what they name. -/
structure Path where
  text : SystemText
  deriving DecidableEq, Repr, Inhabited

namespace Path

/-- The path as it is shown. Different paths may be shown alike. -/
def display (p : Path) : String := p.text.display

inductive Component
  | root
  /-- A leading `.` of a relative path. -/
  | here
  | up
  | name (text : SystemText)
  deriving DecidableEq, Repr

namespace Component

def ofPiece? (piece : SystemText) : Option Component :=
  if piece = "" then none
  else if piece = "." then none
  else if piece = ".." then some .up
  else some (.name piece)

def isName : Component → Bool
  | .name _ => true
  | _ => false

theorem ofPiece?_ne_root (piece : SystemText) : ofPiece? piece ≠ some .root := by
  simp only [ofPiece?]; split <;> (try split) <;> (try split) <;> simp

theorem ofPiece?_ne_here (piece : SystemText) : ofPiece? piece ≠ some .here := by
  simp only [ofPiece?]; split <;> (try split) <;> (try split) <;> simp

end Component

inductive Anchor
  | root
  | here
  | unanchored
  deriving DecidableEq, Repr

def Anchor.components : Anchor → List Component
  | .root => [.root]
  | .here => [.here]
  | .unanchored => []

def isAbsolute (p : Path) : Bool := p.text.bytes.head? == some SystemText.slash

def isRelative (p : Path) : Bool := !p.isAbsolute

def pieces (p : Path) : List SystemText := p.text.pieces SystemText.slash

def anchor (p : Path) : Anchor :=
  if p.isAbsolute then .root
  else if p.pieces.head? = some ("." : SystemText) then .here
  else .unanchored

def body (p : Path) : List SystemText :=
  match p.anchor with
  | .unanchored => p.pieces
  | _ => p.pieces.tail

def components (p : Path) : List Component :=
  p.anchor.components ++ p.body.filterMap Component.ofPiece?

/-- The paths name the same place by the same steps, however they are spelled. -/
def same (p q : Path) : Bool := p.components == q.components

theorem same_iff {p q : Path} : p.same q = true ↔ p.components = q.components := by
  simp [same]

theorem same_refl (p : Path) : p.same p = true := by simp [same]

theorem same_comm (p q : Path) : p.same q = q.same p := by
  simp only [same]; exact Bool.beq_comm

theorem same_trans {p q r : Path} (hpq : p.same q = true) (hqr : q.same r = true) :
    p.same r = true := by
  rw [same_iff] at *; exact hpq.trans hqr

/-- A path below this one. An absolute `tail` stands for itself; else one slash
separates the two unless this path is empty or ends in one. -/
def join (p : Path) (tail : SystemText) : Path :=
  if tail.bytes.head? = some SystemText.slash then ⟨tail⟩
  else if p.text = "" ∨ p.text.bytes.getLast? = some SystemText.slash then ⟨p.text ++ tail⟩
  else ⟨p.text ++ "/" ++ tail⟩

def joinAll (p : Path) (tails : List String) : Path :=
  tails.foldl (fun base (tail : String) => base.join tail) p

def trimBody (body : List SystemText) : List SystemText :=
  (body.reverse.dropWhile fun piece => (Component.ofPiece? piece).isNone).reverse

def ofBody : Anchor → List SystemText → Path
  | .root, body => ⟨"/" ++ SystemText.join SystemText.slash body⟩
  | .here, body => ⟨SystemText.join SystemText.slash ("." :: body)⟩
  | .unanchored, body => ⟨SystemText.join SystemText.slash body⟩

/-- The path without its last component; the root and the empty path have none. -/
def parent? (p : Path) : Option Path :=
  match p.anchor, trimBody p.body with
  | .root, [] => none
  | .unanchored, [] => none
  | .here, [] => some ⟨""⟩
  | anchor, body => some (ofBody anchor (trimBody body.dropLast))

end Path

end NodeLaunch
