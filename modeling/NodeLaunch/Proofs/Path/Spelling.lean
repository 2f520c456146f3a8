import Mathlib.Data.List.Basic
import NodeLaunch.Path

/-!
# Spellings of a path

Repeating a slash, or putting a `.` between two slashes, spells a path anew. Paths
with the same components may differ by more, for a slash at the end belongs to no
component. As soon as something is joined to them they are spellings of one path.
-/

namespace NodeLaunch.Path

open SystemText (slash)

/-- Spellings of one path: they differ in repeated slashes and in `.` between slashes. -/
inductive Respelled : Path → Path → Prop
  | refl (p : Path) : Respelled p p
  | slash (before after : SystemText) :
    Respelled ⟨before ++ "//" ++ after⟩ ⟨before ++ "/" ++ after⟩
  | dot (before after : SystemText) :
    Respelled ⟨before ++ "/./" ++ after⟩ ⟨before ++ "/" ++ after⟩
  | symm {p q : Path} : Respelled p q → Respelled q p
  | trans {p q r : Path} : Respelled p q → Respelled q r → Respelled p r

-- ---------------------------------------------------------------------------
-- Components by pieces
-- ---------------------------------------------------------------------------

/-- What the first piece of a path that is not empty stands for. -/
def Component.ofFirst (piece : SystemText) : Component :=
  if piece = "" then .root
  else if piece = "." then .here
  else if piece = ".." then .up
  else .name piece

def Component.piece : Component → SystemText
  | .root => ""
  | .here => "."
  | .up => ".."
  | .name text => text

theorem Component.piece_ofFirst (piece : SystemText) : (ofFirst piece).piece = piece := by
  rw [ofFirst]
  split
  · simp_all [Component.piece]
  · split
    · simp_all [Component.piece]
    · split <;> simp_all [Component.piece]

theorem Component.ofPiece?_eq_none_iff {piece : SystemText} :
    ofPiece? piece = none ↔ piece = "" ∨ piece = "." := by
  rw [ofPiece?]
  split
  · simp_all
  · split
    · simp_all
    · split <;> simp_all

theorem Component.ofPiece?_eq_some {piece : SystemText} (h : piece ≠ "") (hdot : piece ≠ ".") :
    ofPiece? piece = some (ofFirst piece) := by
  rw [ofPiece?, ofFirst, if_neg h, if_neg h, if_neg hdot, if_neg hdot]
  split <;> rfl

def solid (pieces : List SystemText) : List SystemText :=
  pieces.filter fun piece => (Component.ofPiece? piece).isSome

theorem map_piece_filterMap (pieces : List SystemText) :
    (pieces.filterMap Component.ofPiece?).map Component.piece = solid pieces := by
  induction pieces with
  | nil => rfl
  | cons piece rest ih =>
    rw [solid, List.filterMap_cons, List.filter_cons]
    by_cases h : piece = "" ∨ piece = "."
    · rw [Component.ofPiece?_eq_none_iff.2 h]
      exact ih
    · obtain ⟨hempty, hdot⟩ := not_or.1 h
      rw [Component.ofPiece?_eq_some hempty hdot]
      simp only [List.map_cons, Component.piece_ofFirst, Option.isSome_some, if_true, ih]
      rfl

theorem isAbsolute_iff {p : Path} {first : SystemText} {more : List SystemText}
    (hpieces : p.pieces = first :: more) (htext : p.text ≠ "") :
    p.isAbsolute = true ↔ first = "" := by
  obtain ⟨text⟩ := p
  have hbytes : text.bytes ≠ [] := mt SystemText.eq_empty_iff.2 htext
  simp only [isAbsolute, pieces, SystemText.pieces] at hpieces ⊢
  cases hcs : text.bytes with
  | nil => exact absurd hcs hbytes
  | cons c cs =>
    rw [hcs, List.splitOn_cons_eq_if_modifyHead] at hpieces
    obtain ⟨head, tail, hrest⟩ := List.exists_cons_of_ne_nil (List.splitOn_ne_nil (a := slash) cs)
    rw [hrest] at hpieces
    by_cases hc : c = slash
    · subst hc
      simp only [BEq.rfl, if_true, List.map_cons, List.cons.injEq] at hpieces
      simp [← hpieces.1, SystemText.eq_empty_iff]
    · have hne : (c == slash) = false := by simpa using hc
      simp only [hne, Bool.false_eq_true, if_false, List.modifyHead_cons, List.map_cons,
        List.cons.injEq] at hpieces
      rw [← hpieces.1]
      simp [hc, SystemText.eq_empty_iff]

/-- The first piece may be an anchor; the others count if they are solid. -/
theorem components_eq {p : Path} {first : SystemText} {more : List SystemText}
    (hpieces : p.pieces = first :: more) (htext : p.text ≠ "") :
    p.components = Component.ofFirst first :: more.filterMap Component.ofPiece? := by
  have habs := isAbsolute_iff hpieces htext
  rw [components, body, anchor, hpieces]
  by_cases hfirst : first = ""
  · rw [if_pos (habs.2 hfirst)]
    simp [Anchor.components, Component.ofFirst, hfirst]
  · rw [if_neg (mt habs.1 hfirst)]
    by_cases hdot : first = "."
    · simp [Anchor.components, Component.ofFirst, hdot]
    · have hhead : ¬(first :: more).head? = some ("." : SystemText) := by simpa using hdot
      rw [if_neg hhead]
      simp [Anchor.components, Component.ofPiece?_eq_some hfirst hdot]

theorem components_eq_nil_iff {p : Path} : p.components = [] ↔ p.text = "" := by
  obtain ⟨text⟩ := p
  constructor
  · intro h
    by_contra htext
    obtain ⟨first, more, hpieces⟩ :=
      List.exists_cons_of_ne_nil (SystemText.pieces_ne_nil slash text)
    rw [components_eq (p := ⟨text⟩) hpieces htext] at h
    exact List.cons_ne_nil _ _ h
  · rintro rfl
    decide

theorem solid_eq_of_same {p q : Path} {first first' : SystemText} {more more' : List SystemText}
    (hp : p.pieces = first :: more) (hq : q.pieces = first' :: more')
    (hptext : p.text ≠ "") (hqtext : q.text ≠ "") (h : p.same q = true) :
    first = first' ∧ solid more = solid more' := by
  rw [same_iff, components_eq hp hptext, components_eq hq hqtext] at h
  have hpiece := congrArg (List.map Component.piece) h
  rw [List.map_cons, List.map_cons, Component.piece_ofFirst, Component.piece_ofFirst,
    map_piece_filterMap, map_piece_filterMap] at hpiece
  exact List.cons.inj hpiece

-- ---------------------------------------------------------------------------
-- Spellings have the same components
-- ---------------------------------------------------------------------------

theorem pieces_append_slash (before after : SystemText) :
    (⟨before ++ "/" ++ after⟩ : Path).pieces =
      (⟨before⟩ : Path).pieces ++ (⟨after⟩ : Path).pieces :=
  SystemText.pieces_append before after

theorem same_of_pieces {p q : Path} {first : SystemText} {more more' : List SystemText}
    (hp : p.pieces = first :: more) (hq : q.pieces = first :: more')
    (hptext : p.text ≠ "") (hqtext : q.text ≠ "")
    (h : more.filterMap Component.ofPiece? = more'.filterMap Component.ofPiece?) :
    p.same q = true := by
  rw [same_iff, components_eq hp hptext, components_eq hq hqtext, h]

theorem slash_nothing_slash (before after : SystemText) :
    before ++ "/" ++ ("" ++ "/" ++ after) = before ++ "//" ++ after := by
  simp only [SystemText.append_assoc, SystemText.empty_append]; rfl

theorem slash_dot_slash (before after : SystemText) :
    before ++ "/" ++ ("." ++ "/" ++ after) = before ++ "/./" ++ after := by
  simp only [SystemText.append_assoc]; rfl

theorem same_insert {piece : SystemText} (hpiece : Component.ofPiece? piece = none)
    (before after : SystemText) :
    same ⟨before ++ "/" ++ (piece ++ "/" ++ after)⟩ ⟨before ++ "/" ++ after⟩ = true := by
  obtain ⟨first, more, hfirst⟩ := List.exists_cons_of_ne_nil (SystemText.pieces_ne_nil slash before)
  have hsingle : SystemText.pieces slash piece = [piece] := by
    rcases Component.ofPiece?_eq_none_iff.1 hpiece with rfl | rfl <;>
      exact SystemText.pieces_of_not_mem (by decide)
  have hwith : (⟨before ++ "/" ++ (piece ++ "/" ++ after)⟩ : Path).pieces =
      first :: (more ++ [piece] ++ SystemText.pieces slash after) := by
    rw [pieces_append_slash, pieces_append_slash, pieces, pieces, pieces, hfirst, hsingle]
    simp
  have hwithout : (⟨before ++ "/" ++ after⟩ : Path).pieces =
      first :: (more ++ SystemText.pieces slash after) := by
    rw [pieces_append_slash, pieces, pieces, hfirst]
    rfl
  refine same_of_pieces hwith hwithout (by simp) (by simp) ?_
  simp [List.filterMap_append, hpiece]

theorem Respelled.same {p q : Path} (h : p.Respelled q) : p.same q = true := by
  induction h with
  | refl p => exact same_refl p
  | slash before after =>
    rw [← slash_nothing_slash]
    exact same_insert (by decide) before after
  | dot before after =>
    rw [← slash_dot_slash]
    exact same_insert (by decide) before after
  | symm _ ih => rw [same_comm]; exact ih
  | trans _ _ ihp ihq => exact same_trans ihp ihq

-- ---------------------------------------------------------------------------
-- Joining
-- ---------------------------------------------------------------------------

theorem respelled_join {p : Path} {tail : SystemText} (htext : p.text ≠ "")
    (htail : tail.bytes.head? ≠ some slash) : (p.join tail).Respelled ⟨p.text ++ "/" ++ tail⟩ := by
  rw [join, if_neg htail]
  by_cases hlast : p.text.bytes.getLast? = some slash
  · rw [if_pos (.inr hlast)]
    obtain ⟨front, hfront⟩ := List.getLast?_eq_some_iff.1 hlast
    have hp : p.text = ⟨front⟩ ++ "/" := SystemText.ext hfront
    have hdouble : p.text ++ "/" ++ tail = ⟨front⟩ ++ "//" ++ tail := by
      rw [hp, ← slash_nothing_slash]
      simp only [SystemText.append_assoc, SystemText.empty_append]
    rw [hdouble, hp]
    exact (Respelled.slash _ _).symm
  · rw [if_neg (not_or.2 ⟨htext, hlast⟩)]
    exact .refl _

/-- Before a tail only the solid pieces count. -/
theorem respelled_solid (before : SystemText) (pieces : List SystemText) (tail : SystemText) :
    Respelled ⟨before ++ "/" ++ SystemText.join slash (pieces ++ [tail])⟩
      ⟨before ++ "/" ++ SystemText.join slash (solid pieces ++ [tail])⟩ := by
  have hjoin (piece : SystemText) (rest : List SystemText) :
      SystemText.join slash (piece :: (rest ++ [tail])) =
        piece ++ "/" ++ SystemText.join slash (rest ++ [tail]) :=
    SystemText.join_cons slash piece (by simp)
  induction pieces generalizing before with
  | nil => exact .refl _
  | cons piece rest ih =>
    rw [List.cons_append, hjoin]
    by_cases h : piece = "" ∨ piece = "."
    · have hsolid : solid (piece :: rest) = solid rest := by
        rw [solid, List.filter_cons, Component.ofPiece?_eq_none_iff.2 h]; rfl
      rw [hsolid]
      refine .trans ?_ (ih before)
      rcases h with rfl | rfl
      · rw [slash_nothing_slash]
        exact .slash _ _
      · rw [slash_dot_slash]
        exact .dot _ _
    · obtain ⟨hempty, hdot⟩ := not_or.1 h
      have hsolid : solid (piece :: rest) = piece :: solid rest := by
        rw [solid, List.filter_cons, Component.ofPiece?_eq_some hempty hdot]; rfl
      rw [hsolid, List.cons_append, hjoin]
      simpa only [SystemText.append_assoc] using ih (before ++ "/" ++ piece)

/-- Paths with the same components are spelled alike once something is joined to them. -/
theorem respelled_join_of_same {p q : Path} (h : p.same q = true) (tail : SystemText) :
    (p.join tail).Respelled (q.join tail) := by
  by_cases htail : tail.bytes.head? = some slash
  · rw [join, join, if_pos htail, if_pos htail]
    exact .refl _
  by_cases hptext : p.text = ""
  · have hqtext : q.text = "" := by
      rw [← components_eq_nil_iff, ← same_iff.1 h, components_eq_nil_iff, hptext]
    obtain rfl : p = q := by
      cases p; cases q; simp_all
    exact .refl _
  · have hqtext : q.text ≠ "" := by
      rwa [ne_eq, ← components_eq_nil_iff, ← same_iff.1 h, components_eq_nil_iff]
    obtain ⟨first, more, hp⟩ := List.exists_cons_of_ne_nil (SystemText.pieces_ne_nil slash p.text)
    obtain ⟨first', more', hq⟩ := List.exists_cons_of_ne_nil (SystemText.pieces_ne_nil slash q.text)
    obtain ⟨rfl, hsolid⟩ := solid_eq_of_same hp hq hptext hqtext h
    have hspelled {path : Path} {rest : List SystemText}
        (hpieces : SystemText.pieces slash path.text = first :: rest) :
        path.text ++ "/" ++ tail = first ++ "/" ++ SystemText.join slash (rest ++ [tail]) := by
      have hjoined := SystemText.join_concat slash (SystemText.pieces_ne_nil slash path.text) tail
      rw [SystemText.join_pieces, hpieces, List.cons_append,
        SystemText.join_cons slash first (by simp)] at hjoined
      exact hjoined.symm
    refine (respelled_join hptext htail).trans (.trans ?_ (respelled_join hqtext htail).symm)
    rw [hspelled hp, hspelled hq]
    refine (respelled_solid first more tail).trans ?_
    rw [hsolid]
    exact (respelled_solid first more' tail).symm

theorem Respelled.join {p q : Path} (h : p.Respelled q) (tail : SystemText) :
    (p.join tail).Respelled (q.join tail) := respelled_join_of_same h.same tail

end NodeLaunch.Path
