import NodeLaunch.Regex.CharSet

/-!
# Regular expressions

A regular expression with its flags worked into it, and whether it matches
somewhere in a text. Matching keeps the set of places that can be reached, so
how often and in which order the alternatives are tried does not matter.
-/

namespace NodeLaunch

/-- What has to hold between two characters. Words are made of ASCII characters. -/
inductive Boundary
  | textStart
  | textEnd
  /-- A carriage return ends a line too, and together with a newline it is one end. -/
  | lineStart (crlf : Bool)
  | lineEnd (crlf : Bool)
  | word
  | noWord
  | wordStart
  | wordEnd
  | beforeWord
  | afterWord
  deriving DecidableEq, Repr

inductive Regex
  | empty
  | one (set : CharSet)
  | look (boundary : Boundary)
  | concat (first second : Regex)
  | either (a b : Regex)
  | repeated (body : Regex) (least : Nat) (most : Option Nat)
  deriving DecidableEq, Repr

/-- A place in a text: the character before it and all that follows. -/
structure Spot where
  before : Option Char
  rest : List Char
  deriving DecidableEq, Repr

namespace Spot

def next? : Spot → Option (Char × Spot)
  | ⟨_, []⟩ => none
  | ⟨_, c :: rest⟩ => some (c, ⟨some c, rest⟩)

def onward (before : Option Char) : List Char → List Spot
  | [] => [⟨before, []⟩]
  | c :: rest => ⟨before, c :: rest⟩ :: onward (some c) rest

end Spot

namespace Boundary

def inWord (c : Option Char) : Bool := c.any CharSet.word.contains

def holds (boundary : Boundary) (spot : Spot) : Bool :=
  let after := spot.rest.head?
  match boundary with
  | .textStart => spot.before.isNone
  | .textEnd => after.isNone
  | .lineStart false => spot.before.all (· == '\n')
  | .lineEnd false => after.all (· == '\n')
  | .lineStart true =>
    spot.before.all fun c => c == '\n' || (c == '\r' && after != some '\n')
  | .lineEnd true =>
    after.all fun c => c == '\r' || (c == '\n' && spot.before != some '\r')
  | .word => inWord spot.before != inWord after
  | .noWord => inWord spot.before == inWord after
  | .wordStart => !inWord spot.before && inWord after
  | .wordEnd => inWord spot.before && !inWord after
  | .beforeWord => !inWord spot.before
  | .afterWord => !inWord after

end Boundary

namespace Regex

def times (step : List Spot → List Spot) : Nat → List Spot → List Spot
  | 0, spots => spots
  | n + 1, spots => if step spots = spots then spots else times step n (step spots)

/-- What is reached in at most so many steps: the known spots, and those that
lead on from the newest of them. -/
def upTo (step : List Spot → List Spot) : Nat → List Spot → List Spot → List Spot
  | 0, known, _ => known
  | n + 1, known, newest =>
    let found := ((step newest).filter (!known.contains ·)).eraseDups
    if found.isEmpty then known else upTo step n (found ++ known) found

def reachable (spots : List Spot) : Nat :=
  spots.foldl (fun most spot => max most (spot.rest.length + 1)) 0

/-- Where a match that begins at one of the spots can end. Steps never go back,
so after as many as there are spots left, further ones change nothing. -/
def reach : Regex → List Spot → List Spot
  | .empty, spots => spots
  | .one set, spots =>
    (spots.filterMap Spot.next?).filterMap fun (c, spot) =>
      if set.contains c then some spot else none
  | .look boundary, spots => spots.filter boundary.holds
  | .concat first second, spots => reach second (reach first spots)
  | .either a b, spots => (reach a spots ++ reach b spots).eraseDups
  | .repeated body least most, spots =>
    let bound := reachable spots
    let start := times (reach body) (min least bound) spots
    let more := match most with
      | some most => min (most - least) bound
      | none => bound
    upTo (reach body) more start start

def matchesIn (regex : Regex) (text : String) : Bool :=
  !(regex.reach (Spot.onward none text.toList)).isEmpty

end Regex

end NodeLaunch
