/-!
# Sets of characters

What a class of a regular expression stands for, as a term over ranges.
-/

namespace NodeLaunch

inductive CharSet
  | nothing
  | range (first last : Char)
  | union (a b : CharSet)
  | inter (a b : CharSet)
  | complement (a : CharSet)
  | anyCase (a : CharSet)
  deriving DecidableEq, Repr

namespace CharSet

def one (c : Char) : CharSet := .range c c

def ofList (cs : List Char) : CharSet := cs.foldr (fun c set => .union (one c) set) .nothing

def ofRanges (ranges : List (Char × Char)) : CharSet :=
  ranges.foldr (fun (first, last) set => .union (.range first last) set) .nothing

def all : CharSet := .complement .nothing

def word : CharSet := ofRanges [('a', 'z'), ('A', 'Z'), ('0', '9'), ('_', '_')]

def diff (a b : CharSet) : CharSet := .inter a (.complement b)

def symmetricDiff (a b : CharSet) : CharSet := .union (diff a b) (diff b a)

def contains : CharSet → Char → Bool
  | .nothing, _ => false
  | .range first last, c => first ≤ c && c ≤ last
  | .union a b, c => a.contains c || b.contains c
  | .inter a b, c => a.contains c && b.contains c
  | .complement a, c => !a.contains c
  | .anyCase a, c => [c, c.toLower, c.toUpper].any a.contains

/-- The set is empty by its form alone. -/
def isNothing : CharSet → Bool
  | .nothing => true
  | .range .. | .complement _ => false
  | .union a b => a.isNothing && b.isNothing
  | .inter a b => a.isNothing || b.isNothing
  | .anyCase a => a.isNothing

end CharSet

end NodeLaunch
