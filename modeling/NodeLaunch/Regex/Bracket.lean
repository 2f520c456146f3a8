import NodeLaunch.Regex.Escape

/-!
# Classes in brackets

A class has characters, ranges, escapes and other classes, and between them
operators on all that stands on either side.
-/

namespace NodeLaunch.Regex.Cursor

def asciiRanges? (name : String) : Option (List (Char × Char)) :=
  let upper := ('A', 'Z')
  let lower := ('a', 'z')
  let digit := ('0', '9')
  match name with
  | "alnum" => some [digit, upper, lower]
  | "alpha" => some [upper, lower]
  | "ascii" => some [('\x00', '\x7f')]
  | "blank" => some [('\t', '\t'), (' ', ' ')]
  | "cntrl" => some [('\x00', '\x1f'), ('\x7f', '\x7f')]
  | "digit" => some [digit]
  | "graph" => some [('!', '~')]
  | "lower" => some [lower]
  | "print" => some [(' ', '~')]
  | "punct" => some [('!', '/'), (':', '@'), ('[', '\x60'), ('\x7b', '~')]
  | "space" => some [('\t', '\r'), (' ', ' ')]
  | "upper" => some [upper]
  | "word" => some [digit, upper, ('_', '_'), lower]
  | "xdigit" => some [digit, ('A', 'F'), ('a', 'f')]
  | _ => none

/-- A class such as `[:digit:]`; what is not one is read as a class within the class. -/
def asciiClass? (cursor : Cursor) : Option (ClassTree × Cursor) := do
  let inside ← cursor.skip? ['[', ':']
  let negated := inside.isAt '^'
  let inside := if negated then inside.next else inside
  let (name, after) := inside.word false (· != ':')
  let past ← after.skip? [':', ']']
  let ranges ← asciiRanges? (String.ofList name)
  return (.ascii ranges negated ⟨cursor.place, past.place⟩, past)

def classAtom (verbose : Bool) (cursor : Cursor) : Except Fault (Atom × Cursor) :=
  match cursor.rest with
  | [] => fail .classUnclosed cursor.here
  | '\\' :: _ => cursor.escape verbose
  | c :: _ => .ok (.literal ⟨c, false, cursor.charSpan⟩, cursor.next)

def atomSpan : Atom → Span
  | .literal literal => literal.span
  | .dot span | .anchor _ span | .escaped _ _ span => span

def classItem : Atom → Except Fault ClassTree
  | .literal literal => .ok (.one literal)
  | .escaped name negated span => .ok (.escaped name negated span)
  | atom => fail .classEscape (atomSpan atom)

def rangeEnd : Atom → Except Fault Literal
  | .literal literal => .ok literal
  | atom => fail .classRangeEnd (atomSpan atom)

def classRange (verbose : Bool) (opening : Span) (cursor : Cursor) :
    Except Fault (ClassTree × Cursor) := do
  let (first, cursor) ← cursor.classAtom verbose
  let cursor := cursor.gap verbose
  if cursor.atEnd then fail .classUnclosed opening
  else
    let beyond := cursor.advance verbose
    if !cursor.isAt '-' || beyond.isAt ']' || beyond.isAt '-' then
      return (← classItem first, cursor)
    else if beyond.atEnd then fail .classUnclosed opening
    else
      let (last, cursor) ← beyond.classAtom verbose
      let span : Span := ⟨(atomSpan first).first, (atomSpan last).last⟩
      let first ← rangeEnd first
      let last ← rangeEnd last
      if first.char ≤ last.char then return (.range first last, cursor)
      else fail .classRange span

def classOp? (cursor : Cursor) : Option ClassOp :=
  match cursor.rest with
  | '&' :: '&' :: _ => some .inter
  | '-' :: '-' :: _ => some .diff
  | '~' :: '~' :: _ => some .symmetricDiff
  | _ => none

def combine (left : Option (ClassOp × ClassTree)) (right : ClassTree) : ClassTree :=
  match left with
  | some (op, left) => .combined op left right
  | none => right

/-- How a class begins: its sign, the hyphens or the bracket that stand for
themselves in front, and the span of all that. -/
structure ClassOpening where
  negated : Bool
  items : ClassTree
  span : Span

def classOpening (verbose : Bool) (cursor : Cursor) : Except Fault (ClassOpening × Cursor) :=
  let start := cursor.place
  let inside := cursor.advance verbose
  let negated := inside.isAt '^'
  let signed := if negated then inside.advance verbose else inside
  let (hyphens, after) := signed.word verbose (· == '-')
  let one (c : Char) (past : Cursor) : ClassTree :=
    .one ⟨c, false, ⟨signed.place, past.place⟩⟩
  if inside.atEnd then fail .classUnclosed ⟨start, inside.place⟩
  else if signed.atEnd then fail .classUnclosed ⟨start, signed.place⟩
  else if after.atEnd then fail .classUnclosed ⟨start, start⟩
  else if hyphens.isEmpty && after.isAt ']' then
    let past := after.advance verbose
    if past.atEnd then fail .classUnclosed ⟨start, past.place⟩
    else .ok (⟨negated, one ']' signed.next, ⟨start, past.place⟩⟩, past)
  else
    let first := if hyphens.isEmpty then .nothing else one '-' after
    .ok (⟨negated, first, ⟨start, after.place⟩⟩, after)

mutual

/-- A class from its opening bracket. Each call reads a character, or hands on to
one that does, so twice their number is fuel enough. -/
def bracket (verbose : Bool) : Nat → Cursor → Except Fault (ClassTree × Cursor)
  | 0, cursor => fail .classUnclosed cursor.here
  | fuel + 1, cursor => do
    let (opening, inside) ← cursor.classOpening verbose
    bracketBody verbose cursor.place opening fuel none opening.items inside

/-- The items of a class up to its closing bracket. Operators bind all that
stands on their left. -/
def bracketBody (verbose : Bool) (start : Place) (opening : ClassOpening) :
    Nat → Option (ClassOp × ClassTree) → ClassTree → Cursor → Except Fault (ClassTree × Cursor)
  | 0, _, _, _ => fail .classUnclosed opening.span
  | fuel + 1, left, items, cursor => do
    let cursor := cursor.gap verbose
    if cursor.atEnd then fail .classUnclosed opening.span
    else if cursor.isAt ']' then
      let past := cursor.next
      return (.nested (combine left items) opening.negated ⟨start, past.place⟩, past)
    else if cursor.isAt '[' then
      let (item, after) ← match cursor.asciiClass? with
        | some found => pure found
        | none => bracket verbose fuel cursor
      bracketBody verbose start opening fuel left (.union items item) after
    else
      match cursor.classOp? with
      | some op =>
        bracketBody verbose start opening fuel (some (op, combine left items)) .nothing
          cursor.next.next
      | none =>
        let (item, after) ← cursor.classRange verbose opening.span
        bracketBody verbose start opening fuel left (.union items item) after

end

end NodeLaunch.Regex.Cursor
