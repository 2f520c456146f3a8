import NodeLaunch.Regex.Tree
import NodeLaunch.Text.Blank

/-!
# Positions in an expression

Where reading stands and what it meets next. In a verbose expression blanks and
comments between the parts are left out.
-/

namespace NodeLaunch.Regex

structure Cursor where
  place : Place
  rest : List Char
  names : List (String × Span)

namespace Cursor

def here (cursor : Cursor) : Span := ⟨cursor.place, cursor.place⟩

def next (cursor : Cursor) : Cursor :=
  match cursor.rest with
  | [] => cursor
  | c :: rest => { cursor with place := cursor.place.after c, rest }

def charSpan (cursor : Cursor) : Span := ⟨cursor.place, cursor.next.place⟩

def isAt (c : Char) (cursor : Cursor) : Bool := cursor.rest.head? == some c

def atEnd (cursor : Cursor) : Bool := cursor.rest.isEmpty

def skipGap (comment : Bool) (place : Place) : List Char → Place × List Char
  | [] => (place, [])
  | c :: rest =>
    if comment then skipGap (c != '\n') (place.after c) rest
    else if c = '#' then skipGap true (place.after c) rest
    else if Text.isBlank c then skipGap false (place.after c) rest
    else (place, c :: rest)

def gap (verbose : Bool) (cursor : Cursor) : Cursor :=
  if verbose then
    let (place, rest) := skipGap false cursor.place cursor.rest
    { cursor with place, rest }
  else cursor

def advance (verbose : Bool) (cursor : Cursor) : Cursor := cursor.next.gap verbose

def skip? (text : List Char) (cursor : Cursor) : Option Cursor :=
  if text.isPrefixOf cursor.rest then some (text.foldl (fun cursor _ => cursor.next) cursor)
  else none

def takeWhile (verbose : Bool) (p : Char → Bool) : Nat → Cursor → List Char × Cursor
  | 0, cursor => ([], cursor)
  | fuel + 1, cursor =>
    match cursor.rest with
    | [] => ([], cursor)
    | c :: _ =>
      if p c then
        let (cs, cursor) := takeWhile verbose p fuel (cursor.advance verbose)
        (c :: cs, cursor)
      else ([], cursor)

def word (verbose : Bool) (p : Char → Bool) (cursor : Cursor) : List Char × Cursor :=
  takeWhile verbose p cursor.rest.length cursor

def decimal (verbose : Bool) (cursor : Cursor) : Except Fault Nat × Cursor :=
  let (_, cursor) := cursor.word false Text.isBlank
  let (digits, after) := cursor.word verbose Char.isDigit
  let span : Span := ⟨cursor.place, after.place⟩
  let value := Nat.ofDigitChars 10 digits 0
  let number :=
    if digits.isEmpty then fail .countEmpty span
    else if Nat.pow 2 32 ≤ value then fail .decimalTooLarge span
    else .ok value
  (number, (after.word verbose Text.isBlank).2)

end Cursor

end NodeLaunch.Regex
