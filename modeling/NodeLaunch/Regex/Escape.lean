import NodeLaunch.Regex.Cursor
import NodeLaunch.Text.Hexadecimal

/-!
# Escapes

What a backslash and the characters after it stand for.
-/

namespace NodeLaunch.Regex.Cursor

def literalOf (n : Nat) (byte : Bool) (span wrong : Span) : Except Fault Literal :=
  match Text.charOf? n with
  | some c => .ok ⟨c, byte, span⟩
  | none => fail .hexValue wrong

def hexDigits (verbose : Bool) (value : Nat) : Nat → Cursor → Except Fault (Nat × Cursor)
  | 0, cursor => .ok (value, cursor)
  | left + 1, cursor =>
    match cursor.rest with
    | [] => fail .escapeAtEnd cursor.here
    | c :: _ =>
      match Text.hexValue? c with
      | some digit => hexDigits verbose (value * 16 + digit) left (cursor.advance verbose)
      | none => fail .hexDigit cursor.charSpan

def hex (verbose : Bool) (start : Place) (letter : Char) (cursor : Cursor) :
    Except Fault (Literal × Cursor) := do
  let cursor := cursor.advance verbose
  if cursor.atEnd then fail .escapeAtEnd cursor.here
  else if cursor.isAt '\x7b' then
    let inside := cursor.advance verbose
    let (digits, after) := inside.word verbose (· != '\x7d')
    match digits.find? fun c => (Text.hexValue? c).isNone with
    | some _ =>
      let (_, wrong) := inside.word verbose fun c => (Text.hexValue? c).isSome
      fail .hexDigit wrong.charSpan
    | none =>
      if after.atEnd then fail .escapeAtEnd ⟨cursor.place, after.place⟩
      else
        let past := after.advance verbose
        if digits.isEmpty then fail .hexEmpty ⟨cursor.place, past.place⟩
        else
          let value := Nat.ofDigitChars 16 digits 0
          let literal ← literalOf value false ⟨start, past.place⟩ ⟨cursor.next.place, after.place⟩
          return (literal, past)
  else
    let count := if letter = 'x' then 2 else if letter = 'u' then 4 else 8
    let (value, past) ← hexDigits verbose 0 count cursor
    let literal ←
      literalOf value (letter = 'x') ⟨start, past.place⟩ ⟨cursor.place, past.place⟩
    return (literal, past)

def property (verbose : Bool) (start : Place) (negated : Bool) (cursor : Cursor) :
    Except Fault (Atom × Cursor) :=
  let cursor := cursor.advance verbose
  if cursor.atEnd then fail .escapeAtEnd cursor.here
  else if cursor.isAt '\x7b' then
    let (name, after) := (cursor.advance verbose).word verbose (· != '\x7d')
    if after.atEnd then fail .escapeAtEnd after.here
    else
      .ok (.escaped (.property (String.ofList name)) negated ⟨start, after.next.place⟩, after.next)
  else if cursor.isAt '\\' then fail .propertyClass cursor.charSpan
  else
    let after := cursor.advance verbose
    .ok (.escaped (.property (String.ofList (cursor.rest.take 1))) negated ⟨start, after.place⟩,
      after)

def specialBoundary? (name : String) : Option Anchor :=
  match name with
  | "start" => some .wordStart
  | "end" => some .wordEnd
  | "start-half" => some .beforeWord
  | "end-half" => some .afterWord
  | _ => none

/-- A word boundary, after its letter. A brace that holds no name counts repetitions. -/
def wordBoundary (verbose : Bool) (start : Place) (cursor : Cursor) :
    Except Fault (Atom × Cursor) :=
  let plain : Except Fault (Atom × Cursor) :=
    .ok (.anchor .word ⟨start, cursor.place⟩, cursor)
  let inName (c : Char) : Bool := c.isAlpha || c == '-'
  if !cursor.isAt '\x7b' then plain
  else
    let inside := cursor.advance verbose
    if inside.atEnd then fail .wordBoundaryAtEnd ⟨start, inside.place⟩
    else if !inside.rest.head?.any inName then plain
    else
      let (name, after) := inside.word verbose inName
      if !after.isAt '\x7d' then fail .wordBoundaryUnclosed ⟨cursor.place, after.place⟩
      else
        match specialBoundary? (String.ofList name) with
        | some anchor => .ok (.anchor anchor ⟨start, after.next.place⟩, after.next)
        | none => fail .wordBoundaryUnknown ⟨inside.place, after.place⟩

def control? (c : Char) : Option Char :=
  match c with
  | 'a' => some '\x07'
  | 'f' => some '\x0c'
  | 't' => some '\t'
  | 'n' => some '\n'
  | 'r' => some '\r'
  | 'v' => some '\x0b'
  | _ => none

def anchor? (c : Char) : Option Anchor :=
  match c with
  | 'A' => some .textStart
  | 'z' => some .textEnd
  | 'B' => some .noWord
  | '<' => some .wordStart
  | '>' => some .wordEnd
  | _ => none

def letterClass? (c : Char) : Option (LetterClass × Bool) :=
  match c with
  | 'd' => some (.digit, false)
  | 's' => some (.blank, false)
  | 'w' => some (.word, false)
  | 'D' => some (.digit, true)
  | 'S' => some (.blank, true)
  | 'W' => some (.word, true)
  | _ => none

def isEscapable (c : Char) : Bool :=
  c.toNat < 0x80 && !c.isAlphanum && c != '<' && c != '>'

def escape (verbose : Bool) (cursor : Cursor) : Except Fault (Atom × Cursor) := do
  let start := cursor.place
  let cursor := cursor.next
  match cursor.rest with
  | [] => fail .escapeAtEnd ⟨start, cursor.place⟩
  | c :: _ =>
    let after := cursor.next
    let span : Span := ⟨start, after.place⟩
    if c.isDigit then fail .backreference span
    else if c = 'x' ∨ c = 'u' ∨ c = 'U' then
      let (literal, after) ← cursor.hex verbose start c
      return (.literal literal, after)
    else if c = 'p' ∨ c = 'P' then cursor.property verbose start (c = 'P')
    else if c = 'b' then after.wordBoundary verbose start
    else if isEscapable c then return (.literal ⟨c, false, span⟩, after)
    else
      match control? c, anchor? c, letterClass? c with
      | some c, _, _ => return (.literal ⟨c, false, span⟩, after)
      | _, some anchor, _ => return (.anchor anchor span, after)
      | _, _, some (name, negated) => return (.escaped (.letter name) negated span, after)
      | none, none, none => fail .escapeUnknown span

end NodeLaunch.Regex.Cursor
