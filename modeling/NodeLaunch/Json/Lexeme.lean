import NodeLaunch.Number.Basic
import NodeLaunch.Text.Hexadecimal

/-!
# Lexemes of JSON

Strings and numbers as they are read from a text. A number is kept as its
digits, because a value that nobody asks for may be out of range; a string
remembers whether its escapes spell characters, for the same reason.
-/

namespace NodeLaunch.Json

def isBlank (c : Char) : Bool := c == ' ' || c == '\n' || c == '\t' || c == '\r'

def dropBlanks (cs : List Char) : List Char := cs.dropWhile isBlank

def hexValue4? (a b c d : Char) : Option Nat := do
  let high := (← Text.hexValue? a) * 16 + (← Text.hexValue? b)
  let low := (← Text.hexValue? c) * 16 + (← Text.hexValue? d)
  return high * 256 + low

def unescape? (c : Char) : Option Char :=
  match c with
  | '"' => some '"'
  | '\\' => some '\\'
  | '/' => some '/'
  | 'b' => some '\x08'
  | 'f' => some '\x0c'
  | 'n' => some '\n'
  | 'r' => some '\r'
  | 't' => some '\t'
  | _ => none

/-- The text of a string so far, the latest character first. -/
structure StringText where
  text : List Char
  /-- The first half of a pair of escapes that together spell one character. -/
  half : Option Nat
  /-- No half of such a pair has been without the other. -/
  whole : Bool

namespace StringText

def empty : StringText := ⟨[], none, true⟩

def push (s : StringText) (c : Char) : StringText :=
  ⟨c :: s.text, none, s.whole && s.half.isNone⟩

def pushUnit (s : StringText) (unit : Nat) : StringText :=
  match s.half with
  | some high =>
    if 0xDC00 ≤ unit ∧ unit ≤ 0xDFFF then
      let c := Char.ofNat (0x10000 + (high - 0xD800) * 0x400 + (unit - 0xDC00))
      ⟨c :: s.text, none, s.whole⟩
    else { s with half := none, whole := false }
  | none =>
    if 0xD800 ≤ unit ∧ unit ≤ 0xDBFF then { s with half := some unit }
    else if 0xDC00 ≤ unit ∧ unit ≤ 0xDFFF then { s with whole := false }
    else s.push (Char.ofNat unit)

def result (s : StringText) : Option String :=
  if s.whole && s.half.isNone then some (String.ofList s.text.reverse) else none

end StringText

/-- The rest of a string after its opening quote: its text, if it is one, and
what follows the closing quote. -/
def readString (s : StringText) : List Char → Option (Option String × List Char)
  | [] => none
  | '"' :: rest => some (s.result, rest)
  | '\\' :: 'u' :: a :: b :: c :: d :: rest =>
    match hexValue4? a b c d with
    | some unit => readString (s.pushUnit unit) rest
    | none => none
  | '\\' :: c :: rest =>
    match unescape? c with
    | some d => readString (s.push d) rest
    | none => none
  | c :: rest => if c.toNat < 0x20 ∨ c = '\\' then none else readString (s.push c) rest

structure NumberLexeme where
  negative : Bool
  whole : List Char
  fraction : Option (List Char)
  exponent : Option (Bool × List Char)
  deriving DecidableEq, Repr

namespace NumberLexeme

/-- A number at the front of a text. No other digit follows a zero in front, and
there are digits after a point and after an exponent's mark and sign. -/
def read? (cs : List Char) : Option (NumberLexeme × List Char) := do
  let (negative, cs) := match cs with
    | '-' :: rest => (true, rest)
    | cs => (false, cs)
  let whole := cs.takeWhile Char.isDigit
  let cs := cs.dropWhile Char.isDigit
  if whole.isEmpty || (whole.head? == some '0' && whole.length != 1) then none
  let (fraction, cs) ← match cs with
    | '.' :: rest =>
      let digits := rest.takeWhile Char.isDigit
      if digits.isEmpty then none else some (some digits, rest.dropWhile Char.isDigit)
    | cs => some (none, cs)
  let (exponent, cs) ← match cs with
    | c :: rest =>
      if c = 'e' ∨ c = 'E' then
        let (minus, rest) := match rest with
          | '-' :: rest => (true, rest)
          | '+' :: rest => (false, rest)
          | rest => (false, rest)
        let digits := rest.takeWhile Char.isDigit
        if digits.isEmpty then none else some (some (minus, digits), rest.dropWhile Char.isDigit)
      else some (none, cs)
    | [] => some (none, [])
  return (⟨negative, whole, fraction, exponent⟩, cs)

/-- One more than the largest significand, and than the largest exponent. -/
def significandLimit : Nat := Nat.pow 2 64
def exponentLimit : Nat := Nat.pow 2 31

/-- Digits taken into a significand as long as it fits into 64 bits. The results
are the significand, how many digits it took, and how many it left. -/
def takeDigits (significand : Nat) : List Char → Nat × Nat × Nat
  | [] => (significand, 0, 0)
  | d :: rest =>
    let next := significand * 10 + (d.toNat - 48)
    if next < significandLimit then
      let (s, taken, left) := takeDigits next rest
      (s, taken + 1, left)
    else (significand, 0, rest.length + 1)

/-- `x * 10 ^ exponent` in at most three roundings. Past the largest power of ten
that is a double, the value is first divided by that one; `none` says that the
result is too large. -/
def scale (x : Binary64) : Nat → Int → Option Binary64
  | 0, _ => some x
  | steps + 1, exponent =>
    let power (n : Nat) : Binary64 := Binary64.ofDecimal false 1 n
    if exponent.natAbs ≤ 308 then
      if 0 ≤ exponent then (x.mul (power exponent.toNat)).finite?
      else some (x.div (power exponent.natAbs))
    else if x.same (.zero false) then some x
    else if 0 ≤ exponent then none
    else scale (x.div (power 308)) steps (exponent + 308)

def ofParts (negative : Bool) (significand : Nat) (exponent : Int) : Option Binary64 :=
  (scale (.ofNat false significand) 4 exponent).map fun x => if negative then x.negate else x

/-- A whole number as an integer where 64 bits hold it. Minus zero is a float. -/
def wholeValue (negative : Bool) (n : Nat) : Number :=
  if !negative then .integer n
  else if 0 < n ∧ n ≤ Nat.pow 2 63 then .integer (-n)
  else .float (Binary64.ofNat true n)

/-- The value of a number, unless it is out of range. Digits past the first that
do not fit into 64 bits only count as powers of ten, those of a fraction not at
all, so the value of a long number is near the exact one but not always nearest. -/
def value? (n : NumberLexeme) : Option Number :=
  let (significand, _, left) := takeDigits 0 n.whole
  match n.fraction, n.exponent with
  | none, none =>
    if left = 0 then some (wholeValue n.negative significand)
    else (ofParts n.negative significand left).map .float
  | fraction, exponent =>
    let (significand, taken, _) := takeDigits significand (fraction.getD [])
    let start : Int := left - taken
    let (minus, digits) := exponent.getD (false, [])
    let power := Nat.ofDigitChars 10 digits 0
    if power < exponentLimit then
      (ofParts n.negative significand (if minus then start - power else start + power)).map .float
    else if significand = 0 ∨ minus then some (.float (.zero n.negative))
    else none

end NumberLexeme

end NodeLaunch.Json
