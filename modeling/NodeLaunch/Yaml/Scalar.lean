import NodeLaunch.Number.Basic
import NodeLaunch.Yaml.Fault

/-!
# What a plain scalar stands for

Null, the booleans and numbers have fixed spellings; every other text is a
string. Numbers are signed, decimal or after `0x`, `0o` or `0b`. Zeros in front
of other digits make a string of what would be a decimal integer. Integers
beyond 64 bits are refused while 128 bits can hold them, and are floats beyond
that.
-/

namespace NodeLaunch.Yaml.Scalar

def isNull (text : String) : Bool :=
  text == "null" || text == "Null" || text == "NULL" || text == "~"

def bool? (text : String) : Option Bool :=
  if text = "true" ∨ text = "True" ∨ text = "TRUE" then some true
  else if text = "false" ∨ text = "False" ∨ text = "FALSE" then some false
  else none

def digitValue? (radix : Nat) (c : Char) : Option Nat :=
  let value? : Option Nat :=
    if '0' ≤ c ∧ c ≤ '9' then some (c.toNat - 48)
    else if 'a' ≤ c ∧ c ≤ 'z' then some (c.toNat - 87)
    else if 'A' ≤ c ∧ c ≤ 'Z' then some (c.toNat - 55)
    else none
  value?.filter (· < radix)

def natural? (radix : Nat) (cs : List Char) : Option Nat :=
  if cs.isEmpty then none
  else cs.foldlM (fun n c => (digitValue? radix c).map (n * radix + ·)) 0

def dropPlus : List Char → List Char
  | '+' :: rest => rest
  | cs => cs

def isSigned : List Char → Bool
  | '+' :: _ | '-' :: _ => true
  | _ => false

def hasLeadingZero (cs : List Char) : Bool :=
  match (if isSigned cs then cs.tail else cs) with
  | '0' :: d :: rest => (d :: rest).all Char.isDigit
  | _ => false

def radixDigits? : List Char → Option (Nat × List Char)
  | '0' :: 'x' :: rest => some (16, rest)
  | '0' :: 'o' :: rest => some (8, rest)
  | '0' :: 'b' :: rest => some (2, rest)
  | _ => none

def unsigned? (cs : List Char) : Option Nat :=
  let digits := dropPlus cs
  match radixDigits? digits with
  | some (radix, rest) => natural? radix rest
  | none => if isSigned digits || hasLeadingZero cs then none else natural? 10 digits

def negative? : List Char → Option Nat
  | '-' :: digits =>
    match radixDigits? digits with
    | some (radix, rest) => natural? radix rest
    | none => if hasLeadingZero digits then none else natural? 10 digits
  | _ => none

/-- An integer, or that it has no place in 64 bits but one in 128. -/
def integer? (text : String) : Option (Except Fault Int) :=
  match unsigned? text.toList, negative? text.toList with
  | some n, _ =>
    if n < Nat.pow 2 64 then some (.ok n)
    else if n < Nat.pow 2 128 then some (.error .scalar)
    else none
  | none, some n =>
    if n ≤ Nat.pow 2 63 then some (.ok (-n))
    else if n ≤ Nat.pow 2 127 then some (.error .scalar)
    else none
  | none, none => none

def exponent? : List Char → Option Int
  | [] => some 0
  | mark :: rest =>
    if mark = 'e' ∨ mark = 'E' then
      match rest with
      | '-' :: digits => (natural? 10 digits).map fun n => -(n : Int)
      | digits => (natural? 10 (dropPlus digits)).map Int.ofNat
    else none

def decimal? (negative : Bool) (cs : List Char) : Option Binary64 :=
  let whole := cs.takeWhile Char.isDigit
  let rest := cs.dropWhile Char.isDigit
  let (fraction, rest) := match rest with
    | '.' :: rest => (rest.takeWhile Char.isDigit, rest.dropWhile Char.isDigit)
    | rest => ([], rest)
  if whole.isEmpty && fraction.isEmpty then none
  else do
    let exponent ← exponent? rest
    let digits ← natural? 10 (whole ++ fraction)
    return Binary64.ofDecimal negative digits (exponent - fraction.length)

def float? (text : String) : Option Binary64 :=
  let cs := text.toList
  let unsigned := dropPlus cs
  if cs.head? = some '+' ∧ isSigned unsigned then none
  else
    let name := String.ofList unsigned
    if name = ".inf" ∨ name = ".Inf" ∨ name = ".INF" then some (.infinite false)
    else if text = "-.inf" ∨ text = "-.Inf" ∨ text = "-.INF" then some (.infinite true)
    else if text = ".nan" ∨ text = ".NaN" ∨ text = ".NAN" then some .nan
    else
      let number? := match unsigned with
        | '-' :: digits => decimal? true digits
        | digits => decimal? false digits
      number?.bind Binary64.finite?

/-- How floats are written where YAML's own names serve for what is no number. -/
def floatLayout : FloatLayout where
  lastPoint := 16
  firstPoint := -5
  signedExponent := false
  infinity := ".inf"
  negativeInfinity := "-.inf"
  nan := ".nan"

end NodeLaunch.Yaml.Scalar
