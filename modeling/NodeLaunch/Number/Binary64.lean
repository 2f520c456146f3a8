/-!
# Double precision numbers

Numbers with a 53-bit significand, an exponent range ending at `2 ^ 1023` and
gradual underflow below `2 ^ -1022`. Everything is exact arithmetic on natural
numbers followed by one rounding to nearest, ties to an even significand.
-/

namespace NodeLaunch

/-- A finite value is `significand * 2 ^ exponent`. Values built here are in
lowest position: the significand is below `2 ^ 53`, and it is at least `2 ^ 52`
unless the exponent is the least one, `-1074`. -/
inductive Binary64
  | finite (negative : Bool) (significand : Nat) (exponent : Int)
  | infinite (negative : Bool)
  | nan
  deriving DecidableEq, Repr

namespace Binary64

def leastExponent : Int := -1074
def greatestExponent : Int := 971

def zero (negative : Bool) : Binary64 := .finite negative 0 leastExponent

/-- `num / den` to the nearest natural number, a half to the even one. -/
def roundRatio (num den : Nat) : Nat :=
  let q := num / den
  let r := num % den
  if 2 * r > den ∨ (2 * r = den ∧ q % 2 = 1) then q + 1 else q

def scaleTwo (num den : Nat) (shift : Int) : Nat × Nat :=
  if 0 ≤ shift then (num * Nat.pow 2 shift.toNat, den)
  else (num, den * Nat.pow 2 (-shift).toNat)

def scaleTen (num den : Nat) (shift : Int) : Nat × Nat :=
  if 0 ≤ shift then (num * Nat.pow 10 shift.toNat, den)
  else (num, den * Nat.pow 10 (-shift).toNat)

def ofRatio (negative : Bool) (num den : Nat) : Binary64 :=
  if num = 0 then zero negative else
  -- in units of `2 ^ low` the quotient has 53 or 54 bits, or fewer at the least exponent
  let low := max ((num.log2 : Int) - den.log2 - 53) leastExponent
  let (n, d) := scaleTwo num den (-low)
  let exponent := if n / d < Nat.pow 2 53 then low else low + 1
  let (n, d) := scaleTwo num den (-exponent)
  let q := roundRatio n d
  -- rounding up can carry into a 54th bit
  let (q, exponent) := if q = Nat.pow 2 53 then (Nat.pow 2 52, exponent + 1) else (q, exponent)
  if exponent > greatestExponent then .infinite negative else .finite negative q exponent

def digitCount (n : Nat) : Nat := (Nat.toDigits 10 n).length

/-- The double nearest to `digits * 10 ^ exponent`. Far outside the range of
finite doubles the power of ten is not computed. -/
def ofDecimal (negative : Bool) (digits : Nat) (exponent : Int) : Binary64 :=
  if digits = 0 then zero negative
  else if exponent + digitCount digits > 310 then .infinite negative
  else if exponent + digitCount digits < -330 then zero negative
  else
    let (n, d) := scaleTen digits 1 exponent
    ofRatio negative n d

def ofNat (negative : Bool) (n : Nat) : Binary64 := ofRatio negative n 1

def isNegative : Binary64 → Bool
  | .finite negative _ _ => negative
  | .infinite negative => negative
  | .nan => false

def isFinite : Binary64 → Bool
  | .finite .. => true
  | _ => false

def finite? (x : Binary64) : Option Binary64 := if x.isFinite then some x else none

def negate : Binary64 → Binary64
  | .finite negative s e => .finite (!negative) s e
  | .infinite negative => .infinite (!negative)
  | .nan => .nan

def mul : Binary64 → Binary64 → Binary64
  | .finite n₁ s₁ e₁, .finite n₂ s₂ e₂ =>
    let (num, den) := scaleTwo (s₁ * s₂) 1 (e₁ + e₂)
    ofRatio (n₁ != n₂) num den
  | .nan, _ => .nan
  | _, .nan => .nan
  | x, y => .infinite (x.isNegative != y.isNegative)

def div : Binary64 → Binary64 → Binary64
  | .finite n₁ s₁ e₁, .finite n₂ s₂ e₂ =>
    if s₂ = 0 then .nan else
    let (num, den) := scaleTwo s₁ s₂ (e₁ - e₂)
    ofRatio (n₁ != n₂) num den
  | _, _ => .nan

/-- The same number: the two zeros are one, and nothing but itself is `nan`. -/
def same : Binary64 → Binary64 → Bool
  | .finite n₁ s₁ e₁, .finite n₂ s₂ e₂ =>
    (s₁ = 0 && s₂ = 0) || (n₁ == n₂ && s₁ == s₂ && e₁ == e₂)
  | x, y => x == y

end Binary64

end NodeLaunch
