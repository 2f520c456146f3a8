import NodeLaunch.Number.Binary64

/-!
# Shortest decimals

A double is written with the fewest decimal digits that read back as the same
double, and of those with the decimal nearest to it. The search goes over grids
`10 ^ k` from coarse to fine; the first grid with a point in the rounding
interval of the double wins. How digits and exponent are laid out is a separate
choice, the record `FloatLayout`.
-/

namespace NodeLaunch

structure Decimal where
  digits : Nat
  exponent : Int
  deriving DecidableEq, Repr

namespace Binary64

/-- The reals that round to a positive double, as numerators over one
denominator: the lower end, the value, the upper end, and whether the ends
belong to it. -/
structure Interval where
  lower : Nat
  value : Nat
  upper : Nat
  den : Nat
  closed : Bool

/-- Half a unit to each side; below a power of two the spacing is halved. -/
def roundingInterval (significand : Nat) (exponent : Int) : Interval :=
  let below := if significand = Nat.pow 2 52 ∧ exponent > leastExponent then 1 else 2
  let (unit, den) := scaleTwo 1 1 (exponent - 2)
  { lower := (4 * significand - below) * unit
    value := 4 * significand * unit
    upper := (4 * significand + 2) * unit
    den := den
    closed := significand % 2 = 0 }

def Interval.contains (i : Interval) (n : Nat) : Bool :=
  (i.lower < n && n < i.upper) || (i.closed && (n == i.lower || n == i.upper))

/-- The point of the grid `10 ^ k` that lies in the interval, the one nearest to
the value if both its neighbours do, and the even one if both are equally near. -/
def Interval.onGrid? (i : Interval) (k : Int) : Option Nat :=
  -- interval and step as numerators over one denominator
  let (up, unit) := scaleTen 1 i.den k
  let scale := fun n => if 0 ≤ k then n else n * (unit / i.den)
  let step := if 0 ≤ k then up * i.den else i.den
  let interval := { i with lower := scale i.lower, value := scale i.value, upper := scale i.upper }
  let floor := interval.value / step
  let hitsBelow := 0 < floor && interval.contains (floor * step)
  let hitsAbove := interval.contains ((floor + 1) * step)
  match hitsBelow, hitsAbove with
  | true, true =>
    let below := interval.value - floor * step
    let above := (floor + 1) * step - interval.value
    if below < above ∨ (below = above ∧ floor % 2 = 0) then some floor else some (floor + 1)
  | true, false => some floor
  | false, true => some (floor + 1)
  | false, false => none

def Interval.search (i : Interval) : Nat → Int → Decimal
  | 0, k => ⟨0, k⟩
  | steps + 1, k =>
    match i.onGrid? k with
    | some digits => ⟨digits, k⟩
    | none => i.search steps (k - 1)

/-- The shortest decimal of a positive double. Every double lies below
`10 ^ 309`, and the grid `10 ^ -324` is finer than the doubles. -/
def shortest (significand : Nat) (exponent : Int) : Decimal :=
  (roundingInterval significand exponent).search 640 309

end Binary64

structure FloatLayout where
  /-- A decimal point further right than this is written with an exponent. -/
  lastPoint : Int
  /-- A decimal point at this place or further left is written with an exponent. -/
  firstPoint : Int
  signedExponent : Bool
  infinity : String
  negativeInfinity : String
  nan : String

namespace FloatLayout

def zeros (n : Int) : List Char := List.replicate n.toNat '0'

/-- `digits * 10 ^ exponent`, the point after `digits.length + exponent` places. -/
def place (layout : FloatLayout) (digits : List Char) (exponent : Int) : List Char :=
  let point := digits.length + exponent
  if layout.firstPoint < point ∧ point ≤ layout.lastPoint then
    if 0 ≤ exponent then digits ++ zeros exponent ++ ['.', '0']
    else if 0 < point then digits.take point.toNat ++ '.' :: digits.drop point.toNat
    else ['0', '.'] ++ zeros (-point) ++ digits
  else
    let mantissa :=
      match digits with
      | first :: second :: rest => first :: '.' :: second :: rest
      | short => short
    let power := point - 1
    let sign := if power < 0 then ['-'] else if layout.signedExponent then ['+'] else []
    mantissa ++ 'e' :: sign ++ Nat.toDigits 10 power.natAbs

def render (layout : FloatLayout) : Binary64 → String
  | .nan => layout.nan
  | .infinite negative => if negative then layout.negativeInfinity else layout.infinity
  | .finite negative significand exponent =>
    let sign := if negative then ['-'] else []
    if significand = 0 then String.ofList (sign ++ ['0', '.', '0'])
    else
      let d := Binary64.shortest significand exponent
      String.ofList (sign ++ layout.place (Nat.toDigits 10 d.digits) d.exponent)

end FloatLayout

end NodeLaunch
