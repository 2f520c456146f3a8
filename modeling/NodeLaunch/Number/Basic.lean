import NodeLaunch.Number.Shortest

/-!
# Numbers of a data format

Whole numbers are exact, all others are doubles. An integer and a double are
never the same number, even where they have the same value.
-/

namespace NodeLaunch

inductive Number
  | integer (value : Int)
  | float (value : Binary64)
  deriving DecidableEq, Repr

namespace Number

def same : Number → Number → Bool
  | .integer m, .integer n => m == n
  | .float x, .float y => x.same y
  | _, _ => false

def integerText (n : Int) : String :=
  String.ofList ((if n < 0 then ['-'] else []) ++ Nat.toDigits 10 n.natAbs)

def render (layout : FloatLayout) : Number → String
  | .integer n => integerText n
  | .float x => layout.render x

end Number

end NodeLaunch
