import NodeLaunch.Json.Basic
import NodeLaunch.Text.Quoted

/-!
# Why a JSON text is refused

Either the text is not JSON, or it is and says something of the wrong shape.
Only the second kind has a message.
-/

namespace NodeLaunch

inductive Found
  | null
  | bool (value : Bool)
  | number (value : Number)
  | string (text : String)
  | sequence
  | map
  deriving DecidableEq, Repr

namespace Found

def text : Found → String
  | .null => "null"
  | .bool b => .join ["boolean `", toString b, "`"]
  | .number (.integer n) => .join ["integer `", Number.integerText n, "`"]
  | .number (.float x) => .join ["floating point `", Json.floatLayout.render x, "`"]
  | .string s => "string " ++ Text.quoted s
  | .sequence => "sequence"
  | .map => "map"

end Found

inductive ShapeFault
  | missingField (name : String)
  | duplicateField (name : String)
  | unknownVariant (name : String) (known : List String)
  | invalidType (found : Found) (expected : String)
  | invalidValue (found : Found) (expected : String)
  | invalidLength (length : Nat) (expected : String)
  deriving DecidableEq, Repr

namespace ShapeFault

def alternatives : List String → String
  | [] => "there are no variants"
  | [name] => .join ["expected `", name, "`"]
  | [first, second] => .join ["expected `", first, "` or `", second, "`"]
  | names => .join ["expected one of ", ", ".intercalate (names.map fun name => s!"`{name}`")]

def message : ShapeFault → String
  | .missingField name => .join ["missing field `", name, "`"]
  | .duplicateField name => .join ["duplicate field `", name, "`"]
  | .unknownVariant name known => .join ["unknown variant `", name, "`, ", alternatives known]
  | .invalidType found expected => .join ["invalid type: ", found.text, ", expected ", expected]
  | .invalidValue found expected => .join ["invalid value: ", found.text, ", expected ", expected]
  | .invalidLength length expected =>
    .join ["invalid length ", toString length, ", expected ", expected]

end ShapeFault

inductive JsonFault
  | syntaxError
  | shape (fault : ShapeFault)
  deriving DecidableEq, Repr

end NodeLaunch
