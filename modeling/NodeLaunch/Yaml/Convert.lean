import NodeLaunch.Json.Basic
import NodeLaunch.Yaml.Value

/-!
# YAML values as JSON

JSON has text for names of members and no tags. Keys that are strings, booleans
or finite numbers become names; a value under a tag becomes an object with the
tag for its one name. No other key has a JSON form, and then neither has
anything that holds it.
-/

namespace NodeLaunch.Yaml.Value

def memberName? : Value → Option String
  | .string s => some s
  | .bool b => some (if b then "true" else "false")
  | .number (.integer n) => some (Number.integerText n)
  | .number (.float x) => if x.isFinite then some (Json.floatLayout.render x) else none
  | _ => none

mutual

def toJson? : Value → Option Json
  | .null => some .null
  | .bool b => some (.bool b)
  | .number (.integer n) => some (.number (.integer n))
  | .number (.float x) => some (if x.isFinite then .number (.float x) else .null)
  | .string s => some (.string s)
  | .sequence items => do return .array (← itemsToJson? items)
  | .mapping members => do return .object (← membersToJson? members)
  | .tagged tag value => do return .object [("!" ++ tag, ← toJson? value)]

def itemsToJson? : List Value → Option (List Json)
  | [] => some []
  | item :: rest => do
    let item ← toJson? item
    return item :: (← itemsToJson? rest)

def membersToJson? : List (Value × Value) → Option (List (String × Json))
  | [] => some []
  | (key, value) :: rest => do
    let name ← memberName? key
    let value ← toJson? value
    return (name, value) :: (← membersToJson? rest)

end

end NodeLaunch.Yaml.Value
