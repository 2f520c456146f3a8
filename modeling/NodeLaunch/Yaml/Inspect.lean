import NodeLaunch.Text.Quoted
import NodeLaunch.Yaml.Value

/-!
# Showing YAML values

A text that shows a value and the kind of each part of it. It is for reading,
not for parsing: strings are quoted, and inside a mapping a key that is a
scalar other than null is shown without its kind.
-/

namespace NodeLaunch.Yaml.Value

def numberText (n : Number) : String := n.render Scalar.floatLayout

def boolText (b : Bool) : String := if b then "true" else "false"

def tagText (tag : String) : String := "!" ++ tag

def braced (members : List String) : String := "\x7b" ++ ", ".intercalate members ++ "\x7d"

def bareText? : Value → Option String
  | .bool b => some (boolText b)
  | .number n => some (numberText n)
  | .string s => some (Text.quoted s)
  | _ => none

mutual

def inspect : Value → String
  | .null => "Null"
  | .bool b => "Bool(" ++ boolText b ++ ")"
  | .number n => "Number(" ++ numberText n ++ ")"
  | .string s => "String(" ++ Text.quoted s ++ ")"
  | .sequence items => "Sequence " ++ Text.bracketed (inspectItems items)
  | .mapping members => "Mapping " ++ braced (inspectMembers members)
  | .tagged tag value =>
    "TaggedValue " ++ braced [" tag: " ++ tagText tag, "value: " ++ inspect value ++ " "]

def inspectItems : List Value → List String
  | [] => []
  | item :: rest => inspect item :: inspectItems rest

def inspectMembers : List (Value × Value) → List String
  | [] => []
  | (key, value) :: rest =>
    ((bareText? key).getD (inspect key) ++ ": " ++ inspect value) :: inspectMembers rest

end

end NodeLaunch.Yaml.Value
