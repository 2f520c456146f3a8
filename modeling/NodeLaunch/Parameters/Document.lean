import NodeLaunch.Notice
import NodeLaunch.Parameters.Basic
import NodeLaunch.Parameters.NodeName
import NodeLaunch.Yaml.Convert
import NodeLaunch.Yaml.Inspect

/-!
# Parameters in a YAML document

A document maps section names to mappings. A mapping with the key
`ros__parameters` is a section; one without it is a namespace, and the sections
below it are named by both names. The parameters of a section are the leaves of
its mapping, named by the keys on the way with dots between them.
-/

namespace NodeLaunch

namespace ParameterDocument

def parametersKey : String := "ros__parameters"

/-- The text of a key; collections, null and tagged values are no keys here. -/
def keyText? : Yaml.Value → Option String
  | .string s => some s
  | .number n => some (Yaml.Value.numberText n)
  | .bool b => some (Yaml.Value.boolText b)
  | _ => none

def member? (name : String) : List (Yaml.Value × Yaml.Value) → Option Yaml.Value
  | [] => none
  | (.string s, value) :: rest => if s = name then some value else member? name rest
  | _ :: rest => member? name rest

def sequenceText (items : List Yaml.Value) : String :=
  match Yaml.Value.itemsToJson? items with
  | some items => (Json.array items).compact
  | none => Text.bracketed (Yaml.Value.inspectItems items)

def fullName (above key : String) : String := if above = "" then key else above ++ "." ++ key

mutual

/-- The value's parameters added under a name. Tags do not count. -/
def flatten (name : String) (params : Parameters) : Yaml.Value → Parameters
  | .mapping members => flattenMembers name params members
  | .tagged _ value => flatten name params value
  | .string s => params.set name s
  | .number n => params.set name (Yaml.Value.numberText n)
  | .bool b => params.set name (Yaml.Value.boolText b)
  | .sequence items => params.set name (sequenceText items)
  | .null => params.set name "null"

def flattenMembers (above : String) (params : Parameters) :
    List (Yaml.Value × Yaml.Value) → Parameters
  | [] => params
  | (key, value) :: rest =>
    match keyText? key with
    | some key => flattenMembers above (flatten (fullName above key) params value) rest
    | none => flattenMembers above params rest

end

def sectionBelow (above key : String) : String := Text.dropSlashes above ++ "/" ++ key

mutual

def collect (node name : String) (params : Parameters) : Yaml.Value → Logged Parameters
  | .mapping members =>
    match member? parametersKey members with
    | some (.mapping own) =>
      if sectionMatches name node then return flattenMembers "" params own
      else do
        Logged.tell (.sectionSkipped name node)
        return params
    | some _ => return params
    | none => collectMembers node name params members
  | _ => return params

def collectMembers (node name : String) (params : Parameters) :
    List (Yaml.Value × Yaml.Value) → Logged Parameters
  | [] => return params
  | (key, value) :: rest =>
    match keyText? key with
    | some key => do
      let params ← collect node (sectionBelow name key) params value
      collectMembers node name params rest
    | none => collectMembers node name params rest

end

def collectRoot (node : String) (params : Parameters) :
    List (Yaml.Value × Yaml.Value) → Logged Parameters
  | [] => return params
  | (key, value) :: rest =>
    match keyText? key with
    | some key => do
      let params ← collect node key params value
      collectRoot node params rest
    | none => collectRoot node params rest

/-- The parameters for a node in a document; only a mapping has any. -/
def parameters (node : String) : Yaml.Value → Logged Parameters
  | .mapping members => collectRoot node [] members
  | _ => return []

def parse (text node : String) : Logged (Except Yaml.Fault Parameters) :=
  match Yaml.Value.parse text with
  | .ok document => do return .ok (← parameters node document)
  | .error fault => return .error fault

end ParameterDocument

structure ParameterFile where
  content : String
  params : Parameters
  deriving DecidableEq, Repr

namespace ParameterFile

def load (files : Snapshot) (path : Path) (node : String) :
    Logged (Except LoadError ParameterFile) :=
  match files.read path with
  | .error cause => return .error (.file cause)
  | .ok content => do
    match ← ParameterDocument.parse content node with
    | .ok params => return .ok ⟨content, params⟩
    | .error fault => return .error (.yaml content fault)

end ParameterFile

end NodeLaunch
