import NodeLaunch.Description.Basic
import NodeLaunch.Json.Basic

/-!
# The JSON text of a description

An action is one object: the member `type` says which kind it is, and the
fields of that kind follow. JSON is made of characters, so a description that
names a parameter file by other bytes has no JSON text.
-/

namespace NodeLaunch

inductive EncodeError
  | pathNotText
  deriving DecidableEq, Repr

def EncodeError.message : EncodeError → String
  | .pathNotText => "path contains invalid UTF-8 characters"

def Path.encode (path : Path) : Except EncodeError String :=
  match path.text.text? with
  | some text => .ok text
  | none => .error .pathNotText

def ProcessSpec.members (spec : ProcessSpec) (files : List String) : List (String × Json) :=
  [("package", .string spec.package),
   ("executable", .string spec.executable),
   ("display_name", .string spec.displayName),
   ("parameter_files", .array (files.map .string)),
   ("pseudo_tty", .bool spec.pseudoTty),
   ("output_mode", .string spec.outputMode.name)]

def LaunchAction.toJson : LaunchAction → Except EncodeError Json
  | .process spec => do
    let files ← spec.parameterFiles.mapM Path.encode
    return .object (("type", .string "process") :: spec.members files)

def LaunchDescription.toJson (description : LaunchDescription) : Except EncodeError Json := do
  let actions ← description.actions.mapM LaunchAction.toJson
  return .object [("actions", .array actions)]

def LaunchDescription.text (description : LaunchDescription) : Except EncodeError String :=
  description.toJson.map Json.pretty

end NodeLaunch
