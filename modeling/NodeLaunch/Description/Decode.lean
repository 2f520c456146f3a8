import NodeLaunch.Description.Basic
import NodeLaunch.Json.Decode

/-!
# Descriptions from JSON

An action's kind may be given anywhere among its members, so the members are
kept until the whole object is read and looked at only then; the kind itself is
looked at when it comes up.
-/

namespace NodeLaunch

open Json Json.Decoder

def OutputMode.decoder : Decoder OutputMode :=
  unitVariant (OutputMode.all.map fun mode => (mode.name, mode))

namespace ProcessSpec

def parameterFilesDecoder : Decoder (List Path) := fun depth reading =>
  (list (textAs "path string") depth reading).map (·.map fun text : String => ⟨text⟩)

def fields : List Field :=
  [.of "package" string, .of "executable" string, .of "display_name" string,
   .of "parameter_files" parameterFilesDecoder, .of "pseudo_tty" bool,
   .of "output_mode" OutputMode.decoder]

def decoder : Decoder ProcessSpec := fun depth reading => do
  let values ← fieldValues "ProcessLaunchSpec" fields .counted depth reading
  return {
    package := ← required values "package" string depth
    executable := ← required values "executable" string depth
    displayName := ← required values "display_name" string depth
    parameterFiles := ← required values "parameter_files" parameterFilesDecoder depth
    pseudoTty := ← required values "pseudo_tty" bool depth
    outputMode := ← required values "output_mode" OutputMode.decoder depth }

end ProcessSpec

namespace LaunchAction

inductive Kind
  | process

def kindDecoder : Decoder Kind := variant [("process", .process)]

/-- The kind of an action among its members, and the other members. -/
def takeKind (depth : Nat) (kind : Option Kind) (kept : List (Option String × Reading)) :
    List (Option String × Reading) →
      Except JsonFault (Option Kind × List (Option String × Reading))
  | [] => .ok (kind, kept)
  | (none, _) :: _ => syntaxError
  | (some name, value) :: rest =>
    if name = "type" then
      if kind.isSome then fail (.duplicateField "type")
      else do takeKind depth (some (← kindDecoder depth value)) kept rest
    else if value.canKeep depth then takeKind depth kind (kept ++ [(some name, value)]) rest
    else syntaxError

def decodeKind (kind : Kind) : Decoder LaunchAction := fun depth reading =>
  match kind with
  | .process => (ProcessSpec.decoder depth reading).map .process

/-- An action: an object with its kind among the members, or an array with its
kind in front. -/
def decoder : Decoder LaunchAction := fun depth reading =>
  match reading with
  | .object members closed => do
    let (kind, kept) ← takeKind (← enter depth) none [] members
    requireClosed closed
    match kind with
    | some kind => decodeKind kind depth (.object kept true)
    | none => fail (.missingField "type")
  | .array items closed => do
    let inner ← enter depth
    match items with
    | [] => do requireClosed closed; fail (.missingField "type")
    | first :: rest => do
      let kind ← kindDecoder inner first
      if !Reading.itemsCanKeep inner rest then syntaxError
      requireClosed closed
      decodeKind kind depth (.array rest true)
  | other => mismatch "internally tagged enum LaunchAction" other

end LaunchAction

namespace LaunchDescription

def fields : List Field := [.of "actions" (list LaunchAction.decoder)]

def decoder : Decoder LaunchDescription := fun depth reading => do
  let values ← fieldValues "LaunchDescription" fields .unread depth reading
  return ⟨← required values "actions" (list LaunchAction.decoder) depth⟩

def ofText (text : String) : Except JsonFault LaunchDescription := decodeText decoder text

end LaunchDescription

end NodeLaunch
