import NodeLaunch.Record.Basic

/-!
# The JSON text of a record

Every field is written; one without a value is null. A pair is an array of two.
-/

namespace NodeLaunch

namespace Json

def ofOption {α : Type} (encode : α → Json) : Option α → Json
  | some value => encode value
  | none => .null

def ofStrings (texts : List String) : Json := .array (texts.map .string)

def ofPair (pair : String × String) : Json := .array [.string pair.1, .string pair.2]

def ofPairs (pairs : List (String × String)) : Json := .array (pairs.map ofPair)

def ofFloat (x : Binary64) : Json := if x.isFinite then .number (.float x) else .null

end Json

def NodeRecord.members (node : NodeRecord) : List (String × Json) :=
  [("executable", .string node.executable),
   ("package", .ofOption .string node.package),
   ("name", .ofOption .string node.name),
   ("namespace", .ofOption .string node.scope),
   ("exec_name", .ofOption .string node.execName),
   ("params", .ofPairs node.params),
   ("params_files", .ofStrings node.paramsFiles),
   ("remaps", .ofPairs node.remaps),
   ("ros_args", .ofOption .ofStrings node.rosArgs),
   ("args", .ofOption .ofStrings node.args),
   ("cmd", .ofStrings node.command),
   ("env", .ofOption .ofPairs node.environment),
   ("respawn", .ofOption .bool node.respawn),
   ("respawn_delay", .ofOption .ofFloat node.respawnDelay),
   ("global_params", .ofOption .ofPairs node.globalParams),
   ("output", .ofOption .string node.output),
   ("emulate_tty", .ofOption .bool node.emulateTty)]

def NodeRecord.toJson (node : NodeRecord) : Json := .object node.members

def LaunchRecord.members (record : LaunchRecord) : List (String × Json) :=
  [("node", .array (record.nodes.map NodeRecord.toJson)),
   ("container", .array record.containers),
   ("load_node", .array record.loadNodes),
   ("lifecycle_node", .ofStrings record.lifecycleNodes),
   ("file_data",
     .object (record.fileData.entries.map fun (path, content) => (path, .string content)))]

def LaunchRecord.toJson (record : LaunchRecord) : Json := .object record.members

def LaunchRecord.text (record : LaunchRecord) : String := record.toJson.pretty

end NodeLaunch
