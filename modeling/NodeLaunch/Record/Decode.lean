import NodeLaunch.Json.Decode
import NodeLaunch.Record.Basic

/-!
# Records from JSON

Every list has to be there; a field of a node that can be without a value may be
left out.
-/

namespace NodeLaunch

open Json Json.Decoder

namespace NodeRecord

def texts : Decoder (List String) := list string

def pairs : Decoder (List (String × String)) := list (pair string string)

def fields : List Field :=
  [.of "executable" string,
   .of "package" (optional string),
   .of "name" (optional string),
   .of "namespace" (optional string),
   .of "exec_name" (optional string),
   .of "params" pairs,
   .of "params_files" texts,
   .of "remaps" pairs,
   .of "ros_args" (optional texts),
   .of "args" (optional texts),
   .of "cmd" texts,
   .of "env" (optional pairs),
   .of "respawn" (optional bool),
   .of "respawn_delay" (optional float),
   .of "global_params" (optional pairs),
   .of "output" (optional string),
   .of "emulate_tty" (optional bool)]

def decoder : Decoder NodeRecord := fun depth reading => do
  let values ← fieldValues "NodeRecord" fields .unread depth reading
  return {
    executable := ← required values "executable" string depth
    package := ← allowed values "package" string depth
    name := ← allowed values "name" string depth
    scope := ← allowed values "namespace" string depth
    execName := ← allowed values "exec_name" string depth
    params := ← required values "params" pairs depth
    paramsFiles := ← required values "params_files" texts depth
    remaps := ← required values "remaps" pairs depth
    rosArgs := ← allowed values "ros_args" texts depth
    args := ← allowed values "args" texts depth
    command := ← required values "cmd" texts depth
    environment := ← allowed values "env" pairs depth
    respawn := ← allowed values "respawn" bool depth
    respawnDelay := ← allowed values "respawn_delay" float depth
    globalParams := ← allowed values "global_params" pairs depth
    output := ← allowed values "output" string depth
    emulateTty := ← allowed values "emulate_tty" bool depth }

end NodeRecord

namespace LaunchRecord

def fields : List Field :=
  [.of "node" (list NodeRecord.decoder),
   .of "container" (list value),
   .of "load_node" (list value),
   .of "lifecycle_node" (list string),
   .of "file_data" (map string)]

def decoder : Decoder LaunchRecord := fun depth reading => do
  let values ← fieldValues "RecordJson" fields .unread depth reading
  return {
    nodes := ← required values "node" (list NodeRecord.decoder) depth
    containers := ← required values "container" (list value) depth
    loadNodes := ← required values "load_node" (list value) depth
    lifecycleNodes := ← required values "lifecycle_node" (list string) depth
    fileData := ← required values "file_data" (map string) depth }

def ofText (text : String) : Except JsonFault LaunchRecord := decodeText decoder text

end LaunchRecord

end NodeLaunch
