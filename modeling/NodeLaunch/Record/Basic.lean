import NodeLaunch.Json.Basic
import NodeLaunch.NameMap

/-!
# Launch records

The record of a launch is what a process supervisor reads: one entry for each
node, with the command that starts it, and the texts of the parameter files. The
lists for other kinds of nodes are part of the layout and stay empty in records
made here.
-/

namespace NodeLaunch

structure NodeRecord where
  executable : String
  package : Option String
  name : Option String
  scope : Option String
  execName : Option String
  params : List (String × String)
  paramsFiles : List String
  remaps : List (String × String)
  rosArgs : Option (List String)
  args : Option (List String)
  command : List String
  environment : Option (List (String × String))
  respawn : Option Bool
  respawnDelay : Option Binary64
  globalParams : Option (List (String × String))
  output : Option String
  emulateTty : Option Bool
  deriving DecidableEq, Repr

structure LaunchRecord where
  nodes : List NodeRecord
  containers : List Json
  loadNodes : List Json
  lifecycleNodes : List String
  /-- Texts of parameter files by the shown path. -/
  fileData : NameMap String
  deriving Repr

def LaunchRecord.empty : LaunchRecord := ⟨[], [], [], [], .empty⟩

end NodeLaunch
