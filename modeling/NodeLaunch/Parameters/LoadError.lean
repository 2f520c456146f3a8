import NodeLaunch.Files.Snapshot
import NodeLaunch.Wording
import NodeLaunch.Yaml.Fault

/-!
# Why a parameter file has no parameters
-/

namespace NodeLaunch

inductive LoadError
  | file (cause : FileError)
  | yaml (content : String) (fault : Yaml.Fault)
  deriving DecidableEq, Repr

def LoadError.message (wording : Wording) : LoadError → String
  | .file cause => .join ["IO error: ", cause.message]
  | .yaml content _ => .join ["YAML parse error: ", wording.refusal content]

end NodeLaunch
