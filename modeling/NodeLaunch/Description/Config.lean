import NodeLaunch.Description.Basic
import NodeLaunch.Package.Locator

/-!
# Launch configurations

What to launch, relative to the share directory of a package. A configuration
that `LaunchConfig.make` accepts has names that are not blank and a parameter
file that stays below the share directory.
-/

namespace NodeLaunch

inductive ConfigField
  | package
  | executable
  | name
  deriving DecidableEq, Repr

def ConfigField.label : ConfigField → String
  | .package => "package"
  | .executable => "executable"
  | .name => "name"

inductive ConfigError
  | emptyField (field : ConfigField)
  | emptyParameterPath
  | invalidSegment (segment : String)
  deriving DecidableEq, Repr

def ConfigError.message : ConfigError → String
  | .emptyField field => .join ["Node launch config field '", field.label, "' must not be empty"]
  | .emptyParameterPath =>
    "Parameter file path must name at least one file below the share directory"
  | .invalidSegment segment =>
    .join ["Invalid parameter file path segment '", segment,
      "' (expected a relative name without '.' or '..')"]

structure LaunchConfig where
  package : String
  executable : String
  name : String
  parameterFile : List String
  emulateTty : Bool
  output : OutputMode
  deriving DecidableEq, Repr

namespace LaunchConfig

/-- A segment of at least one component, all of them plain names. -/
def isPlainSegment (segment : String) : Bool :=
  let components := (Path.mk segment).components
  !components.isEmpty && components.all Path.Component.isName

def requireName (field : ConfigField) (value : String) : Except ConfigError Unit :=
  if Text.isAllBlank value then .error (.emptyField field) else .ok ()

def requireSegments (segments : List String) : Except ConfigError Unit :=
  if segments.isEmpty then .error .emptyParameterPath
  else
    match segments.find? (!isPlainSegment ·) with
    | some segment => .error (.invalidSegment segment)
    | none => .ok ()

/-- A configuration with a terminal and screen output, or the first thing wrong with it. -/
def make (package executable name : String) (parameterFile : List String) :
    Except ConfigError LaunchConfig := do
  requireName .package package
  requireName .executable executable
  requireName .name name
  requireSegments parameterFile
  return ⟨package, executable, name, parameterFile, true, .screen⟩

def standard : LaunchConfig where
  package := "tai_gokart_controller"
  executable := "tai_gokart_controller_node"
  name := "tai_gokart_controller_node"
  parameterFile := ["param", "tai_gokart_controller_param.yaml"]
  emulateTty := true
  output := .screen

def processAt (config : LaunchConfig) (share : Path) : ProcessSpec where
  package := config.package
  executable := config.executable
  displayName := config.name
  parameterFiles := [share.joinAll config.parameterFile]
  pseudoTty := config.emulateTty
  outputMode := config.output

/-- The description of the one process to launch. Whether its parameter file
exists is not asked here. -/
def build (config : LaunchConfig) (resolver : Resolver) (files : Snapshot) :
    Logged (Except ResolveError LaunchDescription) := do
  match ← resolver.resolve files config.package with
  | .ok share => return .ok (.ofProcesses [config.processAt share])
  | .error error => return .error error

end LaunchConfig

end NodeLaunch
