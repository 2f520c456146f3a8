import NodeLaunch.Description.Config
import NodeLaunch.Parameters.Document
import NodeLaunch.Record.Basic

/-!
# Generating records

Each process of a description becomes one node of the record. A package that
cannot be found ends the run; a parameter file that cannot be loaded is passed
over with a warning, for the supervisor will meet it again.
-/

namespace NodeLaunch

inductive GenerationError
  | resolve (cause : ResolveError)
  deriving DecidableEq, Repr

def GenerationError.message : GenerationError → String
  | .resolve cause => .join ["Resolution error: ", cause.message]

namespace ProcessSpec

def rootNamespace : String := "/"

def nodeName (spec : ProcessSpec) : String := NodeLaunch.nodeName rootNamespace spec.displayName

def program (spec : ProcessSpec) (share : Path) : String :=
  match executablePath? share spec.package spec.executable with
  | some path => path.display
  | none => spec.executable

/-- The command line: the program, the node's name and namespace, and the
parameter files in the order in which they override. -/
def command (spec : ProcessSpec) (share : Path) : List String :=
  [spec.program share, "--ros-args", "-r", "__node:=" ++ spec.displayName,
    "-r", "__ns:=" ++ rootNamespace] ++
  spec.parameterFiles.flatMap fun file => ["--params-file", file.display]

def nodeRecord (spec : ProcessSpec) (share : Path) : NodeRecord where
  executable := spec.executable
  package := some spec.package
  name := some spec.displayName
  scope := some rootNamespace
  execName := none
  params := []
  paramsFiles := spec.parameterFiles.map Path.display
  remaps := []
  rosArgs := none
  args := none
  command := spec.command share
  environment := none
  respawn := some false
  respawnDelay := none
  globalParams := none
  output := some spec.outputMode.name
  emulateTty := some spec.pseudoTty

def findShare (spec : ProcessSpec) (resolver : Resolver) (files : Snapshot) :
    Logged (Except GenerationError Path) :=
  (·.mapError .resolve) <$> resolver.resolve files spec.package

def findNode (spec : ProcessSpec) (resolver : Resolver) (files : Snapshot) :
    Logged (Except GenerationError NodeRecord) :=
  (·.map spec.nodeRecord) <$> spec.findShare resolver files

def findCommand (spec : ProcessSpec) (resolver : Resolver) (files : Snapshot) :
    Logged (Except GenerationError (List String)) :=
  (·.map spec.command) <$> spec.findShare resolver files

/-- Those of the files that can be loaded, in order. -/
def loadFiles (files : Snapshot) (node : String) :
    List Path → Logged (List (Path × ParameterFile))
  | [] => return []
  | path :: rest => do
    match ← ParameterFile.load files path node with
    | .ok file => return (path, file) :: (← loadFiles files node rest)
    | .error cause =>
      Logged.tell (.unloadable path cause)
      loadFiles files node rest

def mergeParams (loaded : List (Path × ParameterFile)) : Parameters :=
  loaded.foldl (fun params (_, file) => params.setAll file.params) []

end ProcessSpec

structure GeneratedNode where
  node : NodeRecord
  loaded : List (Path × ParameterFile)

namespace LaunchRecord

def execName (displayName : String) (number : Nat) : String := s!"{displayName}-{number}"

def numberAfter (earlier : List String) (name : String) : Nat := earlier.count name + 1

def generateNode (resolver : Resolver) (files : Snapshot) (earlier : List String)
    (spec : ProcessSpec) : Logged (Except GenerationError GeneratedNode) := do
  match ← spec.findNode resolver files with
  | .error error => return .error error
  | .ok node =>
    let loaded ← ProcessSpec.loadFiles files spec.nodeName spec.parameterFiles
    let number := numberAfter earlier spec.displayName
    return .ok ⟨{ node with
      execName := some (execName spec.displayName number)
      params := ProcessSpec.mergeParams loaded }, loaded⟩

def generateNodes (resolver : Resolver) (files : Snapshot) (earlier : List String) :
    List ProcessSpec → Logged (Except GenerationError (List GeneratedNode))
  | [] => return .ok []
  | spec :: rest => do
    match ← generateNode resolver files earlier spec with
    | .error error => return .error error
    | .ok node =>
      match ← generateNodes resolver files (spec.displayName :: earlier) rest with
      | .error error => return .error error
      | .ok nodes => return .ok (node :: nodes)

/-- The texts of the files, each under what its path is shown as. Of files that
are shown alike the last stays. -/
def fileTexts (loaded : List (Path × ParameterFile)) : NameMap String :=
  loaded.foldl (fun texts (path, file) => texts.insert path.display file.content) .empty

def ofNodes (generated : List GeneratedNode) : LaunchRecord :=
  { empty with
    nodes := generated.map GeneratedNode.node
    fileData := fileTexts (generated.flatMap GeneratedNode.loaded) }

def generate (resolver : Resolver) (files : Snapshot) (description : LaunchDescription) :
    Logged (Except GenerationError LaunchRecord) := do
  match ← generateNodes resolver files [] description.processes with
  | .error error => return .error error
  | .ok generated =>
    Logged.tell (.generated generated.length)
    return .ok (ofNodes generated)

def generateStandard (resolver : Resolver) (files : Snapshot) :
    Logged (Except GenerationError LaunchRecord) := do
  match ← LaunchConfig.standard.build resolver files with
  | .error cause => return .error (.resolve cause)
  | .ok description => generate resolver files description

end LaunchRecord

end NodeLaunch
