import NodeLaunch.Description.OutputMode
import NodeLaunch.Path

/-!
# Launch descriptions

A description is an ordered list of actions; their order is the order of
starting. It says what to start and starts nothing.
-/

namespace NodeLaunch

structure ProcessSpec where
  package : String
  executable : String
  displayName : String
  /-- Later files override values of earlier ones. -/
  parameterFiles : List Path
  pseudoTty : Bool
  outputMode : OutputMode
  deriving DecidableEq, Repr

/-- The same process, its parameter files compared by what they name. -/
def ProcessSpec.same (a b : ProcessSpec) : Bool :=
  a.package == b.package && a.executable == b.executable && a.displayName == b.displayName &&
    a.parameterFiles.map Path.components == b.parameterFiles.map Path.components &&
    a.pseudoTty == b.pseudoTty && a.outputMode == b.outputMode

inductive LaunchAction
  | process (spec : ProcessSpec)
  deriving DecidableEq, Repr

namespace LaunchAction

def process? : LaunchAction → Option ProcessSpec
  | .process spec => some spec

def same : LaunchAction → LaunchAction → Bool
  | .process a, .process b => a.same b

end LaunchAction

structure LaunchDescription where
  actions : List LaunchAction
  deriving DecidableEq, Repr

namespace LaunchDescription

def ofProcesses (specs : List ProcessSpec) : LaunchDescription := ⟨specs.map .process⟩

def processes (description : LaunchDescription) : List ProcessSpec :=
  description.actions.filterMap LaunchAction.process?

def size (description : LaunchDescription) : Nat := description.actions.length

def isEmpty (description : LaunchDescription) : Bool := description.actions.isEmpty

def same (a b : LaunchDescription) : Bool :=
  a.size == b.size && (a.actions.zip b.actions).all fun (x, y) => x.same y

theorem processes_ofProcesses (specs : List ProcessSpec) :
    (ofProcesses specs).processes = specs := by
  induction specs with
  | nil => rfl
  | cons spec rest ih => simpa [ofProcesses, processes, LaunchAction.process?] using ih

end LaunchDescription

end NodeLaunch
