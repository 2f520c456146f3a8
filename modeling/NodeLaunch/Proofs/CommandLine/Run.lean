import NodeLaunch.CommandLine.Run
import NodeLaunch.Proofs.Description.RoundTrip
import NodeLaunch.Proofs.Files.Writing
import NodeLaunch.Proofs.Record.Outcome

/-!
# What a run does

A run shows the description or writes the record that the library makes of the
files as they are before the run. A description without a text is not shown, and
the null device keeps no record. If the package is not found a run says so and
leaves all files alone.
-/

namespace NodeLaunch

namespace Invocation

section

variable {search : PackageSearch} {files : Snapshot} {cause : ResolveError}

-- ---------------------------------------------------------------------------
-- Commands
-- ---------------------------------------------------------------------------

end

-- ---------------------------------------------------------------------------
-- Plans
-- ---------------------------------------------------------------------------

section

variable {invocation : Invocation} {environment : Environment} {files : Snapshot}

end

end Invocation

namespace CommandLine

variable {wording : Wording} {args : List SystemText} {invocation : Invocation}
  {environment : Environment} {tree : FileTree}

theorem run_of_parse (h : parse args = .ok (.run invocation)) :
    run wording args environment tree =
      (shown wording (invocation.filter environment)
        ((invocation.plan environment tree.snapshot).apply tree).1,
       ((invocation.plan environment tree.snapshot).apply tree).2) := by
  rw [run, plan, h]

def kartParameters : SystemText :=
  "u/share/tai_gokart_controller/param/tai_gokart_controller_param.yaml"

def kartTree : FileTree :=
  (FileTree.empty [("w" : SystemText)]).install ⟨kartParameters⟩ (.text "a: 1\n")

def noEnvironment : Environment := ⟨none, none, none⟩

def noWording : Wording := ⟨fun _ => "", fun _ => ""⟩

end CommandLine

end NodeLaunch
