import NodeLaunch.Parameters.LoadError
import NodeLaunch.Text.Quoted

/-!
# Notices

What a run reports about its progress. A notice is a value with a cause; its
level, the part of the program it comes from and its text follow from that.
`Logged` is a result together with the notices written on the way to it.
-/

namespace NodeLaunch

inductive Level
  | error
  | warn
  | info
  | debug
  | trace
  deriving DecidableEq, Repr

namespace Level

/-- How much a level lets through; a more verbose level has a higher rank. -/
def rank : Level → Nat
  | .error => 1
  | .warn => 2
  | .info => 3
  | .debug => 4
  | .trace => 5

def name : Level → String
  | .error => "ERROR"
  | .warn => "WARN"
  | .info => "INFO"
  | .debug => "DEBUG"
  | .trace => "TRACE"

end Level

inductive Notice
  | searching (package : String) (root : Path)
  | found (package : String) (share : Path)
  | exhausted (package : String) (roots : Nat)
  | sectionSkipped (path : String) (node : String)
  | unloadable (file : Path) (cause : LoadError)
  | generated (nodes : Nat)
  | prefixes (paths : List Path)
  | written (output : Path)
  | totals (nodes files : Nat)
  deriving DecidableEq, Repr

namespace Notice

def level : Notice → Level
  | .unloadable .. => .warn
  | .written .. | .totals .. => .info
  | _ => .debug

def source : Notice → String
  | .searching .. | .found .. | .exhausted .. => "tai_gokart_launch::package"
  | .sectionSkipped .. => "tai_gokart_launch::params"
  | .unloadable .. | .generated .. => "tai_gokart_launch::record::generator"
  | .prefixes .. | .written .. | .totals .. => "tai_gokart_launch"

def text (wording : Wording) : Notice → String
  | .searching package root => .join ["Looking for package ", package, " in ", root.display]
  | .found package share => .join ["Found package ", package, " at ", share.display]
  | .exhausted package roots =>
    .join ["Package ", package, " not found in ", toString roots, " prefixes"]
  | .sectionSkipped path node => .join ["Skipping parameter section ", path, " for ", node]
  | .unloadable file cause =>
    .join ["Failed to load parameter file ", file.display, ": ", cause.message wording]
  | .generated nodes => .join ["Generated ", toString nodes, " node records"]
  | .prefixes paths =>
    .join ["Package search prefixes: ", Text.bracketed (paths.map fun p => p.text.quoted)]
  | .written output => .join ["Generated record.json: ", output.display]
  | .totals nodes files =>
    .join ["  ", toString nodes, " nodes, ", toString files, " parameter files"]

end Notice

/-- A value and the notices written while it was computed, oldest first. -/
structure Logged (α : Type) where
  value : α
  notices : List Notice
  deriving Repr

namespace Logged

instance : Monad Logged where
  pure a := ⟨a, []⟩
  bind x f := ⟨(f x.value).value, x.notices ++ (f x.value).notices⟩

def tell (notice : Notice) : Logged Unit := ⟨(), [notice]⟩

@[simp] theorem value_pure (a : α) : (pure a : Logged α).value = a := rfl
@[simp] theorem notices_pure (a : α) : (pure a : Logged α).notices = [] := rfl
@[simp] theorem value_bind (x : Logged α) (f : α → Logged β) :
    (x >>= f).value = (f x.value).value := rfl
@[simp] theorem notices_bind (x : Logged α) (f : α → Logged β) :
    (x >>= f).notices = x.notices ++ (f x.value).notices := rfl
@[simp] theorem value_map (f : α → β) (x : Logged α) : (f <$> x).value = f x.value := rfl
@[simp] theorem value_tell (notice : Notice) : (tell notice).value = () := rfl
@[simp] theorem notices_tell (notice : Notice) : (tell notice).notices = [notice] := rfl

theorem ext_iff' {x y : Logged α} : x = y ↔ x.value = y.value ∧ x.notices = y.notices := by
  cases x; cases y; simp

instance : LawfulMonad Logged :=
  LawfulMonad.mk' Logged
    (fun x => by simp [Functor.map])
    (fun _ _ => by simp [bind, pure])
    (fun _ _ _ => by simp [bind, List.append_assoc])

end Logged

end NodeLaunch
