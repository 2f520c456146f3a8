import NodeLaunch.Proofs.CommandLine.Run

/-!
# What the results of a run depend on

The environment and the options for the log decide which notices of a run are
shown. The rest of what it shows and writes follows from the command, the files
and the search for packages, and prefixes on the command line leave nothing of
the search to the environment.
-/

namespace NodeLaunch

namespace Invocation

variable {invocation other : Invocation} {environment surroundings : Environment}

theorem search_eq_of_prefixPaths (h : invocation.prefixPaths = other.prefixPaths)
    (hgiven : invocation.prefixPaths ≠ []) :
    invocation.search environment = other.search surroundings := by
  have hempty : ¬ invocation.prefixPaths.isEmpty := by simpa using hgiven
  rw [search, search, ← h, if_neg hempty, if_neg hempty]

theorem search_eq_of_environment (h : invocation.prefixPaths = other.prefixPaths)
    (hprefixPath : environment.prefixPath = surroundings.prefixPath)
    (hdistro : environment.distro = surroundings.distro) :
    invocation.search environment = other.search surroundings := by
  rw [search, search, h, hprefixPath, hdistro]

theorem plan_eq_of_search (hcommand : invocation.command = other.command)
    (hsearch : invocation.search environment = other.search surroundings) (files : Snapshot) :
    invocation.plan environment files = other.plan surroundings files := by
  rw [plan, plan, hcommand, hsearch]

end Invocation

namespace CommandLine

/-- What a run shows and leaves behind, the log apart. -/
structure Results where
  code : Nat
  output : String
  complaint : Option String
  files : FileTree

def results (wording : Wording) (args : List SystemText) (environment : Environment)
    (tree : FileTree) : Results :=
  let (report, after) := run wording args environment tree
  ⟨report.code, report.output, report.complaint, after⟩

section

variable {wording : Wording} {args others : List SystemText} {invocation other : Invocation}
  {environment surroundings : Environment}

theorem results_of_parse (h : parse args = .ok (.run invocation)) (environment : Environment)
    (tree : FileTree) :
    results wording args environment tree =
      let (report, after) := (invocation.plan environment tree.snapshot).apply tree
      ⟨report.code, report.output, report.complaint, after⟩ := by
  rw [results, run_of_parse h]
  rfl

theorem results_eq_of_search (h : parse args = .ok (.run invocation))
    (hother : parse others = .ok (.run other)) (hcommand : invocation.command = other.command)
    (hsearch : invocation.search environment = other.search surroundings) (tree : FileTree) :
    results wording args environment tree = results wording others surroundings tree := by
  rw [results_of_parse h, results_of_parse hother,
    Invocation.plan_eq_of_search hcommand hsearch]

/-- Two command lines with the same command and the same prefixes have the same
results over the same files, whatever the log. If there are prefixes the
environment does not matter at all, else it matters where it says to search. -/
theorem results_eq_of_prefixPaths (wording : Wording)
    (h : parse args = .ok (.run invocation)) (hother : parse others = .ok (.run other))
    (hcommand : invocation.command = other.command)
    (hprefixes : invocation.prefixPaths = other.prefixPaths) (tree : FileTree) :
    (invocation.prefixPaths ≠ [] → ∀ environment surroundings,
      results wording args environment tree = results wording others surroundings tree) ∧
    (invocation.prefixPaths = [] → ∀ environment surroundings : Environment,
      environment.prefixPath = surroundings.prefixPath →
      environment.distro = surroundings.distro →
      results wording args environment tree = results wording others surroundings tree) := by
  constructor
  · intro hgiven environment surroundings
    exact results_eq_of_search h hother hcommand
      (Invocation.search_eq_of_prefixPaths hprefixes hgiven) tree
  · intro _ environment surroundings hprefixPath hdistro
    exact results_eq_of_search h hother hcommand
      (Invocation.search_eq_of_environment hprefixes hprefixPath hdistro) tree

end

def loudArgs : List SystemText := ["-v", "--prefix-path", "u", "record", "-o", "out"]

def quietArgs : List SystemText := ["record", "--output=out", "--quiet", "--prefix-path=u"]

def elsewhere : Environment :=
  ⟨some ("/opt/ros/humble:w" : SystemText), some ("iron" : SystemText), some ("trace" : SystemText)⟩

theorem results_eq_of_prefixPaths_over_parameters :
    (run noWording loudArgs elsewhere kartTree).1.notices ≠
      (run noWording quietArgs noEnvironment kartTree).1.notices ∧
    results noWording loudArgs elsewhere kartTree =
      results noWording quietArgs noEnvironment kartTree ∧
    results noWording ["-v", "describe"] noEnvironment kartTree =
      results noWording ["describe", "-q"] ⟨none, none, some ("trace" : SystemText)⟩ kartTree := by
  have hloud : parse loudArgs = .ok (.run ⟨.record ⟨"out"⟩, true, false, [⟨"u"⟩]⟩) := by
    decide +kernel
  have hquiet : parse quietArgs = .ok (.run ⟨.record ⟨"out"⟩, false, true, [⟨"u"⟩]⟩) := by
    decide +kernel
  have hverbose : parse ["-v", "describe"] = .ok (.run ⟨.describe, true, false, []⟩) := by
    decide +kernel
  have hterse : parse ["describe", "-q"] = .ok (.run ⟨.describe, false, true, []⟩) := by
    decide +kernel
  refine ⟨by decide +kernel, ?_, ?_⟩
  · exact (results_eq_of_prefixPaths noWording hloud hquiet rfl rfl kartTree).1 (by decide) _ _
  · exact (results_eq_of_prefixPaths noWording hverbose hterse rfl rfl kartTree).2 rfl _ _ rfl rfl

end CommandLine

end NodeLaunch
