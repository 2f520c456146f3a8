import NodeLaunch.Proofs.Package.FirstRoot
import NodeLaunch.Proofs.Path.Components
import NodeLaunch.Proofs.Path.Shown
import NodeLaunch.Proofs.Record.Outcome

/-!
# Where the program of a package is

The program is looked for two levels above the share directory, so it is in the
root that the package was found in exactly if the name of the package is one step
below `share`. The steps of a name are its components, a `.` in front aside.
-/

namespace NodeLaunch

def programBelow (root : Path) (package executable : String) : Path :=
  ((root.join "lib").join package).join executable

/-- The components of a package's name, dots aside. -/
def packageSteps (package : String) : List Path.Component :=
  (⟨package⟩ : Path).components.filter (· ≠ .here)

-- ---------------------------------------------------------------------------
-- Two levels up
-- ---------------------------------------------------------------------------

theorem components_of_installPrefix? {share root : Path} (h : installPrefix? share = some root) :
    ∃ first second, share.components = root.components ++ [first, second] := by
  obtain ⟨parent, hparent, hroot⟩ := Option.bind_eq_some_iff.1 h
  obtain ⟨second, hshare⟩ := Path.components_of_parent? hparent
  obtain ⟨first, hfirst⟩ := Path.components_of_parent? hroot
  exact ⟨first, second, by rw [hshare, hfirst, List.append_assoc]; rfl⟩

theorem exists_installPrefix? {share : Path} {front : List Path.Component}
    {first second : Path.Component} (h : share.components = front ++ [first, second])
    (hfirst : first ≠ .root) (hsecond : second ≠ .root) :
    ∃ root, installPrefix? share = some root ∧ root.components = front := by
  have hshare : share.components = front ++ [first] ++ [second] := by
    rw [h, List.append_assoc]
    rfl
  obtain ⟨parent, hparent, hcomponents⟩ := Path.exists_parent? hshare hsecond
  obtain ⟨root, hroot, hfront⟩ := Path.exists_parent? hcomponents hfirst
  exact ⟨root, by rw [installPrefix?, hparent]; exact hroot, hfront⟩

section
variable {package executable : String}

theorem components_shareDirectory (root : Path) (hpackage : (⟨package⟩ : Path).isRelative = true) :
    (PackageSearch.shareDirectory root package).components =
      root.components ++ .name "share" :: Path.steps package := by
  have hshare : (root.join "share").components = root.components ++ [.name "share"] :=
    Path.components_join_name (by decide) (by decide)
  rw [PackageSearch.shareDirectory, Path.components_join (by simp [hshare]) hpackage, hshare,
    List.append_assoc]
  rfl

theorem components_programBelow (root : Path) (hpackage : (⟨package⟩ : Path).isRelative = true)
    (hexecutable : (⟨executable⟩ : Path).isRelative = true) :
    (programBelow root package executable).components =
      root.components ++ .name "lib" :: (Path.steps package ++ Path.steps executable) := by
  have hlib : (root.join "lib").components = root.components ++ [.name "lib"] :=
    Path.components_join_name (by decide) (by decide)
  have hmiddle : ((root.join "lib").join package).components =
      root.components ++ .name "lib" :: Path.steps package := by
    rw [Path.components_join (by simp [hlib]) hpackage, hlib, List.append_assoc]
    rfl
  rw [programBelow, Path.components_join (by simp [hmiddle]) hexecutable, hmiddle,
    List.append_assoc]
  rfl

/-- A name of one step puts the program at its place in the root; each further step
makes the path one component longer, and a name without steps one shorter. -/
theorem length_of_executablePath? {root path : Path}
    (hpackage : (⟨package⟩ : Path).isRelative = true)
    (hexecutable : (⟨executable⟩ : Path).isRelative = true)
    (h : executablePath? (PackageSearch.shareDirectory root package) package executable =
      some path) :
    path.components.length + 1 =
      (programBelow root package executable).components.length + (packageSteps package).length := by
  obtain ⟨found, hfound, rfl⟩ := Option.map_eq_some_iff.1 h
  obtain ⟨first, second, hcomponents⟩ := components_of_installPrefix? hfound
  rw [components_shareDirectory root hpackage] at hcomponents
  have hlength := congrArg List.length hcomponents
  rw [← programBelow, components_programBelow _ hpackage hexecutable,
    components_programBelow _ hpackage hexecutable, packageSteps, Path.filter_components hpackage]
  simp only [List.length_append, List.length_cons, List.length_nil] at hlength ⊢
  omega

theorem exists_executablePath? (root : Path) (hpackage : (⟨package⟩ : Path).isRelative = true)
    (hexecutable : (⟨executable⟩ : Path).isRelative = true)
    (hone : (packageSteps package).length = 1) :
    ∃ path, executablePath? (PackageSearch.shareDirectory root package) package executable =
      some path ∧ path.components = (programBelow root package executable).components := by
  have hshare := components_shareDirectory root hpackage
  rw [packageSteps, Path.filter_components hpackage] at hone
  obtain ⟨step, hstep⟩ := List.length_eq_one_iff.1 hone
  have hmem : step ∈ Path.steps package := by simp [hstep]
  rw [hstep] at hshare
  obtain ⟨found, hfound, hcomponents⟩ :=
    exists_installPrefix? hshare (by simp) (Path.ne_anchor_of_mem_steps hmem).1
  refine ⟨programBelow found package executable, ?_, ?_⟩
  · rw [executablePath?, hfound]
    rfl
  · rw [components_programBelow _ hpackage hexecutable,
      components_programBelow _ hpackage hexecutable, hcomponents]

theorem executablePath?_same_iff (root : Path)
    (hpackage : (⟨package⟩ : Path).isRelative = true)
    (hexecutable : (⟨executable⟩ : Path).isRelative = true) :
    (∃ path, executablePath? (PackageSearch.shareDirectory root package) package executable =
        some path ∧ path.same (programBelow root package executable) = true) ↔
      (packageSteps package).length = 1 := by
  simp only [Path.same_iff]
  constructor
  · rintro ⟨path, hpath, hsame⟩
    have hlength := length_of_executablePath? hpackage hexecutable hpath
    rw [hsame] at hlength
    omega
  · exact exists_executablePath? root hpackage hexecutable

/-- The bare name of a program never leads below a root, however the root is shown. -/
theorem components_ne_shown_programBelow (root : Path)
    (hpackage : (⟨package⟩ : Path).isRelative = true)
    (hexecutable : (⟨executable⟩ : Path).isRelative = true) :
    (⟨executable⟩ : Path).components ≠
      (programBelow root package executable).components.map Path.Component.shown := by
  rw [components_programBelow root hpackage hexecutable]
  intro heq
  rcases Path.components_of_isRelative hexecutable with hbare | hdotted
  · have hlength := congrArg List.length (hbare.symm.trans heq)
    simp only [List.length_map, List.length_append, List.length_cons] at hlength
    omega
  · rw [hdotted] at heq
    cases hroot : root.components with
    | nil =>
      rw [hroot] at heq
      cases heq
    | cons first rest =>
      rw [hroot, List.cons_append, List.map_cons] at heq
      have hlength := congrArg List.length (List.cons.inj heq).2
      simp only [List.length_map, List.length_append, List.length_cons] at hlength
      omega

/-- What is shown of the program names what is shown of its place in the root
exactly if one step leads from `share` to the package. -/
theorem program_same_iff {spec : ProcessSpec} (root : Path)
    (hpackage : (⟨spec.package⟩ : Path).isRelative = true)
    (hexecutable : (⟨spec.executable⟩ : Path).isRelative = true) :
    (⟨spec.program (PackageSearch.shareDirectory root spec.package)⟩ : Path).same
        ⟨(programBelow root spec.package spec.executable).display⟩ = true ↔
      (packageSteps spec.package).length = 1 := by
  rw [Path.same_iff, Path.components_display, ProcessSpec.program]
  constructor
  · intro hsame
    cases hpath : executablePath? (PackageSearch.shareDirectory root spec.package) spec.package
        spec.executable with
    | none =>
      rw [hpath] at hsame
      exact absurd hsame (components_ne_shown_programBelow root hpackage hexecutable)
    | some path =>
      -- Showing a path keeps the number of its components.
      rw [hpath, Path.components_display] at hsame
      have hshown := congrArg List.length hsame
      have hlength := length_of_executablePath? hpackage hexecutable hpath
      simp only [List.length_map] at hshown
      omega
  · intro hone
    obtain ⟨path, hpath, hcomponents⟩ := exists_executablePath? root hpackage hexecutable hone
    rw [hpath, Path.components_display, hcomponents]

end

-- ---------------------------------------------------------------------------
-- Commands
-- ---------------------------------------------------------------------------

namespace PackageSearch

theorem exists_isFirst_of_resolve {search : PackageSearch} {files : Snapshot} {package : String}
    {share : Path} (h : (search.resolve files package).value = .ok share) :
    ∃ root, IsFirst files package search.roots root ∧ share = shareDirectory root package := by
  have hpackage : package ≠ "" := by
    rintro rfl
    cases h
  cases hfirst : search.roots.find? (hasPackage files · package) with
  | none =>
    rw [resolve_of_miss hpackage (not_installed_iff.2 hfirst)] at h
    cases h
  | some root =>
    obtain ⟨before, after, hroots, hroot, hbefore⟩ := isFirst_iff.2 hfirst
    rw [resolve_of_hit hpackage hroots hbefore hroot] at h
    exact ⟨root, isFirst_iff.2 hfirst, (Except.ok.inj h).symm⟩

/-- The command starts with the program below the root that the package was found
in, as that path is shown, or with something else, as the name of the package has
one component or not. -/
def StartsBelowRoot (search : PackageSearch) (files : Snapshot) (spec : ProcessSpec)
    (command : List String) : Prop :=
  ∃ root program args, IsFirst files spec.package search.roots root ∧
    command = program :: args ∧
    ((⟨program⟩ : Path).same
        ⟨(((root.join "lib").join spec.package).join spec.executable).display⟩ = true ↔
      (packageSteps spec.package).length = 1)

theorem startsBelowRoot_command {search : PackageSearch} {files : Snapshot} {spec : ProcessSpec}
    {share : Path} (hpackage : (⟨spec.package⟩ : Path).isRelative = true)
    (hexecutable : (⟨spec.executable⟩ : Path).isRelative = true)
    (h : (search.resolve files spec.package).value = .ok share) :
    search.StartsBelowRoot files spec (spec.command share) := by
  obtain ⟨root, hfirst, rfl⟩ := exists_isFirst_of_resolve h
  exact ⟨root, _, _, hfirst, rfl, program_same_iff root hpackage hexecutable⟩

theorem value_findCommand {search : PackageSearch} {files : Snapshot} {spec : ProcessSpec}
    {share : Path} (h : (search.resolve files spec.package).value = .ok share) :
    (spec.findCommand (Locator.search search) files).value = .ok (spec.command share) := by
  have hresolve : ((Locator.search search).resolve files spec.package).value = .ok share := h
  rw [ProcessSpec.findCommand, ProcessSpec.findShare, Logged.value_map, Logged.value_map, hresolve]
  rfl

/-- The program of a package is found in the root that the package is found in
exactly if the name of the package has one component, dots aside: by itself, at the
head of a command, and in the nodes of a record. -/
theorem program_below_root_iff (package executable : String)
    (hpackage : (⟨package⟩ : Path).isRelative = true)
    (hexecutable : (⟨executable⟩ : Path).isRelative = true) :
    (∀ root : Path,
      (∃ path, executablePath? ((root.join "share").join package) package executable =
          some path ∧ path.same (((root.join "lib").join package).join executable) = true) ↔
        (packageSteps package).length = 1) ∧
    (∀ (search : PackageSearch) (files : Snapshot) (spec : ProcessSpec) (share : Path),
      spec.package = package → spec.executable = executable →
      (search.resolve files package).value = .ok share →
      ∃ command, (spec.findCommand (Locator.search search) files).value = .ok command ∧
        search.StartsBelowRoot files spec command) ∧
    ∀ (search : PackageSearch) (files : Snapshot) (description : LaunchDescription)
      (record : LaunchRecord),
      (LaunchRecord.generate (Locator.search search) files description).value = .ok record →
      ∀ (i : Nat) (spec : ProcessSpec), description.processes[i]? = some spec →
        spec.package = package → spec.executable = executable →
        ∃ node, record.nodes[i]? = some node ∧
          search.StartsBelowRoot files spec node.command := by
  refine ⟨fun root => executablePath?_same_iff root hpackage hexecutable, ?_, ?_⟩
  · rintro search files spec share rfl rfl hshare
    exact ⟨_, value_findCommand hshare, startsBelowRoot_command hpackage hexecutable hshare⟩
  · rintro search files description record hrecord i spec hi rfl rfl
    have hmiss := (LaunchRecord.generate_eq_ok_iff.1 hrecord).1 spec (List.mem_of_getElem? hi)
    exact ⟨_, LaunchRecord.getElem?_nodes hrecord hi,
      startsBelowRoot_command hpackage hexecutable (LaunchRecord.resolve_eq_shareOf hmiss)⟩

def demoTalker : ProcessSpec where
  package := "demo"
  executable := "talker"
  displayName := "talker"
  parameterFiles := []
  pseudoTty := true
  outputMode := .screen

theorem program_below_root_iff_overlaid :
    let files := onlyDirectory ⟨"/opt/ros/humble/share/demo"⟩
    (⟨"demo"⟩ : Path).isRelative = true ∧ (⟨"talker"⟩ : Path).isRelative = true ∧
    (packageSteps "demo").length = 1 ∧
    (overlaidSearch.resolve files "demo").value = .ok ⟨"/opt//ros/./humble/share/demo"⟩ ∧
    ∃ program args, (demoTalker.findCommand (Locator.search overlaidSearch) files).value =
        .ok (program :: args) ∧
      (⟨program⟩ : Path).same ⟨"/opt/ros/humble/lib/demo/talker"⟩ = true := by
  intro files
  have hpackage : (⟨"demo"⟩ : Path).isRelative = true := by decide
  have hexecutable : (⟨"talker"⟩ : Path).isRelative = true := by decide
  have hone : (packageSteps "demo").length = 1 := by decide +kernel
  have hshare : (overlaidSearch.resolve files "demo").value =
      .ok ⟨"/opt//ros/./humble/share/demo"⟩ := by decide +kernel
  have hfirst : IsFirst files "demo" overlaidSearch.roots ⟨"/opt//ros/./humble/"⟩ :=
    ⟨[⟨"overlay"⟩], overlaidSearch.roots.drop 2, by decide +kernel, by decide +kernel,
      by decide +kernel⟩
  obtain ⟨command, hcommand, root, program, args, hroot, rfl, hiff⟩ :=
    (program_below_root_iff "demo" "talker" hpackage hexecutable).2.1 overlaidSearch files
      demoTalker _ rfl rfl hshare
  obtain rfl := hroot.unique hfirst
  refine ⟨hpackage, hexecutable, hone, hshare, program, args, hcommand, ?_⟩
  exact Path.same_trans (hiff.2 hone) (by decide +kernel)

example : executablePath? ⟨"/opt/share/a/b"⟩ "a/b" "talker" =
    some ⟨"/opt/share/lib/a/b/talker"⟩ := by
  decide +kernel

end PackageSearch

end NodeLaunch
