import NodeLaunch.Proofs.Record.Loading

/-!
# When there is a record, and what its nodes say

Only the search for packages decides whether there is a record: the first
process whose package is not found ends the run, and no parameter file can.
A record has a node for each process, in order, and the node says of its process
what the description says.
-/

namespace NodeLaunch

/-- What a node says of its process, once the share directory of the package is
known. The command names the parameter files in the order of `paramsFiles`. -/
structure NodeRecord.Describes (node : NodeRecord) (spec : ProcessSpec) (share : Path) : Prop where
  package : node.package = some spec.package
  executable : node.executable = spec.executable
  name : node.name = some spec.displayName
  output : node.output = some spec.outputMode.name
  emulateTty : node.emulateTty = some spec.pseudoTty
  paramsFiles : node.paramsFiles = spec.parameterFiles.map Path.display
  command : node.command =
    [((executablePath? share spec.package spec.executable).map Path.display).getD spec.executable,
      "--ros-args", "-r", "__node:=" ++ spec.displayName, "-r", "__ns:=/"] ++
    node.paramsFiles.flatMap fun file => ["--params-file", file]

theorem ProcessSpec.program_eq (spec : ProcessSpec) (share : Path) :
    spec.program share =
      ((executablePath? share spec.package spec.executable).map Path.display).getD
        spec.executable := by
  rw [program]
  cases executablePath? share spec.package spec.executable <;> rfl

theorem ProcessSpec.describes_nodeRecord (spec : ProcessSpec) (share : Path) :
    (spec.nodeRecord share).Describes spec share where
  package := rfl
  executable := rfl
  name := rfl
  output := rfl
  emulateTty := rfl
  paramsFiles := rfl
  command := by
    rw [← program_eq]
    simp only [nodeRecord, command, List.flatMap_map]
    rfl

/-- The number and the parameters of a node are not what it is described by. -/
theorem NodeRecord.Describes.number {node : NodeRecord} {spec : ProcessSpec} {share : Path}
    (h : node.Describes spec share) (execName : Option String) (params : Parameters) :
    { node with execName, params }.Describes spec share :=
  ⟨h.package, h.executable, h.name, h.output, h.emulateTty, h.paramsFiles, h.command⟩

namespace LaunchRecord

section
variable (resolver : Resolver) (files : Snapshot)

def miss? (spec : ProcessSpec) : Option ResolveError :=
  match (resolver.resolve files spec.package).value with
  | .ok _ => none
  | .error cause => some cause

def shareOf (spec : ProcessSpec) : Path :=
  match (resolver.resolve files spec.package).value with
  | .ok share => share
  | .error _ => default

def numbered (spec : ProcessSpec) (number : Nat) : GeneratedNode :=
  let loaded := (ProcessSpec.loadFiles files spec.nodeName spec.parameterFiles).value
  ⟨{ spec.nodeRecord (shareOf resolver files spec) with
    execName := some (execName spec.displayName number)
    params := ProcessSpec.mergeParams loaded }, loaded⟩

/-- The nodes of processes whose packages are found, after others of these names. -/
def nodesAfter (earlier : List String) : List ProcessSpec → List GeneratedNode
  | [] => []
  | spec :: rest =>
    numbered resolver files spec (numberAfter earlier spec.displayName) ::
      nodesAfter (spec.displayName :: earlier) rest

end

section
variable {resolver : Resolver} {files : Snapshot}

theorem miss?_eq_none_iff {spec : ProcessSpec} :
    miss? resolver files spec = none ↔
      ∃ share, (resolver.resolve files spec.package).value = .ok share := by
  rw [miss?]
  cases (resolver.resolve files spec.package).value <;> simp

theorem miss?_eq_some_iff {spec : ProcessSpec} {cause : ResolveError} :
    miss? resolver files spec = some cause ↔
      (resolver.resolve files spec.package).value = .error cause := by
  rw [miss?]
  cases (resolver.resolve files spec.package).value <;> simp

theorem resolve_eq_shareOf {spec : ProcessSpec} (h : miss? resolver files spec = none) :
    (resolver.resolve files spec.package).value = .ok (shareOf resolver files spec) := by
  obtain ⟨share, hshare⟩ := miss?_eq_none_iff.1 h
  rw [shareOf, hshare]

-- ---------------------------------------------------------------------------
-- The loop over the processes
-- ---------------------------------------------------------------------------

theorem value_generateNode (earlier : List String) (spec : ProcessSpec) :
    (generateNode resolver files earlier spec).value =
      match miss? resolver files spec with
      | some cause => .error (.resolve cause)
      | none => .ok (numbered resolver files spec (numberAfter earlier spec.displayName)) := by
  simp only [generateNode, ProcessSpec.findNode, ProcessSpec.findShare, Logged.value_bind,
    Logged.value_map, miss?, numbered, shareOf]
  cases (resolver.resolve files spec.package).value <;> rfl

/-- The loop stops at the first package that is not found; else it goes on to the end. -/
theorem value_generateNodes (earlier : List String) (specs : List ProcessSpec) :
    (generateNodes resolver files earlier specs).value =
      match specs.findSome? (miss? resolver files) with
      | some cause => .error (.resolve cause)
      | none => .ok (nodesAfter resolver files earlier specs) := by
  induction specs generalizing earlier with
  | nil => rfl
  | cons spec rest ih =>
    rw [generateNodes, Logged.value_bind, value_generateNode, List.findSome?_cons]
    cases miss? resolver files spec with
    | some cause => rfl
    | none =>
      dsimp only
      rw [Logged.value_bind, ih]
      cases rest.findSome? (miss? resolver files) <;> rfl

theorem value_generate (description : LaunchDescription) :
    (generate resolver files description).value =
      match description.processes.findSome? (miss? resolver files) with
      | some cause => .error (.resolve cause)
      | none => .ok (ofNodes (nodesAfter resolver files [] description.processes)) := by
  rw [generate, Logged.value_bind, value_generateNodes]
  cases description.processes.findSome? (miss? resolver files) <;> rfl

theorem generate_eq_ok_iff {description : LaunchDescription} {record : LaunchRecord} :
    (generate resolver files description).value = .ok record ↔
      (∀ spec ∈ description.processes, miss? resolver files spec = none) ∧
        record = ofNodes (nodesAfter resolver files [] description.processes) := by
  rw [value_generate, ← List.findSome?_eq_none_iff]
  cases description.processes.findSome? (miss? resolver files) with
  | none => simp [eq_comm]
  | some cause => simp

theorem generate_eq_error_iff {description : LaunchDescription} {error : GenerationError} :
    (generate resolver files description).value = .error error ↔
      ∃ cause, description.processes.findSome? (miss? resolver files) = some cause ∧
        error = .resolve cause := by
  rw [value_generate]
  cases description.processes.findSome? (miss? resolver files) with
  | none => simp
  | some cause => simp [eq_comm]

-- ---------------------------------------------------------------------------
-- The nodes one by one
-- ---------------------------------------------------------------------------

theorem length_nodesAfter (earlier : List String) (specs : List ProcessSpec) :
    (nodesAfter resolver files earlier specs).length = specs.length := by
  induction specs generalizing earlier with
  | nil => rfl
  | cons spec rest ih => rw [nodesAfter, List.length_cons, ih, List.length_cons]

/-- A node's number counts the processes of its name up to its own place. -/
theorem getElem?_nodesAfter (earlier : List String) (specs : List ProcessSpec) (i : Nat) :
    (nodesAfter resolver files earlier specs)[i]? = specs[i]?.map fun spec =>
      numbered resolver files spec
        (earlier.count spec.displayName +
          ((specs.take (i + 1)).map (·.displayName)).count spec.displayName) := by
  induction specs generalizing earlier i with
  | nil => rfl
  | cons first rest ih =>
    cases i with
    | zero => simp [nodesAfter, numberAfter]
    | succ i =>
      rw [nodesAfter, List.getElem?_cons_succ, ih, List.getElem?_cons_succ]
      congr 1
      funext spec
      rw [List.take_succ_cons, List.map_cons, List.count_cons, List.count_cons]
      congr 1
      omega

theorem getElem?_nodes {description : LaunchDescription} {record : LaunchRecord}
    (h : (generate resolver files description).value = .ok record) {i : Nat} {spec : ProcessSpec}
    (hi : description.processes[i]? = some spec) :
    record.nodes[i]? = some (numbered resolver files spec
      (((description.processes.take (i + 1)).map
        (·.displayName)).count spec.displayName)).node := by
  obtain ⟨-, rfl⟩ := generate_eq_ok_iff.1 h
  rw [ofNodes, List.getElem?_map, getElem?_nodesAfter, hi]
  simp

theorem length_nodes {description : LaunchDescription} {record : LaunchRecord}
    (h : (generate resolver files description).value = .ok record) :
    record.nodes.length = description.processes.length := by
  obtain ⟨-, rfl⟩ := generate_eq_ok_iff.1 h
  rw [ofNodes, List.length_map, length_nodesAfter]

theorem describes_numbered (spec : ProcessSpec) (number : Nat) :
    (numbered resolver files spec number).node.Describes spec (shareOf resolver files spec) :=
  (spec.describes_nodeRecord _).number _ _

-- ---------------------------------------------------------------------------
-- The recorded texts
-- ---------------------------------------------------------------------------

theorem loaded_nodesAfter (earlier : List String) (specs : List ProcessSpec) :
    (nodesAfter resolver files earlier specs).flatMap GeneratedNode.loaded =
      specs.flatMap fun spec =>
        (ProcessSpec.loadFiles files spec.nodeName spec.parameterFiles).value := by
  induction specs generalizing earlier with
  | nil => rfl
  | cons spec rest ih => rw [nodesAfter, List.flatMap_cons, ih, List.flatMap_cons]; rfl

/-- A record has under each name the last of the texts that the files of the
processes shown by that name load with. -/
theorem find?_fileData {description : LaunchDescription} {record : LaunchRecord}
    (h : (generate resolver files description).value = .ok record) (name : String) :
    record.fileData.find? name =
      (files.textsShown (description.processes.flatMap (·.parameterFiles)) name).getLast? := by
  obtain ⟨-, rfl⟩ := generate_eq_ok_iff.1 h
  rw [ofNodes, loaded_nodesAfter, find?_fileTexts, ProcessSpec.texts_flatMap_loadFiles]

theorem exists_find?_fileData_iff {description : LaunchDescription} {record : LaunchRecord}
    (h : (generate resolver files description).value = .ok record) {name : String} :
    (∃ text, record.fileData.find? name = some text) ↔
      ∃ path ∈ description.processes.flatMap (·.parameterFiles),
        path.display = name ∧ ∃ text, files.loadedText? path = some text := by
  rw [find?_fileData h, ← Option.isSome_iff_exists, List.getLast?_isSome]
  constructor
  · intro hne
    obtain ⟨text, htext⟩ := List.exists_mem_of_ne_nil _ hne
    obtain ⟨path, hpath, hshown, hload⟩ := Snapshot.mem_textsShown_iff.1 htext
    exact ⟨path, hpath, hshown, text, hload⟩
  · rintro ⟨path, hpath, hshown, text, hload⟩
    exact List.ne_nil_of_mem (Snapshot.mem_textsShown_iff.2 ⟨path, hpath, hshown, hload⟩)

-- ---------------------------------------------------------------------------
-- Parameter files do not decide
-- ---------------------------------------------------------------------------

theorem generate_error_congr {other : Snapshot} {description : LaunchDescription}
    (h : ∀ spec ∈ description.processes, (resolver.resolve other spec.package).value =
      (resolver.resolve files spec.package).value) (error : GenerationError) :
    (generate resolver other description).value = .error error ↔
      (generate resolver files description).value = .error error := by
  have hmiss : description.processes.findSome? (miss? resolver other) =
      description.processes.findSome? (miss? resolver files) := by
    rw [← List.head?_filterMap, ← List.head?_filterMap]
    refine congrArg List.head? (List.filterMap_congr fun spec hspec => ?_)
    rw [miss?, miss?, h spec hspec]
  rw [generate_eq_error_iff, generate_eq_error_iff, hmiss]

/-- A locator asks what is there, never what is in it. -/
theorem value_resolve_read (locator : Locator) (read : Path → Except FileError String)
    (package : String) :
    (locator.resolve { files with read } package).value =
      (locator.resolve files package).value := by
  cases locator with
  | table known => rfl
  | search order =>
    by_cases hempty : package = ""
    · subst hempty
      rfl
    · simp only [Locator.resolve, PackageSearch.resolve, if_neg hempty]
      have hlook : (PackageSearch.look { files with read } package order.roots).value =
          (PackageSearch.look files package order.roots).value := by
        rw [PackageSearch.value_look, PackageSearch.value_look]
        rfl
      rw [Logged.value_bind, Logged.value_bind, hlook]

theorem value_build (config : LaunchConfig) :
    (config.build resolver files).value =
      (resolver.resolve files config.package).value.map fun share =>
        .ofProcesses [config.processAt share] := by
  rw [LaunchConfig.build, Logged.value_bind]
  cases (resolver.resolve files config.package).value <;> rfl

/-- The record of the standard configuration fails for want of a description only:
the package that is found for the one is found for the other. -/
theorem generateStandard_ok_iff :
    (∃ record, (generateStandard resolver files).value = .ok record) ↔
      ∃ description, (LaunchConfig.standard.build resolver files).value = .ok description := by
  rw [generateStandard, Logged.value_bind, value_build]
  cases hresolve : (resolver.resolve files LaunchConfig.standard.package).value with
  | error cause => simp [Except.map]
  | ok share =>
    refine ⟨fun _ => ⟨_, rfl⟩, fun _ => ⟨_, generate_eq_ok_iff.2 ⟨?_, rfl⟩⟩⟩
    intro spec hspec
    rw [LaunchDescription.processes_ofProcesses, List.mem_singleton] at hspec
    exact miss?_eq_none_iff.2 ⟨share, hspec ▸ hresolve⟩

end

/-- There is a record exactly if every package is found. Otherwise the error is
that of the first process whose package is not, whatever can be read from any
file. A record has one node for each process, in order, that describes it. -/
theorem generate_outcome (resolver : Resolver) (files : Snapshot)
    (description : LaunchDescription) :
    ((∃ record, (generate resolver files description).value = .ok record) ↔
      ∀ spec ∈ description.processes,
        ∃ share, (resolver.resolve files spec.package).value = .ok share) ∧
    (∀ error, (generate resolver files description).value = .error error ↔
      ∃ before spec after cause, description.processes = before ++ spec :: after ∧
        (∀ earlier ∈ before,
          ∃ share, (resolver.resolve files earlier.package).value = .ok share) ∧
        (resolver.resolve files spec.package).value = .error cause ∧ error = .resolve cause) ∧
    (∀ other : Snapshot,
      (∀ spec ∈ description.processes, (resolver.resolve other spec.package).value =
        (resolver.resolve files spec.package).value) →
      ∀ error, (generate resolver other description).value = .error error ↔
        (generate resolver files description).value = .error error) ∧
    (∀ (locator : Locator) (read : Path → Except FileError String) (error : GenerationError),
      (generate locator { files with read } description).value = .error error ↔
        (generate locator files description).value = .error error) ∧
    (∀ record, (generate resolver files description).value = .ok record →
      record.nodes.length = description.processes.length ∧
      ∀ (i : Nat) (spec : ProcessSpec), description.processes[i]? = some spec →
        ∃ share node, (resolver.resolve files spec.package).value = .ok share ∧
          record.nodes[i]? = some node ∧ node.Describes spec share) ∧
    ((∃ record, (generateStandard resolver files).value = .ok record) ↔
      ∃ standard, (LaunchConfig.standard.build resolver files).value = .ok standard) := by
  refine ⟨?_, ?_, ?_, ?_, ?_, generateStandard_ok_iff⟩
  · simp only [generate_eq_ok_iff, miss?_eq_none_iff, exists_and_left, exists_eq, and_true]
  · intro error
    rw [generate_eq_error_iff]
    constructor
    · rintro ⟨cause, hcause, rfl⟩
      obtain ⟨before, spec, after, heq, hspec, hbefore⟩ := List.findSome?_eq_some_iff.1 hcause
      exact ⟨before, spec, after, cause, heq,
        fun earlier h => miss?_eq_none_iff.1 (hbefore earlier h), miss?_eq_some_iff.1 hspec, rfl⟩
    · rintro ⟨before, spec, after, cause, heq, hbefore, hspec, rfl⟩
      refine ⟨cause, List.findSome?_eq_some_iff.2 ⟨before, spec, after, heq, ?_, ?_⟩, rfl⟩
      · exact miss?_eq_some_iff.2 hspec
      · exact fun earlier h => miss?_eq_none_iff.2 (hbefore earlier h)
  · intro other h error
    exact generate_error_congr h error
  · intro locator read error
    exact generate_error_congr (fun spec _ => value_resolve_read locator read spec.package) error
  · intro record h
    refine ⟨length_nodes h, fun i spec hi => ?_⟩
    have hfound := (generate_eq_ok_iff.1 h).1 spec (List.mem_of_getElem? hi)
    exact ⟨_, _, resolve_eq_shareOf hfound, getElem?_nodes h hi, describes_numbered spec _⟩

end LaunchRecord

end NodeLaunch
