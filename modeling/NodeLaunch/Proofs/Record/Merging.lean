import NodeLaunch.Proofs.Parameters.Walk
import NodeLaunch.Proofs.Record.Outcome

/-!
# Parameter files one over the other

The parameters of a node are those of its parameter files that load, each file
over the earlier ones. Overriding between files is overriding within a file: the
files come to what the one document of all their entries comes to.
-/

namespace NodeLaunch

open Parameters (IsOverlay)

def Snapshot.documents (files : Snapshot) (paths : List Path) : List Yaml.Value :=
  paths.filterMap fun path => (files.document? path).map (·.2)

def Yaml.Value.members? : Yaml.Value → Option (List (Yaml.Value × Yaml.Value))
  | .mapping members => some members
  | _ => none

theorem Yaml.Value.eq_map_mapping {documents : List Yaml.Value}
    {roots : List (List (Yaml.Value × Yaml.Value))} (h : documents.mapM members? = some roots) :
    documents = roots.map .mapping := by
  induction documents generalizing roots with
  | nil =>
    obtain rfl := Option.some.inj h
    rfl
  | cons document rest ih =>
    rw [List.mapM_cons] at h
    obtain ⟨members, hmembers, h⟩ := Option.bind_eq_some_iff.1 h
    obtain ⟨others, hothers, h⟩ := Option.bind_eq_some_iff.1 h
    obtain rfl := Option.some.inj h
    cases document with
    | mapping own =>
      obtain rfl := Option.some.inj hmembers
      rw [List.map_cons, ← ih hothers]
    | _ => cases hmembers

namespace ProcessSpec

theorem params_loadFiles (files : Snapshot) (node : String) (paths : List Path) :
    (loadFiles files node paths).value.map (·.2.params) =
      (files.documents paths).map fun document =>
        (ParameterDocument.parameters node document).value := by
  rw [value_loadFiles, Snapshot.documents, List.map_filterMap, List.map_filterMap]
  simp only [Option.map_map]
  rfl

theorem mergeParams_eq_foldl (loaded : List (Path × ParameterFile)) :
    mergeParams loaded = (loaded.map (·.2.params)).foldl Parameters.setAll [] := by
  rw [mergeParams, List.foldl_map]

theorem mergeParams_loadFiles (files : Snapshot) (node : String) (paths : List Path) :
    mergeParams (loadFiles files node paths).value =
      ((files.documents paths).map fun document =>
        (ParameterDocument.parameters node document).value).foldl Parameters.setAll [] := by
  rw [mergeParams_eq_foldl, params_loadFiles]

theorem isOverlay_mergeParams (files : Snapshot) (node : String) (paths : List Path) :
    IsOverlay (mergeParams (loadFiles files node paths).value)
      ((files.documents paths).map fun document =>
        (ParameterDocument.parameters node document).value) := by
  rw [mergeParams_loadFiles]
  refine Parameters.isOverlay_foldl_setAll fun layer hlayer => ?_
  obtain ⟨document, -, rfl⟩ := List.mem_map.1 hlayer
  rw [ParameterDocument.value_parameters]
  exact Parameters.nodup_names_merged _

/-- The files' documents come to what the document of all their entries comes to. -/
theorem mergeParams_eq_parameters {files : Snapshot} (node : String) {paths : List Path}
    {roots : List (List (Yaml.Value × Yaml.Value))}
    (h : files.documents paths = roots.map .mapping) :
    mergeParams (loadFiles files node paths).value =
      (ParameterDocument.parameters node (.mapping roots.flatten)).value := by
  rw [mergeParams_loadFiles, h]
  simp only [ParameterDocument.value_parameters]
  rw [ParameterDocument.assignments_flatten, ← Parameters.foldl_setAll_merged, List.map_map,
    List.map_map]
  rfl

end ProcessSpec

namespace LaunchRecord

/-- The parameters of each node of a record are those of its files that load,
later files over earlier ones. If each of these files has a mapping at its root,
they are the parameters of the document that has the entries of all of them. -/
theorem params_of_generate {resolver : Resolver} {files : Snapshot}
    {description : LaunchDescription} {record : LaunchRecord}
    (h : (generate resolver files description).value = .ok record) {i : Nat} {spec : ProcessSpec}
    (hi : description.processes[i]? = some spec) :
    ∃ node, record.nodes[i]? = some node ∧
      IsOverlay node.params ((files.documents spec.parameterFiles).map fun document =>
        (ParameterDocument.parameters (nodeName "/" spec.displayName) document).value) ∧
      ∀ roots : List (List (Yaml.Value × Yaml.Value)),
        files.documents spec.parameterFiles = roots.map .mapping →
        (ParameterDocument.parameters (nodeName "/" spec.displayName)
          (.mapping roots.flatten)).value = node.params ∧
        ∀ text, Yaml.Value.parse text = .ok (.mapping roots.flatten) →
          (ParameterDocument.parse text (nodeName "/" spec.displayName)).value =
            .ok node.params := by
  refine ⟨_, getElem?_nodes h hi, ProcessSpec.isOverlay_mergeParams _ _ _, fun roots hroots => ?_⟩
  have heq := ProcessSpec.mergeParams_eq_parameters (nodeName "/" spec.displayName) hroots
  refine ⟨heq.symm, fun text htext => ?_⟩
  rw [ParameterDocument.parse, htext, Logged.value_bind]
  exact congrArg Except.ok heq.symm

def overridingFiles : Snapshot where
  isFile _ := false
  isDirectory _ := false
  read path :=
    if path.text = "base.yaml" then .ok "/**: {ros__parameters: {speed: 0.5, gain: 2}}"
    else if path.text = "overlay.yaml" then .ok "talker: {ros__parameters: {speed: 1.0}}"
    else if path.text = "broken.yaml" then .ok "talker: ["
    else .error .notFound

def overriddenTalker : ProcessSpec where
  package := "demo"
  executable := "talker"
  displayName := "talker"
  parameterFiles := [⟨"base.yaml"⟩, ⟨"missing.yaml"⟩, ⟨"broken.yaml"⟩, ⟨"overlay.yaml"⟩]
  pseudoTty := true
  outputMode := .screen

theorem params_of_generate_overridden :
    ∃ record node, ∃ roots : List (List (Yaml.Value × Yaml.Value)),
      (generate (Locator.table (.ofList [("demo", ⟨"/opt/share/demo"⟩)])) overridingFiles
        (.ofProcesses [overriddenTalker])).value = .ok record ∧
      record.nodes[0]? = some node ∧ Parameters.names node.params = ["speed", "gain"] ∧
      Parameters.find? node.params "speed" = some "1.0" ∧
      overridingFiles.documents overriddenTalker.parameterFiles = roots.map .mapping ∧
      (ParameterDocument.parameters "/talker" (.mapping roots.flatten)).value = node.params := by
  obtain ⟨record, h⟩ : ∃ record,
      (generate (Locator.table (.ofList [("demo", ⟨"/opt/share/demo"⟩)])) overridingFiles
        (.ofProcesses [overriddenTalker])).value = .ok record := by
    refine ⟨_, generate_eq_ok_iff.2 ⟨fun spec hspec => ?_, rfl⟩⟩
    rw [LaunchDescription.processes_ofProcesses, List.mem_singleton] at hspec
    subst hspec
    rfl
  obtain ⟨node, hnode, hoverlay, hjoined⟩ := params_of_generate h (i := 0) rfl
  have hsome : ((overridingFiles.documents overriddenTalker.parameterFiles).mapM
      Yaml.Value.members?).isSome = true := by decide +kernel
  obtain ⟨roots, hroots⟩ := Option.isSome_iff_exists.1 hsome
  have hdocuments := Yaml.Value.eq_map_mapping hroots
  exact ⟨record, node, roots, h, hnode, hoverlay.names.trans (by decide +kernel),
    (hoverlay.find? "speed").trans (by decide +kernel), hdocuments, (hjoined roots hdocuments).1⟩

end LaunchRecord

end NodeLaunch
