import Mathlib.Data.List.Basic
import Mathlib.Data.List.Induction
import NodeLaunch.Proofs.Path.Shown
import NodeLaunch.Record.Generate

/-!
# Which parameter files load

Whether a parameter file loads, and the text it loads with, depend on the file
alone: not on the node it is read for, and not on the other files. A record keeps
the texts under what the paths are shown as, so it has one text for all the files
that are shown alike, that of the last one.
-/

namespace NodeLaunch

/-- The text of a file and the document it holds, if the file loads. -/
def Snapshot.document? (files : Snapshot) (path : Path) : Option (String × Yaml.Value) :=
  match files.read path with
  | .error _ => none
  | .ok content =>
    match Yaml.Value.parse content with
    | .error _ => none
    | .ok document => some (content, document)

def Snapshot.loadedText? (files : Snapshot) (path : Path) : Option String :=
  (files.document? path).map (·.1)

/-- The texts that the files shown as `name` load with, in order. -/
def Snapshot.textsShown (files : Snapshot) (paths : List Path) (name : String) : List String :=
  (paths.filter (·.display = name)).filterMap files.loadedText?

theorem Snapshot.textsShown_append (files : Snapshot) (paths others : List Path) (name : String) :
    files.textsShown (paths ++ others) name =
      files.textsShown paths name ++ files.textsShown others name := by
  rw [textsShown, List.filter_append, List.filterMap_append, textsShown, textsShown]

theorem Snapshot.mem_textsShown_iff {files : Snapshot} {paths : List Path} {name text : String} :
    text ∈ files.textsShown paths name ↔
      ∃ path ∈ paths, path.display = name ∧ files.loadedText? path = some text := by
  simp only [textsShown, List.mem_filterMap, List.mem_filter, decide_eq_true_eq, and_assoc]

/-- Of the files that are shown alike all that load have one text. -/
def Snapshot.TellsApart (files : Snapshot) (paths : List Path) : Prop :=
  ∀ path ∈ paths, ∀ other ∈ paths, path.display = other.display →
    ∀ text text', files.loadedText? path = some text → files.loadedText? other = some text' →
      text = text'

namespace Snapshot

variable {files : Snapshot} {paths : List Path}

/-- Files of different UTF-8 names are never shown alike. -/
theorem tellsApart_of_isText (h : ∀ path ∈ paths, path.IsText) : files.TellsApart paths := by
  intro path hpath other hother hshown text text' htext htext'
  rw [(h path hpath).eq_of_display (h other hother) hshown] at htext
  exact Option.some.inj (htext.symm.trans htext')

theorem TellsApart.subset {others : List Path} (h : files.TellsApart paths)
    (hsubset : ∀ other ∈ others, other ∈ paths) : files.TellsApart others :=
  fun path hpath other hother => h path (hsubset path hpath) other (hsubset other hother)

theorem TellsApart.eq_of_mem (h : files.TellsApart paths) {name text text' : String}
    (htext : text ∈ files.textsShown paths name) (htext' : text' ∈ files.textsShown paths name) :
    text = text' := by
  obtain ⟨path, hpath, rfl, hload⟩ := mem_textsShown_iff.1 htext
  obtain ⟨other, hother, hshown, hload'⟩ := mem_textsShown_iff.1 htext'
  exact h path hpath other hother hshown.symm text text' hload hload'

theorem TellsApart.getLast?_iff (h : files.TellsApart paths) {name text : String} :
    (files.textsShown paths name).getLast? = some text ↔ text ∈ files.textsShown paths name := by
  refine ⟨List.mem_of_getLast?, fun hmem => ?_⟩
  rw [List.getLast?_eq_some_getLast (List.ne_nil_of_mem hmem)]
  exact congrArg some (h.eq_of_mem (List.getLast_mem _) hmem)

end Snapshot

def ParameterFile.ofDocument (node : String) (loaded : String × Yaml.Value) : ParameterFile :=
  ⟨loaded.1, (ParameterDocument.parameters node loaded.2).value⟩

theorem ParameterFile.value_load_cases (files : Snapshot) (path : Path) (node : String) :
    (∃ loaded, files.document? path = some loaded ∧
      (load files path node).value = .ok (ofDocument node loaded)) ∨
    (∃ cause, files.document? path = none ∧ (load files path node).value = .error cause) := by
  simp only [load, Snapshot.document?, ParameterDocument.parse]
  cases files.read path with
  | error cause => exact .inr ⟨.file cause, rfl, rfl⟩
  | ok content =>
    dsimp only
    cases Yaml.Value.parse content with
    | error fault => exact .inr ⟨.yaml content fault, rfl, rfl⟩
    | ok document => exact .inl ⟨(content, document), rfl, rfl⟩

namespace ProcessSpec

theorem value_loadFiles (files : Snapshot) (node : String) (paths : List Path) :
    (loadFiles files node paths).value = paths.filterMap fun path =>
      (files.document? path).map fun loaded => (path, ParameterFile.ofDocument node loaded) := by
  induction paths with
  | nil => rfl
  | cons path rest ih =>
    rw [loadFiles, Logged.value_bind, List.filterMap_cons]
    rcases ParameterFile.value_load_cases files path node with
      ⟨loaded, hdoc, hload⟩ | ⟨cause, hdoc, hload⟩
    · rw [hdoc, hload, ← ih]
      rfl
    · rw [hdoc, hload, ← ih]
      rfl

theorem texts_loadFiles (files : Snapshot) (node : String) (paths : List Path) (name : String) :
    ((loadFiles files node paths).value.filter (·.1.display = name)).map (·.2.content) =
      files.textsShown paths name := by
  rw [value_loadFiles]
  induction paths with
  | nil => rfl
  | cons path rest ih =>
    rw [List.filterMap_cons, ← List.singleton_append, Snapshot.textsShown_append, ← ih]
    cases hdoc : files.document? path with
    | none => simp [Snapshot.textsShown, Snapshot.loadedText?, hdoc, List.filter_cons]
    | some loaded =>
      by_cases hname : path.display = name <;>
        simp [Snapshot.textsShown, Snapshot.loadedText?, hdoc, hname, ParameterFile.ofDocument]

theorem texts_flatMap_loadFiles (files : Snapshot) (specs : List ProcessSpec) (name : String) :
    ((specs.flatMap fun spec => (loadFiles files spec.nodeName spec.parameterFiles).value).filter
      (·.1.display = name)).map (·.2.content) =
      files.textsShown (specs.flatMap (·.parameterFiles)) name := by
  induction specs with
  | nil => rfl
  | cons spec rest ih =>
    rw [List.flatMap_cons, List.filter_append, List.map_append, ih, texts_loadFiles,
      List.flatMap_cons, Snapshot.textsShown_append]

end ProcessSpec

namespace LaunchRecord

theorem fileTexts_concat (loaded : List (Path × ParameterFile)) (last : Path × ParameterFile) :
    fileTexts (loaded ++ [last]) = (fileTexts loaded).insert last.1.display last.2.content := by
  simp [fileTexts]

/-- Of the files that are shown alike the last one leaves its text. -/
theorem find?_fileTexts (loaded : List (Path × ParameterFile)) (name : String) :
    (fileTexts loaded).find? name =
      ((loaded.filter (·.1.display = name)).map (·.2.content)).getLast? := by
  induction loaded using List.reverseRecOn with
  | nil => rfl
  | append_singleton loaded last ih =>
    rw [fileTexts_concat, NameMap.find?_insert, ih, List.filter_append, List.map_append]
    by_cases hname : name = last.1.display
    · simp [hname]
    · simp [hname, Ne.symm hname]

end LaunchRecord

end NodeLaunch
