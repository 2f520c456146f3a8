import NodeLaunch.Proofs.NameMap
import NodeLaunch.Proofs.Record.Outcome

/-!
# Records of several processes

A process is recorded without regard to the others: only its number counts those
of its name before it. So the record of two lists of processes is made of the
records of both, and the order of the processes shows in nothing but the order
of the nodes and their numbers, as long as different files are told apart by what
they are shown as. Under a name that files of different texts have in common, the
order decides which text is recorded.
-/

namespace NodeLaunch

def NodeRecord.unnumbered (node : NodeRecord) : NodeRecord := { node with execName := none }

namespace LaunchRecord

/-- `whole` records the processes `a` and then `b`, of which `first` and
`second` are the records: the nodes of `b` go on counting where those of `a`
stop, and the recorded texts are those of both. -/
structure IsJoined (files : Snapshot) (a b : List ProcessSpec)
    (first second whole : LaunchRecord) : Prop where
  nodes : ∃ later, whole.nodes = first.nodes ++ later ∧
    later.length = second.nodes.length ∧
    ∀ (i : Nat) (spec : ProcessSpec), b[i]? = some spec → ∃ node number,
      second.nodes[i]? = some node ∧
      node.execName = some (execName spec.displayName number) ∧
      number = ((b.take (i + 1)).map (·.displayName)).count spec.displayName ∧
      later[i]? = some { node with
        execName := some (execName spec.displayName
          ((a.map (·.displayName)).count spec.displayName + number)) }
  /-- Where both have a text, that of `b` is recorded. -/
  fileData : ∀ name, whole.fileData.find? name =
    (second.fileData.find? name).or (first.fileData.find? name)
  agree : files.TellsApart ((a ++ b).flatMap (·.parameterFiles)) →
    ∀ name text other, first.fileData.find? name = some text →
      second.fileData.find? name = some other → text = other

variable {resolver : Resolver} {files : Snapshot}

theorem nodesAfter_append (earlier : List String) (a b : List ProcessSpec) :
    nodesAfter resolver files earlier (a ++ b) =
      nodesAfter resolver files earlier a ++
        nodesAfter resolver files ((a.map (·.displayName)).reverse ++ earlier) b := by
  induction a generalizing earlier with
  | nil => rfl
  | cons spec rest ih =>
    rw [List.cons_append, nodesAfter, nodesAfter, ih, List.map_cons, List.reverse_cons,
      List.append_assoc]
    rfl

theorem unnumbered_nodesAfter (earlier : List String) (specs : List ProcessSpec) :
    (nodesAfter resolver files earlier specs).map (·.node.unnumbered) =
      specs.map fun spec => (numbered resolver files spec 1).node.unnumbered := by
  induction specs generalizing earlier with
  | nil => rfl
  | cons spec rest ih => rw [nodesAfter, List.map_cons, ih, List.map_cons]; rfl

theorem unnumbered_nodes {description : LaunchDescription} {record : LaunchRecord}
    (h : (generate resolver files description).value = .ok record) :
    record.nodes.map NodeRecord.unnumbered =
      description.processes.map fun spec => (numbered resolver files spec 1).node.unnumbered := by
  obtain ⟨-, rfl⟩ := generate_eq_ok_iff.1 h
  rw [ofNodes, List.map_map]
  exact unnumbered_nodesAfter [] _

-- ---------------------------------------------------------------------------
-- Two lists of processes
-- ---------------------------------------------------------------------------

theorem nodes_append {a b : List ProcessSpec} {first whole : LaunchRecord}
    (ha : (generate resolver files (.ofProcesses a)).value = .ok first)
    (hab : (generate resolver files (.ofProcesses (a ++ b))).value = .ok whole) :
    whole.nodes = first.nodes ++
      (nodesAfter resolver files (a.map (·.displayName)).reverse b).map GeneratedNode.node := by
  obtain ⟨-, rfl⟩ := generate_eq_ok_iff.1 ha
  obtain ⟨-, rfl⟩ := generate_eq_ok_iff.1 hab
  simp only [ofNodes, LaunchDescription.processes_ofProcesses, nodesAfter_append,
    List.map_append, List.append_nil]

theorem find?_fileData_append {a b : List ProcessSpec} {first second whole : LaunchRecord}
    (ha : (generate resolver files (.ofProcesses a)).value = .ok first)
    (hb : (generate resolver files (.ofProcesses b)).value = .ok second)
    (hab : (generate resolver files (.ofProcesses (a ++ b))).value = .ok whole) (name : String) :
    whole.fileData.find? name =
      (second.fileData.find? name).or (first.fileData.find? name) := by
  rw [find?_fileData ha, find?_fileData hb, find?_fileData hab]
  simp only [LaunchDescription.processes_ofProcesses, List.flatMap_append,
    Snapshot.textsShown_append, List.getLast?_append]

theorem fileData_agree {a b : List ProcessSpec} {first second : LaunchRecord}
    (ha : (generate resolver files (.ofProcesses a)).value = .ok first)
    (hb : (generate resolver files (.ofProcesses b)).value = .ok second)
    (hapart : files.TellsApart ((a ++ b).flatMap (·.parameterFiles))) {name text other : String}
    (htext : first.fileData.find? name = some text)
    (hother : second.fileData.find? name = some other) : text = other := by
  rw [find?_fileData ha, LaunchDescription.processes_ofProcesses] at htext
  rw [find?_fileData hb, LaunchDescription.processes_ofProcesses] at hother
  have hmem : ∀ given, given ∈ files.textsShown (a.flatMap (·.parameterFiles)) name ∨
      given ∈ files.textsShown (b.flatMap (·.parameterFiles)) name →
      given ∈ files.textsShown ((a ++ b).flatMap (·.parameterFiles)) name := fun given h => by
    rwa [List.flatMap_append, Snapshot.textsShown_append, List.mem_append]
  exact hapart.eq_of_mem (hmem _ (.inl (List.mem_of_getLast? htext)))
    (hmem _ (.inr (List.mem_of_getLast? hother)))

theorem isJoined_of_generate {a b : List ProcessSpec} {first second whole : LaunchRecord}
    (ha : (generate resolver files (.ofProcesses a)).value = .ok first)
    (hb : (generate resolver files (.ofProcesses b)).value = .ok second)
    (hab : (generate resolver files (.ofProcesses (a ++ b))).value = .ok whole) :
    IsJoined files a b first second whole where
  nodes := by
    refine ⟨_, nodes_append ha hab, ?_, fun i spec hi => ?_⟩
    · rw [List.length_map, length_nodesAfter, length_nodes hb,
        LaunchDescription.processes_ofProcesses]
    · have hi' : (LaunchDescription.ofProcesses b).processes[i]? = some spec := by
        rwa [LaunchDescription.processes_ofProcesses]
      refine ⟨_, _, getElem?_nodes hb hi', rfl, ?_, ?_⟩
      · rw [LaunchDescription.processes_ofProcesses]
      · -- The names of `a` are counted from the last one back, which comes to the same.
        rw [List.getElem?_map, getElem?_nodesAfter, hi, LaunchDescription.processes_ofProcesses,
          Option.map_some, List.count_reverse]
        rfl
  fileData := find?_fileData_append ha hb hab
  agree hapart _ _ _ := fileData_agree ha hb hapart

-- ---------------------------------------------------------------------------
-- Other orders, and processes alone
-- ---------------------------------------------------------------------------

theorem generate_of_perm {description other : LaunchDescription} {record : LaunchRecord}
    (hperm : description.processes.Perm other.processes)
    (h : (generate resolver files description).value = .ok record) :
    ∃ record', (generate resolver files other).value = .ok record' ∧
      (record.nodes.map NodeRecord.unnumbered).Perm (record'.nodes.map NodeRecord.unnumbered) ∧
      (∀ name, (∃ text, record'.fileData.find? name = some text) ↔
        ∃ text, record.fileData.find? name = some text) ∧
      (files.TellsApart (description.processes.flatMap (·.parameterFiles)) →
        record'.fileData = record.fileData) := by
  have hfound := (generate_eq_ok_iff.1 h).1
  have h' := generate_eq_ok_iff.2 ⟨fun spec hspec => hfound spec (hperm.mem_iff.2 hspec), rfl⟩
  have hpaths := hperm.flatMap_right (·.parameterFiles)
  refine ⟨_, h', ?_, fun name => ?_, fun hapart => NameMap.ext_find? fun name => ?_⟩
  · rw [unnumbered_nodes h, unnumbered_nodes h']
    exact hperm.map _
  · rw [exists_find?_fileData_iff h, exists_find?_fileData_iff h']
    simp only [hpaths.mem_iff]
  · have hapart' := hapart.subset fun path hpath => hpaths.mem_iff.2 hpath
    rw [find?_fileData h, find?_fileData h']
    ext text
    rw [hapart.getLast?_iff, hapart'.getLast?_iff, Snapshot.mem_textsShown_iff,
      Snapshot.mem_textsShown_iff]
    simp only [hpaths.mem_iff]

/-- A process is recorded as it is when it is the only one, but for its number. -/
theorem generate_alone {description : LaunchDescription} {record : LaunchRecord}
    (h : (generate resolver files description).value = .ok record) {i : Nat} {spec : ProcessSpec}
    (hi : description.processes[i]? = some spec) :
    ∃ node alone, record.nodes[i]? = some node ∧
      (generate resolver files (.ofProcesses [spec])).value = .ok alone ∧
      alone.nodes.map NodeRecord.unnumbered = [node.unnumbered] := by
  have hfound := (generate_eq_ok_iff.1 h).1 spec (List.mem_of_getElem? hi)
  have halone : (generate resolver files (.ofProcesses [spec])).value =
      .ok (ofNodes (nodesAfter resolver files [] [spec])) :=
    generate_eq_ok_iff.2 ⟨by simpa [LaunchDescription.processes_ofProcesses] using hfound, rfl⟩
  exact ⟨_, _, getElem?_nodes h hi, halone, rfl⟩

/-- Recording composes over the processes: two lists of them are recorded
together exactly if each is by itself, and then the record is made of the two.
Reordered processes have the same nodes, their numbers aside, in another order,
and texts under the same names: the same texts if files shown alike have one text,
as files whose names are UTF-8 do. -/
theorem generate_append (resolver : Resolver) (files : Snapshot) :
    (∀ a b : List ProcessSpec,
      ((∃ whole, (generate resolver files (.ofProcesses (a ++ b))).value = .ok whole) ↔
        (∃ first, (generate resolver files (.ofProcesses a)).value = .ok first) ∧
          ∃ second, (generate resolver files (.ofProcesses b)).value = .ok second) ∧
      ∀ first second whole,
        (generate resolver files (.ofProcesses a)).value = .ok first →
        (generate resolver files (.ofProcesses b)).value = .ok second →
        (generate resolver files (.ofProcesses (a ++ b))).value = .ok whole →
        IsJoined files a b first second whole) ∧
    (∀ (description other : LaunchDescription) (record : LaunchRecord),
      description.processes.Perm other.processes →
      (generate resolver files description).value = .ok record →
      ∃ record', (generate resolver files other).value = .ok record' ∧
        (record.nodes.map NodeRecord.unnumbered).Perm
          (record'.nodes.map NodeRecord.unnumbered) ∧
        (∀ name, (∃ text, record'.fileData.find? name = some text) ↔
          ∃ text, record.fileData.find? name = some text) ∧
        (files.TellsApart (description.processes.flatMap (·.parameterFiles)) →
          record'.fileData = record.fileData)) ∧
    (∀ (description : LaunchDescription) (record : LaunchRecord),
      (generate resolver files description).value = .ok record →
      ∀ (i : Nat) (spec : ProcessSpec), description.processes[i]? = some spec →
        ∃ node alone, record.nodes[i]? = some node ∧
          (generate resolver files (.ofProcesses [spec])).value = .ok alone ∧
          alone.nodes.map NodeRecord.unnumbered = [node.unnumbered]) ∧
    ∀ paths : List Path, (∀ path ∈ paths, path.IsText) → files.TellsApart paths := by
  refine ⟨fun a b => ⟨?_, ?_⟩, ?_, ?_, fun _ => Snapshot.tellsApart_of_isText⟩
  · simp only [generate_eq_ok_iff, LaunchDescription.processes_ofProcesses, exists_and_left,
      exists_eq, and_true, List.mem_append, or_imp, forall_and]
  · intro first second whole ha hb hab
    exact isJoined_of_generate ha hb hab
  · intro description other record hperm h
    exact generate_of_perm hperm h
  · intro description record h i spec hi
    exact generate_alone h hi

/-- Two parameter files whose names differ in a byte that is not shown. -/
def alikeFiles : Snapshot where
  isFile _ := false
  isDirectory _ := false
  read path :=
    if path.text.bytes = [0x61, 0xFF] then .ok "a: 1"
    else if path.text.bytes = [0x61, 0xFE] then .ok "a: 2"
    else .error .notFound

def alikeSpec (last : UInt8) : ProcessSpec :=
  ⟨"demo", "talker", "talker", [⟨⟨[0x61, last]⟩⟩], false, .log⟩

def alikeTexts (specs : List ProcessSpec) : Option (List (String × String)) :=
  (generate (Locator.table (.ofList [("demo", ⟨"/opt/share/demo"⟩)])) alikeFiles
    (.ofProcesses specs)).value.toOption.map (·.fileData.entries)

theorem fileData_of_alike :
    alikeTexts [alikeSpec 0xFF] = some [("a\uFFFD", "a: 1")] ∧
    alikeTexts [alikeSpec 0xFE] = some [("a\uFFFD", "a: 2")] ∧
    alikeTexts [alikeSpec 0xFF, alikeSpec 0xFE] = some [("a\uFFFD", "a: 2")] ∧
    alikeTexts [alikeSpec 0xFE, alikeSpec 0xFF] = some [("a\uFFFD", "a: 1")] := by
  decide +kernel

end LaunchRecord

end NodeLaunch
