import NodeLaunch.Record.Decode
import NodeLaunch.Record.Encode
import NodeLaunch.Proofs.Json.Decoding
import NodeLaunch.Proofs.Record.Outcome
import NodeLaunch.Proofs.Text.Bytes

/-!
# Records and their JSON texts

The text of a record is decoded to the record. Nothing is said of what this
program never writes: items in the lists for other kinds of nodes, and delays.
In the text the parameter files stand in the byte order of their paths.
-/

namespace NodeLaunch

open Json Json.Decoder

section

variable {α : Type} {decoder : Decoder α} {levels : Nat} {encode : α → Json}

theorem reads_ofOption (h : ∀ value, decoder.Reads levels (encode value) value)
    (hnull : ∀ value, (encode value).tree ≠ .null) (choice : Option α) :
    (optional decoder).Reads levels (.ofOption encode choice) choice := by
  cases choice with
  | none => exact fun _ _ => rfl
  | some value => exact reads_optional (h value) (hnull value)

theorem isFloatless_ofOption (h : ∀ value, (encode value).isFloatless = true)
    (choice : Option α) : (Json.ofOption encode choice).isFloatless = true := by
  cases choice with
  | none => rfl
  | some value => exact h value

end

theorem reads_strings (texts : List String) :
    (list string).Reads 1 (.ofStrings texts) texts :=
  reads_list fun text _ => reads_string text

theorem isFloatless_ofStrings (texts : List String) : (Json.ofStrings texts).isFloatless = true :=
  isFloatless_list fun _ _ => rfl

theorem isFloatless_ofPairs (pairs : List (String × String)) :
    (Json.ofPairs pairs).isFloatless = true :=
  isFloatless_list fun _ _ => rfl

namespace NodeRecord

theorem reads_texts (list : List String) : texts.Reads 1 (.ofStrings list) list :=
  reads_strings list

theorem reads_pairs (list : List (String × String)) : pairs.Reads 2 (.ofPairs list) list :=
  reads_list fun (first, second) _ => reads_pair (reads_string first) (reads_string second)

theorem reads_optionalString (text : Option String) :
    (optional string).Reads 0 (.ofOption .string text) text :=
  reads_ofOption reads_string (fun _ => nofun) text

theorem reads_optionalBool (flag : Option Bool) :
    (optional bool).Reads 0 (.ofOption .bool flag) flag :=
  reads_ofOption reads_bool (fun _ => nofun) flag

theorem reads_optionalTexts (list : Option (List String)) :
    (optional texts).Reads 1 (.ofOption .ofStrings list) list :=
  reads_ofOption reads_texts (fun _ => nofun) list

theorem reads_optionalPairs (list : Option (List (String × String))) :
    (optional pairs).Reads 2 (.ofOption .ofPairs list) list :=
  reads_ofOption reads_pairs (fun _ => nofun) list

theorem reads_respawnDelay {node : NodeRecord} (h : node.respawnDelay = none) :
    (optional float).Reads 0 (.ofOption .ofFloat node.respawnDelay) node.respawnDelay := by
  rw [h]
  exact reads_optional_null float

theorem fits_members {node : NodeRecord} (h : node.respawnDelay = none) :
    List.Forall₂ (Fits 2) fields node.members :=
  .cons ((reads_string _).fits _ (by decide)) <|
  .cons ((reads_optionalString _).fits _ (by decide)) <|
  .cons ((reads_optionalString _).fits _ (by decide)) <|
  .cons ((reads_optionalString _).fits _ (by decide)) <|
  .cons ((reads_optionalString _).fits _ (by decide)) <|
  .cons ((reads_pairs _).fits _ (by decide)) <|
  .cons ((reads_texts _).fits _ (by decide)) <|
  .cons ((reads_pairs _).fits _ (by decide)) <|
  .cons ((reads_optionalTexts _).fits _ (by decide)) <|
  .cons ((reads_optionalTexts _).fits _ (by decide)) <|
  .cons ((reads_texts _).fits _ (by decide)) <|
  .cons ((reads_optionalPairs _).fits _ (by decide)) <|
  .cons ((reads_optionalBool _).fits _ (by decide)) <|
  .cons ((reads_respawnDelay h).fits _ (by decide)) <|
  .cons ((reads_optionalPairs _).fits _ (by decide)) <|
  .cons ((reads_optionalString _).fits _ (by decide)) <|
  .cons ((reads_optionalBool _).fits _ (by decide)) .nil

theorem nodup_fields : (fields.map (·.name)).Nodup := by decide

theorem reads_decoder {node : NodeRecord} (h : node.respawnDelay = none) :
    decoder.Reads 3 node.toJson node := by
  intro depth hdepth
  rw [toJson, decoder, reads_fieldValues _ _ (fits_members h) nodup_fields depth hdepth, ok_bind,
    required_bind node.members rfl (reads_string node.executable) (by omega),
    allowed_bind node.members rfl (reads_optionalString node.package) (by omega),
    allowed_bind node.members rfl (reads_optionalString node.name) (by omega),
    allowed_bind node.members rfl (reads_optionalString node.scope) (by omega),
    allowed_bind node.members rfl (reads_optionalString node.execName) (by omega),
    required_bind node.members rfl (reads_pairs node.params) (by omega),
    required_bind node.members rfl (reads_texts node.paramsFiles) (by omega),
    required_bind node.members rfl (reads_pairs node.remaps) (by omega),
    allowed_bind node.members rfl (reads_optionalTexts node.rosArgs) (by omega),
    allowed_bind node.members rfl (reads_optionalTexts node.args) (by omega),
    required_bind node.members rfl (reads_texts node.command) (by omega),
    allowed_bind node.members rfl (reads_optionalPairs node.environment) (by omega),
    allowed_bind node.members rfl (reads_optionalBool node.respawn) (by omega),
    allowed_bind node.members rfl (reads_respawnDelay h) (by omega),
    allowed_bind node.members rfl (reads_optionalPairs node.globalParams) (by omega),
    allowed_bind node.members rfl (reads_optionalString node.output) (by omega),
    allowed_bind node.members rfl (reads_optionalBool node.emulateTty) (by omega)]
  rfl

theorem isFloatless_toJson {node : NodeRecord} (h : node.respawnDelay = none) :
    node.toJson.isFloatless = true := by
  have htext (choice : Option String) : (Json.ofOption .string choice).isFloatless = true :=
    isFloatless_ofOption (fun _ => rfl) choice
  have hflag (choice : Option Bool) : (Json.ofOption .bool choice).isFloatless = true :=
    isFloatless_ofOption (fun _ => rfl) choice
  have hdelay : (Json.ofOption .ofFloat node.respawnDelay).isFloatless = true := by rw [h]; rfl
  simp [toJson, members, isFloatless, membersFloatless, htext, hflag, hdelay,
    isFloatless_ofOption isFloatless_ofStrings, isFloatless_ofOption isFloatless_ofPairs,
    isFloatless_ofStrings, isFloatless_ofPairs]

end NodeRecord

namespace LaunchRecord

/-- Nothing of what this program never writes: no container, no node to load, no delay. -/
structure IsPlain (record : LaunchRecord) : Prop where
  containers : record.containers = []
  loadNodes : record.loadNodes = []
  respawnDelay : ∀ node ∈ record.nodes, node.respawnDelay = none

variable {record : LaunchRecord}

theorem reads_nodes (h : record.IsPlain) :
    (list NodeRecord.decoder).Reads 4 (.array (record.nodes.map NodeRecord.toJson)) record.nodes :=
  reads_list fun node hnode => NodeRecord.reads_decoder (h.respawnDelay node hnode)

theorem reads_nothing {values : List Json} (h : values = []) :
    (list value).Reads 1 (.array values) values := by
  subst h
  have hnone : ∀ item ∈ ([] : List Json), Decoder.Reads value 0 (id item) item := nofun
  exact reads_list hnone

theorem reads_fileData (fileData : NameMap String) :
    (map string).Reads 1
      (.object (fileData.entries.map fun (path, content) => (path, .string content))) fileData :=
  reads_map fun entry _ => reads_string entry.2

theorem fits_members (h : record.IsPlain) : List.Forall₂ (Fits 4) fields record.members :=
  .cons ((reads_nodes h).fits _ (by decide)) <|
  .cons ((reads_nothing h.containers).fits _ (by decide)) <|
  .cons ((reads_nothing h.loadNodes).fits _ (by decide)) <|
  .cons ((reads_strings _).fits _ (by decide)) <|
  .cons ((reads_fileData _).fits _ (by decide)) .nil

theorem reads_decoder (h : record.IsPlain) : decoder.Reads 5 record.toJson record := by
  intro depth hdepth
  have hnodup : (fields.map (·.name)).Nodup := by decide
  rw [toJson, decoder, reads_fieldValues _ _ (fits_members h) hnodup depth hdepth, ok_bind,
    required_bind record.members rfl (reads_nodes h) (by omega),
    required_bind record.members rfl (reads_nothing h.containers) (by omega),
    required_bind record.members rfl (reads_nothing h.loadNodes) (by omega),
    required_bind record.members rfl (reads_strings record.lifecycleNodes) (by omega),
    required_bind record.members rfl (reads_fileData record.fileData) (by omega)]
  rfl

theorem isFloatless_toJson (h : record.IsPlain) : record.toJson.isFloatless = true := by
  have hnodes : (Json.array (record.nodes.map NodeRecord.toJson)).isFloatless = true :=
    isFloatless_list fun node hnode => NodeRecord.isFloatless_toJson (h.respawnDelay node hnode)
  have hfiles : membersFloatless (record.fileData.entries.map fun (path, content) =>
      (path, Json.string content)) = true :=
    membersFloatless_iff.2 (List.forall_mem_map.2 fun _ _ => rfl)
  simp only [toJson, members, isFloatless, membersFloatless, h.containers, h.loadNodes,
    itemsFloatless, hfiles, Bool.and_true, Bool.true_and] at hnodes ⊢
  rw [hnodes, Bool.true_and]
  exact isFloatless_ofStrings record.lifecycleNodes

theorem isPlain_of_generate {resolver : Resolver} {files : Snapshot}
    {description : LaunchDescription}
    (h : (generate resolver files description).value = .ok record) : record.IsPlain := by
  obtain ⟨-, rfl⟩ := generate_eq_ok_iff.1 h
  refine ⟨rfl, rfl, fun node hnode => ?_⟩
  obtain ⟨made, hmade, rfl⟩ := List.mem_map.1 hnode
  obtain ⟨i, hi⟩ := List.getElem?_of_mem hmade
  rw [getElem?_nodesAfter, Option.map_eq_some_iff] at hi
  obtain ⟨spec, -, rfl⟩ := hi
  rfl

/-- A record that has only what this program writes can be read back from its
text, and every record made here is one. The text ends with the object of the
parameter files: each path once, in the byte order of the paths, with its content. -/
theorem ofText_text_of_isPlain :
    (∀ record : LaunchRecord, record.IsPlain →
      ofText record.text = .ok record ∧
      (∃ nodes containers loadNodes lifecycleNodes, Reading.ofText record.text =
        (.object
          [(some "node", nodes), (some "container", containers), (some "load_node", loadNodes),
           (some "lifecycle_node", lifecycleNodes),
           (some "file_data", .object (record.fileData.entries.map fun (path, content) =>
             (some path, .string (some content))) true)] true, true)) ∧
      (record.fileData.entries.map fun (path, _) => Text.bytes path).Pairwise (· < ·)) ∧
    (∀ (resolver : Resolver) (files : Snapshot) (description : LaunchDescription)
      (record : LaunchRecord), (generate resolver files description).value = .ok record →
      record.IsPlain) := by
  refine ⟨fun record h => ⟨?_, ?_, ?_⟩, fun _ _ _ _ => isPlain_of_generate⟩
  · exact decodeText_pretty (reads_decoder h) (by decide) (isFloatless_toJson h)
  · have hfiles : treeMembers (record.fileData.entries.map fun (path, content) =>
        (path, Json.string content)) =
        record.fileData.entries.map fun (path, content) => (some path, .string (some content)) := by
      rw [treeMembers_eq_map, List.map_map]
      rfl
    rw [← hfiles]
    exact ⟨_, _, _, _, ofText_pretty (isFloatless_toJson h)⟩
  · exact List.pairwise_map.2 (record.fileData.sorted.imp fun hlt => Text.bytes_lt_bytes_iff.2 hlt)

def mixedNodes : List NodeRecord :=
  [{ executable := "talker", package := none, name := none, scope := none, execName := none
     params := [], paramsFiles := [], remaps := [], rosArgs := none, args := none, command := []
     environment := none, respawn := none, respawnDelay := none, globalParams := none
     output := none, emulateTty := none },
   { executable := "\"\\\u0000", package := some "", name := some "ü", scope := some "/"
     execName := some "talker-1", params := [("a", ""), ("a", "1\n")], paramsFiles := ["/p/a.yaml"]
     remaps := [("x", "y")], rosArgs := some [], args := some ["-r"], command := ["talker"]
     environment := some [], respawn := some true, respawnDelay := none
     globalParams := some [("k", "v")], output := some "both", emulateTty := some false }]

def mixedRecord : LaunchRecord where
  nodes := mixedNodes
  containers := []
  loadNodes := []
  lifecycleNodes := ["talker"]
  fileData := (NameMap.empty.insert "/p/𝄞.yaml" "a:\n\t1").insert "/p/～.yaml" ""

def plainTalker : ProcessSpec where
  package := "demo"
  executable := "talker"
  displayName := "talker"
  parameterFiles := [⟨"base.yaml"⟩]
  pseudoTty := true
  outputMode := .both

def noFiles : Snapshot := ⟨fun _ => false, fun _ => false, fun _ => .error .notFound⟩

theorem ofText_text_of_isPlain_mixed :
    mixedRecord.IsPlain ∧ ofText mixedRecord.text = .ok mixedRecord ∧
    mixedRecord.fileData.entries.map (·.1) = ["/p/～.yaml", "/p/𝄞.yaml"] ∧
    ∃ record, (generate (Locator.table (.ofList [("demo", ⟨"/opt/share/demo"⟩)])) noFiles
      (.ofProcesses [plainTalker])).value = .ok record ∧ record.IsPlain := by
  have hplain : mixedRecord.IsPlain := ⟨rfl, rfl, by decide⟩
  obtain ⟨record, h⟩ : ∃ record,
      (generate (Locator.table (.ofList [("demo", ⟨"/opt/share/demo"⟩)])) noFiles
        (.ofProcesses [plainTalker])).value = .ok record := by
    refine ⟨_, generate_eq_ok_iff.2 ⟨fun spec hspec => ?_, rfl⟩⟩
    rw [LaunchDescription.processes_ofProcesses, List.mem_singleton] at hspec
    subst hspec
    rfl
  exact ⟨hplain, (ofText_text_of_isPlain.1 mixedRecord hplain).1, by decide,
    record, h, ofText_text_of_isPlain.2 _ _ _ record h⟩

end LaunchRecord

end NodeLaunch
