import NodeLaunch.Description.Decode
import NodeLaunch.Description.Encode
import NodeLaunch.Proofs.Except
import NodeLaunch.Proofs.Json.Arrangement
import NodeLaunch.Proofs.Path.Shown
import NodeLaunch.Record.Generate

/-!
# Descriptions and their JSON texts

A description has a text if its paths are UTF-8, as those of a decoded one are.
The text is decoded to the description, the texts of its paths included. So a
description is told by its text, and nothing that is made of it depends on whether
it has been written and read in between.
-/

namespace NodeLaunch

open Json Json.Decoder

theorem OutputMode.reads_decoder (mode : OutputMode) :
    OutputMode.decoder.Reads 0 (.string mode.name) mode := by
  intro depth _
  cases mode <;> rfl

theorem Path.encode_eq_ok_iff {path : Path} {text : String} :
    path.encode = .ok text ↔ path = ⟨text⟩ := by
  obtain ⟨bytes⟩ := path
  rw [mk.injEq, ← SystemText.text?_eq_some_iff, encode]
  cases bytes.text? <;> simp

theorem mapM_encode_eq_ok_iff {paths : List Path} {files : List String} :
    paths.mapM Path.encode = .ok files ↔ paths = files.map fun file : String => ⟨file⟩ := by
  simp only [mapM_eq_ok_iff, Path.encode_eq_ok_iff]
  rw [← List.forall₂_map_right_iff, List.forall₂_eq_eq_eq]

namespace ProcessSpec

theorem reads_parameterFiles (files : List String) :
    parameterFilesDecoder.Reads 1 (.array (files.map .string))
      (files.map fun file : String => ⟨file⟩) := by
  intro depth hdepth
  have htexts : (list (textAs "path string")).Reads 1 (.array (files.map .string)) files :=
    reads_list fun text _ => reads_textAs "path string" text
  rw [parameterFilesDecoder, htexts depth hdepth]
  rfl

section

variable (spec : ProcessSpec) {files : List String}

theorem fits_members (files : List String) :
    List.Forall₂ (Fits 1) fields (spec.members files) :=
  .cons ((reads_string spec.package).fits _ (by decide)) <|
  .cons ((reads_string spec.executable).fits _ (by decide)) <|
  .cons ((reads_string spec.displayName).fits _ (by decide)) <|
  .cons ((reads_parameterFiles files).fits _ (by decide)) <|
  .cons ((reads_bool spec.pseudoTty).fits _ (by decide)) <|
  .cons (spec.outputMode.reads_decoder.fits _ (by decide)) .nil

theorem nodup_fields : (fields.map (·.name)).Nodup := by decide

theorem nodup_members (files : List String) : ((spec.members files).map (·.1)).Nodup := by
  rw [← names_of_fits (spec.fits_members files)]
  exact nodup_fields

theorem reads_members (hfiles : spec.parameterFiles = files.map fun file : String => ⟨file⟩)
    {given : List (String × Json)} (h : Arranged (spec.members files) given) :
    decoder.Reads 2 (.object given) spec := by
  intro depth hdepth
  obtain ⟨read, hperm, hread⟩ :=
    reads_arranged "ProcessLaunchSpec" .counted (spec.fits_members files) nodup_fields h
  rw [decoder, hread depth hdepth, ok_bind]
  simp only [required_perm hperm (spec.nodup_members files)]
  rw [required_bind (spec.members files) rfl (reads_string spec.package) (by omega),
    required_bind (spec.members files) rfl (reads_string spec.executable) (by omega),
    required_bind (spec.members files) rfl (reads_string spec.displayName) (by omega),
    required_bind (spec.members files) rfl (reads_parameterFiles files) (by omega),
    required_bind (spec.members files) rfl (reads_bool spec.pseudoTty) (by omega),
    required_bind (spec.members files) rfl spec.outputMode.reads_decoder (by omega), ← hfiles]
  rfl

theorem canKeep_members (files : List String) :
    ∀ member ∈ spec.members files, ∀ depth, 1 < depth →
      member.2.tree.canKeep depth = true := by
  have hfiles : ∀ depth : Nat,
      Reading.itemsCanKeep depth (treeItems (files.map .string)) = true := by
    intro depth
    induction files with
    | nil => rfl
    | cons file rest ih => exact ih
  simp [members, tree, Reading.canKeep, hfiles]

end

theorem yields_parameterFilesDecoder :
    parameterFilesDecoder.Yields fun files => ∀ file ∈ files, file.IsText := by
  intro depth reading files hfiles
  rw [parameterFilesDecoder] at hfiles
  cases htexts : list (textAs "path string") depth reading with
  | error fault =>
    rw [htexts] at hfiles
    cases hfiles
  | ok texts =>
    rw [htexts] at hfiles
    cases hfiles
    exact List.forall_mem_map.2 fun text _ => ⟨text, rfl⟩

theorem yields_decoder :
    decoder.Yields fun spec => ∀ file ∈ spec.parameterFiles, file.IsText := by
  intro depth reading spec hspec
  obtain ⟨values, -, hspec⟩ := exists_of_bind_eq_ok hspec
  obtain ⟨package, -, hspec⟩ := exists_of_bind_eq_ok hspec
  obtain ⟨executable, -, hspec⟩ := exists_of_bind_eq_ok hspec
  obtain ⟨displayName, -, hspec⟩ := exists_of_bind_eq_ok hspec
  obtain ⟨files, hfiles, hspec⟩ := exists_of_bind_eq_ok hspec
  obtain ⟨pseudoTty, -, hspec⟩ := exists_of_bind_eq_ok hspec
  obtain ⟨outputMode, -, hspec⟩ := exists_of_bind_eq_ok hspec
  cases hspec
  exact yields_parameterFilesDecoder.required hfiles

end ProcessSpec

namespace LaunchAction

theorem takeKind_append {members : List (String × Json)} {depth : Nat}
    (hname : "type" ∉ members.map (·.1))
    (hkeep : ∀ member ∈ members, member.2.tree.canKeep depth = true) (kind : Option Kind)
    (kept more : List (Option String × Reading)) :
    takeKind depth kind kept (treeMembers members ++ more) =
      takeKind depth kind (kept ++ treeMembers members) more := by
  induction members generalizing kept with
  | nil => rw [treeMembers, List.nil_append, List.append_nil]
  | cons member rest ih =>
    obtain ⟨name, value⟩ := member
    rw [List.map_cons, List.mem_cons, not_or] at hname
    rw [List.forall_mem_cons] at hkeep
    rw [treeMembers, List.cons_append, takeKind, if_neg (Ne.symm hname.1), if_pos hkeep.1,
      ih hname.2 hkeep.2, List.append_assoc, List.singleton_append]

/-- The kind is found wherever it stands, and all the other members are kept. -/
theorem takeKind_process {before after : List (String × Json)} {depth : Nat}
    (hname : "type" ∉ (before ++ after).map (·.1))
    (hkeep : ∀ member ∈ before ++ after, member.2.tree.canKeep depth = true) :
    takeKind depth none [] (treeMembers (before ++ ("type", .string "process") :: after)) =
      .ok (some .process, treeMembers (before ++ after)) := by
  rw [List.map_append, List.mem_append, not_or] at hname
  rw [List.forall_mem_append] at hkeep
  calc takeKind depth none [] (treeMembers (before ++ ("type", .string "process") :: after))
    _ = takeKind depth none (treeMembers before)
          (treeMembers (("type", .string "process") :: after)) := by
      rw [treeMembers_append, takeKind_append hname.1 hkeep.1, List.nil_append]
    _ = takeKind depth (some .process) (treeMembers before) (treeMembers after ++ []) := by
      rw [List.append_nil]
      rfl
    _ = .ok (some .process, treeMembers (before ++ after)) := by
      rw [takeKind_append hname.2 hkeep.2, ← treeMembers_append, takeKind]

theorem toJson_eq_ok_iff {spec : ProcessSpec} {json : Json} :
    toJson (.process spec) = .ok json ↔
      ∃ files : List String, (spec.parameterFiles = files.map fun file : String => ⟨file⟩) ∧
        json = .object (("type", .string "process") :: spec.members files) := by
  constructor
  · intro h
    obtain ⟨files, hfiles, h⟩ := exists_of_bind_eq_ok h
    cases h
    exact ⟨files, mapM_encode_eq_ok_iff.1 hfiles, rfl⟩
  · rintro ⟨files, hfiles, rfl⟩
    rw [toJson, mapM_encode_eq_ok_iff.2 hfiles]
    rfl

theorem reads_members {spec : ProcessSpec} {files : List String}
    (hfiles : spec.parameterFiles = files.map fun file : String => ⟨file⟩)
    {given : List (String × Json)}
    (h : Arranged (("type", .string "process") :: spec.members files) given) :
    decoder.Reads 2 (.object given) (.process spec) := by
  intro depth hdepth
  obtain ⟨before, after, rfl, hrest, hname⟩ := h.exists_of_cons (by simp [ProcessSpec.members])
  have hkeep : ∀ member ∈ before ++ after, member.2.tree.canKeep (depth - 1) = true := by
    intro member hmember
    rcases hrest.mem_or hmember with hmember | ⟨-, hplain⟩
    · exact spec.canKeep_members files member hmember _ (by omega)
    · exact canKeep_of_isPlain hplain _
  rw [tree, decoder]
  dsimp only
  rw [enter_of_lt (by omega : 1 + 1 < depth), ok_bind, takeKind_process hname hkeep, ok_bind]
  show (ProcessSpec.decoder depth (Json.object (before ++ after)).tree).map LaunchAction.process = _
  rw [spec.reads_members hfiles hrest depth hdepth]
  rfl

theorem reads_decoder {action : LaunchAction} {json : Json} (h : action.toJson = .ok json) :
    decoder.Reads 2 json action := by
  obtain ⟨spec⟩ := action
  obtain ⟨files, hfiles, rfl⟩ := toJson_eq_ok_iff.1 h
  exact reads_members hfiles (.refl _)

theorem isFloatless_toJson {action : LaunchAction} {json : Json} (h : action.toJson = .ok json) :
    json.isFloatless = true := by
  obtain ⟨spec⟩ := action
  obtain ⟨files, -, rfl⟩ := toJson_eq_ok_iff.1 h
  have hfiles : (Json.array (files.map .string)).isFloatless = true :=
    isFloatless_list fun _ _ => rfl
  simp only [ProcessSpec.members, isFloatless, membersFloatless, Bool.true_and,
    Bool.and_true] at hfiles ⊢
  exact hfiles

def IsText : LaunchAction → Prop
  | .process spec => ∀ file ∈ spec.parameterFiles, file.IsText

theorem exists_toJson_iff {action : LaunchAction} :
    (∃ json, action.toJson = .ok json) ↔ action.IsText := by
  obtain ⟨spec⟩ := action
  have hencode : ∀ file : Path, (∃ text, file.encode = .ok text) ↔ file.IsText := fun file => by
    simp only [Path.encode_eq_ok_iff, Path.IsText]
  simp only [IsText, ← hencode, ← exists_mapM_eq_ok_iff, mapM_encode_eq_ok_iff, toJson_eq_ok_iff]
  exact ⟨fun ⟨_, files, hfiles, _⟩ => ⟨files, hfiles⟩,
    fun ⟨files, hfiles⟩ => ⟨_, files, hfiles, rfl⟩⟩

theorem yields_decodeKind (kind : Kind) : (decodeKind kind).Yields IsText := by
  obtain ⟨⟩ := kind
  intro depth reading action haction
  rw [decodeKind] at haction
  cases hspec : ProcessSpec.decoder depth reading with
  | error fault =>
    rw [hspec] at haction
    cases haction
  | ok spec =>
    rw [hspec] at haction
    cases haction
    exact ProcessSpec.yields_decoder _ _ _ hspec

theorem yields_decoder : decoder.Yields IsText := by
  intro depth reading action haction
  cases reading with
  | object members closed =>
    obtain ⟨inner, -, haction⟩ := exists_of_bind_eq_ok haction
    obtain ⟨⟨kind, kept⟩, -, haction⟩ := exists_of_bind_eq_ok haction
    obtain ⟨-, -, haction⟩ := exists_of_bind_eq_ok haction
    cases kind with
    | none => cases haction
    | some kind => exact yields_decodeKind kind _ _ _ haction
  | array items closed =>
    obtain ⟨inner, -, haction⟩ := exists_of_bind_eq_ok haction
    cases items with
    | nil =>
      obtain ⟨-, -, haction⟩ := exists_of_bind_eq_ok haction
      cases haction
    | cons first rest =>
      obtain ⟨kind, -, haction⟩ := exists_of_bind_eq_ok haction
      split at haction
      · cases haction
      · obtain ⟨-, -, haction⟩ := exists_of_bind_eq_ok haction
        exact yields_decodeKind kind _ _ _ haction
  | _ =>
    rw [decoder] at haction
    · exact absurd haction (mismatch_ne_ok _ _ _)
    all_goals exact nofun

end LaunchAction

namespace LaunchDescription

theorem reads_actions {items : List Json} {actions : List LaunchAction}
    (hactions : List.Forall₂ (LaunchAction.decoder.Reads 2) items actions)
    {given : List (String × Json)} (h : Arranged [("actions", .array items)] given) :
    decoder.Reads 4 (.object given) ⟨actions⟩ := by
  intro depth hdepth
  have hlist := reads_array hactions
  have hfits : List.Forall₂ (Fits 3) fields [("actions", .array items)] :=
    .cons (hlist.fits _ le_rfl) .nil
  obtain ⟨read, hperm, hread⟩ :=
    reads_arranged "LaunchDescription" .unread hfits (by decide) h
  rw [decoder, hread depth hdepth, ok_bind, required_perm hperm (by simp),
    required_bind _ rfl hlist hdepth]
  rfl

theorem toJson_eq_ok_iff {description : LaunchDescription} {json : Json} :
    description.toJson = .ok json ↔
      ∃ items,
        List.Forall₂ (fun action item => action.toJson = .ok item) description.actions items ∧
        json = .object [("actions", .array items)] := by
  simp only [← mapM_eq_ok_iff]
  constructor
  · intro h
    obtain ⟨items, hitems, h⟩ := exists_of_bind_eq_ok h
    cases h
    exact ⟨items, hitems, rfl⟩
  · rintro ⟨items, hitems, rfl⟩
    rw [toJson, hitems]
    rfl

theorem reads_decoder {description : LaunchDescription} {json : Json}
    (h : description.toJson = .ok json) : decoder.Reads 4 json description := by
  obtain ⟨items, hitems, rfl⟩ := toJson_eq_ok_iff.1 h
  exact reads_actions (hitems.imp fun _ _ => LaunchAction.reads_decoder).flip (.refl _)

theorem isFloatless_toJson {description : LaunchDescription} {json : Json}
    (h : description.toJson = .ok json) : json.isFloatless = true := by
  obtain ⟨items, hitems, rfl⟩ := toJson_eq_ok_iff.1 h
  have hactions : (Json.array items).isFloatless = true := by
    refine itemsFloatless_iff.2 fun item hitem => ?_
    obtain ⟨i, hi, rfl⟩ := List.mem_iff_getElem.1 hitem
    exact LaunchAction.isFloatless_toJson (hitems.get (hitems.length_eq ▸ hi) hi)
  rw [isFloatless, membersFloatless, hactions, membersFloatless, Bool.true_and]

theorem text_eq_ok_iff {description : LaunchDescription} {text : String} :
    description.text = .ok text ↔ ∃ json, description.toJson = .ok json ∧ json.pretty = text := by
  rw [LaunchDescription.text]
  cases description.toJson <;> simp [Except.map]

theorem ofText_of_text {description : LaunchDescription} {text : String}
    (h : description.text = .ok text) : ofText text = .ok description := by
  obtain ⟨json, hjson, rfl⟩ := text_eq_ok_iff.1 h
  exact decodeText_pretty (reads_decoder hjson) (by decide) (isFloatless_toJson hjson)

def IsText (description : LaunchDescription) : Prop :=
  ∀ spec ∈ description.processes, ∀ file ∈ spec.parameterFiles, file.IsText

theorem isText_iff {description : LaunchDescription} :
    description.IsText ↔ ∀ action ∈ description.actions, action.IsText := by
  simp only [IsText, processes, List.mem_filterMap]
  constructor
  · rintro h ⟨spec⟩ haction
    exact h spec ⟨_, haction, rfl⟩
  · rintro h spec ⟨⟨_⟩, haction, ⟨⟩⟩
    exact h _ haction

theorem exists_text_iff {description : LaunchDescription} :
    (∃ text, description.text = .ok text) ↔ description.IsText := by
  simp only [isText_iff, ← LaunchAction.exists_toJson_iff, ← exists_mapM_eq_ok_iff, mapM_eq_ok_iff,
    text_eq_ok_iff, toJson_eq_ok_iff]
  exact ⟨fun ⟨_, _, ⟨items, hitems, _⟩, _⟩ => ⟨items, hitems⟩,
    fun ⟨items, hitems⟩ => ⟨_, _, ⟨items, hitems, rfl⟩, rfl⟩⟩

theorem isText_of_ofText {text : String} {description : LaunchDescription}
    (h : ofText text = .ok description) : description.IsText := by
  have hyields : decoder.Yields IsText := by
    intro depth reading description hdescription
    obtain ⟨values, -, hdescription⟩ := exists_of_bind_eq_ok hdescription
    obtain ⟨actions, hactions, hdescription⟩ := exists_of_bind_eq_ok hdescription
    cases hdescription
    exact isText_iff.2 (LaunchAction.yields_decoder.list.required hactions)
  exact hyields.decodeText h

/-- Just the descriptions whose paths are UTF-8 have a text, and each can be read
back from its text, the texts of its paths included. So no two descriptions have
one text; a text that can be read, written and read again, gives the same as before;
and the record of a description is the record of the one that its text holds. -/
theorem ofText_text :
    (∀ description : LaunchDescription,
      (∃ text, description.text = .ok text) ↔ description.IsText) ∧
    (∀ (description : LaunchDescription) (text : String), description.text = .ok text →
      ofText text = .ok description) ∧
    (∀ (first second : LaunchDescription) (text : String), first.text = .ok text →
      second.text = .ok text → first = second) ∧
    (∀ (given : String) (description : LaunchDescription), ofText given = .ok description →
      ∃ text, description.text = .ok text ∧ ofText text = .ok description) ∧
    (∀ (resolver : Resolver) (files : Snapshot) (description : LaunchDescription) (text : String),
      description.text = .ok text →
      (ofText text).map (LaunchRecord.generate resolver files) =
        .ok (LaunchRecord.generate resolver files description)) := by
  refine ⟨fun _ => exists_text_iff, fun _ _ => ofText_of_text, ?_, ?_, ?_⟩
  · intro first second text hfirst hsecond
    exact Except.ok.inj ((ofText_of_text hfirst).symm.trans (ofText_of_text hsecond))
  · intro given description hgiven
    obtain ⟨text, htext⟩ := exists_text_iff.2 (isText_of_ofText hgiven)
    exact ⟨text, htext, ofText_of_text htext⟩
  · intro resolver files description text htext
    rw [ofText_of_text htext]
    rfl

end LaunchDescription

end NodeLaunch
