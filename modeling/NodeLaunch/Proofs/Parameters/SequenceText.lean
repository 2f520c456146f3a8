import NodeLaunch.Parameters.Document
import NodeLaunch.Proofs.Json.Compact
import NodeLaunch.Proofs.Yaml.WellFormed

/-!
# Texts of sequences

A sequence of whole numbers, texts, truth values and nulls, and of sequences and
mappings of such with strings for keys, is written as JSON that means the same. A
mapping anywhere in it with a key that is no scalar has the whole sequence shown
instead, and what is shown is no JSON, so the two kinds of text are told apart.
-/

namespace NodeLaunch

namespace Yaml.Value

open Json.Decoder (Reads ReadsMember)

-- ---------------------------------------------------------------------------
-- What JSON can say
-- ---------------------------------------------------------------------------

/-- JSON has all of this, tags apart: whole numbers of 64 bits, strings for keys. -/
inductive IsJson : Value → Prop
  | null : IsJson .null
  | bool (value : Bool) : IsJson (.bool value)
  | integer {n : Int} : Json.NumberLexeme.IsWord n → IsJson (.number (.integer n))
  | string (text : String) : IsJson (.string text)
  | sequence {items : List Value} : (∀ item ∈ items, IsJson item) → IsJson (.sequence items)
  | mapping {members : List (Value × Value)} :
    (∀ member ∈ members, ∃ text, member.1 = .string text) →
    (∀ member ∈ members, IsJson member.2) → IsJson (.mapping members)
  | tagged (tag : String) {value : Value} : IsJson value → IsJson (.tagged tag value)

inductive IsNameless : Value → Prop
  | null : IsNameless .null
  | sequence (items : List Value) : IsNameless (.sequence items)
  | mapping (members : List (Value × Value)) : IsNameless (.mapping members)
  | tagged (tag : String) (value : Value) : IsNameless (.tagged tag value)

/-- Some mapping in the value, at whatever depth, has such a key. -/
inductive HasNamelessKey : Value → Prop
  | key {members : List (Value × Value)} {member : Value × Value} :
    member ∈ members → IsNameless member.1 → HasNamelessKey (.mapping members)
  | item {items : List Value} {item : Value} :
    item ∈ items → HasNamelessKey item → HasNamelessKey (.sequence items)
  | member {members : List (Value × Value)} {member : Value × Value} :
    member ∈ members → HasNamelessKey member.2 → HasNamelessKey (.mapping members)
  | tagged (tag : String) {value : Value} : HasNamelessKey value →
    HasNamelessKey (.tagged tag value)

mutual

/-- The JSON value means what the YAML value means: an array for a sequence, item by
item; an object for a mapping, its members in any order; an object with the tag
for its one name for a value under a tag. -/
inductive Means : Json → Value → Prop
  | null : Means .null .null
  | bool (b : Bool) : Means (.bool b) (.bool b)
  | integer (n : Int) : Means (.number (.integer n)) (.number (.integer n))
  | string (text : String) : Means (.string text) (.string text)
  | array {parts : List Json} {items : List Value} :
    List.Forall₂ Means parts items → Means (.array parts) (.sequence items)
  | object {parts entries : List (String × Json)} {members : List (Value × Value)} :
    List.Forall₂ MeansMember parts members → entries.Perm parts →
    Means (.object entries) (.mapping members)
  | tagged (tag : String) {part : Json} {value : Value} :
    Means part value → Means (.object [(tagText tag, part)]) (.tagged tag value)

inductive MeansMember : String × Json → Value × Value → Prop
  | named (name : String) {part : Json} {value : Value} :
    Means part value → MeansMember (name, part) (.string name, value)

end

mutual

def levels : Value → Nat
  | .sequence items => levelsOfItems items + 1
  | .mapping members => levelsOfMembers members + 1
  | .tagged _ value => levels value + 1
  | _ => 0

def levelsOfItems : List Value → Nat
  | [] => 0
  | item :: rest => max (levels item) (levelsOfItems rest)

def levelsOfMembers : List (Value × Value) → Nat
  | [] => 0
  | (_, value) :: rest => max (levels value) (levelsOfMembers rest)

end

-- ---------------------------------------------------------------------------
-- JSON forms of the same meaning
-- ---------------------------------------------------------------------------

theorem keys_of_means {parts : List (String × Json)} {members : List (Value × Value)}
    (h : List.Forall₂ MeansMember parts members) :
    members.map (·.1) = parts.map fun part => .string part.1 := by
  induction h with
  | nil => rfl
  | cons hmember _ ih =>
    cases hmember
    rw [List.map_cons, List.map_cons, ih]

theorem nodup_names_of_means {parts : List (String × Json)} {members : List (Value × Value)}
    (h : List.Forall₂ MeansMember parts members)
    (hkeys : members.Pairwise fun earlier later => same later.1 earlier.1 = false) :
    (parts.map (·.1)).Nodup := by
  have hkeys : (members.map (·.1)).Pairwise fun earlier later => same later earlier = false :=
    List.pairwise_map.2 hkeys
  rw [keys_of_means h, List.pairwise_map] at hkeys
  refine List.pairwise_map.2 (hkeys.imp ?_)
  rintro earlier later hsame heq
  simp [same, heq] at hsame

mutual

/-- The JSON form of the value is read as something that means the same. -/
theorem exists_json_means : (value : Value) → value.WellFormed → value.IsJson →
    ∃ json result, value.toJson? = some json ∧ json.isFloatless = true ∧
      Reads Json.Decoder.value value.levels json result ∧ Means result value
  | .null, _, _ => ⟨.null, .null, rfl, rfl, fun _ _ => rfl, .null⟩
  | .bool b, _, _ => ⟨.bool b, .bool b, rfl, rfl, fun _ _ => rfl, .bool b⟩
  | .number n, _, hjson => by
    cases hjson with
    | integer hword => exact ⟨_, _, rfl, rfl, Json.Decoder.reads_value_integer hword, .integer _⟩
  | .string text, _, _ => ⟨.string text, .string text, rfl, rfl, fun _ _ => rfl, .string text⟩
  | .sequence items, hformed, hjson => by
    cases hformed with
    | sequence hformed =>
    cases hjson with
    | sequence hjson =>
    obtain ⟨parts, results, hform, hfloat, hreads, hmeans⟩ := exists_items_mean items hformed hjson
    refine ⟨.array parts, .array results, ?_, hfloat, ?_, .array hmeans⟩
    · rw [toJson?, hform]
      rfl
    · exact Json.Decoder.reads_value_array hreads
  | .mapping members, hformed, hjson => by
    cases hformed with
    | mapping hdistinct _ hformed =>
    cases hjson with
    | mapping hkeys hjson =>
    obtain ⟨parts, results, hform, hfloat, hreads, hmeans⟩ :=
      exists_members_mean members hformed hkeys hjson
    obtain ⟨sorted, hperm, hread⟩ :=
      Json.Decoder.reads_value_object hreads (nodup_names_of_means hmeans hdistinct)
    refine ⟨.object parts, .object sorted, ?_, hfloat, hread, .object hmeans hperm⟩
    rw [toJson?, hform]
    rfl
  | .tagged tag value, hformed, hjson => by
    cases hformed with
    | tagged _ hformed =>
    cases hjson with
    | tagged _ hjson =>
    obtain ⟨json, result, hform, hfloat, hreads, hmeans⟩ := exists_json_means value hformed hjson
    have hmember : List.Forall₂ (ReadsMember value.levels) [(tagText tag, json)]
        [(tagText tag, result)] := .cons ⟨rfl, hreads⟩ .nil
    obtain ⟨sorted, hperm, hread⟩ := Json.Decoder.reads_value_object hmember (by simp)
    rw [List.perm_singleton.1 hperm] at hread
    refine ⟨.object [(tagText tag, json)], _, ?_, ?_, hread, .tagged tag hmeans⟩
    · rw [toJson?, hform]
      rfl
    · rw [Json.isFloatless, Json.membersFloatless, hfloat]
      rfl

theorem exists_items_mean : (items : List Value) → (∀ item ∈ items, item.WellFormed) →
    (∀ item ∈ items, item.IsJson) →
    ∃ parts results, itemsToJson? items = some parts ∧ Json.itemsFloatless parts = true ∧
      List.Forall₂ (Reads Json.Decoder.value (levelsOfItems items)) parts results ∧
      List.Forall₂ Means results items
  | [], _, _ => ⟨[], [], rfl, rfl, .nil, .nil⟩
  | item :: rest, hformed, hjson => by
    rw [List.forall_mem_cons] at hformed hjson
    obtain ⟨part, result, hpart, hfloat, hread, hmeans⟩ := exists_json_means item hformed.1 hjson.1
    obtain ⟨parts, results, hparts, hfloats, hreads, hrest⟩ :=
      exists_items_mean rest hformed.2 hjson.2
    refine ⟨part :: parts, result :: results, ?_, ?_, .cons ?_ ?_, .cons hmeans hrest⟩
    · rw [itemsToJson?, hpart, hparts]
      rfl
    · rw [Json.itemsFloatless, hfloat, hfloats]
      rfl
    · exact hread.mono (Nat.le_max_left _ _)
    · exact hreads.imp fun _ _ h => h.mono (Nat.le_max_right _ _)

theorem exists_members_mean : (members : List (Value × Value)) →
    (∀ member ∈ members, member.2.WellFormed) →
    (∀ member ∈ members, ∃ text, member.1 = .string text) →
    (∀ member ∈ members, member.2.IsJson) →
    ∃ parts results, membersToJson? members = some parts ∧ Json.membersFloatless parts = true ∧
      List.Forall₂ (ReadsMember (levelsOfMembers members)) parts results ∧
      List.Forall₂ MeansMember results members
  | [], _, _, _ => ⟨[], [], rfl, rfl, .nil, .nil⟩
  | (key, value) :: rest, hformed, hkeys, hjson => by
    rw [List.forall_mem_cons] at hformed hkeys hjson
    obtain ⟨⟨name, rfl⟩, hkeys⟩ := hkeys
    obtain ⟨part, result, hpart, hfloat, hread, hmeans⟩ := exists_json_means value hformed.1 hjson.1
    obtain ⟨parts, results, hparts, hfloats, hreads, hrest⟩ :=
      exists_members_mean rest hformed.2 hkeys hjson.2
    refine ⟨(name, part) :: parts, (name, result) :: results, ?_, ?_, .cons ⟨rfl, ?_⟩ ?_,
      .cons (.named name hmeans) hrest⟩
    · rw [membersToJson?, hpart, hparts]
      rfl
    · rw [Json.membersFloatless, hfloat, hfloats]
      rfl
    · exact hread.mono (Nat.le_max_left _ _)
    · exact hreads.imp fun _ _ h => ⟨h.1, h.2.mono (Nat.le_max_right _ _)⟩

end

-- ---------------------------------------------------------------------------
-- Values without a JSON form
-- ---------------------------------------------------------------------------

theorem memberName?_of_isNameless {key : Value} (h : key.IsNameless) : memberName? key = none := by
  cases h <;> rfl

theorem itemsToJson?_of_mem {items : List Value} {item : Value} (hmem : item ∈ items)
    (h : item.toJson? = none) : itemsToJson? items = none := by
  induction items with
  | nil => cases hmem
  | cons first rest ih =>
    rw [itemsToJson?]
    rcases List.mem_cons.1 hmem with rfl | hmem
    · rw [h]
      rfl
    · cases first.toJson? with
      | none => rfl
      | some part =>
        rw [ih hmem]
        rfl

theorem membersToJson?_of_mem {members : List (Value × Value)} {member : Value × Value}
    (hmem : member ∈ members) (h : memberName? member.1 = none ∨ member.2.toJson? = none) :
    membersToJson? members = none := by
  induction members with
  | nil => cases hmem
  | cons first rest ih =>
    obtain ⟨key, value⟩ := first
    rw [membersToJson?]
    rcases List.mem_cons.1 hmem with rfl | hmem
    · rcases h with h | h
      · rw [h]
        rfl
      · rw [h]
        cases memberName? key <;> rfl
    · rw [ih hmem]
      cases memberName? key with
      | none => rfl
      | some name => cases value.toJson? <;> rfl

/-- One key without a name, and no part of the value has a JSON form that holds it. -/
theorem HasNamelessKey.toJson? {value : Value} (h : value.HasNamelessKey) :
    value.toJson? = none := by
  induction h with
  | key hmem hkey =>
    rw [Value.toJson?, membersToJson?_of_mem hmem (.inl (memberName?_of_isNameless hkey))]
    rfl
  | item hmem _ ih =>
    rw [Value.toJson?, itemsToJson?_of_mem hmem ih]
    rfl
  | member hmem _ ih =>
    rw [Value.toJson?, membersToJson?_of_mem hmem (.inr ih)]
    rfl
  | tagged tag _ ih =>
    rw [Value.toJson?, ih]
    rfl

theorem inspectItems_eq_map (items : List Value) : inspectItems items = items.map inspect := by
  induction items with
  | nil => rfl
  | cons item rest ih => rw [inspectItems, ih, List.map_cons]

/-- What shows a value begins with the name of its kind. -/
theorem inspect_start (value : Value) :
    ∃ c tail, value.inspect.toList = c :: tail ∧ c.isUpper = true := by
  cases value <;> simp [inspect]

end Yaml.Value

theorem Text.bracketed_start {first : String} {c : Char} {tail : List Char}
    (h : first.toList = c :: tail) (rest : List String) :
    ∃ more, (Text.bracketed (first :: rest)).toList = '[' :: c :: more := by
  cases rest <;> simp [Text.bracketed, h, List.intercalate]

namespace ParameterDocument

open Yaml (Value)
open Yaml.Value (Means inspect)
open Json.Decoder (decodeText depthLimit)

theorem sequenceText_of_json {items : List Value} (hformed : (Value.sequence items).WellFormed)
    (hjson : (Value.sequence items).IsJson) (hlevels : (Value.sequence items).levels < depthLimit) :
    ∃ json, decodeText Json.Decoder.value (sequenceText items) = .ok json ∧
      Means json (.sequence items) := by
  cases hformed with
  | sequence hformed =>
  cases hjson with
  | sequence hjson =>
  obtain ⟨parts, results, hform, hfloat, hreads, hmeans⟩ :=
    Yaml.Value.exists_items_mean items hformed hjson
  refine ⟨.array results, ?_, .array hmeans⟩
  rw [sequenceText, hform]
  exact Json.Decoder.decodeText_of_ofText (Json.Decoder.reads_value_array hreads) hlevels
    (Json.ofText_compact hfloat)

theorem sequenceText_of_namelessKey {items : List Value}
    (h : (Value.sequence items).HasNamelessKey) :
    sequenceText items = Text.bracketed (items.map inspect) ∧
      decodeText Json.Decoder.value (sequenceText items) = .error .syntaxError := by
  have hform := h.toJson?
  rw [Yaml.Value.toJson?] at hform
  have htext : sequenceText items = Text.bracketed (items.map inspect) := by
    rw [sequenceText]
    cases hparts : Yaml.Value.itemsToJson? items with
    | some parts => rw [hparts] at hform; cases hform
    | none => rw [← Yaml.Value.inspectItems_eq_map]
  refine ⟨htext, ?_⟩
  -- A sequence that holds such a key has an item, and what shows it begins with a capital letter.
  cases h with
  | @item _ item hmem _ =>
    obtain ⟨first, rest, rfl⟩ := List.exists_cons_of_ne_nil (List.ne_nil_of_mem hmem)
    obtain ⟨c, tail, hstart, hc⟩ := first.inspect_start
    obtain ⟨more, hshown⟩ := Text.bracketed_start hstart (rest.map inspect)
    exact Json.Decoder.decodeText_value_capital (htext ▸ hshown) hc

/-- A sequence makes one parameter. If JSON can say the sequence, and may nest as
deep, the parameter's text is decoded to the same meaning. If a mapping in the
sequence has a key without a name, the text shows the whole sequence and is no JSON. -/
theorem flatten_sequence (name : String) (params : Parameters) (items : List Value) :
    ∃ text, flatten name params (.sequence items) = params.set name text ∧
      ((Value.sequence items).WellFormed → (Value.sequence items).IsJson →
        (Value.sequence items).levels < depthLimit →
        ∃ json, decodeText Json.Decoder.value text = .ok json ∧ Means json (.sequence items)) ∧
      ((Value.sequence items).HasNamelessKey →
        text = Text.bracketed (items.map inspect) ∧
        decodeText Json.Decoder.value text = .error .syntaxError) := by
  refine ⟨sequenceText items, ?_, ?_, sequenceText_of_namelessKey⟩
  · rw [flatten]
  · exact sequenceText_of_json

def mixedItems : List Value :=
  [.mapping [(.string "b", .tagged "t" (.sequence [.null, .bool true])),
     (.string "a", .number (.integer 18446744073709551615))],
   .number (.integer (-9223372036854775808)), .string "\"\n"]

def namelessItems : List Value :=
  [.string "\"", .tagged "t" (.mapping [(.string "k",
    .sequence [.mapping [(.null, .number (.integer 1))]])])]

theorem wellFormed_mixedItems : (Value.sequence mixedItems).WellFormed := by
  have hmapping : (Value.mapping [(.string "b", .tagged "t" (.sequence [.null, .bool true])),
      (.string "a", .number (.integer 18446744073709551615))]).WellFormed :=
    .mapping (by decide) (by simp [Value.WellFormed.string])
      (by simp [Value.WellFormed.number, Value.WellFormed.tagged, Value.WellFormed.sequence,
        Value.WellFormed.null, Value.WellFormed.bool])
  exact .sequence (by simp [mixedItems, hmapping, Value.WellFormed.number, Value.WellFormed.string])

theorem isJson_mixedItems : (Value.sequence mixedItems).IsJson := by
  have hleast : Json.NumberLexeme.IsWord (-9223372036854775808) := ⟨by decide, by decide⟩
  have hlargest : Json.NumberLexeme.IsWord 18446744073709551615 := ⟨by decide, by decide⟩
  have hmapping : (Value.mapping [(.string "b", .tagged "t" (.sequence [.null, .bool true])),
      (.string "a", .number (.integer 18446744073709551615))]).IsJson :=
    .mapping (by simp)
      (by simp [Value.IsJson.integer hlargest, Value.IsJson.tagged, Value.IsJson.sequence,
        Value.IsJson.null, Value.IsJson.bool])
  exact .sequence (by simp [mixedItems, hmapping, Value.IsJson.integer hleast, Value.IsJson.string])

theorem flatten_sequence_mixed :
    (∃ text json, flatten "gains" [] (.sequence mixedItems) = [("gains", text)] ∧
      decodeText Json.Decoder.value text = .ok json ∧ Means json (.sequence mixedItems)) ∧
    flatten "gains" [] (.sequence namelessItems) = [("gains",
      "[String(\"\\\"\"), TaggedValue \x7b tag: !t, value: Mapping \x7b\"k\": " ++
        "Sequence [Mapping \x7bNull: Number(1)\x7d]\x7d \x7d]")] := by
  have hnameless : (Value.sequence namelessItems).HasNamelessKey :=
    .item (.tail _ (.head _)) <| .tagged "t" <| .member (.head _) <| .item (.head _) <|
      .key (.head _) .null
  constructor
  · obtain ⟨text, hset, hjson, -⟩ := flatten_sequence "gains" [] mixedItems
    obtain ⟨json, hdecode, hmeans⟩ := hjson wellFormed_mixedItems isJson_mixedItems (by decide)
    exact ⟨text, json, hset, hdecode, hmeans⟩
  · obtain ⟨text, hset, -, hshown⟩ := flatten_sequence "gains" [] namelessItems
    rw [hset, (hshown hnameless).1]
    decide +kernel

end ParameterDocument

end NodeLaunch
