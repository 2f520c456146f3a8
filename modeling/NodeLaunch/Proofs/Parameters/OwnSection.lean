import NodeLaunch.Proofs.Parameters.Walk

/-!
# A node's own section

The name of a node, its place in a document and the pattern that a section is
named by are slashed texts that are built in three ways. Their segments agree: a
section below keys whose segments are those of the node's namespace and name is a
section for the node, also if a segment is spelled like a wildcard.
-/

namespace NodeLaunch

-- ---------------------------------------------------------------------------
-- Names as their own patterns
-- ---------------------------------------------------------------------------

namespace SectionPattern

theorem isBlock_self (name : String) : IsBlock name [name] := by
  rw [IsBlock]
  split
  · trivial
  · split <;> rfl

theorem Covers.refl (names : List String) : Covers names names := by
  induction names with
  | nil => exact .nil
  | cons name rest ih => exact .cons_of_isBlock (isBlock_self name) ih

end SectionPattern

namespace ParameterDocument

open Yaml (Value)

-- ---------------------------------------------------------------------------
-- Ways to a section
-- ---------------------------------------------------------------------------

/-- The keys lead from a value to a section with these members. No mapping before
the section has the key `ros__parameters`. -/
inductive LeadsTo (own : List (Value × Value)) : Value → List String → Prop
  | here {members : List (Value × Value)} :
    member? parametersKey members = some (.mapping own) → LeadsTo own (.mapping members) []
  | down {members : List (Value × Value)} {key value : Value} {text : String}
      {keys : List String} : member? parametersKey members = none → (key, value) ∈ members →
    keyText? key = some text → LeadsTo own value keys →
    LeadsTo own (.mapping members) (text :: keys)

/-- The keys, at least one, lead from the root of a document to a section. The root
may have any keys. -/
inductive LeadsFromRoot (own : List (Value × Value)) : Value → List String → Prop
  | intro {members : List (Value × Value)} {key value : Value} {text : String}
      {keys : List String} : (key, value) ∈ members → keyText? key = some text →
    LeadsTo own value keys → LeadsFromRoot own (.mapping members) (text :: keys)

theorem mem_sectionsIn {path : List String} {members : List (Value × Value)} {key value : Value}
    {text : String} {own : Section} (hmem : (key, value) ∈ members)
    (hkey : keyText? key = some text)
    (hown : own ∈ sectionsAt (path ++ Text.segments text) value) :
    own ∈ sectionsIn path members := by
  induction members with
  | nil => cases hmem
  | cons first rest ih =>
    obtain ⟨other, inner⟩ := first
    rw [sectionsIn]
    rcases List.mem_cons.1 hmem with heq | hmem
    · cases heq
      rw [hkey]
      exact List.mem_append_left _ hown
    · cases keyText? other with
      | none => exact ih hmem
      | some text => exact List.mem_append_right _ (ih hmem)

theorem LeadsTo.mem_sectionsAt {own : List (Value × Value)} {value : Value} {keys : List String}
    (h : LeadsTo own value keys) (path : List String) :
    ⟨path ++ keys.flatMap Text.segments, own⟩ ∈ sectionsAt path value := by
  induction h generalizing path with
  | here hown =>
    rw [sectionsAt, hown]
    simp
  | down hnone hmem hkey _ ih =>
    rw [sectionsAt, hnone, List.flatMap_cons, ← List.append_assoc]
    exact mem_sectionsIn hmem hkey (ih _)

theorem LeadsFromRoot.mem_sections {own : List (Value × Value)} {document : Value}
    {keys : List String} (h : LeadsFromRoot own document keys) :
    ⟨keys.flatMap Text.segments, own⟩ ∈ sections document := by
  obtain ⟨hmem, hkey, hleads⟩ := h
  rw [sections, List.flatMap_cons]
  exact mem_sectionsIn hmem hkey (hleads.mem_sectionsAt _)

-- ---------------------------------------------------------------------------
-- Nodes by their segments
-- ---------------------------------------------------------------------------

theorem assignments_congr {node other : String} (h : Text.segments other = Text.segments node)
    (document : Value) : assignments other document = assignments node document := by
  refine congrArg (List.flatMap Section.assignments) (List.filter_congr fun own _ => ?_)
  rw [decide_eq_decide, Section.AppliesTo, Section.AppliesTo, h]

theorem value_parse_congr {node other : String} (h : Text.segments other = Text.segments node)
    (text : String) : (parse text other).value = (parse text node).value := by
  rw [parse, parse]
  cases Value.parse text with
  | error fault => rfl
  | ok document =>
    simp only [Logged.value_bind, value_parameters, assignments_congr h]

theorem mem_names_parameters {node : String} {document : Value} {own : Section} {leaf : Leaf}
    (hown : own ∈ sections document) (happlies : own.AppliesTo node)
    (hleaf : leaf ∈ leavesIn [] own.members) :
    dottedName leaf.keys ∈ Parameters.names (parameters node document).value := by
  rw [value_parameters, Parameters.names_merged, Parameters.assignedNames, List.mem_eraseDups]
  refine List.mem_map_of_mem (f := Prod.fst) (a := leaf.assignment) ?_
  refine List.mem_flatMap.2 ⟨own, ?_, List.mem_map_of_mem hleaf⟩
  exact List.mem_filter.2 ⟨hown, decide_eq_true happlies⟩

/-- The segments of a node's name are those of its namespace and then its own, and
nothing else about the namespace shows in the parameters. Below keys with just
these segments, however many keys they are spread over, a section has all its
names among the parameters of the node. -/
theorem names_of_own_section (scope name : String) :
    (nodeName scope name).toList.head? = some '/' ∧
    Text.segments (nodeName scope name) = Text.segments scope ++ Text.segments name ∧
    (∀ other : String, Text.segments other = Text.segments scope → ∀ text : String,
      (parse text (nodeName other name)).value = (parse text (nodeName scope name)).value) ∧
    ∀ (document : Value) (keys : List String) (own : List (Value × Value)),
      LeadsFromRoot own document keys →
      keys.flatMap Text.segments = Text.segments scope ++ Text.segments name →
      (∀ leaf ∈ leavesIn [] own, dottedName leaf.keys ∈
        Parameters.names (parameters (nodeName scope name) document).value) ∧
      ∀ text : String, Value.parse text = .ok document →
        (parse text (nodeName scope name)).value =
          .ok (parameters (nodeName scope name) document).value := by
  refine ⟨head?_nodeName scope name, segments_nodeName scope name, ?_, ?_⟩
  · intro other hother text
    refine value_parse_congr ?_ text
    rw [segments_nodeName, segments_nodeName, hother]
  · intro document keys own hleads hkeys
    refine ⟨fun leaf hleaf => mem_names_parameters hleads.mem_sections ?_ hleaf, ?_⟩
    · rw [Section.AppliesTo, segments_nodeName, hkeys]
      exact .refl _
    · intro text htext
      rw [parse, htext]
      rfl

def wildcardNamed (own : List (Value × Value)) : Value :=
  .mapping [
    (.string "other", .null),
    (.string "kart/", .mapping [
      (.string "**//*", .mapping [(.string parametersKey, .mapping own)])])]

theorem names_of_own_section_wildcards :
    let own : List (Value × Value) := [(.string "gain", .mapping [(.string "left", .bool true)])]
    LeadsFromRoot own (wildcardNamed own) ["kart/", "**//*"] ∧
    (nodeName "/kart/**/" "*").toList.head? = some '/' ∧
    "gain.left" ∈
      Parameters.names (parameters (nodeName "/kart/**/" "*") (wildcardNamed own)).value := by
  intro own
  have hleads : LeadsFromRoot own (wildcardNamed own) ["kart/", "**//*"] :=
    .intro (.tail _ (.head _)) rfl (.down rfl (.head _) rfl (.here rfl))
  obtain ⟨hhead, -, -, hnames⟩ := names_of_own_section "/kart/**/" "*"
  have hkeys : ["kart/", "**//*"].flatMap Text.segments =
      Text.segments "/kart/**/" ++ Text.segments "*" := by decide +kernel
  have hleaf : (⟨["gain", "left"], "true"⟩ : Leaf) ∈ leavesIn [] own := by decide +kernel
  exact ⟨hleads, hhead, (hnames _ _ _ hleads hkeys).1 _ hleaf⟩

end ParameterDocument

end NodeLaunch
