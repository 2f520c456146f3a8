import Mathlib.Data.List.Nodup
import NodeLaunch.Proofs.Parameters.Walk
import NodeLaunch.Proofs.Yaml.WellFormed

/-!
# Names of leaves

A name is the keys above a leaf with dots between them, so keys without dots can
be read off it again, but for empty ones in front. Two leaves meet under a name
only through such empty keys; where the outermost keys are not empty each leaf
is a parameter of its own. That no mapping has a key twice holds of the sections
of every document (`wellFormed_of_mem_sections`).
-/

namespace NodeLaunch.ParameterDocument

open Yaml (Value)

-- ---------------------------------------------------------------------------
-- Keys
-- ---------------------------------------------------------------------------

mutual

/-- The keys of all the mappings that a value is made of, tags looked through. -/
def keysAt : Value → List Value
  | .mapping members => keysIn members
  | .tagged _ value => keysAt value
  | _ => []

def keysIn : List (Value × Value) → List Value
  | [] => []
  | (key, value) :: rest => key :: (keysAt value ++ keysIn rest)

end

def IsDotless (key : Value) : Prop := ∃ text, key = .string text ∧ '.' ∉ text.toList

theorem IsDotless.of_keyText? {key : Value} {text : String} (h : IsDotless key)
    (hkey : keyText? key = some text) : key = .string text ∧ '.' ∉ text.toList := by
  obtain ⟨string, rfl, hdotless⟩ := h
  obtain rfl := Option.some.inj hkey
  exact ⟨rfl, hdotless⟩

theorem keysIn_cons_dotless {key value : Value} {rest : List (Value × Value)}
    (h : ∀ k ∈ keysIn ((key, value) :: rest), IsDotless k) :
    IsDotless key ∧ (∀ k ∈ keysAt value, IsDotless k) ∧ ∀ k ∈ keysIn rest, IsDotless k := by
  rw [keysIn, List.forall_mem_cons, List.forall_mem_append] at h
  exact h

theorem mem_keysIn {key value : Value} {members : List (Value × Value)}
    (h : (key, value) ∈ members) : key ∈ keysIn members := by
  induction members with
  | nil => cases h
  | cons first rest ih =>
    obtain ⟨other, inner⟩ := first
    rw [keysIn, List.mem_cons, List.mem_append]
    rcases List.mem_cons.1 h with heq | h
    · exact .inl (congrArg Prod.fst heq)
    · exact .inr (.inr (ih h))

mutual

/-- The keys of a leaf go on from those above the value by texts of keys in it. -/
theorem keys_of_mem_leavesAt {keys : List String} : (value : Value) →
    ∀ leaf ∈ leavesAt keys value, ∃ below, leaf.keys = keys ++ below ∧
      ∀ k ∈ below, ∃ key ∈ keysAt value, keyText? key = some k
  | .mapping members => by
    intro leaf hleaf
    obtain ⟨key, value, text, below, hmem, hkey, heq, hbelow⟩ :=
      keys_of_mem_leavesIn members leaf hleaf
    exact ⟨text :: below, heq,
      List.forall_mem_cons.2 ⟨⟨key, mem_keysIn hmem, hkey⟩, hbelow⟩⟩
  | .tagged _ value => keys_of_mem_leavesAt value
  | .string _ | .number _ | .bool _ | .sequence _ | .null => by
    intro leaf hleaf
    rw [leavesAt, List.mem_singleton] at hleaf
    exact ⟨[], by simp [hleaf], by simp⟩

theorem keys_of_mem_leavesIn {keys : List String} : (members : List (Value × Value)) →
    ∀ leaf ∈ leavesIn keys members, ∃ key value text below, (key, value) ∈ members ∧
      keyText? key = some text ∧ leaf.keys = keys ++ text :: below ∧
      ∀ k ∈ below, ∃ key ∈ keysIn members, keyText? key = some k
  | [] => by
    intro leaf hleaf
    cases hleaf
  | (key, value) :: rest => by
    intro leaf hleaf
    have hfirst : keysAt value ⊆ keysIn ((key, value) :: rest) := by simp [keysIn]
    have hlater : keysIn rest ⊆ keysIn ((key, value) :: rest) := by simp [keysIn]
    rw [leavesIn] at hleaf
    cases hkey : keyText? key with
    | none =>
      rw [hkey] at hleaf
      obtain ⟨other, inner, text, below, hmem, hother, heq, hbelow⟩ :=
        keys_of_mem_leavesIn rest leaf hleaf
      exact ⟨other, inner, text, below, .tail _ hmem, hother, heq,
        fun k hk => (hbelow k hk).imp fun _ h => ⟨hlater h.1, h.2⟩⟩
    | some text =>
      rw [hkey] at hleaf
      rcases List.mem_append.1 hleaf with hleaf | hleaf
      · obtain ⟨below, heq, hbelow⟩ := keys_of_mem_leavesAt value leaf hleaf
        exact ⟨key, value, text, below, .head _, hkey, by simp [heq],
          fun k hk => (hbelow k hk).imp fun _ h => ⟨hfirst h.1, h.2⟩⟩
      · obtain ⟨other, inner, text, below, hmem, hother, heq, hbelow⟩ :=
          keys_of_mem_leavesIn rest leaf hleaf
        exact ⟨other, inner, text, below, .tail _ hmem, hother, heq,
          fun k hk => (hbelow k hk).imp fun _ h => ⟨hlater h.1, h.2⟩⟩

end

theorem dotless_of_mem_leavesIn {members : List (Value × Value)}
    (hkeys : ∀ key ∈ keysIn members, IsDotless key) {leaf : Leaf}
    (hleaf : leaf ∈ leavesIn [] members) : ∀ k ∈ leaf.keys, '.' ∉ k.toList := by
  obtain ⟨key, value, text, below, hmem, hkey, heq, hbelow⟩ :=
    keys_of_mem_leavesIn members leaf hleaf
  rw [heq, List.nil_append, List.forall_mem_cons]
  refine ⟨((hkeys key (mem_keysIn hmem)).of_keyText? hkey).2, fun k hk => ?_⟩
  obtain ⟨inner, hinner, htext⟩ := hbelow k hk
  exact ((hkeys inner hinner).of_keyText? htext).2

-- ---------------------------------------------------------------------------
-- Leaves have keys of their own
-- ---------------------------------------------------------------------------

mutual

theorem nodup_keys_leavesAt (keys : List String) : (value : Value) → value.WellFormed →
    (∀ k ∈ keysAt value, IsDotless k) → ((leavesAt keys value).map Leaf.keys).Nodup
  | .mapping members, .mapping hdistinct _ hvalues, h =>
    nodup_keys_leavesIn keys members hdistinct hvalues h
  | .tagged _ value, .tagged _ hvalue, h => nodup_keys_leavesAt keys value hvalue h
  | .string _, _, _ | .number _, _, _ | .bool _, _, _ | .sequence _, _, _ | .null, _, _ =>
    List.nodup_singleton _

theorem nodup_keys_leavesIn (keys : List String) : (members : List (Value × Value)) →
    members.Pairwise (fun earlier later => Value.same later.1 earlier.1 = false) →
    (∀ member ∈ members, member.2.WellFormed) →
    (∀ k ∈ keysIn members, IsDotless k) → ((leavesIn keys members).map Leaf.keys).Nodup
  | [], _, _, _ => List.nodup_nil
  | (key, value) :: rest, hdistinct, hvalues, h => by
    obtain ⟨⟨text, rfl, -⟩, hvalue, hrest⟩ := keysIn_cons_dotless h
    obtain ⟨hfirst, hdistinct⟩ := List.pairwise_cons.1 hdistinct
    obtain ⟨hwell, hvalues⟩ := List.forall_mem_cons.1 hvalues
    rw [leavesIn, keyText?, List.map_append, List.nodup_append]
    refine ⟨nodup_keys_leavesAt _ value hwell hvalue,
      nodup_keys_leavesIn keys rest hdistinct hvalues hrest, ?_⟩
    intro a ha b hb hsame
    obtain ⟨leaf, hleaf, rfl⟩ := List.mem_map.1 ha
    obtain ⟨other, hother, rfl⟩ := List.mem_map.1 hb
    obtain ⟨below, heq, -⟩ := keys_of_mem_leavesAt value leaf hleaf
    obtain ⟨key, inner, later, _, hmem, hkey, heq', -⟩ := keys_of_mem_leavesIn rest other hother
    -- The later key has the text of the first one, which the mapping has no second time.
    rw [heq, heq', List.append_assoc] at hsame
    obtain rfl : text = later := (List.cons.inj (List.append_cancel_left hsame)).1
    obtain ⟨rfl, -⟩ := (hrest key (mem_keysIn hmem)).of_keyText? hkey
    simpa [Value.same] using hfirst _ hmem

end

-- ---------------------------------------------------------------------------
-- The mappings that documents hold
-- ---------------------------------------------------------------------------

theorem mem_of_member? {name : String} {members : List (Value × Value)} {value : Value}
    (h : member? name members = some value) : (.string name, value) ∈ members := by
  induction members with
  | nil => cases h
  | cons first rest ih =>
    obtain ⟨key, inner⟩ := first
    cases key with
    | string text =>
      rw [member?] at h
      split at h
      · next heq =>
        obtain rfl := Option.some.inj h
        exact heq ▸ .head _
      · exact .tail _ (ih h)
    | _ => exact .tail _ (ih h)

mutual

theorem wellFormed_of_mem_sectionsAt {path : List String} {own : Section} : (value : Value) →
    value.WellFormed → own ∈ sectionsAt path value → (Value.mapping own.members).WellFormed
  | .mapping members, .mapping _ _ hvalues, hown => by
    rw [sectionsAt] at hown
    cases hmember : member? parametersKey members with
    | none =>
      rw [hmember] at hown
      exact wellFormed_of_mem_sectionsIn members hvalues hown
    | some value =>
      rw [hmember] at hown
      cases value with
      | mapping inner =>
        rw [List.mem_singleton.1 hown]
        exact hvalues _ (mem_of_member? hmember)
      | _ => cases hown
  | .tagged _ _, _, hown | .string _, _, hown | .number _, _, hown | .bool _, _, hown
  | .sequence _, _, hown | .null, _, hown => by cases hown

theorem wellFormed_of_mem_sectionsIn {path : List String} {own : Section} :
    (members : List (Value × Value)) → (∀ member ∈ members, member.2.WellFormed) →
    own ∈ sectionsIn path members → (Value.mapping own.members).WellFormed
  | [], _, hown => by cases hown
  | (key, value) :: rest, hvalues, hown => by
    obtain ⟨hvalue, hrest⟩ := List.forall_mem_cons.1 hvalues
    rw [sectionsIn] at hown
    cases hkey : keyText? key with
    | none =>
      rw [hkey] at hown
      exact wellFormed_of_mem_sectionsIn rest hrest hown
    | some text =>
      rw [hkey] at hown
      rcases List.mem_append.1 hown with hown | hown
      · exact wellFormed_of_mem_sectionsAt value hvalue hown
      · exact wellFormed_of_mem_sectionsIn rest hrest hown

end

theorem wellFormed_of_mem_sections {text : String} {document : Value} {own : Section}
    (h : Value.parse text = .ok document) (hown : own ∈ sections document) :
    (Value.mapping own.members).WellFormed := by
  have hdocument := Value.wellFormed_parse h
  cases document with
  | mapping members =>
    cases hdocument with
    | mapping _ _ hvalues => exact wellFormed_of_mem_sectionsIn members hvalues hown
  | _ => cases hown

-- ---------------------------------------------------------------------------
-- Names
-- ---------------------------------------------------------------------------

theorem dottedName_cases {keys : List String} (h : ∀ k ∈ keys, '.' ∉ k.toList) :
    (keys.dropWhile (· = "") = [] ∧ dottedName keys = "") ∨
    (keys.dropWhile (· = "") = Text.pieces '.' (dottedName keys) ∧ dottedName keys ≠ "") := by
  rw [dottedName]
  cases hdrop : keys.dropWhile (· = "") with
  | nil => exact .inl ⟨rfl, rfl⟩
  | cons first rest =>
    have hdotless : ∀ k ∈ first :: rest, '.' ∉ k.toList := fun k hk =>
      h k ((List.dropWhile_sublist _).subset (hdrop ▸ hk))
    exact .inr ⟨(Text.pieces_join (by simp) hdotless).symm,
      Text.join_ne_empty '.' (ne_empty_of_dropWhile hdrop) rest⟩

/-- The keys, but for empty ones in front, can be read off the name. -/
theorem dottedName_inj {a b : List String} (ha : ∀ k ∈ a, '.' ∉ k.toList)
    (hb : ∀ k ∈ b, '.' ∉ k.toList) :
    dottedName a = dottedName b ↔ a.dropWhile (· = "") = b.dropWhile (· = "") := by
  constructor
  · intro hname
    rcases dottedName_cases ha with ⟨hdrop, hempty⟩ | ⟨hpieces, hne⟩
    · rcases dottedName_cases hb with ⟨hdrop', -⟩ | ⟨-, hne'⟩
      · rw [hdrop, hdrop']
      · exact absurd (hname.symm.trans hempty) hne'
    · rcases dottedName_cases hb with ⟨-, hempty'⟩ | ⟨hpieces', -⟩
      · exact absurd (hname.trans hempty') hne
      · rw [hpieces, hpieces', hname]
  · intro hdrop
    rw [dottedName, dottedName, hdrop]

section
variable {members : List (Value × Value)}

theorem dropWhile_keys (hkeys : ∀ key ∈ keysIn members, IsDotless key)
    (houter : ∀ member ∈ members, member.1 ≠ .string "") {leaf : Leaf}
    (hleaf : leaf ∈ leavesIn [] members) : leaf.keys.dropWhile (· = "") = leaf.keys := by
  obtain ⟨key, value, text, below, hmem, hkey, heq, -⟩ := keys_of_mem_leavesIn members leaf hleaf
  obtain ⟨rfl, -⟩ := (hkeys key (mem_keysIn hmem)).of_keyText? hkey
  have hne : text ≠ "" := fun hempty => houter _ hmem (congrArg Value.string hempty)
  rw [heq]
  exact List.dropWhile_cons_of_neg (by simpa using hne)

theorem assignment_inj (hkeys : ∀ key ∈ keysIn members, IsDotless key) {a b : Leaf}
    (ha : a ∈ leavesIn [] members) (hb : b ∈ leavesIn [] members) :
    a.assignment.1 = b.assignment.1 ↔
      a.keys.dropWhile (· = "") = b.keys.dropWhile (· = "") :=
  dottedName_inj (dotless_of_mem_leavesIn hkeys ha) (dotless_of_mem_leavesIn hkeys hb)

theorem nodup_names_assignments (hwell : (Value.mapping members).WellFormed)
    (hkeys : ∀ key ∈ keysIn members, IsDotless key)
    (houter : ∀ member ∈ members, member.1 ≠ .string "") :
    (Parameters.names ((leavesIn [] members).map Leaf.assignment)).Nodup := by
  have hnodup := nodup_keys_leavesAt [] _ hwell hkeys
  rw [leavesAt] at hnodup
  have hnames : Parameters.names ((leavesIn [] members).map Leaf.assignment) =
      ((leavesIn [] members).map Leaf.keys).map dottedName := by
    simp only [Parameters.names, List.map_map]
    rfl
  rw [hnames]
  refine List.Nodup.map_on ?_ hnodup
  intro a ha b hb hname
  obtain ⟨leaf, hleaf, rfl⟩ := List.mem_map.1 ha
  obtain ⟨other, hother, rfl⟩ := List.mem_map.1 hb
  have hdrop := (assignment_inj hkeys hleaf hother).1 hname
  rwa [dropWhile_keys hkeys houter hleaf, dropWhile_keys hkeys houter hother] at hdrop

/-- The leaves below keys that are strings without dots are assigned one after the
other. They have different keys, and two of them have one name if and only if the
keys are the same but for empty ones in front. So if no outermost key is empty,
each leaf is a parameter of its own, in the order of the document. -/
theorem flattenMembers_of_dotless (hwell : (Value.mapping members).WellFormed)
    (hkeys : ∀ key ∈ keysIn members, IsDotless key) :
    (∀ params, flattenMembers "" params members =
      params.setAll ((leavesIn [] members).map Leaf.assignment)) ∧
    ((leavesIn [] members).map Leaf.keys).Nodup ∧
    (∀ a ∈ leavesIn [] members, ∀ b ∈ leavesIn [] members,
      a.assignment.1 = b.assignment.1 ↔
        a.keys.dropWhile (· = "") = b.keys.dropWhile (· = "")) ∧
    ((∀ member ∈ members, member.1 ≠ .string "") →
      flattenMembers "" [] members = (leavesIn [] members).map Leaf.assignment ∧
      (Parameters.names (flattenMembers "" [] members)).Nodup) := by
  have hassigned := flattenMembers_eq_setAll []
  refine ⟨fun params => hassigned params members, nodup_keys_leavesAt [] _ hwell hkeys,
    fun a ha b hb => assignment_inj hkeys ha hb, fun houter => ?_⟩
  have hnodup := nodup_names_assignments hwell hkeys houter
  have hflat : flattenMembers "" [] members = (leavesIn [] members).map Leaf.assignment := by
    rw [← Parameters.merged_of_nodup hnodup, ← Parameters.setAll_nil_eq_merged]
    exact hassigned [] members
  exact ⟨hflat, hflat ▸ hnodup⟩

example : flattenMembers "" [] [(.string "", .mapping [(.string "gain", .bool true)]),
    (.string "gain", .bool false)] = [("gain", "false")] := by decide +kernel

end

def nestedMembers : List (Value × Value) :=
  [(.string "serial", .mapping [(.string "port", .string "tty"), (.string "", .bool true)]),
    (.string "limits", .tagged "custom" (.mapping [(.string "", .null)]))]

theorem flattenMembers_of_dotless_nested :
    (Value.mapping nestedMembers).WellFormed ∧ (∀ key ∈ keysIn nestedMembers, IsDotless key) ∧
    flattenMembers "" [] nestedMembers =
      [("serial.port", "tty"), ("serial.", "true"), ("limits.", "null")] := by
  have hwell : (Value.mapping nestedMembers).WellFormed := by
    have hserial : (Value.mapping [(.string "port", .string "tty"),
        (.string "", .bool true)]).WellFormed :=
      .mapping (by decide +kernel) (by simp [Value.WellFormed.string])
        (by simp [Value.WellFormed.string, Value.WellFormed.bool])
    have hlimits : (Value.mapping [(.string "", .null)]).WellFormed :=
      .mapping (by decide +kernel) (by simp [Value.WellFormed.string])
        (by simp [Value.WellFormed.null])
    exact .mapping (by decide +kernel) (by simp [nestedMembers, Value.WellFormed.string])
      (by simp [nestedMembers, hserial, hlimits.tagged])
  have hkeys : ∀ key ∈ keysIn nestedMembers, IsDotless key := by
    simp [nestedMembers, keysIn, keysAt, IsDotless]
  have houter : ∀ member ∈ nestedMembers, member.1 ≠ .string "" := by
    simp [nestedMembers]
  obtain ⟨-, -, -, hflat⟩ := flattenMembers_of_dotless hwell hkeys
  exact ⟨hwell, hkeys, (hflat houter).1.trans (by decide +kernel)⟩

end NodeLaunch.ParameterDocument
