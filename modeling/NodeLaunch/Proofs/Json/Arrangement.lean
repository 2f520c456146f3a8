import Mathlib.Data.List.Perm.Basic
import NodeLaunch.Proofs.Json.Decoding
import NodeLaunch.Proofs.NameMap

/-!
# Members in any order

`Arranged members given` says that an object is given these members in some order
and among others. A structure finds its fields by their names, so it is read from
any arrangement of its members.
-/

namespace NodeLaunch.Json

def isPlain : Json → Bool
  | .null | .bool _ | .string _ => true
  | _ => false

theorem isComplete_of_isPlain {json : Json} (h : json.isPlain = true) :
    json.tree.isComplete = true := by
  cases json with
  | null | bool _ | string _ => rfl
  | number _ | array _ | object _ => cases h

theorem canKeep_of_isPlain {json : Json} (h : json.isPlain = true) (depth : Nat) :
    json.tree.canKeep depth = true := by
  cases json with
  | null | bool _ | string _ => rfl
  | number _ | array _ | object _ => cases h

theorem treeMembers_append (members more : List (String × Json)) :
    treeMembers (members ++ more) = treeMembers members ++ treeMembers more := by
  rw [treeMembers_eq_map, treeMembers_eq_map, treeMembers_eq_map, List.map_append]

/-- The members in some order and among others, of other names and with plain values. -/
def Arranged (members given : List (String × Json)) : Prop :=
  ∃ others, given.Perm (members ++ others) ∧
    ∀ other ∈ others, other.1 ∉ members.map (·.1) ∧ other.2.isPlain = true

namespace Arranged

variable {members given : List (String × Json)}

theorem refl (members : List (String × Json)) : Arranged members members :=
  ⟨[], by rw [List.append_nil], fun _ h => absurd h List.not_mem_nil⟩

theorem mem_or (h : Arranged members given) {member : String × Json} (hmember : member ∈ given) :
    member ∈ members ∨ member.1 ∉ members.map (·.1) ∧ member.2.isPlain = true := by
  obtain ⟨others, hperm, hothers⟩ := h
  exact (List.mem_append.1 (hperm.mem_iff.1 hmember)).imp_right (hothers member)

theorem exists_of_cons {first : String × Json} (h : Arranged (first :: members) given)
    (hname : first.1 ∉ members.map (·.1)) :
    ∃ before after, given = before ++ first :: after ∧ Arranged members (before ++ after) ∧
      first.1 ∉ (before ++ after).map (·.1) := by
  obtain ⟨others, hperm, hothers⟩ := h
  obtain ⟨before, after, rfl⟩ := List.append_of_mem (hperm.mem_iff.2 (by simp) : first ∈ given)
  have hrest : (before ++ after).Perm (members ++ others) :=
    List.Perm.cons_inv (List.perm_middle.symm.trans hperm)
  refine ⟨before, after, rfl, ⟨others, hrest, fun other hother => ?_⟩, ?_⟩
  · obtain ⟨hnew, hplain⟩ := hothers other hother
    exact ⟨fun hmem => hnew (.tail _ hmem), hplain⟩
  · rw [(hrest.map _).mem_iff, List.map_append, List.mem_append]
    rintro (hmem | hmem)
    · exact hname hmem
    · obtain ⟨other, hother, heq⟩ := List.mem_map.1 hmem
      exact (hothers other hother).1 (heq ▸ List.mem_cons_self ..)

end Arranged

mutual

/-- The same value, but the members of its objects in some order and among others. -/
inductive Rearranged : Json → Json → Prop
  | null : Rearranged .null .null
  | bool (b : Bool) : Rearranged (.bool b) (.bool b)
  | number (n : Number) : Rearranged (.number n) (.number n)
  | string (text : String) : Rearranged (.string text) (.string text)
  | array {items others : List Json} :
    List.Forall₂ Rearranged items others → Rearranged (.array items) (.array others)
  | object {members others given : List (String × Json)} :
    List.Forall₂ RearrangedMember members others → Arranged others given →
    Rearranged (.object members) (.object given)

inductive RearrangedMember : String × Json → String × Json → Prop
  | mk (name : String) {value other : Json} :
    Rearranged value other → RearrangedMember (name, value) (name, other)

end

mutual

theorem rearranged_self : ∀ json : Json, Rearranged json json
  | .null => .null
  | .bool b => .bool b
  | .number n => .number n
  | .string text => .string text
  | .array items => .array (rearranged_items items)
  | .object members => .object (rearranged_members members) (.refl members)

theorem rearranged_items : ∀ items : List Json, List.Forall₂ Rearranged items items
  | [] => .nil
  | item :: rest => .cons (rearranged_self item) (rearranged_items rest)

theorem rearranged_members :
    ∀ members : List (String × Json), List.Forall₂ RearrangedMember members members
  | [] => .nil
  | (name, value) :: rest => .cons (.mk name (rearranged_self value)) (rearranged_members rest)

end

def IsFixed (json : Json) : Prop := ∀ other, Rearranged json other → other = json

theorem isFixed_bool (b : Bool) : (bool b).IsFixed := by
  intro other h
  cases h
  rfl

theorem isFixed_string (text : String) : (string text).IsFixed := by
  intro other h
  cases h
  rfl

theorem isFixed_array {items : List Json} (hitems : ∀ item ∈ items, item.IsFixed) :
    (array items).IsFixed := by
  intro other h
  cases h with
  | array h =>
    have heq := ((List.forall₂_and_left _ _).2 ⟨hitems, h⟩).imp
      fun item other hitem => (hitem.1 other hitem.2).symm
    rw [List.forall₂_eq_eq_eq] at heq
    rw [heq]

theorem members_eq_of_isFixed {members others : List (String × Json)}
    (hmembers : ∀ member ∈ members, member.2.IsFixed)
    (h : List.Forall₂ RearrangedMember members others) : others = members := by
  have hsame : ∀ member other, member.2.IsFixed ∧ RearrangedMember member other →
      member = other := by
    rintro _ _ ⟨hfixed, ⟨name, hvalue⟩⟩
    rw [hfixed _ hvalue]
  have heq := ((List.forall₂_and_left _ _).2 ⟨hmembers, h⟩).imp hsame
  rw [List.forall₂_eq_eq_eq] at heq
  exact heq.symm

namespace Decoder

section

variable {fields : List Field} {members given : List (String × Json)} {levels : Nat}

theorem perm_declared (hfits : List.Forall₂ (Fits levels) fields members)
    (h : Arranged members given) : (declared fields given).Perm members := by
  obtain ⟨others, hperm, hothers⟩ := h
  have hnone : declared fields others = [] :=
    List.filter_eq_nil_iff.2 fun other hother => by
      simpa [names_of_fits hfits] using (hothers other hother).1
  have hdeclared : declared fields (members ++ others) = members := by
    rw [declared, List.filter_append]
    show declared fields members ++ declared fields others = _
    rw [declared_of_fits hfits, hnone, List.append_nil]
  exact hdeclared ▸ hperm.filter _

/-- A structure is read from any arrangement of its members. -/
theorem reads_arranged (name : String) (surplus : Surplus)
    (hfits : List.Forall₂ (Fits levels) fields members) (hnodup : (fields.map (·.name)).Nodup)
    (h : Arranged members given) :
    ∃ read, read.Perm members ∧
      (fieldValues name fields surplus).Reads (levels + 1) (.object given)
        (memberValues read) := by
  have hperm := perm_declared hfits h
  refine ⟨declared fields given, hperm, fun depth hdepth => ?_⟩
  have hnames := names_of_fits hfits
  have hcheck : ∀ member ∈ given, ∀ field ∈ fields, field.name = member.1 →
      field.check (depth - 1) member.2.tree = .ok () := by
    intro member hmember field hfield hname
    rcases h.mem_or hmember with hmember | ⟨hother, -⟩
    · exact check_of_fits hfits hnodup (by omega) member hmember field hfield hname
    · exact absurd (hnames ▸ hname ▸ List.mem_map_of_mem hfield) hother
  have hcomplete : ∀ member ∈ given, member.1 ∉ fields.map (·.name) →
      member.2.tree.isComplete = true := by
    intro member hmember hother
    rcases h.mem_or hmember with hmember | ⟨-, hplain⟩
    · exact absurd (hnames ▸ List.mem_map_of_mem hmember) hother
    · exact isComplete_of_isPlain hplain
  have hnew : (([] : FieldValues).map (·.1) ++ (declared fields given).map (·.1)).Nodup := by
    rw [List.map_nil, List.nil_append, (hperm.map _).nodup_iff, ← hnames]
    exact hnodup
  rw [tree, fieldValues, enter_of_lt hdepth, ok_bind, takeMembers_treeMembers hcheck hcomplete hnew]
  rfl

end

theorem required_perm {α : Type} {read members : List (String × Json)} (h : read.Perm members)
    (hnames : (members.map (·.1)).Nodup) (name : String) (decoder : Decoder α) (depth : Nat) :
    required (memberValues read) name decoder depth =
      required (memberValues members) name decoder depth := by
  rw [required, required, lookup_memberValues, lookup_memberValues, NameMap.lookup_perm h hnames]

end Decoder

end NodeLaunch.Json
