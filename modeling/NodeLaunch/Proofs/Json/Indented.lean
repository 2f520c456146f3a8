import NodeLaunch.Proofs.Json.Grammar

/-!
# The indented text of a value

Reading the indented text of a value gives its tree, if its numbers are whole.
-/

namespace NodeLaunch.Json

mutual

def isFloatless : Json → Bool
  | .number (.float _) => false
  | .array items => itemsFloatless items
  | .object members => membersFloatless members
  | _ => true

def itemsFloatless : List Json → Bool
  | [] => true
  | item :: rest => isFloatless item && itemsFloatless rest

def membersFloatless : List (String × Json) → Bool
  | [] => true
  | (_, value) :: rest => isFloatless value && membersFloatless rest

end

mutual

/-- The tree of the texts of a value; floats are not looked into. -/
def tree : Json → Reading
  | .null => .null
  | .bool b => .bool b
  | .number (.integer n) => .number (.ofInt n)
  | .number (.float _) => .malformed
  | .string text => .string (some text)
  | .array items => .array (treeItems items) true
  | .object members => .object (treeMembers members) true

def treeItems : List Json → List Reading
  | [] => []
  | item :: rest => tree item :: treeItems rest

def treeMembers : List (String × Json) → List (Option String × Reading)
  | [] => []
  | (name, value) :: rest => (some name, tree value) :: treeMembers rest

end

theorem treeMembers_eq_map (members : List (String × Json)) :
    treeMembers members = members.map fun (name, value) => (some name, value.tree) := by
  induction members with
  | nil => rfl
  | cons member rest ih => rw [treeMembers, ih, List.map_cons]

theorem itemsFloatless_iff {items : List Json} :
    itemsFloatless items = true ↔ ∀ item ∈ items, item.isFloatless = true := by
  induction items with
  | nil => simp [itemsFloatless]
  | cons item rest ih => rw [itemsFloatless, Bool.and_eq_true, ih, List.forall_mem_cons]

theorem membersFloatless_iff {members : List (String × Json)} :
    membersFloatless members = true ↔ ∀ member ∈ members, member.2.isFloatless = true := by
  induction members with
  | nil => simp [membersFloatless]
  | cons member rest ih =>
    rw [membersFloatless, Bool.and_eq_true, ih, List.forall_mem_cons]

theorem isFloatless_list {α : Type} {encode : α → Json} {values : List α}
    (h : ∀ value ∈ values, (encode value).isFloatless = true) :
    (array (values.map encode)).isFloatless = true :=
  itemsFloatless_iff.2 (List.forall_mem_map.2 h)

mutual

theorem written_prettyChars (depth : Nat) :
    ∀ value : Json, value.isFloatless = true → Written (prettyChars depth value) value.tree
  | .null, _ => .null
  | .bool b, _ => .bool b
  | .number (.integer n), _ => .integer n
  | .string text, _ => .stringChars text
  | .array [], _ => .emptyArray isGap_nil
  | .array (item :: rest), h => .array (written_prettyItems depth (item :: rest) (by simp) h)
  | .object [], _ => .emptyObject isGap_nil
  | .object (member :: rest), h =>
    .object (written_prettyMembers depth (member :: rest) (by simp) h)

theorem written_prettyItems (depth : Nat) :
    ∀ items : List Json, items ≠ [] → itemsFloatless items = true →
      WrittenItems (prettyItems depth items) (treeItems items)
  | [item], _, h => by
    simp only [itemsFloatless, Bool.and_true] at h
    have hitem := written_prettyChars (depth + 1) item h
    simpa only [prettyItems, treeItems, List.append_assoc] using
      WrittenItems.last (isGap_newLine (depth + 1)) hitem (isGap_newLine depth)
  | item :: second :: rest, _, h => by
    rw [itemsFloatless, Bool.and_eq_true] at h
    have hitem := written_prettyChars (depth + 1) item h.1
    have hrest := written_prettyItems depth (second :: rest) (by simp) h.2
    simpa only [prettyItems, treeItems, List.append_assoc, List.nil_append] using
      WrittenItems.cons (isGap_newLine (depth + 1)) hitem isGap_nil hrest

theorem written_prettyMembers (depth : Nat) :
    ∀ members : List (String × Json), members ≠ [] → membersFloatless members = true →
      WrittenMembers (prettyMembers depth members) (treeMembers members)
  | [(name, value)], _, h => by
    simp only [membersFloatless, Bool.and_true] at h
    have hvalue := written_prettyChars (depth + 1) value h
    simpa only [prettyMembers, treeMembers, List.append_assoc, List.cons_append,
      List.nil_append] using
      WrittenMembers.last_stringChars name (isGap_newLine (depth + 1)) isGap_blank hvalue
        (isGap_newLine depth)
  | (name, value) :: second :: rest, _, h => by
    rw [membersFloatless, Bool.and_eq_true] at h
    have hvalue := written_prettyChars (depth + 1) value h.1
    have hrest := written_prettyMembers depth (second :: rest) (by simp) h.2
    simpa only [prettyMembers, treeMembers, List.append_assoc, List.cons_append,
      List.nil_append] using
      WrittenMembers.cons_stringChars name (isGap_newLine (depth + 1)) isGap_blank hvalue
        isGap_nil hrest

end

theorem writtenText_pretty {value : Json} (h : value.isFloatless = true) :
    WrittenText value.pretty value.tree :=
  (written_prettyChars 0 value h).writtenText

/-- The indented text of a value is read as its tree. -/
theorem ofText_pretty {value : Json} (h : value.isFloatless = true) :
    Reading.ofText value.pretty = (value.tree, true) :=
  Reading.ofText_of_writtenText (writtenText_pretty h)

end NodeLaunch.Json
