import NodeLaunch.Proofs.Json.Decoding
import NodeLaunch.Proofs.NameMap

/-!
# The compact text of a value

Reading the compact text of a value gives its tree, if its numbers are whole. The
tree, decoded as any value, gives the value back: its numbers if 64 bits hold them, its
arrays in their order, and the members of its objects in the order of their names.
No value begins with a capital letter, so neither does an item of an array.
-/

namespace NodeLaunch.Json

-- ---------------------------------------------------------------------------
-- Texts
-- ---------------------------------------------------------------------------

mutual

theorem written_compactChars :
    ∀ value : Json, value.isFloatless = true → Written (compactChars value) value.tree
  | .null, _ => .null
  | .bool b, _ => .bool b
  | .number (.integer n), _ => .integer n
  | .string text, _ => .stringChars text
  | .array [], _ => .emptyArray isGap_nil
  | .array (item :: rest), h => .array (written_compactItems (item :: rest) (by simp) h)
  | .object [], _ => .emptyObject isGap_nil
  | .object (member :: rest), h =>
    .object (written_compactMembers (member :: rest) (by simp) h)

theorem written_compactItems :
    ∀ items : List Json, items ≠ [] → itemsFloatless items = true →
      WrittenItems (compactItems items) (treeItems items)
  | [item], _, h => by
    simp only [itemsFloatless, Bool.and_true] at h
    have hitem := written_compactChars item h
    simpa only [compactItems, treeItems, List.nil_append] using
      WrittenItems.last isGap_nil hitem isGap_nil
  | item :: second :: rest, _, h => by
    rw [itemsFloatless, Bool.and_eq_true] at h
    have hitem := written_compactChars item h.1
    have hrest := written_compactItems (second :: rest) (by simp) h.2
    simpa only [compactItems, treeItems, List.nil_append] using
      WrittenItems.cons isGap_nil hitem isGap_nil hrest

theorem written_compactMembers :
    ∀ members : List (String × Json), members ≠ [] → membersFloatless members = true →
      WrittenMembers (compactMembers members) (treeMembers members)
  | [(name, value)], _, h => by
    simp only [membersFloatless, Bool.and_true] at h
    have hvalue := written_compactChars value h
    simpa only [compactMembers, treeMembers, List.nil_append] using
      WrittenMembers.last_stringChars name isGap_nil isGap_nil hvalue isGap_nil
  | (name, value) :: second :: rest, _, h => by
    rw [membersFloatless, Bool.and_eq_true] at h
    have hvalue := written_compactChars value h.1
    have hrest := written_compactMembers (second :: rest) (by simp) h.2
    simpa only [compactMembers, treeMembers, List.nil_append] using
      WrittenMembers.cons_stringChars name isGap_nil isGap_nil hvalue isGap_nil hrest

end

theorem ofText_compact {value : Json} (h : value.isFloatless = true) :
    Reading.ofText value.compact = (value.tree, true) :=
  Reading.ofText_of_writtenText (written_compactChars value h).writtenText

-- ---------------------------------------------------------------------------
-- Values of any kind
-- ---------------------------------------------------------------------------

namespace Decoder

theorem Reads.mono {α : Type} {decoder : Decoder α} {levels more : Nat} {json : Json} {value : α}
    (h : decoder.Reads levels json value) (hle : levels ≤ more) : decoder.Reads more json value :=
  fun depth hdepth => h depth (by omega)

theorem reads_value_integer {n : Int} (h : NumberLexeme.IsWord n) :
    Reads value 0 (.number (.integer n)) (.number (.integer n)) := by
  intro depth _
  rw [tree, value, NumberLexeme.value?_ofInt h]

theorem valueItems_of_forall₂ {levels depth : Nat} {items values : List Json}
    (h : List.Forall₂ (Reads value levels) items values) (hdepth : levels < depth) :
    valueItems depth (treeItems items) = .ok values := by
  induction h with
  | nil => rw [treeItems, valueItems]
  | cons hitem _ ih =>
    rw [treeItems, valueItems, hitem depth hdepth, ok_bind, ih]
    rfl

theorem reads_value_array {levels : Nat} {items values : List Json}
    (h : List.Forall₂ (Reads value levels) items values) :
    Reads value (levels + 1) (.array items) (.array values) := by
  intro depth hdepth
  rw [tree, value, if_pos (by omega), valueItems_of_forall₂ h (by omega)]
  rfl

def ReadsMember (levels : Nat) (member result : String × Json) : Prop :=
  member.1 = result.1 ∧ Reads value levels member.2 result.2

theorem valueMembers_of_forall₂ {levels depth : Nat} {members values : List (String × Json)}
    (h : List.Forall₂ (ReadsMember levels) members values) (hdepth : levels < depth)
    (entries : NameMap Json) :
    valueMembers depth entries (treeMembers members) = .ok (entries.insertAll values) := by
  induction h generalizing entries with
  | nil => rw [treeMembers, valueMembers, NameMap.insertAll, List.foldl_nil]
  | @cons member result members values hmember _ ih =>
    obtain ⟨name, json⟩ := member
    obtain ⟨rfl, hvalue⟩ := hmember
    rw [treeMembers, valueMembers, hvalue depth hdepth, ok_bind, ih]
    rfl

/-- No member is lost where no name comes twice. -/
theorem reads_value_object {levels : Nat} {members values : List (String × Json)}
    (h : List.Forall₂ (ReadsMember levels) members values) (hnames : (values.map (·.1)).Nodup) :
    ∃ sorted, sorted.Perm values ∧
      Reads value (levels + 1) (.object members) (.object sorted) := by
  have hperm : (NameMap.empty.insertAll values).entries.Perm values :=
    NameMap.perm_insertAll hnames
  refine ⟨_, hperm, fun depth hdepth => ?_⟩
  rw [tree, value, if_pos (by omega), valueMembers_of_forall₂ h (by omega)]
  rfl

end Decoder

-- ---------------------------------------------------------------------------
-- Texts of no value
-- ---------------------------------------------------------------------------

theorem capital_ne {c d : Char} (h : c.isUpper = true) (hd : d.isUpper = false) : c ≠ d := by
  rintro rfl
  rw [h] at hd
  exact Bool.noConfusion hd

theorem isDigit_of_isUpper {c : Char} (h : c.isUpper = true) : c.isDigit = false := by
  have hlow : 'A'.val ≤ c.val := (of_decide_eq_true h).1
  have hdigit : ¬c.val ≤ '9'.val := fun hle => absurd (UInt32.le_trans hlow hle) (by decide)
  rw [Char.isDigit, decide_eq_false hdigit, Bool.and_false]

theorem isBlank_of_isUpper {c : Char} (h : c.isUpper = true) : isBlank c = false := by
  simp [isBlank, capital_ne h (d := ' ') (by decide), capital_ne h (d := '\n') (by decide),
    capital_ne h (d := '\t') (by decide), capital_ne h (d := '\r') (by decide)]

namespace Reading
variable {fuel : Nat} {cs body : List Char}

theorem read_capital {c : Char} {tail : List Char} (h : dropBlanks cs = c :: tail)
    (hc : c.isUpper = true) : read (fuel + 1) cs = (.malformed, none) := by
  have hread : NumberLexeme.read? (c :: tail) = none := by
    have hminus := capital_ne hc (d := '-') (by decide)
    simp [NumberLexeme.read?, hminus, isDigit_of_isUpper hc]
  have hne {d : Char} (hd : d.isUpper = false) : c ≠ d := capital_ne hc hd
  have hn := hne (d := 'n') (by decide)
  have ht := hne (d := 't') (by decide)
  have hf := hne (d := 'f') (by decide)
  have hq := hne (d := '"') (by decide)
  have hbracket := hne (d := '[') (by decide)
  have hbrace := hne (d := '\x7b') (by decide)
  rw [read, h]
  split <;> simp_all

/-- An array whose first item cannot be read is read no further. -/
theorem read_bracket_capital {c : Char} {tail : List Char} (h : dropBlanks cs = '[' :: body)
    (hbody : dropBlanks body = c :: tail) (hc : c.isUpper = true) :
    read (fuel + 3) cs = (.array [.malformed] false, none) := by
  have hitem : dropBlanks (c :: tail) = c :: tail := dropBlanks_cons (isBlank_of_isUpper hc) tail
  have hitems : readItems (fuel + 2) (c :: tail) = ([.malformed], none) := by
    rw [readItems, read_capital hitem hc]
  rw [read_bracket h, hbody]
  split
  · rename_i heq
    exact absurd (List.cons.inj heq).1 (capital_ne hc (by decide))
  · rw [hitems]
    rfl

end Reading

theorem Decoder.decodeText_value_capital {text : String} {c : Char} {tail : List Char}
    (htext : text.toList = '[' :: c :: tail) (hc : c.isUpper = true) :
    decodeText value text = .error .syntaxError := by
  have hread : Reading.ofText text = (.array [.malformed] false, false) := by
    have hfuel : 2 * ('[' :: c :: tail).length + 2 = 2 * tail.length + 3 + 3 := by
      simp only [List.length_cons]
      omega
    rw [Reading.ofText, htext, hfuel,
      Reading.read_bracket_capital (dropBlanks_cons (by decide) _)
        (dropBlanks_cons (isBlank_of_isUpper hc) tail) hc]
    rfl
  rw [decodeText, hread]
  rfl

end NodeLaunch.Json
