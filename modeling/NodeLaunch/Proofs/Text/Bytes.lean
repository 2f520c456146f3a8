import Mathlib.Tactic.SplitIfs
import NodeLaunch.Text.System

/-!
# The bytes of a text

UTF-8 keeps the order of characters: texts come in the order of their bytes.
-/

namespace NodeLaunch.Text

/-- Of two characters the lesser has the lesser bytes, and these are no beginning of
those of the other, so whatever follows does not count. -/
theorem utf8EncodeChar_append_lt {c d : Char} (h : c < d) (after rest : List UInt8) :
    String.utf8EncodeChar c ++ after < String.utf8EncodeChar d ++ rest := by
  have hlt : c.val.toNat < d.val.toNat := h
  have hd : d.val.toNat < 1114112 := by rcases d.valid with hd | hd <;> omega
  simp only [String.utf8EncodeChar]
  generalize c.val.toNat = v at hlt
  generalize d.val.toNat = w at hlt hd
  split_ifs
  all_goals
    simp only [List.cons_append, List.nil_append, List.cons_lt_cons_iff,
      UInt8.lt_iff_toNat_lt, ← UInt8.toNat_inj, UInt8.toNat_ofNat']
    -- Without the sizes of a byte there are few remainders left.
    simp (disch := omega) only [Nat.mod_eq_of_lt]
    omega

theorem flatMap_utf8EncodeChar_lt {cs ds : List Char} (h : cs < ds) :
    cs.flatMap String.utf8EncodeChar < ds.flatMap String.utf8EncodeChar := by
  induction h with
  | @nil d ds =>
    rw [List.flatMap_nil, List.flatMap_cons]
    cases hd : String.utf8EncodeChar d with
    | nil => exact absurd hd String.utf8EncodeChar_ne_nil
    | cons first rest => exact .nil
  | @cons c cs ds _ ih =>
    rw [List.flatMap_cons, List.flatMap_cons]
    exact List.append_left_lt ih
  | rel h => exact utf8EncodeChar_append_lt h _ _

theorem bytes_lt_bytes {first second : String} (h : first < second) :
    bytes first < bytes second := by
  rw [bytes_eq_flatMap, bytes_eq_flatMap]
  exact flatMap_utf8EncodeChar_lt h

theorem bytes_lt_bytes_iff {first second : String} :
    bytes first < bytes second ↔ first < second := by
  refine ⟨fun hbytes => Decidable.byContradiction fun hlt => ?_, bytes_lt_bytes⟩
  rcases Std.le_iff_lt_or_eq.1 (String.not_lt.1 hlt) with hgt | rfl
  · exact List.lt_asymm hbytes (bytes_lt_bytes hgt)
  · exact List.lt_irrefl _ hbytes

end NodeLaunch.Text
