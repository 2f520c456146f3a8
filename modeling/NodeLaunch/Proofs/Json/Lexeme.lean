import Mathlib.Data.List.Basic
import NodeLaunch.Json.Basic
import NodeLaunch.Json.Lexeme

/-!
# Lexemes read back

A string is read as the text that it spells, whichever of its characters are written
as escapes. A whole number is read as its sign and digits, and these have the value
of the number if 64 bits hold it.
-/

namespace NodeLaunch.Json

-- ---------------------------------------------------------------------------
-- Strings
-- ---------------------------------------------------------------------------

theorem hexValue4?_controlCode {n : Nat} (h : n < 0x20) :
    hexValue4? '0' '0' (Text.hexDigit (n / 16)) (Text.hexDigit (n % 16)) = some n := by
  have hzero : Text.hexValue? '0' = some 0 := by decide
  have hhigh := Text.hexValue?_hexDigit (n / 16) (by omega)
  have hlow := Text.hexValue?_hexDigit (n % 16) (by omega)
  rw [hexValue4?, hzero, hhigh, hlow]
  show some ((0 * 16 + 0) * 256 + (n / 16 * 16 + n % 16)) = some n
  congr 1
  omega

/-- The ways to write one character inside a JSON string. -/
inductive SpellsChar : List Char → Char → Prop
  | plain {c : Char} : 0x20 ≤ c.toNat → c ≠ '"' → c ≠ '\\' → SpellsChar [c] c
  | letter {letter c : Char} : unescape? letter = some c → SpellsChar ['\\', letter] c
  | unit {h₁ h₂ h₃ h₄ c : Char} : hexValue4? h₁ h₂ h₃ h₄ = some c.toNat →
    SpellsChar ['\\', 'u', h₁, h₂, h₃, h₄] c
  /-- A character past the first 65536, by the two halves of it. -/
  | pair {h₁ h₂ h₃ h₄ l₁ l₂ l₃ l₄ : Char} {high low : Nat} :
    hexValue4? h₁ h₂ h₃ h₄ = some high → hexValue4? l₁ l₂ l₃ l₄ = some low →
    0xD800 ≤ high ∧ high ≤ 0xDBFF → 0xDC00 ≤ low ∧ low ≤ 0xDFFF →
    SpellsChar ['\\', 'u', h₁, h₂, h₃, h₄, '\\', 'u', l₁, l₂, l₃, l₄]
      (Char.ofNat (0x10000 + (high - 0xD800) * 0x400 + (low - 0xDC00)))

inductive Spells : List Char → List Char → Prop
  | nil : Spells [] []
  | cons {cs more text : List Char} {c : Char} :
    SpellsChar cs c → Spells more text → Spells (cs ++ more) (c :: text)

theorem spellsChar_escapeChar (c : Char) : SpellsChar (escapeChar c) c := by
  rw [escapeChar]
  -- the seven characters with an escape of one letter
  iterate 7
    split
    · subst_vars; exact .letter rfl
  split
  · rename_i hcontrol
    exact .unit (hexValue4?_controlCode hcontrol)
  · rename_i hquote hbackslash _ _ _ _ _ hprintable
    exact .plain (Nat.le_of_not_lt hprintable) hquote hbackslash

theorem spells_escaped (cs : List Char) : Spells (cs.flatMap escapeChar) cs := by
  induction cs with
  | nil => exact .nil
  | cons c cs ih =>
    rw [List.flatMap_cons]
    exact .cons (spellsChar_escapeChar c) ih

theorem pushUnit_toNat {s : StringText} (hhalf : s.half = none) (c : Char) :
    s.pushUnit c.toNat = s.push c := by
  have hvalid : c.toNat < 0xD800 ∨ 0xDFFF < c.toNat ∧ c.toNat < 0x110000 := c.valid
  have hhigh : ¬(0xD800 ≤ c.toNat ∧ c.toNat ≤ 0xDBFF) := by omega
  have hlow : ¬(0xDC00 ≤ c.toNat ∧ c.toNat ≤ 0xDFFF) := by omega
  rw [StringText.pushUnit, hhalf]
  dsimp only
  rw [if_neg hhigh, if_neg hlow, Char.ofNat_toNat]

theorem pushUnit_pair {s : StringText} (hhalf : s.half = none) {high low : Nat}
    (hhigh : 0xD800 ≤ high ∧ high ≤ 0xDBFF) (hlow : 0xDC00 ≤ low ∧ low ≤ 0xDFFF) :
    (s.pushUnit high).pushUnit low =
      s.push (Char.ofNat (0x10000 + (high - 0xD800) * 0x400 + (low - 0xDC00))) := by
  have hfirst : s.pushUnit high = { s with half := some high } := by
    rw [StringText.pushUnit, hhalf]
    dsimp only
    rw [if_pos hhigh]
  rw [hfirst, StringText.pushUnit]
  dsimp only
  rw [if_pos hlow, StringText.push, hhalf, Option.isNone_none, Bool.and_true]

theorem readString_spelledChar {s : StringText} (hhalf : s.half = none) {cs : List Char} {c : Char}
    (h : SpellsChar cs c) (rest : List Char) :
    readString s (cs ++ rest) = readString (s.push c) rest := by
  cases h with
  | plain hprintable hquote hbackslash =>
    rw [List.singleton_append, readString]
    · rw [if_neg (not_or.2 ⟨Nat.not_lt.2 hprintable, hbackslash⟩)]
    all_goals simp_all
  | @letter letter _ hletter =>
    have hu : letter ≠ 'u' := by
      rintro rfl
      cases hletter
    rw [List.cons_append, List.singleton_append, readString]
    · rw [hletter]
    · simp_all
  | unit hunit =>
    simp only [List.cons_append, List.nil_append, readString, hunit, pushUnit_toNat hhalf]
  | pair hhigh hlow hhighRange hlowRange =>
    simp only [List.cons_append, List.nil_append, readString, hhigh, hlow,
      pushUnit_pair hhalf hhighRange hlowRange]

theorem readString_spelled {s : StringText} (hhalf : s.half = none) {cs text : List Char}
    (h : Spells cs text) (rest : List Char) :
    readString s (cs ++ rest) = readString (text.foldl .push s) rest := by
  induction h generalizing s with
  | nil => rfl
  | cons hchar _ ih =>
    rw [List.append_assoc, readString_spelledChar hhalf hchar, ih rfl, List.foldl_cons]

theorem foldl_push (cs text : List Char) :
    cs.foldl .push (⟨text, none, true⟩ : StringText) = ⟨cs.reverse ++ text, none, true⟩ := by
  induction cs generalizing text with
  | nil => rfl
  | cons c cs ih =>
    rw [List.foldl_cons, StringText.push, List.reverse_cons, List.append_assoc]
    exact ih (c :: text)

/-- A string is read back from its spelling, up to its closing quote. -/
theorem readString_quoted {cs : List Char} {text : String} (h : Spells cs text.toList)
    (rest : List Char) : readString .empty (cs ++ '"' :: rest) = some (some text, rest) := by
  rw [readString_spelled rfl h, StringText.empty, foldl_push, readString]
  simp [StringText.result]

theorem stringChars_append (text : String) (rest : List Char) :
    stringChars text ++ rest = '"' :: (text.toList.flatMap escapeChar ++ '"' :: rest) := by
  simp [stringChars]

-- ---------------------------------------------------------------------------
-- Whole numbers
-- ---------------------------------------------------------------------------

def NumberLexeme.ofInt (n : Int) : NumberLexeme := ⟨n < 0, Nat.toDigits 10 n.natAbs, none, none⟩

def EndsNumber (rest : List Char) : Prop :=
  ∀ c ∈ rest.head?, c.isDigit = false ∧ c ≠ '.' ∧ c ≠ 'e' ∧ c ≠ 'E'

theorem head?_toDigits_ne_zero {n : Nat} (h : 0 < n) : (Nat.toDigits 10 n).head? ≠ some '0' := by
  induction n using Nat.strongRecOn with
  | ind n ih =>
    by_cases hlt : n < 10
    · rw [Nat.toDigits_of_lt_base hlt]
      have hdigit : ∀ d < 10, 0 < d → [Nat.digitChar d].head? ≠ some '0' := by decide
      exact hdigit n hlt h
    · rw [Nat.toDigits_of_base_le (by decide) (by omega),
        List.head?_append_of_ne_nil _ Nat.toDigits_ne_nil]
      exact ih (n / 10) (by omega) (by omega)

theorem toDigits_wellFormed (n : Nat) :
    ((Nat.toDigits 10 n).isEmpty ||
      ((Nat.toDigits 10 n).head? == some '0' && (Nat.toDigits 10 n).length != 1)) = false := by
  rcases Nat.eq_zero_or_pos n with rfl | hpos
  · decide
  · simp [Nat.toDigits_ne_nil, head?_toDigits_ne_zero hpos]

theorem isDigit_toDigits {n : Nat} : ∀ c ∈ Nat.toDigits 10 n, c.isDigit = true :=
  fun _ hc => Nat.isDigit_of_mem_toDigits (by decide) (by decide) hc

theorem exists_cons_toDigits (n : Nat) :
    ∃ d ds, Nat.toDigits 10 n = d :: ds ∧ d.isDigit = true := by
  obtain ⟨d, ds, hds⟩ := List.exists_cons_of_ne_nil (Nat.toDigits_ne_nil (n := n) (b := 10))
  exact ⟨d, ds, hds, isDigit_toDigits d (hds ▸ List.mem_cons_self ..)⟩

theorem takeWhile_digits {n : Nat} {rest : List Char} (h : EndsNumber rest) :
    (Nat.toDigits 10 n ++ rest).takeWhile Char.isDigit = Nat.toDigits 10 n ∧
      (Nat.toDigits 10 n ++ rest).dropWhile Char.isDigit = rest := by
  rw [List.takeWhile_append_of_pos isDigit_toDigits, List.dropWhile_append_of_pos isDigit_toDigits]
  cases rest with
  | nil => simp
  | cons c rest => simp [(h c rfl).1]

theorem read?_digits (negative : Bool) (n : Nat) {rest : List Char} (h : EndsNumber rest) :
    NumberLexeme.read? ((if negative then ['-'] else []) ++ (Nat.toDigits 10 n ++ rest)) =
      some (⟨negative, Nat.toDigits 10 n, none, none⟩, rest) := by
  obtain ⟨htake, hdrop⟩ := takeWhile_digits (n := n) h
  have hminus : ∀ tail, Nat.toDigits 10 n ++ rest ≠ '-' :: tail := by
    obtain ⟨d, ds, hds, hdigit⟩ := exists_cons_toDigits n
    rw [hds]
    rintro tail ⟨⟩
    revert hdigit
    decide
  cases negative <;>
  · simp only [if_true, if_false, Bool.false_eq_true, List.nil_append, List.singleton_append]
    rw [NumberLexeme.read?]
    · simp only [htake, hdrop, toDigits_wellFormed]
      cases rest with
      | nil => rfl
      | cons c rest =>
        obtain ⟨-, hpoint, he, hE⟩ := h c rfl
        simp [hpoint, he, hE]
    all_goals exact hminus

theorem numberChars_integer (n : Int) :
    numberChars (.integer n) = (if n < 0 then ['-'] else []) ++ Nat.toDigits 10 n.natAbs := by
  rw [numberChars, Number.render, Number.integerText, String.toList_ofList]

/-- A whole number is read back as its sign and digits. -/
theorem read?_integer (n : Int) {rest : List Char} (h : EndsNumber rest) :
    NumberLexeme.read? (numberChars (.integer n) ++ rest) = some (.ofInt n, rest) := by
  have hread := read?_digits (decide (n < 0)) n.natAbs h
  rw [numberChars_integer, List.append_assoc]
  simpa only [decide_eq_true_eq, NumberLexeme.ofInt] using hread

-- ---------------------------------------------------------------------------
-- Values of whole numbers
-- ---------------------------------------------------------------------------

namespace NumberLexeme

theorem le_ofDigitChars (digits : List Char) (start : Nat) :
    start ≤ Nat.ofDigitChars 10 digits start := by
  induction digits generalizing start with
  | nil => exact Nat.le_refl start
  | cons d digits ih =>
    rw [Nat.ofDigitChars_cons]
    exact Nat.le_trans (by omega) (ih _)

/-- All digits count as long as the number they end in fits into 64 bits. -/
theorem takeDigits_of_lt {digits : List Char} {start : Nat}
    (h : Nat.ofDigitChars 10 digits start < significandLimit) :
    takeDigits start digits = (Nat.ofDigitChars 10 digits start, digits.length, 0) := by
  induction digits generalizing start with
  | nil => rfl
  | cons d digits ih =>
    have hcons : Nat.ofDigitChars 10 (d :: digits) start =
        Nat.ofDigitChars 10 digits (start * 10 + (d.toNat - 48)) := by
      rw [Nat.ofDigitChars_cons, Nat.mul_comm]
      rfl
    rw [hcons] at h ⊢
    rw [takeDigits, if_pos (Nat.lt_of_le_of_lt (le_ofDigitChars digits _) h), ih h]
    rfl

/-- A whole number of 64 bits, with a sign or without. -/
def IsWord (n : Int) : Prop := -(Nat.pow 2 63 : Nat) ≤ n ∧ n < (Nat.pow 2 64 : Nat)

theorem natAbs_lt_of_isWord {n : Int} (h : IsWord n) : n.natAbs < significandLimit := by
  have hlow : (Nat.pow 2 63 : Nat) < Nat.pow 2 64 := by decide
  rw [IsWord] at h
  rw [significandLimit]
  omega

theorem wholeValue_of_isWord {n : Int} (h : IsWord n) :
    wholeValue (decide (n < 0)) n.natAbs = .integer n := by
  rw [IsWord] at h
  by_cases hneg : n < 0
  · rw [wholeValue, decide_eq_true hneg]
    simp only [Bool.not_true, Bool.false_eq_true, if_false]
    rw [if_pos ⟨by omega, by omega⟩]
    congr 1
    omega
  · rw [wholeValue, decide_eq_false hneg]
    simp only [Bool.not_false, if_true]
    congr 1
    omega

theorem value?_ofInt {n : Int} (h : IsWord n) : (ofInt n).value? = some (.integer n) := by
  have htake : takeDigits 0 (Nat.toDigits 10 n.natAbs) =
      (n.natAbs, (Nat.toDigits 10 n.natAbs).length, 0) := by
    have hread : Nat.ofDigitChars 10 (Nat.toDigits 10 n.natAbs) 0 = n.natAbs :=
      Nat.ofDigitChars_ten_toDigits
    rw [takeDigits_of_lt (by rw [hread]; exact natAbs_lt_of_isWord h), hread]
  rw [ofInt, value?]
  simp only [htake, if_true, wholeValue_of_isWord h]

end NumberLexeme

end NodeLaunch.Json
