import Mathlib.Data.List.DropRight
import NodeLaunch.Json.Reading
import NodeLaunch.Proofs.Json.Lexeme

/-!
# Texts of a tree

`Written cs tree` says that the characters are a JSON text of the tree: with blanks
wherever JSON has room for them, strings spelled in any way, and whole numbers.
Reading such a text gives the tree and stops right after it.
-/

namespace NodeLaunch.Json

def IsGap (cs : List Char) : Prop := ∀ c ∈ cs, isBlank c = true

mutual

inductive Written : List Char → Reading → Prop
  | null : Written nullChars .null
  | bool (b : Bool) : Written (boolChars b) (.bool b)
  | integer (n : Int) : Written (numberChars (.integer n)) (.number (.ofInt n))
  | string {cs : List Char} {text : String} :
    Spells cs text.toList → Written ('"' :: (cs ++ ['"'])) (.string (some text))
  | emptyArray {gap : List Char} : IsGap gap → Written ('[' :: (gap ++ [']'])) (.array [] true)
  | array {cs : List Char} {items : List Reading} :
    WrittenItems cs items → Written ('[' :: cs) (.array items true)
  | emptyObject {gap : List Char} :
    IsGap gap → Written ('\x7b' :: (gap ++ ['\x7d'])) (.object [] true)
  | object {cs : List Char} {members : List (Option String × Reading)} :
    WrittenMembers cs members → Written ('\x7b' :: cs) (.object members true)

inductive WrittenItems : List Char → List Reading → Prop
  | last {before cs after : List Char} {item : Reading} :
    IsGap before → Written cs item → IsGap after →
    WrittenItems (before ++ (cs ++ (after ++ [']']))) [item]
  | cons {before cs after more : List Char} {item : Reading} {rest : List Reading} :
    IsGap before → Written cs item → IsGap after → WrittenItems more rest →
    WrittenItems (before ++ (cs ++ (after ++ ',' :: more))) (item :: rest)

inductive WrittenMembers : List Char → List (Option String × Reading) → Prop
  | last {before spelling colon gap cs after : List Char} {name : String} {value : Reading} :
    IsGap before → Spells spelling name.toList → IsGap colon → IsGap gap → Written cs value →
    IsGap after →
    WrittenMembers
      (before ++ ('"' :: (spelling ++
        '"' :: (colon ++ ':' :: (gap ++ (cs ++ (after ++ ['\x7d'])))))))
      [(some name, value)]
  | cons {before spelling colon gap cs after more : List Char} {name : String} {value : Reading}
      {rest : List (Option String × Reading)} :
    IsGap before → Spells spelling name.toList → IsGap colon → IsGap gap → Written cs value →
    IsGap after → WrittenMembers more rest →
    WrittenMembers
      (before ++ ('"' :: (spelling ++
        '"' :: (colon ++ ':' :: (gap ++ (cs ++ (after ++ ',' :: more)))))))
      ((some name, value) :: rest)

end

/-- A whole text of a tree, with blanks before and after it. -/
def WrittenText (text : String) (tree : Reading) : Prop :=
  ∃ before cs after, IsGap before ∧ Written cs tree ∧ IsGap after ∧
    text.toList = before ++ (cs ++ after)

-- ---------------------------------------------------------------------------
-- Gaps
-- ---------------------------------------------------------------------------

theorem isGap_nil : IsGap [] := fun _ h => absurd h List.not_mem_nil

theorem isGap_blank : IsGap [' '] := by
  intro c hc
  rw [List.mem_singleton.1 hc]
  decide

theorem isGap_newLine (depth : Nat) : IsGap (newLine depth) := by
  intro c hc
  rcases List.mem_cons.1 hc with rfl | hc
  · decide
  · rw [List.eq_of_mem_replicate hc]
    decide

theorem dropBlanks_gap {gap : List Char} (h : IsGap gap) (cs : List Char) :
    dropBlanks (gap ++ cs) = dropBlanks cs := by
  induction gap with
  | nil => rfl
  | cons c gap ih =>
    rw [List.cons_append, dropBlanks, List.dropWhile_cons_of_pos (h c (by simp))]
    exact ih fun d hd => h d (.tail _ hd)

theorem dropBlanks_cons {c : Char} (h : isBlank c = false) (cs : List Char) :
    dropBlanks (c :: cs) = c :: cs := by
  rw [dropBlanks, List.dropWhile_cons_of_neg (by simp [h])]

theorem dropBlanks_dropBlanks (cs : List Char) : dropBlanks (dropBlanks cs) = dropBlanks cs :=
  List.dropWhile_idempotent isBlank cs

-- ---------------------------------------------------------------------------
-- Strings with their escapes
-- ---------------------------------------------------------------------------

theorem Written.writtenText {cs : List Char} {tree : Reading} (h : Written cs tree) :
    WrittenText (String.ofList cs) tree :=
  ⟨[], cs, [], isGap_nil, h, isGap_nil, by simp⟩

theorem Written.stringChars (text : String) : Written (stringChars text) (.string (some text)) :=
  .string (spells_escaped text.toList)

section

variable {before gap cs after more : List Char} {value : Reading}
  {rest : List (Option String × Reading)}

theorem WrittenMembers.last_stringChars (name : String) (hbefore : IsGap before) (hgap : IsGap gap)
    (hvalue : Written cs value) (hafter : IsGap after) :
    WrittenMembers
      (before ++ (Json.stringChars name ++ ':' :: (gap ++ (cs ++ (after ++ ['\x7d'])))))
      [(some name, value)] := by
  rw [stringChars_append]
  exact .last hbefore (spells_escaped name.toList) isGap_nil hgap hvalue hafter

theorem WrittenMembers.cons_stringChars (name : String) (hbefore : IsGap before) (hgap : IsGap gap)
    (hvalue : Written cs value) (hafter : IsGap after) (hmore : WrittenMembers more rest) :
    WrittenMembers
      (before ++ (Json.stringChars name ++ ':' :: (gap ++ (cs ++ (after ++ ',' :: more)))))
      ((some name, value) :: rest) := by
  rw [stringChars_append]
  exact .cons hbefore (spells_escaped name.toList) isGap_nil hgap hvalue hafter hmore

end

-- ---------------------------------------------------------------------------
-- Where texts begin and end
-- ---------------------------------------------------------------------------

/-- What may follow a value. -/
def EndsValue (rest : List Char) : Prop :=
  ∀ c ∈ rest.head?, isBlank c = true ∨ c = ',' ∨ c = ']' ∨ c = '\x7d'

theorem EndsValue.endsNumber {rest : List Char} (h : EndsValue rest) : EndsNumber rest := by
  intro c hc
  rcases h c hc with hblank | rfl | rfl | rfl
  · simp only [isBlank, Bool.or_eq_true, beq_iff_eq] at hblank
    rcases hblank with ((rfl | rfl) | rfl) | rfl <;> decide
  all_goals decide

theorem endsValue_nil : EndsValue [] := fun _ h => absurd h (by simp)

theorem endsValue_gap {gap rest : List Char} (h : IsGap gap) (hrest : EndsValue rest) :
    EndsValue (gap ++ rest) := by
  cases gap with
  | nil => exact hrest
  | cons c gap =>
    rintro _ ⟨⟩
    exact .inl (h c (by simp))

theorem endsValue_comma (rest : List Char) : EndsValue (',' :: rest) := by
  rintro _ ⟨⟩
  exact .inr (.inl rfl)

theorem endsValue_bracket (rest : List Char) : EndsValue (']' :: rest) := by
  rintro _ ⟨⟩
  exact .inr (.inr (.inl rfl))

theorem endsValue_brace (rest : List Char) : EndsValue ('\x7d' :: rest) := by
  rintro _ ⟨⟩
  exact .inr (.inr (.inr rfl))

theorem exists_cons_numberChars (n : Int) :
    ∃ c cs, numberChars (.integer n) = c :: cs ∧ (c = '-' ∨ c.isDigit = true) := by
  rw [numberChars_integer]
  obtain ⟨d, ds, hds, hdigit⟩ := exists_cons_toDigits n.natAbs
  by_cases hneg : n < 0
  · exact ⟨'-', Nat.toDigits 10 n.natAbs, by simp [hneg], .inl rfl⟩
  · exact ⟨d, ds, by simp [hneg, hds], .inr hdigit⟩

theorem number_start_ne {c : Char} (h : c = '-' ∨ c.isDigit = true) :
    isBlank c = false ∧ c ≠ ']' ∧ c ≠ 'n' ∧ c ≠ 't' ∧ c ≠ 'f' ∧ c ≠ '"' ∧ c ≠ '[' ∧ c ≠ '\x7b' := by
  have hne {d : Char} (hd : d ≠ '-' ∧ d.isDigit = false) : c ≠ d := by
    rintro rfl
    rcases h with h | h
    · exact hd.1 h
    · rw [hd.2] at h
      exact Bool.noConfusion h
  refine ⟨?_, hne (by decide), hne (by decide), hne (by decide), hne (by decide),
    hne (by decide), hne (by decide), hne (by decide)⟩
  simp [isBlank, hne (d := ' ') (by decide), hne (d := '\n') (by decide),
    hne (d := '\t') (by decide), hne (d := '\r') (by decide)]

theorem Written.start {cs : List Char} {tree : Reading} (h : Written cs tree) :
    ∃ c tail, cs = c :: tail ∧ isBlank c = false ∧ c ≠ ']' := by
  cases h with
  | bool b => cases b <;> exact ⟨_, _, rfl, by decide, by decide⟩
  | integer n =>
    obtain ⟨c, tail, heq, hstart⟩ := exists_cons_numberChars n
    exact ⟨c, tail, heq, (number_start_ne hstart).1, (number_start_ne hstart).2.1⟩
  | _ => exact ⟨_, _, rfl, by decide, by decide⟩

theorem Written.dropBlanks_append {cs : List Char} {tree : Reading} (h : Written cs tree)
    (rest : List Char) : dropBlanks (cs ++ rest) = cs ++ rest := by
  obtain ⟨c, tail, rfl, hblank, -⟩ := h.start
  exact dropBlanks_cons hblank _

/-- The items of an array do not begin with its end. -/
theorem WrittenItems.dropBlanks_ne {cs : List Char} {items : List Reading}
    (h : WrittenItems cs items) (rest tail : List Char) :
    dropBlanks (cs ++ rest) ≠ ']' :: tail := by
  have hstart {before cs : List Char} {tree : Reading} (hgap : IsGap before)
      (hvalue : Written cs tree) (after : List Char) :
      dropBlanks (before ++ (cs ++ after)) ≠ ']' :: tail := by
    rw [dropBlanks_gap hgap, hvalue.dropBlanks_append]
    obtain ⟨c, front, rfl, -, hbracket⟩ := hvalue.start
    exact fun heq => hbracket (List.cons.inj heq).1
  cases h with
  | last hbefore hvalue _ =>
    simpa only [List.append_assoc] using hstart hbefore hvalue _
  | cons hbefore hvalue _ _ =>
    simpa only [List.append_assoc] using hstart hbefore hvalue _

theorem dropBlanks_quote {gap : List Char} (h : IsGap gap) (rest : List Char) :
    dropBlanks (gap ++ '"' :: rest) = '"' :: rest := by
  rw [dropBlanks_gap h, dropBlanks_cons (by decide)]

theorem WrittenMembers.dropBlanks_ne {cs : List Char}
    {members : List (Option String × Reading)} (h : WrittenMembers cs members)
    (rest tail : List Char) : dropBlanks (cs ++ rest) ≠ '\x7d' :: tail := by
  have hquote (after : List Char) : '"' :: after ≠ '\x7d' :: tail :=
    fun heq => absurd (List.cons.inj heq).1 (by decide)
  cases h with
  | last hbefore =>
    simpa only [List.append_assoc, List.cons_append, dropBlanks_quote hbefore] using hquote _
  | cons hbefore =>
    simpa only [List.append_assoc, List.cons_append, dropBlanks_quote hbefore] using hquote _

-- ---------------------------------------------------------------------------
-- One step of reading
-- ---------------------------------------------------------------------------

namespace Reading

theorem read_congr {cs cs' : List Char} (h : dropBlanks cs = dropBlanks cs') (fuel : Nat) :
    read fuel cs = read fuel cs' := by
  cases fuel with
  | zero => rw [read, read]
  | succ fuel => rw [read, read, h]

theorem readItems_congr {cs cs' : List Char} (h : dropBlanks cs = dropBlanks cs') (fuel : Nat) :
    readItems fuel cs = readItems fuel cs' := by
  cases fuel with
  | zero => rw [readItems, readItems]
  | succ fuel => rw [readItems, readItems, read_congr h]

theorem readMembers_congr {cs cs' : List Char} (h : dropBlanks cs = dropBlanks cs') (fuel : Nat) :
    readMembers fuel cs = readMembers fuel cs' := by
  cases fuel with
  | zero => rw [readMembers, readMembers]
  | succ fuel => rw [readMembers, readMembers, h]

variable {fuel : Nat} {cs body rest : List Char}

theorem read_number {c : Char} {tail : List Char} {lexeme : NumberLexeme}
    (h : dropBlanks cs = c :: tail) (hc : c = '-' ∨ c.isDigit = true)
    (hread : NumberLexeme.read? (c :: tail) = some (lexeme, rest)) :
    read (fuel + 1) cs = (.number lexeme, some rest) := by
  obtain ⟨-, -, hn, ht, hf, hquote, hbracket, hbrace⟩ := number_start_ne hc
  rw [read, h]
  split <;> simp_all

theorem read_quote (h : dropBlanks cs = '"' :: body) :
    read (fuel + 1) cs = match readString .empty body with
      | some (text, rest) => (.string text, some rest)
      | none => (.malformed, none) := by
  rw [read, h]
  rfl

theorem read_bracket (h : dropBlanks cs = '[' :: body) :
    read (fuel + 1) cs = match dropBlanks body with
      | ']' :: rest => (.array [] true, some rest)
      | rest => (.array (readItems fuel rest).1 (readItems fuel rest).2.isSome,
          (readItems fuel rest).2) := by
  rw [read, h]
  rfl

theorem read_brace (h : dropBlanks cs = '\x7b' :: body) :
    read (fuel + 1) cs = match dropBlanks body with
      | '\x7d' :: rest => (.object [] true, some rest)
      | rest => (.object (readMembers fuel rest).1 (readMembers fuel rest).2.isSome,
          (readMembers fuel rest).2) := by
  rw [read, h]
  rfl

theorem read_array {items : List Reading} (h : dropBlanks cs = '[' :: body)
    (hne : ∀ tail, dropBlanks body ≠ ']' :: tail)
    (hitems : readItems fuel body = (items, some rest)) :
    read (fuel + 1) cs = (.array items true, some rest) := by
  rw [readItems_congr (dropBlanks_dropBlanks body).symm] at hitems
  rw [read_bracket h]
  split
  · rename_i tail heq
    exact absurd heq (hne tail)
  · rw [hitems]
    rfl

theorem read_object {members : List (Option String × Reading)}
    (h : dropBlanks cs = '\x7b' :: body) (hne : ∀ tail, dropBlanks body ≠ '\x7d' :: tail)
    (hmembers : readMembers fuel body = (members, some rest)) :
    read (fuel + 1) cs = (.object members true, some rest) := by
  rw [readMembers_congr (dropBlanks_dropBlanks body).symm] at hmembers
  rw [read_brace h]
  split
  · rename_i tail heq
    exact absurd heq (hne tail)
  · rw [hmembers]
    rfl

theorem readItems_last {after : List Char} {item : Reading} (hgap : IsGap after)
    (hread : read fuel cs = (item, some (after ++ ']' :: rest))) :
    readItems (fuel + 1) cs = ([item], some rest) := by
  rw [readItems, hread]
  dsimp only
  rw [dropBlanks_gap hgap, dropBlanks_cons (by decide)]
  rfl

theorem readItems_cons {after more : List Char} {item : Reading} {items : List Reading}
    (hgap : IsGap after) (hread : read fuel cs = (item, some (after ++ ',' :: more)))
    (hmore : readItems fuel more = (items, some rest)) :
    readItems (fuel + 1) cs = (item :: items, some rest) := by
  rw [readItems, hread]
  dsimp only
  rw [dropBlanks_gap hgap, dropBlanks_cons (by decide)]
  show (item :: (readItems fuel more).1, (readItems fuel more).2) = _
  rw [hmore]

theorem readMembers_last {spelling colon after : List Char} {name : String} {value : Reading}
    (h : dropBlanks cs = '"' :: (spelling ++ '"' :: (colon ++ ':' :: body)))
    (hname : Spells spelling name.toList) (hcolon : IsGap colon) (hgap : IsGap after)
    (hread : read fuel body = (value, some (after ++ '\x7d' :: rest))) :
    readMembers (fuel + 1) cs = ([(some name, value)], some rest) := by
  have hbody : dropBlanks (colon ++ ':' :: body) = ':' :: body := by
    rw [dropBlanks_gap hcolon, dropBlanks_cons (by decide)]
  have hend := dropBlanks_cons (c := '\x7d') (by decide) rest
  simp only [readMembers, h, readString_quoted hname, hbody, hread, dropBlanks_gap hgap, hend]

theorem readMembers_cons {spelling colon after more : List Char} {name : String} {value : Reading}
    {members : List (Option String × Reading)}
    (h : dropBlanks cs = '"' :: (spelling ++ '"' :: (colon ++ ':' :: body)))
    (hname : Spells spelling name.toList) (hcolon : IsGap colon) (hgap : IsGap after)
    (hread : read fuel body = (value, some (after ++ ',' :: more)))
    (hmore : readMembers fuel more = (members, some rest)) :
    readMembers (fuel + 1) cs = ((some name, value) :: members, some rest) := by
  have hbody : dropBlanks (colon ++ ':' :: body) = ':' :: body := by
    rw [dropBlanks_gap hcolon, dropBlanks_cons (by decide)]
  have hcomma := dropBlanks_cons (c := ',') (by decide) more
  simp only [readMembers, h, readString_quoted hname, hbody, hread, dropBlanks_gap hgap, hcomma,
    hmore]

-- ---------------------------------------------------------------------------
-- Whole texts
-- ---------------------------------------------------------------------------

mutual

/-- Reading a text of a tree gives the tree and leaves what follows. -/
theorem read_of_written {cs : List Char} {tree : Reading} (h : Written cs tree) {rest : List Char}
    (hrest : EndsValue rest) {fuel : Nat} (hfuel : 2 * cs.length ≤ fuel) :
    read fuel (cs ++ rest) = (tree, some rest) := by
  have hstart := h.dropBlanks_append rest
  obtain ⟨fuel, rfl⟩ : ∃ n, fuel = n + 1 := by
    obtain ⟨c, tail, rfl, -⟩ := h.start
    rw [List.length_cons] at hfuel
    exact ⟨fuel - 1, by omega⟩
  cases h with
  | null => rw [read, hstart]; rfl
  | bool b => cases b <;> (rw [read, hstart]; rfl)
  | integer n =>
    obtain ⟨c, tail, heq, hc⟩ := exists_cons_numberChars n
    have hread := read?_integer n hrest.endsNumber
    rw [heq] at hstart hread ⊢
    exact read_number hstart hc hread
  | string hspells =>
    simp only [List.cons_append, List.append_assoc, List.nil_append] at hstart ⊢
    rw [read_quote hstart, readString_quoted hspells]
  | emptyArray hgap =>
    have hend := dropBlanks_cons (c := ']') (by decide) rest
    simp only [List.cons_append, List.append_assoc, List.nil_append] at hstart ⊢
    rw [read_bracket hstart, dropBlanks_gap hgap, hend]
    rfl
  | emptyObject hgap =>
    have hend := dropBlanks_cons (c := '\x7d') (by decide) rest
    simp only [List.cons_append, List.append_assoc, List.nil_append] at hstart ⊢
    rw [read_brace hstart, dropBlanks_gap hgap, hend]
    rfl
  | array hitems =>
    rw [List.length_cons] at hfuel
    exact read_array hstart (hitems.dropBlanks_ne rest) (readItems_of_written hitems (by omega))
  | object hmembers =>
    rw [List.length_cons] at hfuel
    exact read_object hstart (hmembers.dropBlanks_ne rest)
      (readMembers_of_written hmembers (by omega))

theorem readItems_of_written {cs : List Char} {items : List Reading} (h : WrittenItems cs items)
    {rest : List Char} {fuel : Nat} (hfuel : 2 * cs.length ≤ fuel) :
    readItems fuel (cs ++ rest) = (items, some rest) := by
  cases h with
  | last hbefore hvalue hafter =>
    simp only [List.length_append, List.length_singleton] at hfuel
    obtain ⟨fuel, rfl⟩ : ∃ n, fuel = n + 1 := ⟨fuel - 1, by omega⟩
    simp only [List.append_assoc, List.singleton_append]
    refine readItems_last hafter ?_
    rw [read_congr (dropBlanks_gap hbefore _)]
    exact read_of_written hvalue (endsValue_gap hafter (endsValue_bracket rest)) (by omega)
  | cons hbefore hvalue hafter hmore =>
    simp only [List.length_append, List.length_cons] at hfuel
    obtain ⟨fuel, rfl⟩ : ∃ n, fuel = n + 1 := ⟨fuel - 1, by omega⟩
    simp only [List.append_assoc, List.cons_append]
    refine readItems_cons hafter ?_ (readItems_of_written hmore (by omega))
    rw [read_congr (dropBlanks_gap hbefore _)]
    exact read_of_written hvalue (endsValue_gap hafter (endsValue_comma _)) (by omega)

theorem readMembers_of_written {cs : List Char} {members : List (Option String × Reading)}
    (h : WrittenMembers cs members) {rest : List Char} {fuel : Nat}
    (hfuel : 2 * cs.length ≤ fuel) : readMembers fuel (cs ++ rest) = (members, some rest) := by
  cases h with
  | last hbefore hname hcolon hgap hvalue hafter =>
    simp only [List.length_append, List.length_cons, List.length_nil] at hfuel
    obtain ⟨fuel, rfl⟩ : ∃ n, fuel = n + 1 := ⟨fuel - 1, by omega⟩
    simp only [List.append_assoc, List.cons_append, List.nil_append]
    refine readMembers_last (dropBlanks_quote hbefore _) hname hcolon hafter ?_
    rw [read_congr (dropBlanks_gap hgap _)]
    exact read_of_written hvalue (endsValue_gap hafter (endsValue_brace rest)) (by omega)
  | cons hbefore hname hcolon hgap hvalue hafter hmore =>
    simp only [List.length_append, List.length_cons] at hfuel
    obtain ⟨fuel, rfl⟩ : ∃ n, fuel = n + 1 := ⟨fuel - 1, by omega⟩
    simp only [List.append_assoc, List.cons_append]
    refine readMembers_cons (dropBlanks_quote hbefore _) hname hcolon hafter ?_
      (readMembers_of_written hmore (by omega))
    rw [read_congr (dropBlanks_gap hgap _)]
    exact read_of_written hvalue (endsValue_gap hafter (endsValue_comma _)) (by omega)

end

/-- A text of a tree is read as the tree, to its end. -/
theorem ofText_of_writtenText {text : String} {tree : Reading} (h : WrittenText text tree) :
    ofText text = (tree, true) := by
  obtain ⟨before, cs, after, hbefore, hwritten, hafter, htext⟩ := h
  have hlength : 2 * cs.length ≤ 2 * text.toList.length + 2 := by
    rw [htext]
    simp only [List.length_append]
    omega
  have hrest : EndsValue after := by simpa using endsValue_gap hafter endsValue_nil
  have hread : read (2 * text.toList.length + 2) text.toList = (tree, some after) := by
    rw [← read_of_written hwritten hrest hlength]
    exact read_congr (by rw [htext, dropBlanks_gap hbefore]) _
  have hend : dropBlanks after = [] := by
    rw [← List.append_nil after, dropBlanks_gap hafter]
    rfl
  rw [ofText, hread]
  simp [hend]

end Reading

end NodeLaunch.Json
