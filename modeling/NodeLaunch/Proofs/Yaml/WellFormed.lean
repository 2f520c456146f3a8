import NodeLaunch.Proofs.Except
import NodeLaunch.Yaml.Value

/-!
# Values of documents are well formed

No mapping in a value that is read from a text has a key twice. The keys are
compared as values, so `1` and `"1"` are two keys.
-/

namespace NodeLaunch.Yaml.Value

/-- A value that a document can hold: the keys of each mapping are different. -/
inductive WellFormed : Value → Prop
  | null : WellFormed .null
  | bool (value : Bool) : WellFormed (.bool value)
  | number (value : Number) : WellFormed (.number value)
  | string (text : String) : WellFormed (.string text)
  | sequence {items : List Value} : (∀ item ∈ items, WellFormed item) →
    WellFormed (.sequence items)
  | mapping {members : List (Value × Value)} :
    members.Pairwise (fun earlier later => same later.1 earlier.1 = false) →
    (∀ member ∈ members, WellFormed member.1) → (∀ member ∈ members, WellFormed member.2) →
    WellFormed (.mapping members)
  | tagged (tag : String) {value : Value} : WellFormed value → WellFormed (.tagged tag value)

-- ---------------------------------------------------------------------------
-- What a reading can give
-- ---------------------------------------------------------------------------

/-- Whatever the reading gives has the property. -/
def Reading.Yields (x : Reading α) (good : α → Prop) : Prop :=
  ∀ count a count', x.run count = .ok (a, count') → good a

theorem Reading.yields_pure {good : α → Prop} {a : α} (h : good a) :
    Yields (pure a : Reading α) good := by
  rintro count b count' ⟨⟩
  exact h

theorem Reading.yields_throw (good : α → Prop) (fault : Fault) :
    Yields (throw fault : Reading α) good := by
  rintro count a count' ⟨⟩

theorem Reading.Yields.bind {x : Reading α} {f : α → Reading β} {good : α → Prop}
    {better : β → Prop} (hx : Yields x good) (hf : ∀ a, good a → Yields (f a) better) :
    Yields (x >>= f) better := by
  intro count b count' h
  rw [StateT.run_bind] at h
  cases hrun : x.run count with
  | error fault =>
    rw [hrun] at h
    cases h
  | ok result =>
    rw [hrun] at h
    exact hf result.1 (hx _ _ _ hrun) _ _ _ h

theorem Reading.yields_true (x : Reading α) : Yields x fun _ => True :=
  fun _ _ _ _ => trivial

theorem Reading.yields_lift {good : α → Prop} {x : Except Fault α}
    (h : ∀ a, x = .ok a → good a) : Yields (liftM x : Reading α) good := by
  intro count a count' hrun
  cases x with
  | error fault => cases hrun
  | ok value =>
    cases hrun
    exact h _ rfl

-- ---------------------------------------------------------------------------
-- Scalars
-- ---------------------------------------------------------------------------

theorem wellFormed_ofPlain {text : String} {value : Value} (h : ofPlain text = .ok value) :
    value.WellFormed := by
  unfold ofPlain at h
  split at h
  · cases h
    exact .null
  · split at h
    · cases h
      exact .bool _
    · split at h
      · cases h
        exact .number _
      · cases h
      · split at h
        · cases h
          exact .string _
        · split at h
          · cases h
            exact .number _
          · cases h
            exact .string _

theorem wellFormed_of_elim {x : Option α} {f : α → Value} {value : Value}
    (hf : ∀ a, (f a).WellFormed)
    (h : (x.elim (.error .scalar) fun a => .ok (f a)) = (.ok value : Except Fault Value)) :
    value.WellFormed := by
  cases x with
  | none => cases h
  | some a =>
    cases h
    exact hf a

theorem wellFormed_ofScalar {tag : Option Tag} {text : String} {plain : Bool} {value : Value}
    (h : ofScalar tag text plain = .ok value) : value.WellFormed := by
  unfold ofScalar at h
  split at h
  · split at h
    · exact wellFormed_ofPlain h
    · cases h
      exact .string _
  · split at h
    · exact wellFormed_of_elim .bool h
    · split at h
      · split at h
        · cases h
          exact .number _
        · cases h
      · split at h
        · exact wellFormed_of_elim (fun x => .number (.float x)) h
        · split at h
          · split at h
            · cases h
              exact .null
            · cases h
          · split at h
            · exact wellFormed_ofPlain h
            · cases h
              exact .string _

theorem wellFormed_ofTaggedScalar {tag : Option Tag} {text : String} {plain : Bool}
    {value : Value} (h : ofTaggedScalar tag text plain = .ok value) : value.WellFormed := by
  unfold ofTaggedScalar at h
  split at h
  · split at h
    · cases hplain : ofPlain text with
      | error fault =>
        rw [hplain] at h
        cases h
      | ok inner =>
        rw [hplain] at h
        cases h
        exact .tagged _ (wellFormed_ofPlain hplain)
    · cases h
      exact .tagged _ (.string _)
  · exact wellFormed_ofScalar h

-- ---------------------------------------------------------------------------
-- Collections
-- ---------------------------------------------------------------------------

theorem WellFormed.underTag {value : Value} (h : value.WellFormed) (tag : Option Tag) :
    (Value.underTag tag value).WellFormed := by
  rw [Value.underTag]
  split
  · exact .tagged _ h
  · exact h

section
variable {read : Node Nat → Reading Value}

theorem yields_readItems (hread : ∀ node, (read node).Yields WellFormed)
    (items : List (Node Nat)) :
    (readItems read items).Yields fun values => ∀ value ∈ values, value.WellFormed := by
  induction items with
  | nil => exact Reading.yields_pure (by simp)
  | cons item rest ih =>
    refine (hread item).bind fun value hvalue => ih.bind fun values hvalues => ?_
    exact Reading.yields_pure (List.forall_mem_cons.2 ⟨hvalue, hvalues⟩)

theorem WellFormed.concat {before : List (Value × Value)} {key value : Value}
    (hbefore : (Value.mapping before).WellFormed) (hkey : key.WellFormed)
    (hvalue : value.WellFormed) (hnew : ¬hasKey before key) :
    (Value.mapping (before ++ [(key, value)])).WellFormed := by
  cases hbefore with
  | mapping hdistinct hkeys hvalues =>
    refine .mapping (List.pairwise_append.2 ⟨hdistinct, List.pairwise_singleton _ _, ?_⟩) ?_ ?_
    · intro earlier hearlier later hlater
      rw [List.mem_singleton.1 hlater]
      simp only [hasKey, List.any_eq_true, not_exists, not_and, Bool.not_eq_true] at hnew
      exact hnew earlier hearlier
    · exact List.forall_mem_append.2 ⟨hkeys, by simpa using hkey⟩
    · exact List.forall_mem_append.2 ⟨hvalues, by simpa using hvalue⟩

/-- Each key is compared with the earlier ones before it is added to them. -/
theorem yields_readMembers (hread : ∀ node, (read node).Yields WellFormed)
    {before : List (Value × Value)} (hbefore : (Value.mapping before).WellFormed)
    (members : List (Node Nat × Node Nat)) :
    (readMembers read before members).Yields fun values => (Value.mapping values).WellFormed := by
  induction members generalizing before with
  | nil => exact Reading.yields_pure hbefore
  | cons member rest ih =>
    obtain ⟨key, value⟩ := member
    refine (hread key).bind fun key hkey => (hread value).bind fun value hvalue => ?_
    by_cases hold : hasKey before key
    · rw [if_pos hold]
      exact (Reading.yields_throw (fun _ => False) _).bind fun _ hfalse => hfalse.elim
    · rw [if_neg hold]
      exact ih (hbefore.concat hkey hvalue hold)

end

theorem yields_read (aliases : Aliases) (depth : Nat) (node : Node Nat) :
    (read aliases depth node).Yields WellFormed := by
  induction depth generalizing node with
  | zero =>
    rw [read]
    refine (Reading.yields_true _).bind fun target _ => ?_
    cases target with
    | scalar p text plain => exact Reading.yields_lift fun _ => wellFormed_ofTaggedScalar
    | _ => exact Reading.yields_throw _ _
  | succ depth ih =>
    rw [read]
    refine (Reading.yields_true _).bind fun target _ => ?_
    cases target with
    | scalar p text plain => exact Reading.yields_lift fun _ => wellFormed_ofTaggedScalar
    | sequence p items =>
      refine (yields_readItems ih items).bind fun values hvalues => ?_
      exact Reading.yields_pure (WellFormed.underTag (.sequence hvalues) p.tag)
    | mapping p members =>
      refine (yields_readMembers ih (.mapping .nil (by simp) (by simp)) members).bind ?_
      intro values hvalues
      exact Reading.yields_pure (hvalues.underTag p.tag)
    | _ => exact Reading.yields_throw _ _

theorem wellFormed_ofNode {node : Node String} {value : Value} (h : ofNode node = .ok value) :
    value.WellFormed := by
  obtain ⟨⟨names, root⟩, -, h⟩ := exists_of_bind_eq_ok h
  obtain ⟨⟨result, followed⟩, hread, h⟩ := exists_of_bind_eq_ok h
  cases h
  exact yields_read _ _ _ _ _ _ hread

theorem wellFormed_parse {text : String} {value : Value} (h : parse text = .ok value) :
    value.WellFormed := by
  obtain ⟨tokens, -, h⟩ := exists_of_bind_eq_ok h
  obtain ⟨node?, -, h⟩ := exists_of_bind_eq_ok h
  cases node? with
  | some node => exact wellFormed_ofNode h
  | none =>
    cases h
    exact .null

end NodeLaunch.Yaml.Value
