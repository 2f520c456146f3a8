import Mathlib.Data.List.Basic
import NodeLaunch.NameMap

/-!
# A map is what it answers

The entries of a `NameMap` are its answers in the order of the names, so two
maps with the same answers are equal. Entries of different names are all kept, and
the order in which they come does not matter.
-/

namespace NodeLaunch.NameMap

variable {α : Type}

theorem mem_entries_iff {map : NameMap α} {name : String} {value : α} :
    (name, value) ∈ map.entries ↔ map.find? name = some value := by
  rw [find?, List.lookup_eq_some_iff]
  constructor
  · intro h
    obtain ⟨before, after, heq⟩ := List.append_of_mem h
    refine ⟨before, after, heq, fun entry hentry => ?_⟩
    -- The entries are in strict order, so no earlier one has the same name.
    have hsorted := map.sorted
    rw [heq, List.pairwise_append] at hsorted
    have hlt := hsorted.2.2 entry hentry (name, value) (.head _)
    simpa using (Std.ne_of_lt hlt).symm
  · rintro ⟨before, after, heq, -⟩
    rw [heq]
    simp

theorem nodup_entries (map : NameMap α) : map.entries.Nodup := by
  refine List.Pairwise.imp ?_ map.sorted
  rintro a b hlt rfl
  exact String.lt_irrefl _ hlt

theorem ext_find? {a b : NameMap α} (h : ∀ name, a.find? name = b.find? name) : a = b := by
  have hmem : ∀ entry : String × α, entry ∈ a.entries ↔ entry ∈ b.entries := by
    rintro ⟨name, value⟩
    rw [mem_entries_iff, mem_entries_iff, h]
  have hperm : a.entries.Perm b.entries :=
    (List.perm_ext_iff_of_nodup a.nodup_entries b.nodup_entries).2 hmem
  have hentries : a.entries = b.entries := by
    refine hperm.eq_of_pairwise (fun x y _ _ hxy hyx => ?_) a.sorted b.sorted
    exact absurd (String.lt_trans hxy hyx) (String.lt_irrefl _)
  cases a
  cases b
  cases hentries
  rfl

/-- Entries of different names answer the same in any order. -/
theorem lookup_perm {entries others : List (String × α)} (h : entries.Perm others)
    (hnames : (others.map (·.1)).Nodup) (name : String) :
    entries.lookup name = others.lookup name := by
  induction h with
  | nil => rfl
  | cons entry _ ih =>
    rw [List.map_cons, List.nodup_cons] at hnames
    rw [lookup_cons_ite, lookup_cons_ite, ih hnames.2]
  | swap first second rest =>
    have hne : second.1 ≠ first.1 := by
      rw [List.map_cons, List.nodup_cons] at hnames
      exact fun heq => hnames.1 (heq ▸ List.mem_cons_self ..)
    rw [lookup_cons_ite, lookup_cons_ite, lookup_cons_ite, lookup_cons_ite]
    grind
  | trans _ hsecond ih₁ ih₂ =>
    exact (ih₁ ((hsecond.map _).nodup_iff.2 hnames)).trans (ih₂ hnames)

-- ---------------------------------------------------------------------------
-- New names
-- ---------------------------------------------------------------------------

def insertAll (map : NameMap α) (entries : List (String × α)) : NameMap α :=
  entries.foldl (fun map (name, value) => map.insert name value) map

theorem perm_insertEntry {name : String} {value : α} {entries : List (String × α)}
    (h : ∀ entry ∈ entries, entry.1 ≠ name) :
    (insertEntry name value entries).Perm ((name, value) :: entries) := by
  induction entries with
  | nil => exact .refl _
  | cons first rest ih =>
    obtain ⟨other, old⟩ := first
    rw [List.forall_mem_cons] at h
    rw [insertEntry]
    split
    · exact .refl _
    · rw [if_neg (Ne.symm h.1)]
      exact ((ih h.2).cons _).trans (.swap _ _ _)

theorem perm_insertAll {map : NameMap α} {entries : List (String × α)}
    (h : ((map.entries ++ entries).map (·.1)).Nodup) :
    (map.insertAll entries).entries.Perm (map.entries ++ entries) := by
  induction entries generalizing map with
  | nil => rw [List.append_nil]; exact .refl _
  | cons first rest ih =>
    obtain ⟨name, value⟩ := first
    have hnew : ∀ entry ∈ map.entries, entry.1 ≠ name := by
      rw [List.map_append, List.nodup_append] at h
      exact fun entry hentry => h.2.2 _ (List.mem_map_of_mem hentry) _ (by simp)
    have hstep : ((map.insert name value).entries ++ rest).Perm
        (map.entries ++ (name, value) :: rest) :=
      ((perm_insertEntry hnew).append_right rest).trans List.perm_middle.symm
    exact (ih ((hstep.map _).nodup_iff.2 h)).trans hstep

end NodeLaunch.NameMap
