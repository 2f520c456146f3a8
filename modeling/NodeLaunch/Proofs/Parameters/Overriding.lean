import Mathlib.Data.List.Basic
import Mathlib.Data.List.Induction
import NodeLaunch.Parameters.Basic

/-!
# Overriding

A run of assignments, each a name and a value, comes to one list of parameters:
every assigned name once, in the order of the first assignments, with the value
of its last one. `Parameters.setAll` computes that list by updating in place.
A run may be merged in parts: the merged list of a part stands for the part.
-/

namespace NodeLaunch.Parameters

def lastValue? (assignments : List (String × String)) (name : String) : Option String :=
  assignments.reverse.lookup name

/-- The assigned names in the order of their first assignments. -/
def assignedNames (assignments : List (String × String)) : List String :=
  (assignments.map (·.1)).eraseDups

def merged (assignments : List (String × String)) : Parameters :=
  (assignedNames assignments).filterMap fun name =>
    (lastValue? assignments name).map (name, ·)

-- ---------------------------------------------------------------------------
-- First occurrences
-- ---------------------------------------------------------------------------

section
variable {α : Type} [DecidableEq α]

theorem eraseDups_concat (l : List α) (a : α) :
    (l ++ [a]).eraseDups = if a ∈ l then l.eraseDups else l.eraseDups ++ [a] := by
  rw [List.eraseDups_append]
  by_cases h : a ∈ l
  · simp [List.removeAll, h]
  · simp [List.removeAll, h, List.eraseDups_cons]

theorem nodup_eraseDups (l : List α) : l.eraseDups.Nodup := by
  induction l using List.reverseRecOn with
  | nil => simp
  | append_singleton l b ih =>
    rw [eraseDups_concat]
    by_cases h : b ∈ l
    · rwa [if_pos h]
    · rw [if_neg h]
      refine List.nodup_append.2 ⟨ih, by simp, ?_⟩
      rintro x hx y hy rfl
      exact h (List.mem_singleton.1 hy ▸ List.mem_eraseDups.1 hx)

theorem eraseDups_append_eraseDups (l m : List α) :
    (l ++ m.eraseDups).eraseDups = (l ++ m).eraseDups := by
  induction m using List.reverseRecOn with
  | nil => simp
  | append_singleton m b ih =>
    rw [eraseDups_concat, ← List.append_assoc, eraseDups_concat, ← ih]
    by_cases h : b ∈ m
    · simp [h]
    · rw [if_neg h, ← List.append_assoc, eraseDups_concat]
      simp only [List.mem_append, List.mem_eraseDups]

end

-- ---------------------------------------------------------------------------
-- Parameters with distinct names
-- ---------------------------------------------------------------------------

theorem find?_cons (params : Parameters) (first name value : String) :
    find? ((first, value) :: params) name =
      if name = first then some value else params.find? name := by
  by_cases h : name = first
  · simp [find?, h]
  · have hb : (name == first) = false := by simpa using h
    simp [find?, List.lookup_cons, h, hb]

/-- Distinct names in an order, and a value for each, are all there is to parameters. -/
theorem eq_filterMap_names {params : Parameters} (h : params.names.Nodup) :
    params = params.names.filterMap fun name => (params.find? name).map (name, ·) := by
  induction params with
  | nil => rfl
  | cons entry rest ih =>
    obtain ⟨first, value⟩ := entry
    obtain ⟨hfresh, hrest⟩ := List.nodup_cons.1 h
    -- The later names are not the first one, so the first entry hides none of them.
    have htail : (names rest).filterMap (fun name =>
          (find? ((first, value) :: rest) name).map (name, ·)) =
        (names rest).filterMap fun name => (find? rest name).map (name, ·) := by
      refine List.filterMap_congr fun name hname => ?_
      have hne : name ≠ first := fun heq => hfresh (heq ▸ hname)
      rw [find?_cons, if_neg hne]
    rw [names_cons, List.filterMap_cons, find?_cons, if_pos rfl, htail, ← ih hrest]
    rfl

-- ---------------------------------------------------------------------------
-- One assignment after the other
-- ---------------------------------------------------------------------------

theorem setAll_concat (params : Parameters) (more : List (String × String))
    (last : String × String) :
    params.setAll (more ++ [last]) = (params.setAll more).set last.1 last.2 := by
  simp [setAll]

theorem setAll_append (params : Parameters) (a b : List (String × String)) :
    params.setAll (a ++ b) = (params.setAll a).setAll b := by
  simp [setAll]

theorem lastValue?_append (a b : List (String × String)) (name : String) :
    lastValue? (a ++ b) name = (lastValue? b name).or (lastValue? a name) := by
  rw [lastValue?, List.reverse_append, List.lookup_append]
  rfl

theorem lastValue?_concat (assignments : List (String × String)) (name value other : String) :
    lastValue? (assignments ++ [(name, value)]) other =
      if other = name then some value else lastValue? assignments other := by
  rw [lastValue?_append]
  by_cases h : other = name <;> simp [lastValue?, h]

theorem names_setAll_nil (assignments : List (String × String)) :
    (setAll [] assignments).names = assignedNames assignments := by
  induction assignments using List.reverseRecOn with
  | nil => rfl
  | append_singleton assignments last ih =>
    simp only [setAll_concat, names_set, ih, assignedNames, List.map_append, List.map_cons,
      List.map_nil, eraseDups_concat, List.mem_eraseDups]

theorem find?_setAll_nil (assignments : List (String × String)) (name : String) :
    (setAll [] assignments).find? name = lastValue? assignments name := by
  induction assignments using List.reverseRecOn with
  | nil => rfl
  | append_singleton assignments last ih =>
    obtain ⟨first, value⟩ := last
    rw [setAll_concat, find?_set, ih, lastValue?_concat]

theorem setAll_nil_eq_merged (assignments : List (String × String)) :
    setAll [] assignments = merged assignments := by
  have hn : (setAll [] assignments).names.Nodup := by
    rw [names_setAll_nil]
    exact nodup_eraseDups _
  rw [eq_filterMap_names hn, names_setAll_nil]
  simp only [find?_setAll_nil]
  rfl

example : merged [("speed", "1"), ("gain", "2"), ("speed", "3")] =
    [("speed", "3"), ("gain", "2")] := by decide

theorem names_merged (assignments : List (String × String)) :
    (merged assignments).names = assignedNames assignments := by
  rw [← setAll_nil_eq_merged, names_setAll_nil]

theorem find?_merged (assignments : List (String × String)) (name : String) :
    (merged assignments).find? name = lastValue? assignments name := by
  rw [← setAll_nil_eq_merged, find?_setAll_nil]

theorem nodup_names_merged (assignments : List (String × String)) :
    (merged assignments).names.Nodup := by
  rw [names_merged]
  exact nodup_eraseDups _

-- ---------------------------------------------------------------------------
-- Merging in parts
-- ---------------------------------------------------------------------------

theorem set_of_not_mem {params : Parameters} {name : String} (h : name ∉ params.names)
    (value : String) : params.set name value = params ++ [(name, value)] := by
  induction params with
  | nil => rfl
  | cons entry rest ih =>
    obtain ⟨first, old⟩ := entry
    rw [names_cons, List.mem_cons, not_or] at h
    rw [set, if_neg (Ne.symm h.1), ih h.2]
    rfl

theorem merged_of_nodup {params : Parameters} (h : params.names.Nodup) :
    merged params = params := by
  rw [← setAll_nil_eq_merged]
  induction params using List.reverseRecOn with
  | nil => rfl
  | append_singleton params last ih =>
    have hnames : names (params ++ [last]) = names params ++ [last.1] := by
      simp [names]
    rw [hnames, List.nodup_append] at h
    obtain ⟨hparams, -, hdisjoint⟩ := h
    rw [setAll_concat, ih hparams]
    exact set_of_not_mem (fun hmem => hdisjoint _ hmem _ (.head _) rfl) _

theorem lastValue?_of_nodup {params : Parameters} (h : params.names.Nodup) (name : String) :
    lastValue? params name = params.find? name := by
  rw [← find?_merged, merged_of_nodup h]

theorem lastValue?_merged (assignments : List (String × String)) (name : String) :
    lastValue? (merged assignments) name = lastValue? assignments name := by
  rw [lastValue?_of_nodup (nodup_names_merged _), find?_merged]

/-- The merged list of the later part stands for the part. -/
theorem merged_append_merged (a b : List (String × String)) :
    merged (a ++ merged b) = merged (a ++ b) := by
  have hnames : assignedNames (a ++ merged b) = assignedNames (a ++ b) := by
    have hb : (merged b).map (·.1) = (b.map (·.1)).eraseDups := names_merged b
    rw [assignedNames, List.map_append, hb, eraseDups_append_eraseDups, ← List.map_append]
    rfl
  have hvalue : lastValue? (a ++ merged b) = lastValue? (a ++ b) := by
    funext name
    rw [lastValue?_append, lastValue?_append, lastValue?_merged]
  rw [merged, hnames, hvalue]
  rfl

/-- Parts that are merged each for itself and then one over the other come to
what all their assignments come to. -/
theorem foldl_setAll_merged (parts : List (List (String × String))) :
    (parts.map merged).foldl setAll [] = merged parts.flatten := by
  induction parts using List.reverseRecOn with
  | nil => rfl
  | append_singleton parts part ih =>
    rw [List.map_append, List.foldl_append, List.map_singleton, List.foldl_cons, List.foldl_nil,
      ih, List.flatten_concat, ← setAll_nil_eq_merged parts.flatten, ← setAll_append,
      setAll_nil_eq_merged, merged_append_merged]

-- ---------------------------------------------------------------------------
-- Layers
-- ---------------------------------------------------------------------------

/-- The parameters are those of the layers, each layer over the earlier ones: a
name has its value from the last layer that has it and its place from the first. -/
structure IsOverlay (params : Parameters) (layers : List Parameters) : Prop where
  nodup : params.names.Nodup
  names : params.names = (layers.flatMap names).eraseDups
  find? : ∀ name, params.find? name = layers.reverse.findSome? (find? · name)

theorem lastValue?_flatten {layers : List Parameters} (h : ∀ layer ∈ layers, layer.names.Nodup)
    (name : String) :
    lastValue? layers.flatten name = layers.reverse.findSome? (find? · name) := by
  induction layers using List.reverseRecOn with
  | nil => rfl
  | append_singleton layers layer ih =>
    rw [List.flatten_concat, lastValue?_append, lastValue?_of_nodup (h layer (by simp)),
      ih fun earlier hmem => h earlier (List.mem_append_left _ hmem), List.reverse_concat,
      List.findSome?_cons]
    cases layer.find? name <;> rfl

theorem isOverlay_foldl_setAll {layers : List Parameters}
    (h : ∀ layer ∈ layers, layer.names.Nodup) : IsOverlay (layers.foldl setAll []) layers := by
  have hmerged : layers.foldl setAll [] = merged layers.flatten := by
    rw [← setAll_nil_eq_merged, setAll, List.foldl_flatten]
    rfl
  rw [hmerged]
  refine ⟨nodup_names_merged _, ?_, fun name => ?_⟩
  · rw [names_merged, assignedNames, List.map_flatten, List.flatMap_def]
    rfl
  · rw [find?_merged, lastValue?_flatten h]

end NodeLaunch.Parameters
