/-!
# Node parameters

Parameters are names with values, both texts, in the order in which the names
first came up. Giving a name a new value leaves it in its place.
-/

namespace NodeLaunch

abbrev Parameters := List (String × String)

namespace Parameters

/-- The value for the name, in its old place or at the end. -/
def set (name value : String) : Parameters → Parameters
  | [] => [(name, value)]
  | (other, old) :: rest =>
    if other = name then (other, value) :: rest else (other, old) :: set name value rest

def find? (params : Parameters) (name : String) : Option String :=
  (params.lookup name)

def setAll (params : Parameters) (more : List (String × String)) : Parameters :=
  more.foldl (fun params (name, value) => params.set name value) params

def names (params : Parameters) : List String := params.map (·.1)

theorem find?_set (params : Parameters) (name other value : String) :
    (params.set name value).find? other =
      if other = name then some value else params.find? other := by
  induction params with
  | nil =>
    by_cases h : other = name
    · subst h; simp [set, find?]
    · have hb : (other == name) = false := by simpa using h
      simp [set, find?, List.lookup_cons, hb, h]
  | cons entry rest ih =>
    obtain ⟨first, old⟩ := entry
    simp only [set, find?] at ih ⊢
    by_cases hf : first = name
    · subst hf
      by_cases h : other = first
      · subst h; simp
      · have hb : (other == first) = false := by simpa using h
        simp [List.lookup_cons, hb, h]
    · simp only [hf, if_false, List.lookup_cons]
      by_cases h : other = first
      · subst h
        have hn : other ≠ name := hf
        simp [hn]
      · have hb : (other == first) = false := by simpa using h
        simp only [hb]
        exact ih

@[simp] theorem names_nil : names [] = [] := rfl

@[simp] theorem names_cons (name value : String) (rest : Parameters) :
    names ((name, value) :: rest) = name :: names rest := rfl

/-- A name that is there stays in its place; another goes to the end. -/
theorem names_set (params : Parameters) (name value : String) :
    (params.set name value).names =
      if name ∈ params.names then params.names else params.names ++ [name] := by
  induction params with
  | nil => simp [set]
  | cons entry rest ih =>
    obtain ⟨first, old⟩ := entry
    by_cases hf : first = name
    · subst hf; simp [set]
    · have hn : name ≠ first := fun h => hf h.symm
      by_cases hm : name ∈ names rest
      · rw [if_pos hm] at ih
        simp [set, hf, hm, ih]
      · rw [if_neg hm] at ih
        simp [set, hf, hn, hm, ih]

end Parameters

end NodeLaunch
