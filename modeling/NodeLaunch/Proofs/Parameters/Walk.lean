import NodeLaunch.Parameters.Document
import NodeLaunch.Proofs.Parameters.Overriding
import NodeLaunch.Proofs.Parameters.Pattern

/-!
# What a document assigns

A document read as data, without names being built or parameters being updated
on the way. Its sections have paths of segments, the leaves of a section have
paths of keys, and the sections for a node assign each of their leaves a value,
in the order of the document. The parameters for the node are what these
assignments come to.
-/

namespace NodeLaunch.ParameterDocument

open Yaml (Value)
open Parameters (merged)

-- ---------------------------------------------------------------------------
-- Sections and leaves
-- ---------------------------------------------------------------------------

/-- The members under `ros__parameters`, and the segments of all the keys above. -/
structure Section where
  path : List String
  members : List (Value × Value)

mutual

/-- The sections in a value that stands below these segments. A mapping with
the key `ros__parameters` is a section or nothing; only one without it is
searched. -/
def sectionsAt (path : List String) : Value → List Section
  | .mapping members =>
    match member? parametersKey members with
    | some (.mapping own) => [⟨path, own⟩]
    | some _ => []
    | none => sectionsIn path members
  | _ => []

def sectionsIn (path : List String) : List (Value × Value) → List Section
  | [] => []
  | (key, value) :: rest =>
    match keyText? key with
    | some key => sectionsAt (path ++ Text.segments key) value ++ sectionsIn path rest
    | none => sectionsIn path rest

end

/-- The sections of a document. Its root is no section, whatever keys it has. -/
def sections : Value → List Section
  | .mapping members => sectionsIn [] members
  | _ => []

/-- A value that is no mapping, as its text, and the keys that lead to it. -/
structure Leaf where
  keys : List String
  text : String
  deriving DecidableEq, Repr

mutual

/-- The leaves of a value that stands below these keys; tags do not count. -/
def leavesAt (keys : List String) : Value → List Leaf
  | .mapping members => leavesIn keys members
  | .tagged _ value => leavesAt keys value
  | .string s => [⟨keys, s⟩]
  | .number n => [⟨keys, Value.numberText n⟩]
  | .bool b => [⟨keys, Value.boolText b⟩]
  | .sequence items => [⟨keys, sequenceText items⟩]
  | .null => [⟨keys, "null"⟩]

def leavesIn (keys : List String) : List (Value × Value) → List Leaf
  | [] => []
  | (key, value) :: rest =>
    match keyText? key with
    | some key => leavesAt (keys ++ [key]) value ++ leavesIn keys rest
    | none => leavesIn keys rest

end

/-- The keys with dots between them, those before the first non-empty one left out. -/
def dottedName (keys : List String) : String := Text.join '.' (keys.dropWhile (· = ""))

def Leaf.assignment (leaf : Leaf) : String × String := (dottedName leaf.keys, leaf.text)

def Section.AppliesTo (own : Section) (node : String) : Prop :=
  SectionPattern.Covers own.path (Text.segments node)

instance (own : Section) (node : String) : Decidable (own.AppliesTo node) :=
  inferInstanceAs (Decidable (SectionPattern.Covers _ _))

def Section.assignments (own : Section) : List (String × String) :=
  (leavesIn [] own.members).map Leaf.assignment

def assignmentsOf (node : String) (all : List Section) : List (String × String) :=
  (all.filter fun own => own.AppliesTo node).flatMap Section.assignments

def assignments (node : String) (document : Value) : List (String × String) :=
  assignmentsOf node (sections document)

-- ---------------------------------------------------------------------------
-- Names
-- ---------------------------------------------------------------------------

theorem ne_empty_of_dropWhile {keys : List String} {first : String} {rest : List String}
    (h : keys.dropWhile (· = "") = first :: rest) : first ≠ "" := by
  have hhead := List.head?_dropWhile_not (fun k : String => decide (k = "")) keys
  rw [h] at hhead
  simpa using hhead

/-- A name grows by its last key as names are built on the way down: a dot
stands before the key unless nothing does. -/
theorem fullName_dottedName (keys : List String) (key : String) :
    fullName (dottedName keys) key = dottedName (keys ++ [key]) := by
  rw [dottedName, dottedName, List.dropWhile_append]
  cases hdrop : keys.dropWhile (· = "") with
  | nil =>
    by_cases hkey : key = ""
    · subst hkey
      rfl
    · simp [fullName, hkey, Text.join]
  | cons first rest =>
    rw [fullName, if_neg (Text.join_ne_empty '.' (ne_empty_of_dropWhile hdrop) rest)]
    simp only [List.isEmpty_cons, Bool.false_eq_true, if_false]
    rw [Text.join_concat '.' (by simp)]
    rfl

theorem segments_sectionBelow (above key : String) :
    Text.segments (sectionBelow above key) = Text.segments above ++ Text.segments key := by
  rw [sectionBelow, Text.segments_append, Text.segments_dropSlashes]

theorem sectionMatches_iff (name node : String) (members : List (Value × Value)) :
    sectionMatches name node = true ↔ Section.AppliesTo ⟨Text.segments name, members⟩ node :=
  SectionPattern.covers_iff

-- ---------------------------------------------------------------------------
-- Leaves are assigned one after the other
-- ---------------------------------------------------------------------------

mutual

theorem flatten_eq_setAll (keys : List String) (params : Parameters) : (value : Value) →
    flatten (dottedName keys) params value =
      params.setAll ((leavesAt keys value).map Leaf.assignment)
  | .mapping members => by
    rw [flatten, leavesAt]
    exact flattenMembers_eq_setAll keys params members
  | .tagged tag value => by
    rw [flatten, leavesAt]
    exact flatten_eq_setAll keys params value
  | .string _ | .number _ | .bool _ | .sequence _ | .null => by
    rw [flatten, leavesAt]
    rfl

theorem flattenMembers_eq_setAll (keys : List String) (params : Parameters) :
    (members : List (Value × Value)) →
    flattenMembers (dottedName keys) params members =
      params.setAll ((leavesIn keys members).map Leaf.assignment)
  | [] => by
    rw [flattenMembers, leavesIn]
    rfl
  | (key, value) :: rest => by
    rw [flattenMembers, leavesIn]
    cases keyText? key with
    | none => exact flattenMembers_eq_setAll keys params rest
    | some key =>
      simp only [fullName_dottedName, List.map_append, Parameters.setAll_append]
      rw [flatten_eq_setAll (keys ++ [key]) params value]
      exact flattenMembers_eq_setAll keys _ rest

end

-- ---------------------------------------------------------------------------
-- Sections are read one after the other
-- ---------------------------------------------------------------------------

theorem assignmentsOf_append (node : String) (a b : List Section) :
    assignmentsOf node (a ++ b) = assignmentsOf node a ++ assignmentsOf node b := by
  rw [assignmentsOf, List.filter_append, List.flatMap_append]
  rfl

theorem assignmentsOf_singleton (node : String) (own : Section) :
    assignmentsOf node [own] = if own.AppliesTo node then own.assignments else [] := by
  by_cases h : own.AppliesTo node <;> simp [assignmentsOf, h]

mutual

theorem value_collect (node name : String) (params : Parameters) : (value : Value) →
    (collect node name params value).value =
      params.setAll (assignmentsOf node (sectionsAt (Text.segments name) value))
  | .mapping members => by
    rw [collect, sectionsAt]
    cases member? parametersKey members with
    | none => exact value_collectMembers node name params members
    | some own =>
      cases own with
      | mapping own =>
        dsimp only
        rw [assignmentsOf_singleton]
        split
        · next h =>
          rw [if_pos ((sectionMatches_iff name node own).1 h)]
          exact flattenMembers_eq_setAll [] params own
        · next h =>
          rw [if_neg (mt (sectionMatches_iff name node own).2 h)]
          rfl
      | _ => rfl
  | .tagged _ _ | .string _ | .number _ | .bool _ | .sequence _ | .null => rfl

theorem value_collectMembers (node name : String) (params : Parameters) :
    (members : List (Value × Value)) →
    (collectMembers node name params members).value =
      params.setAll (assignmentsOf node (sectionsIn (Text.segments name) members))
  | [] => by
    rw [collectMembers, sectionsIn]
    rfl
  | (key, value) :: rest => by
    rw [collectMembers, sectionsIn]
    cases keyText? key with
    | none => exact value_collectMembers node name params rest
    | some key =>
      simp only [Logged.value_bind]
      rw [value_collect, value_collectMembers, segments_sectionBelow, assignmentsOf_append,
        Parameters.setAll_append]

end

theorem value_collectRoot (node : String) (params : Parameters)
    (members : List (Value × Value)) :
    (collectRoot node params members).value =
      params.setAll (assignmentsOf node (sectionsIn [] members)) := by
  induction members generalizing params with
  | nil => rfl
  | cons member rest ih =>
    obtain ⟨key, value⟩ := member
    rw [collectRoot, sectionsIn]
    cases keyText? key with
    | none => exact ih params
    | some key =>
      simp only [Logged.value_bind, List.nil_append]
      rw [value_collect, ih, assignmentsOf_append, Parameters.setAll_append]

theorem sectionsIn_append (path : List String) (a b : List (Value × Value)) :
    sectionsIn path (a ++ b) = sectionsIn path a ++ sectionsIn path b := by
  induction a with
  | nil => rfl
  | cons member rest ih =>
    obtain ⟨key, value⟩ := member
    rw [List.cons_append, sectionsIn, sectionsIn]
    cases keyText? key with
    | none => exact ih
    | some key => simp only [ih, List.append_assoc]

theorem assignments_flatten (node : String) (roots : List (List (Value × Value))) :
    assignments node (.mapping roots.flatten) =
      (roots.map fun root => assignments node (.mapping root)).flatten := by
  induction roots with
  | nil => rfl
  | cons root rest ih =>
    rw [List.flatten_cons, List.map_cons, List.flatten_cons, ← ih]
    simp only [assignments, sections, sectionsIn_append, assignmentsOf_append]

theorem value_parameters (node : String) (document : Value) :
    (parameters node document).value = merged (assignments node document) := by
  rw [← Parameters.setAll_nil_eq_merged]
  cases document with
  | mapping members => exact value_collectRoot node [] members
  | _ => rfl

/-- A text that is a document has for each node the parameters that the sections
of the node assign, merged in the order of the document. -/
theorem parse_eq_merged_assignments (text node : String) :
    (parse text node).value =
      (Value.parse text).map fun document => merged (assignments node document) := by
  rw [parse]
  cases Value.parse text with
  | error fault => rfl
  | ok document => exact congrArg Except.ok (value_parameters node document)

end NodeLaunch.ParameterDocument
