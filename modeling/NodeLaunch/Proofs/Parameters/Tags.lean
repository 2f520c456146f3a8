import NodeLaunch.Proofs.Parameters.Walk

/-!
# Tags in a document

A tag on a parameter does not count, at any depth below `ros__parameters`. A tag
above the parameters, on a namespace, on a section or on the value of
`ros__parameters`, hides the sections below it from the walk: these are lost as
a whole, and all the others are read as if no value had a tag.
-/

namespace NodeLaunch

namespace Yaml.Value

mutual

/-- The value without tags on itself and on what the values of mappings lead to. -/
def untagged : Value → Value
  | .mapping members => .mapping (untaggedMembers members)
  | .tagged _ value => untagged value
  | .null => .null
  | .bool b => .bool b
  | .number n => .number n
  | .string s => .string s
  | .sequence items => .sequence items

def untaggedMembers : List (Value × Value) → List (Value × Value)
  | [] => []
  | (key, value) :: rest => (key, untagged value) :: untaggedMembers rest

end

end Yaml.Value

namespace ParameterDocument

open Yaml (Value)
open Yaml.Value (untagged untaggedMembers)
open Parameters (merged)

def Section.untagged (own : Section) : Section := ⟨own.path, untaggedMembers own.members⟩

theorem member?_untaggedMembers (name : String) (members : List (Value × Value)) :
    member? name (untaggedMembers members) = (member? name members).map Value.untagged := by
  induction members with
  | nil => rfl
  | cons member rest ih =>
    obtain ⟨key, value⟩ := member
    rw [untaggedMembers]
    cases key with
    | string s =>
      rw [member?, member?]
      split
      · rfl
      · exact ih
    | _ => exact ih

-- ---------------------------------------------------------------------------
-- Below the parameters
-- ---------------------------------------------------------------------------

mutual

theorem leavesAt_untagged (keys : List String) : (value : Value) →
    leavesAt keys value.untagged = leavesAt keys value
  | .mapping members => by
    rw [untagged, leavesAt, leavesAt]
    exact leavesIn_untaggedMembers keys members
  | .tagged _ value => by
    rw [untagged, leavesAt]
    exact leavesAt_untagged keys value
  | .string _ | .number _ | .bool _ | .sequence _ | .null => by rw [untagged]

theorem leavesIn_untaggedMembers (keys : List String) : (members : List (Value × Value)) →
    leavesIn keys (untaggedMembers members) = leavesIn keys members
  | [] => by rw [untaggedMembers]
  | (key, value) :: rest => by
    rw [untaggedMembers, leavesIn, leavesIn]
    cases keyText? key with
    | none => exact leavesIn_untaggedMembers keys rest
    | some text =>
      dsimp only
      rw [leavesAt_untagged, leavesIn_untaggedMembers]

end

theorem Section.assignments_untagged (own : Section) :
    own.untagged.assignments = own.assignments := by
  rw [assignments, assignments, untagged, leavesIn_untaggedMembers]

theorem assignmentsOf_map_untagged (node : String) (all : List Section) :
    assignmentsOf node (all.map Section.untagged) = assignmentsOf node all := by
  induction all with
  | nil => rfl
  | cons own rest ih =>
    rw [List.map_cons, ← List.singleton_append, assignmentsOf_append, ih,
      ← List.singleton_append (l := rest), assignmentsOf_append, assignmentsOf_singleton,
      assignmentsOf_singleton, Section.assignments_untagged]
    rfl

-- ---------------------------------------------------------------------------
-- Above the parameters
-- ---------------------------------------------------------------------------

def sectionOf (path : List String) : Value → List Section
  | .mapping own => [⟨path, own⟩]
  | _ => []

mutual

/-- The sections that a tag stands above, as they are without tags. -/
def hiddenAt (path : List String) : Value → List Section
  | .mapping members =>
    match member? parametersKey members with
    | some (.tagged _ own) => sectionOf path own.untagged
    | some _ => []
    | none => hiddenIn path members
  | .tagged _ value => sectionsAt path value.untagged
  | _ => []

def hiddenIn (path : List String) : List (Value × Value) → List Section
  | [] => []
  | (key, value) :: rest =>
    match keyText? key with
    | some key => hiddenAt (path ++ Text.segments key) value ++ hiddenIn path rest
    | none => hiddenIn path rest

end

/-- The hidden sections of a document; a tag on its root hides them all. -/
def hidden : Value → List Section
  | .mapping members => hiddenIn [] members
  | .tagged _ value => sections value.untagged
  | _ => []

mutual

/-- Tags hide sections and change none of those that are found. -/
theorem sublist_sectionsAt_untagged (path : List String) : (value : Value) →
    ((sectionsAt path value).map Section.untagged).Sublist (sectionsAt path value.untagged)
  | .mapping members => by
    rw [untagged, sectionsAt, sectionsAt, member?_untaggedMembers]
    cases member? parametersKey members with
    | none => exact sublist_sectionsIn_untaggedMembers path members
    | some own =>
      cases own with
      | mapping own =>
        rw [Option.map_some, untagged]
        exact .refl _
      | _ => exact List.nil_sublist _
  | .tagged _ _ | .string _ | .number _ | .bool _ | .sequence _ | .null => List.nil_sublist _

theorem sublist_sectionsIn_untaggedMembers (path : List String) :
    (members : List (Value × Value)) → ((sectionsIn path members).map Section.untagged).Sublist
      (sectionsIn path (untaggedMembers members))
  | [] => List.nil_sublist _
  | (key, value) :: rest => by
    rw [untaggedMembers, sectionsIn, sectionsIn]
    cases keyText? key with
    | none => exact sublist_sectionsIn_untaggedMembers path rest
    | some text =>
      rw [List.map_append]
      exact (sublist_sectionsAt_untagged _ value).append
        (sublist_sectionsIn_untaggedMembers path rest)

end

theorem perm_append_parts {a b c d : List Section} {x y : List Section} (hx : x.Perm (a ++ b))
    (hy : y.Perm (c ++ d)) : (x ++ y).Perm ((a ++ c) ++ (b ++ d)) := by
  refine (hx.append hy).trans ?_
  rw [List.append_assoc, List.append_assoc]
  exact List.perm_append_comm_assoc b c d |>.append_left a

mutual

theorem perm_sectionsAt_untagged (path : List String) : (value : Value) →
    (sectionsAt path value.untagged).Perm
      ((sectionsAt path value).map Section.untagged ++ hiddenAt path value)
  | .mapping members => by
    rw [untagged, sectionsAt, sectionsAt, hiddenAt, member?_untaggedMembers]
    cases member? parametersKey members with
    | none => exact perm_sectionsIn_untaggedMembers path members
    | some own =>
      cases own with
      | tagged tag own =>
        -- Without its tag the value is a section if it is a mapping, and nothing else.
        dsimp only [Option.map_some]
        rw [untagged]
        cases own.untagged <;> exact .refl _
      | mapping own =>
        rw [Option.map_some, untagged]
        exact .refl _
      | _ => exact .refl _
  | .tagged _ value => by
    rw [untagged]
    exact .refl _
  | .string _ | .number _ | .bool _ | .sequence _ | .null => .refl _

theorem perm_sectionsIn_untaggedMembers (path : List String) :
    (members : List (Value × Value)) → (sectionsIn path (untaggedMembers members)).Perm
      ((sectionsIn path members).map Section.untagged ++ hiddenIn path members)
  | [] => .refl _
  | (key, value) :: rest => by
    rw [untaggedMembers, sectionsIn, sectionsIn, hiddenIn]
    cases keyText? key with
    | none => exact perm_sectionsIn_untaggedMembers path rest
    | some text =>
      rw [List.map_append]
      exact perm_append_parts (perm_sectionsAt_untagged _ value)
        (perm_sectionsIn_untaggedMembers path rest)

end

theorem sublist_sections_untagged (document : Value) :
    ((sections document).map Section.untagged).Sublist (sections document.untagged) := by
  cases document with
  | mapping members =>
    rw [untagged]
    exact sublist_sectionsIn_untaggedMembers [] members
  | _ => exact List.nil_sublist _

theorem perm_sections_untagged (document : Value) : (sections document.untagged).Perm
    ((sections document).map Section.untagged ++ hidden document) := by
  cases document with
  | mapping members =>
    rw [untagged]
    exact perm_sectionsIn_untaggedMembers [] members
  | tagged tag value =>
    rw [untagged]
    exact .refl _
  | _ => exact .refl _

theorem sections_untagged {document : Value} (h : hidden document = []) :
    (sections document).map Section.untagged = sections document.untagged := by
  refine (sublist_sections_untagged document).eq_of_length ?_
  rw [(perm_sections_untagged document).length_eq, h, List.append_nil]

theorem value_parameters_of_untagged (node : String) {document : Value}
    (h : hidden document = []) :
    (parameters node document).value = (parameters node document.untagged).value := by
  rw [value_parameters, value_parameters, assignments, assignments, ← sections_untagged h,
    assignmentsOf_map_untagged]

/-- The sections that are found are those of the document without tags, but for the
ones that a tag stands above, and assign what they do without tags. So documents that
differ in tags alone, none of them above a section, have the same parameters. -/
theorem parameters_of_tagged (node : String) (document : Value) :
    (parameters node document).value =
      merged (assignmentsOf node ((sections document).map Section.untagged)) ∧
    ((sections document).map Section.untagged).Sublist (sections document.untagged) ∧
    (sections document.untagged).Perm
      ((sections document).map Section.untagged ++ hidden document) ∧
    ∀ other : Value, other.untagged = document.untagged → hidden document = [] →
      hidden other = [] →
      (parameters node other).value = (parameters node document).value := by
  refine ⟨?_, sublist_sections_untagged document, perm_sections_untagged document, ?_⟩
  · rw [value_parameters, assignments, assignmentsOf_map_untagged]
  · intro other hother hdocument hclear
    rw [value_parameters_of_untagged node hclear, hother,
      ← value_parameters_of_untagged node hdocument]

def singleSection (own : Value) : Value :=
  .mapping [(.string "n", .mapping [(.string parametersKey, own)])]

/-- The tag of the one parameter does not count; that of all of them loses them. -/
theorem parameters_lost_under_tag :
    let own (value : Value) : Value := .mapping [(.string "a", value)]
    let value : Value := .number (.integer 1)
    (singleSection (.tagged "t" (own value))).untagged = singleSection (own value) ∧
    (parameters "/n" (singleSection (own value))).value = [("a", "1")] ∧
    (parameters "/n" (singleSection (own (.tagged "t" value)))).value = [("a", "1")] ∧
    (parameters "/n" (singleSection (.tagged "t" (own value)))).value = [] ∧
    (parse "n: {ros__parameters: {a: 1}}" "/n").value = .ok [("a", "1")] ∧
    (parse "n: {ros__parameters: !t {a: 1}}" "/n").value = .ok [] := by
  refine ⟨rfl, ?_, ?_, ?_, ?_, ?_⟩ <;> decide +kernel

end ParameterDocument

end NodeLaunch
