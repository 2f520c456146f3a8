import Mathlib.Data.List.Forall2
import NodeLaunch.Json.Decode
import NodeLaunch.Proofs.Except
import NodeLaunch.Proofs.Json.Indented

/-!
# Decoders on the trees of values

`decoder.Reads levels json value` says that a decoder takes the tree of a JSON
value for `value`, given more than `levels` further levels of nesting. A structure
whose members are its fields in their order is read if each field reads its member.
`decoder.Yields good` says that whatever the decoder gives, of any tree, is good.
-/

namespace NodeLaunch.Json

namespace Decoder

variable {α β : Type}

def Reads (decoder : Decoder α) (levels : Nat) (json : Json) (value : α) : Prop :=
  ∀ depth, levels < depth → decoder depth json.tree = .ok value

theorem ok_bind (value : α) (next : α → Except JsonFault β) : (.ok value >>= next) = next value :=
  rfl

theorem enter_of_lt {levels depth : Nat} (h : levels + 1 < depth) :
    enter depth = .ok (depth - 1) := if_pos (by omega)

-- ---------------------------------------------------------------------------
-- Values without fields
-- ---------------------------------------------------------------------------

theorem reads_textAs (expected text : String) :
    (textAs expected).Reads 0 (.string text) text := fun _ _ => rfl

theorem reads_string (text : String) : string.Reads 0 (.string text) text :=
  reads_textAs "a string" text

theorem reads_bool (b : Bool) : bool.Reads 0 (.bool b) b := fun _ _ => rfl

theorem reads_optional_null (decoder : Decoder α) : (optional decoder).Reads 0 .null none :=
  fun _ _ => rfl

theorem reads_optional {decoder : Decoder α} {levels : Nat} {json : Json} {value : α}
    (h : decoder.Reads levels json value) (hnull : json.tree ≠ .null) :
    (optional decoder).Reads levels json (some value) := by
  intro depth hdepth
  have hsome : optional decoder depth json.tree = (decoder depth json.tree).map some := by
    rw [optional]
    exact hnull
  rw [hsome, h depth hdepth]
  rfl

theorem decodeItems_of_forall₂ {decoder : Decoder α} {levels depth : Nat} {items : List Json}
    {values : List α} (h : List.Forall₂ (decoder.Reads levels) items values)
    (hdepth : levels < depth) : decodeItems decoder depth (treeItems items) = .ok values := by
  induction h with
  | nil => rfl
  | cons hitem _ ih =>
    rw [treeItems, decodeItems, hitem depth hdepth, ih]
    rfl

theorem reads_array {decoder : Decoder α} {levels : Nat} {items : List Json} {values : List α}
    (h : List.Forall₂ (decoder.Reads levels) items values) :
    (list decoder).Reads (levels + 1) (.array items) values := by
  intro depth hdepth
  rw [tree, list, enter_of_lt hdepth, ok_bind, decodeItems_of_forall₂ h (by omega)]
  rfl

theorem reads_list {decoder : Decoder α} {levels : Nat} {encode : α → Json} {values : List α}
    (h : ∀ value ∈ values, decoder.Reads levels (encode value) value) :
    (list decoder).Reads (levels + 1) (.array (values.map encode)) values :=
  reads_array (List.forall₂_map_left_iff.2 (List.forall₂_same.2 h))

theorem reads_pair {first : Decoder α} {second : Decoder β} {levels : Nat} {a b : Json}
    {x : α} {y : β} (hfirst : first.Reads levels a x) (hsecond : second.Reads levels b y) :
    (pair first second).Reads (levels + 1) (.array [a, b]) (x, y) := by
  intro depth hdepth
  rw [tree, treeItems, treeItems, treeItems, pair, enter_of_lt hdepth, ok_bind]
  dsimp only
  rw [hfirst (depth - 1) (by omega), ok_bind, hsecond (depth - 1) (by omega), ok_bind]
  rfl

-- ---------------------------------------------------------------------------
-- Maps
-- ---------------------------------------------------------------------------

theorem insertEntry_concat {name : String} {value : α} {entries : List (String × α)}
    (h : ∀ entry ∈ entries, entry.1 < name) :
    NameMap.insertEntry name value entries = entries ++ [(name, value)] := by
  induction entries with
  | nil => rfl
  | cons first rest ih =>
    obtain ⟨other, old⟩ := first
    have hlt : other < name := h (other, old) (by simp)
    have hnot : ¬name < other := fun hgt => String.lt_irrefl _ (String.lt_trans hgt hlt)
    have hne : name ≠ other := (Std.ne_of_lt hlt).symm
    rw [NameMap.insertEntry, if_neg hnot, if_neg hne, ih fun entry hentry =>
      h entry (.tail _ hentry), List.cons_append]

theorem decodeEntries_map {decoder : Decoder α} {levels depth : Nat} {encode : α → Json}
    {map earlier : NameMap α} {rest : List (String × α)}
    (hmap : map.entries = earlier.entries ++ rest)
    (h : ∀ entry ∈ rest, decoder.Reads levels (encode entry.2) entry.2) (hdepth : levels < depth) :
    decodeEntries decoder depth earlier
      (treeMembers (rest.map fun (name, value) => (name, encode value))) = .ok map := by
  induction rest generalizing earlier with
  | nil =>
    rw [List.append_nil] at hmap
    cases map
    cases earlier
    cases hmap
    rfl
  | cons first rest ih =>
    obtain ⟨name, value⟩ := first
    have hsorted := map.sorted
    rw [hmap, List.pairwise_append] at hsorted
    have hlast : (earlier.insert name value).entries = earlier.entries ++ [(name, value)] :=
      insertEntry_concat fun entry hentry => hsorted.2.2 entry hentry (name, value) (by simp)
    rw [List.map_cons, treeMembers, decodeEntries, h (name, value) (by simp) depth hdepth, ok_bind]
    refine ih ?_ fun entry hentry => h entry (.tail _ hentry)
    rw [hlast, hmap, List.append_assoc, List.singleton_append]

theorem reads_map {decoder : Decoder α} {levels : Nat} {encode : α → Json} {entries : NameMap α}
    (h : ∀ entry ∈ entries.entries, decoder.Reads levels (encode entry.2) entry.2) :
    (map decoder).Reads (levels + 1)
      (.object (entries.entries.map fun (name, value) => (name, encode value))) entries := by
  intro depth hdepth
  rw [tree, map, enter_of_lt hdepth, ok_bind, decodeEntries_map rfl h (by omega)]
  rfl

-- ---------------------------------------------------------------------------
-- Structures
-- ---------------------------------------------------------------------------

structure Fits (levels : Nat) (field : Field) (member : String × Json) : Prop where
  name : field.name = member.1
  check : ∀ depth, levels < depth → field.check depth member.2.tree = .ok ()

theorem Reads.fits {decoder : Decoder α} {levels more : Nat} {json : Json} {value : α}
    (h : decoder.Reads levels json value) (name : String) (hle : levels ≤ more) :
    Fits more (.of name decoder) (name, json) where
  name := rfl
  check depth hdepth := by
    show (decoder depth json.tree).map _ = _
    rw [h depth (by omega)]
    rfl

def memberValues (members : List (String × Json)) : FieldValues :=
  members.map fun (name, value) => (name, value.tree)

def declared (fields : List Field) (members : List (String × Json)) : List (String × Json) :=
  members.filter (·.1 ∈ fields.map (·.name))

/-- The members of fields' names are taken in the order in which they come, and the
others are passed over. -/
theorem takeMembers_treeMembers {fields : List Field} {members : List (String × Json)}
    {depth : Nat} {taken : FieldValues}
    (hcheck : ∀ member ∈ members, ∀ field ∈ fields, field.name = member.1 →
      field.check depth member.2.tree = .ok ())
    (hother : ∀ member ∈ members, member.1 ∉ fields.map (·.name) →
      member.2.tree.isComplete = true)
    (hnames : (taken.map (·.1) ++ (declared fields members).map (·.1)).Nodup) :
    takeMembers fields depth taken (treeMembers members) =
      .ok (taken ++ memberValues (declared fields members)) := by
  induction members generalizing taken with
  | nil => rw [treeMembers, takeMembers, declared, List.filter_nil, memberValues, List.map_nil,
      List.append_nil]
  | cons member rest ih =>
    obtain ⟨name, value⟩ := member
    rw [List.forall_mem_cons] at hcheck hother
    rw [treeMembers, takeMembers]
    by_cases hname : name ∈ fields.map (·.name)
    · have hdeclared : declared fields ((name, value) :: rest) =
          (name, value) :: declared fields rest := List.filter_cons_of_pos (by simpa using hname)
      have hnew : taken.any (·.1 == name) = false := by
        rw [hdeclared, List.map_cons, List.nodup_append] at hnames
        rw [List.any_eq_false]
        intro entry hentry heq
        exact hnames.2.2 entry.1 (List.mem_map_of_mem hentry) name (by simp) (by simpa using heq)
      cases hfound : fields.find? (·.name == name) with
      | none =>
        obtain ⟨field, hfield, rfl⟩ := List.mem_map.1 hname
        exact absurd (beq_self_eq_true field.name) (List.find?_eq_none.1 hfound field hfield)
      | some field =>
        have hfield : field.name = name := by simpa using List.find?_some hfound
        dsimp only
        rw [hnew, if_neg Bool.false_ne_true,
          hcheck.1 field (List.mem_of_find?_eq_some hfound) hfield, ok_bind,
          ih hcheck.2 hother.2 ?_, hdeclared]
        · rw [memberValues, memberValues, List.map_cons, List.append_assoc, List.singleton_append]
        · simpa [hdeclared] using hnames
    · have hdeclared : declared fields ((name, value) :: rest) = declared fields rest :=
        List.filter_cons_of_neg (by simpa using hname)
      have hfound : fields.find? (·.name == name) = none := by
        rw [List.find?_eq_none]
        intro field hfield heq
        exact hname (List.mem_map.2 ⟨field, hfield, by simpa using heq⟩)
      rw [hfound]
      dsimp only
      rw [hdeclared] at hnames ⊢
      rw [if_pos (hother.1 hname), ih hcheck.2 hother.2 hnames]

section

variable {fields : List Field} {members : List (String × Json)} {levels : Nat}

theorem names_of_fits (h : List.Forall₂ (Fits levels) fields members) :
    fields.map (·.name) = members.map (·.1) := by
  induction h with
  | nil => rfl
  | cons hfit _ ih => rw [List.map_cons, List.map_cons, hfit.name, ih]

theorem declared_of_fits (h : List.Forall₂ (Fits levels) fields members) :
    declared fields members = members :=
  List.filter_eq_self.2 fun member hmember => by
    simpa [names_of_fits h] using ⟨_, hmember⟩

/-- Among fields of different names only the one of its name fits a member. -/
theorem check_of_fits (h : List.Forall₂ (Fits levels) fields members)
    (hnames : (fields.map (·.name)).Nodup) {depth : Nat} (hdepth : levels < depth) :
    ∀ member ∈ members, ∀ field ∈ fields, field.name = member.1 →
      field.check depth member.2.tree = .ok () := by
  induction h with
  | nil => exact fun _ h => absurd h List.not_mem_nil
  | @cons first other fields members hfit hrest ih =>
    rw [List.map_cons, List.nodup_cons] at hnames
    intro member hmember field hfield hname
    rcases List.mem_cons.1 hmember with rfl | hmember <;>
      rcases List.mem_cons.1 hfield with rfl | hfield
    · exact hfit.check depth hdepth
    · rw [hfit.name, ← hname] at hnames
      exact absurd (List.mem_map_of_mem hfield) hnames.1
    · rw [hname, names_of_fits hrest] at hnames
      exact absurd (List.mem_map_of_mem hmember) hnames.1
    · exact ih hnames.2 member hmember field hfield hname

/-- A structure is read from its members in the order of its fields. -/
theorem reads_fieldValues (name : String) (surplus : Surplus)
    (hfits : List.Forall₂ (Fits levels) fields members)
    (hnodup : (fields.map (·.name)).Nodup) :
    (fieldValues name fields surplus).Reads (levels + 1) (.object members)
      (memberValues members) := by
  intro depth hdepth
  have hnames := names_of_fits hfits
  have hdeclared := declared_of_fits hfits
  have htake : takeMembers fields (depth - 1) [] (treeMembers members) =
      .ok ([] ++ memberValues (declared fields members)) :=
    takeMembers_treeMembers (check_of_fits hfits hnodup (by omega))
      (fun member hmember hother => absurd (hnames ▸ List.mem_map_of_mem hmember) hother)
      (by rwa [hdeclared, ← hnames])
  rw [tree, fieldValues, enter_of_lt hdepth, ok_bind, htake, hdeclared]
  rfl

end

theorem lookup_memberValues (members : List (String × Json)) (name : String) :
    (memberValues members).lookup name = (members.lookup name).map tree := by
  induction members with
  | nil => rfl
  | cons member rest ih =>
    obtain ⟨other, value⟩ := member
    rw [memberValues, List.map_cons, NameMap.lookup_cons_ite, NameMap.lookup_cons_ite]
    split
    · rfl
    · exact ih

/-- A structure goes on with the value that its member has been read as. -/
theorem required_bind (members : List (String × Json)) {decoder : Decoder α} {name : String}
    {json : Json} {value : α} {levels depth : Nat} (hlookup : members.lookup name = some json)
    (h : decoder.Reads levels json value) (hdepth : levels + 1 < depth)
    (next : α → Except JsonFault β) :
    (required (memberValues members) name decoder depth >>= next) = next value := by
  have hrequired : required (memberValues members) name decoder depth = .ok value := by
    rw [required, lookup_memberValues, hlookup]
    exact h (depth - 1) (by omega)
  rw [hrequired, ok_bind]

theorem allowed_bind (members : List (String × Json)) {decoder : Decoder α} {name : String}
    {json : Json} {value : Option α} {levels depth : Nat}
    (hlookup : members.lookup name = some json)
    (h : (optional decoder).Reads levels json value) (hdepth : levels + 1 < depth)
    (next : Option α → Except JsonFault β) :
    (allowed (memberValues members) name decoder depth >>= next) = next value := by
  have hallowed : allowed (memberValues members) name decoder depth = .ok value := by
    rw [allowed, lookup_memberValues, hlookup]
    exact h (depth - 1) (by omega)
  rw [hallowed, ok_bind]

/-- Whatever text has the tree of what a decoder reads is decoded. -/
theorem decodeText_of_ofText {decoder : Decoder α} {levels : Nat} {json : Json} {value : α}
    (h : decoder.Reads levels json value) (hlevels : levels < depthLimit) {text : String}
    (htext : Reading.ofText text = (json.tree, true)) : decodeText decoder text = .ok value := by
  rw [decodeText, htext]
  show (decoder depthLimit json.tree >>= fun value => _) = _
  rw [h depthLimit hlevels]
  rfl

theorem decodeText_pretty {decoder : Decoder α} {levels : Nat} {json : Json} {value : α}
    (h : decoder.Reads levels json value) (hlevels : levels < depthLimit)
    (hfloat : json.isFloatless = true) : decodeText decoder json.pretty = .ok value :=
  decodeText_of_ofText h hlevels (ofText_pretty hfloat)

-- ---------------------------------------------------------------------------
-- What a decoder can give
-- ---------------------------------------------------------------------------

def Yields (decoder : Decoder α) (good : α → Prop) : Prop :=
  ∀ depth reading value, decoder depth reading = .ok value → good value

variable {decoder : Decoder α} {good : α → Prop}

theorem mismatch_ne_ok (expected : String) (reading : Reading) (value : α) :
    mismatch expected reading ≠ .ok value := by
  cases reading with
  | number lexeme =>
    rw [mismatch]
    cases lexeme.value? <;> exact nofun
  | string text => cases text <;> exact nofun
  | _ => exact nofun

theorem Yields.decodeItems (h : decoder.Yields good) {depth : Nat} {items : List Reading}
    {values : List α} (hvalues : decodeItems decoder depth items = .ok values) :
    ∀ value ∈ values, good value := by
  induction items generalizing values with
  | nil =>
    cases hvalues
    exact fun _ hvalue => absurd hvalue List.not_mem_nil
  | cons item rest ih =>
    obtain ⟨value, hvalue, hvalues⟩ := exists_of_bind_eq_ok hvalues
    obtain ⟨others, hothers, hvalues⟩ := exists_of_bind_eq_ok hvalues
    cases hvalues
    exact List.forall_mem_cons.2 ⟨h _ _ _ hvalue, ih hothers⟩

theorem Yields.list (h : decoder.Yields good) :
    (list decoder).Yields fun values => ∀ value ∈ values, good value := by
  intro depth reading values hvalues
  cases reading with
  | array items closed =>
    obtain ⟨inner, -, hvalues⟩ := exists_of_bind_eq_ok hvalues
    obtain ⟨read, hread, hvalues⟩ := exists_of_bind_eq_ok hvalues
    obtain ⟨-, -, hvalues⟩ := exists_of_bind_eq_ok hvalues
    cases hvalues
    exact h.decodeItems hread
  | _ =>
    rw [Decoder.list] at hvalues
    · exact absurd hvalues (mismatch_ne_ok _ _ _)
    · exact nofun

theorem Yields.required (h : decoder.Yields good) {values : FieldValues} {name : String}
    {depth : Nat} {value : α} (hvalue : required values name decoder depth = .ok value) :
    good value := by
  rw [Decoder.required] at hvalue
  cases hlookup : values.lookup name with
  | none =>
    rw [hlookup] at hvalue
    cases hvalue
  | some reading =>
    rw [hlookup] at hvalue
    exact h _ _ _ hvalue

theorem Yields.decodeText (h : decoder.Yields good) {text : String} {value : α}
    (hvalue : decodeText decoder text = .ok value) : good value := by
  rw [Decoder.decodeText] at hvalue
  generalize Reading.ofText text = result at hvalue
  obtain ⟨read, hread, hvalue⟩ := exists_of_bind_eq_ok hvalue
  split at hvalue
  · cases hvalue
    exact h _ _ _ hread
  · cases hvalue

end Decoder

end NodeLaunch.Json
