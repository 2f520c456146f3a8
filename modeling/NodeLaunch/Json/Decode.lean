import NodeLaunch.Json.Fault
import NodeLaunch.Json.Reading
import NodeLaunch.NameMap

/-!
# Decoding JSON

Decoders turn the tree of a text into a value of a type. They look at the tree
in the order of the text, so of several faults the first one is reported: a
value of the wrong shape before a text that ends too early, or after it.
-/

namespace NodeLaunch.Json

/-- A decoder is told how deep arrays and objects may still be nested, counting
the one it may enter. -/
abbrev Decoder (α : Type) := Nat → Reading → Except JsonFault α

namespace Decoder

/-- Arrays and objects may be nested this deep, less one. -/
def depthLimit : Nat := 128

def syntaxError {α : Type} : Except JsonFault α := .error .syntaxError

def fail {α : Type} (fault : ShapeFault) : Except JsonFault α := .error (.shape fault)

def mismatch {α : Type} (expected : String) : Reading → Except JsonFault α
  | .malformed => syntaxError
  | .null => fail (.invalidType .null expected)
  | .bool b => fail (.invalidType (.bool b) expected)
  | .number lexeme =>
    match lexeme.value? with
    | some n => fail (.invalidType (.number n) expected)
    | none => syntaxError
  | .string (some s) => fail (.invalidType (.string s) expected)
  | .string none => syntaxError
  | .array .. => fail (.invalidType .sequence expected)
  | .object .. => fail (.invalidType .map expected)

def enter (depth : Nat) : Except JsonFault Nat :=
  if 1 < depth then .ok (depth - 1) else syntaxError

def requireClosed (closed : Bool) : Except JsonFault Unit := if closed then .ok () else syntaxError

def textAs (expected : String) : Decoder String := fun _ reading =>
  match reading with
  | .string (some s) => .ok s
  | other => mismatch expected other

def string : Decoder String := textAs "a string"

def bool : Decoder Bool := fun _ reading =>
  match reading with
  | .bool b => .ok b
  | other => mismatch "a boolean" other

def float : Decoder Binary64 := fun _ reading =>
  match reading with
  | .number lexeme =>
    match lexeme.value? with
    | some (.integer n) => .ok (Binary64.ofNat (n < 0) n.natAbs)
    | some (.float x) => .ok x
    | none => syntaxError
  | other => mismatch "f64" other

def optional {α : Type} (decoder : Decoder α) : Decoder (Option α) := fun depth reading =>
  match reading with
  | .null => .ok none
  | other => (decoder depth other).map some

def decodeItems {α : Type} (decoder : Decoder α) (depth : Nat) :
    List Reading → Except JsonFault (List α)
  | [] => .ok []
  | item :: rest => do
    let value ← decoder depth item
    return value :: (← decodeItems decoder depth rest)

def list {α : Type} (decoder : Decoder α) : Decoder (List α) := fun depth reading =>
  match reading with
  | .array items closed => do
    let values ← decodeItems decoder (← enter depth) items
    requireClosed closed
    return values
  | other => mismatch "a sequence" other

def pair {α β : Type} (first : Decoder α) (second : Decoder β) : Decoder (α × β) :=
  fun depth reading =>
    let expected := "a tuple of size 2"
    match reading with
    | .array items closed => do
      let depth ← enter depth
      match items with
      | [] => do requireClosed closed; fail (.invalidLength 0 expected)
      | a :: rest => do
        let a ← first depth a
        match rest with
        | [] => do requireClosed closed; fail (.invalidLength 1 expected)
        | b :: rest => do
          let b ← second depth b
          if !rest.isEmpty then syntaxError
          requireClosed closed
          return (a, b)
    | other => mismatch expected other

def decodeEntries {α : Type} (decoder : Decoder α) (depth : Nat) (entries : NameMap α) :
    List (Option String × Reading) → Except JsonFault (NameMap α)
  | [] => .ok entries
  | (some name, value) :: rest => do
    let value ← decoder depth value
    decodeEntries decoder depth (entries.insert name value) rest
  | (none, _) :: _ => syntaxError

/-- An object as a map; of equal names the last counts. -/
def map {α : Type} (decoder : Decoder α) : Decoder (NameMap α) := fun depth reading =>
  match reading with
  | .object members closed => do
    let entries ← decodeEntries decoder (← enter depth) .empty members
    requireClosed closed
    return entries
  | other => mismatch "a map" other

mutual

/-- Any value. An object's members come out in the order of their names, and of
equal names the last counts. -/
def value (depth : Nat) : Reading → Except JsonFault Json
  | .malformed => syntaxError
  | .null => .ok .null
  | .bool b => .ok (.bool b)
  | .number lexeme =>
    match lexeme.value? with
    | some n => .ok (.number n)
    | none => syntaxError
  | .string (some s) => .ok (.string s)
  | .string none => syntaxError
  | .array items closed =>
    if 1 < depth then do
      let items ← valueItems (depth - 1) items
      requireClosed closed
      return .array items
    else syntaxError
  | .object members closed =>
    if 1 < depth then do
      let members ← valueMembers (depth - 1) .empty members
      requireClosed closed
      return .object members.entries
    else syntaxError

def valueItems (depth : Nat) : List Reading → Except JsonFault (List Json)
  | [] => .ok []
  | item :: rest => do
    let item ← value depth item
    return item :: (← valueItems depth rest)

def valueMembers (depth : Nat) (entries : NameMap Json) :
    List (Option String × Reading) → Except JsonFault (NameMap Json)
  | [] => .ok entries
  | (some name, v) :: rest => do
    let v ← value depth v
    valueMembers depth (entries.insert name v) rest
  | (none, _) :: _ => syntaxError

end

/-! ## Structures -/

structure Field where
  name : String
  check : Nat → Reading → Except JsonFault Unit

def Field.of {α : Type} (name : String) (decoder : Decoder α) : Field :=
  ⟨name, fun depth reading => (decoder depth reading).map fun _ => ()⟩

/-- What an array may hold beyond the fields of a structure. -/
inductive Surplus
  /-- Nothing: the text should have ended the array. -/
  | unread
  /-- Nothing: the array has been read and has a length. -/
  | counted

abbrev FieldValues := List (String × Reading)

/-- Members with the fields' names, each field once; members of other names only
have to be complete. -/
def takeMembers (fields : List Field) (depth : Nat) (taken : FieldValues) :
    List (Option String × Reading) → Except JsonFault FieldValues
  | [] => .ok taken
  | (none, _) :: _ => syntaxError
  | (some name, value) :: rest =>
    match fields.find? (·.name == name) with
    | some field =>
      if taken.any (·.1 == name) then fail (.duplicateField name)
      else do
        field.check depth value
        takeMembers fields depth (taken ++ [(name, value)]) rest
    | none =>
      if value.isComplete then takeMembers fields depth taken rest else syntaxError

def takeItems (label : String) (closed : Bool) (surplus : Surplus) (count depth : Nat)
    (taken : FieldValues) : List Field → List Reading → Except JsonFault FieldValues
  | [], [] => .ok taken
  | [], rest =>
    match surplus with
    | .unread => syntaxError
    | .counted =>
      fail (.invalidLength (count + rest.length)
        (if count = 1 then "1 element in sequence" else s!"{count} elements in sequence"))
  | _ :: _, [] => if closed then fail (.invalidLength count label) else syntaxError
  | field :: fields, value :: rest => do
    field.check depth value
    takeItems label closed surplus (count + 1) depth (taken ++ [(field.name, value)]) fields rest

def structLabel (name : String) (fields : List Field) : String :=
  let count := fields.length
  .join ["struct ", name, " with ", toString count, if count = 1 then " element" else " elements"]

def fieldValues (name : String) (fields : List Field) (surplus : Surplus) :
    Decoder FieldValues := fun depth reading =>
  match reading with
  | .object members closed => do
    let taken ← takeMembers fields (← enter depth) [] members
    requireClosed closed
    return taken
  | .array items closed => do
    let label := structLabel name fields
    let taken ← takeItems label closed surplus 0 (← enter depth) [] fields items
    requireClosed closed
    return taken
  | other => mismatch s!"struct {name}" other

def required {α : Type} (values : FieldValues) (name : String) (decoder : Decoder α)
    (depth : Nat) : Except JsonFault α :=
  match values.lookup name with
  | some value => decoder (depth - 1) value
  | none => fail (.missingField name)

def allowed {α : Type} (values : FieldValues) (name : String) (decoder : Decoder α)
    (depth : Nat) : Except JsonFault (Option α) :=
  match values.lookup name with
  | some value => optional decoder (depth - 1) value
  | none => .ok none

def variant {α : Type} (known : List (String × α)) : Decoder α := fun depth reading => do
  let name ← textAs "variant identifier" depth reading
  match known.lookup name with
  | some value => .ok value
  | none => fail (.unknownVariant name (known.map (·.1)))

/-- One of a few names on its own, or as the only name of an object whose value
is null or empty. -/
def unitVariant {α : Type} (known : List (String × α)) : Decoder α := fun depth reading =>
  match reading with
  | .object [(name, value)] _ => do
    let found ← variant known depth (.string name)
    match value with
    | .null | .object [] _ => .ok found
    | other => mismatch "unit" other
  | .object .. => fail (.invalidValue .map "map with a single key")
  | .string text => variant known depth (.string text)
  | other => mismatch "string or map" other

def decodeText {α : Type} (decoder : Decoder α) (text : String) : Except JsonFault α := do
  let (reading, ended) := Reading.ofText text
  let value ← decoder depthLimit reading
  if ended then return value else syntaxError

end Decoder

end NodeLaunch.Json
