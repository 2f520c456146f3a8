import NodeLaunch.Json.Lexeme

/-!
# Reading a JSON text

A `Reading` is the tree of a text as far as the text is JSON. Where it stops
being JSON the tree has a hole: a malformed value, or an array or object that
nothing closes. So what is asked of the tree in the order of the text is
answered as if the text were read only as far as needed.
-/

namespace NodeLaunch.Json

inductive Reading
  | malformed
  | null
  | bool (value : Bool)
  | number (lexeme : NumberLexeme)
  /-- No text if the escapes of the string do not spell characters. -/
  | string (text : Option String)
  | array (items : List Reading) (closed : Bool)
  | object (members : List (Option String × Reading)) (closed : Bool)
  deriving Repr

namespace Reading

mutual

/-- One value and what follows it; nothing follows where the text is not JSON.
Every other call reads a character, so twice their number is fuel enough. -/
def read : Nat → List Char → Reading × Option (List Char)
  | 0, _ => (.malformed, none)
  | fuel + 1, cs =>
    match dropBlanks cs with
    | 'n' :: 'u' :: 'l' :: 'l' :: rest => (.null, some rest)
    | 't' :: 'r' :: 'u' :: 'e' :: rest => (.bool true, some rest)
    | 'f' :: 'a' :: 'l' :: 's' :: 'e' :: rest => (.bool false, some rest)
    | '"' :: rest =>
      match readString .empty rest with
      | some (text, rest) => (.string text, some rest)
      | none => (.malformed, none)
    | '[' :: rest =>
      match dropBlanks rest with
      | ']' :: rest => (.array [] true, some rest)
      | rest =>
        let (items, after) := readItems fuel rest
        (.array items after.isSome, after)
    | '\x7b' :: rest =>
      match dropBlanks rest with
      | '\x7d' :: rest => (.object [] true, some rest)
      | rest =>
        let (members, after) := readMembers fuel rest
        (.object members after.isSome, after)
    | cs =>
      match NumberLexeme.read? cs with
      | some (lexeme, rest) => (.number lexeme, some rest)
      | none => (.malformed, none)

def readItems : Nat → List Char → List Reading × Option (List Char)
  | 0, _ => ([], none)
  | fuel + 1, cs =>
    match read fuel cs with
    | (item, none) => ([item], none)
    | (item, some rest) =>
      match dropBlanks rest with
      | ',' :: rest =>
        let (items, after) := readItems fuel rest
        (item :: items, after)
      | ']' :: rest => ([item], some rest)
      | _ => ([item], none)

def readMembers : Nat → List Char → List (Option String × Reading) × Option (List Char)
  | 0, _ => ([], none)
  | fuel + 1, cs =>
    match dropBlanks cs with
    | '"' :: rest =>
      match readString .empty rest with
      | none => ([], none)
      | some (name, rest) =>
        match dropBlanks rest with
        | ':' :: rest =>
          match read fuel rest with
          | (value, none) => ([(name, value)], none)
          | (value, some rest) =>
            match dropBlanks rest with
            | ',' :: rest =>
              let (members, after) := readMembers fuel rest
              ((name, value) :: members, after)
            | '\x7d' :: rest => ([(name, value)], some rest)
            | _ => ([(name, value)], none)
        | _ => ([(name, .malformed)], none)
    | _ => ([], none)

end

def ofText (text : String) : Reading × Bool :=
  let cs := text.toList
  let (value, after) := read (2 * cs.length + 2) cs
  (value, after.any fun rest => (dropBlanks rest).isEmpty)

mutual

/-- No hole anywhere. Numbers may be out of range and strings need not spell
characters: this is what is asked of a value that nobody uses. -/
def isComplete : Reading → Bool
  | .malformed => false
  | .array items closed => itemsComplete items && closed
  | .object members closed => membersComplete members && closed
  | _ => true

def itemsComplete : List Reading → Bool
  | [] => true
  | item :: rest => isComplete item && itemsComplete rest

def membersComplete : List (Option String × Reading) → Bool
  | [] => true
  | (_, value) :: rest => isComplete value && membersComplete rest

/-- A value that can be kept for later: complete, its numbers in range, its
strings texts, and `depth` enough for its arrays and objects. -/
def canKeep (depth : Nat) : Reading → Bool
  | .malformed => false
  | .number lexeme => lexeme.value?.isSome
  | .string text => text.isSome
  | .array items closed => 1 < depth && itemsCanKeep (depth - 1) items && closed
  | .object members closed => 1 < depth && membersCanKeep (depth - 1) members && closed
  | _ => true

def itemsCanKeep (depth : Nat) : List Reading → Bool
  | [] => true
  | item :: rest => canKeep depth item && itemsCanKeep depth rest

def membersCanKeep (depth : Nat) : List (Option String × Reading) → Bool
  | [] => true
  | (name, value) :: rest => name.isSome && canKeep depth value && membersCanKeep depth rest

end

end Reading

end NodeLaunch.Json
