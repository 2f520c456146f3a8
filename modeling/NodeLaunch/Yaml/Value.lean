import NodeLaunch.Yaml.Node
import NodeLaunch.Yaml.Scalar

/-!
# YAML values

What a document says: its nodes typed, its aliases replaced by what they point
at. A mapping keeps the order of the text and has no two equal keys. A value
under a tag of an application's own is kept together with the tag's name.
-/

namespace NodeLaunch.Yaml

inductive Value
  | null
  | bool (value : Bool)
  | number (value : Number)
  | string (text : String)
  | sequence (items : List Value)
  | mapping (members : List (Value × Value))
  | tagged (tag : String) (value : Value)
  deriving Repr

namespace Value

mutual

/-- The same value. The order of a mapping's members does not count, and its
keys are different from each other, so members are compared one way only. -/
def same : Value → Value → Bool
  | .null, .null => true
  | .bool a, .bool b => a == b
  | .number a, .number b => a.same b
  | .string a, .string b => a == b
  | .sequence a, .sequence b => sameItems a b
  | .mapping a, .mapping b => a.length == b.length && sameMembers a b
  | .tagged t a, .tagged u b => t == u && same a b
  | _, _ => false

def sameItems : List Value → List Value → Bool
  | [], [] => true
  | a :: as, b :: bs => same a b && sameItems as bs
  | _, _ => false

def sameMembers : List (Value × Value) → List (Value × Value) → Bool
  | [], _ => true
  | (key, value) :: rest, others =>
    others.any (fun (k, v) => same key k && same value v) && sameMembers rest others

end

def hasKey (members : List (Value × Value)) (key : Value) : Bool :=
  members.any fun (other, _) => same key other

/-- The name of an application's own tag: what stands after its exclamation
mark, and after a second one. An exclamation mark with nothing after it stands
for itself. -/
def tagName? (tag : Tag) : Option String := do
  let text ← String.fromUTF8? ⟨tag.toArray⟩
  let dropBang : List Char → List Char
    | '!' :: c :: rest => c :: rest
    | cs => cs
  match text.toList with
  | '!' :: rest => some (String.ofList (dropBang (dropBang ('!' :: rest))))
  | _ => none

def standardTag (name : String) : Tag := bytesOf ("tag:yaml.org,2002:" ++ name).toList

def ofPlain (text : String) : Except Fault Value :=
  if text = "" ∨ Scalar.isNull text then .ok .null
  else
    match Scalar.bool? text with
    | some b => .ok (.bool b)
    | none =>
      match Scalar.integer? text with
      | some (.ok n) => .ok (.number (.integer n))
      | some (.error fault) => .error fault
      | none =>
        if Scalar.hasLeadingZero text.toList then .ok (.string text)
        else
          match Scalar.float? text with
          | some x => .ok (.number (.float x))
          | none => .ok (.string text)

/-- A scalar under one of the standard tags has to be of that kind. A tag that
starts with an exclamation mark leaves a plain scalar what it is; any other tag,
and quotes, make a string of it. -/
def ofScalar (tag : Option Tag) (text : String) (plain : Bool) : Except Fault Value :=
  match tag with
  | none => if plain then ofPlain text else .ok (.string text)
  | some tag =>
    if tag = standardTag "bool" then
      (Scalar.bool? text).elim (.error .scalar) fun b => .ok (.bool b)
    else if tag = standardTag "int" then
      match Scalar.integer? text with
      | some (.ok n) => .ok (.number (.integer n))
      | _ => .error .scalar
    else if tag = standardTag "float" then
      (Scalar.float? text).elim (.error .scalar) fun x => .ok (.number (.float x))
    else if tag = standardTag "null" then
      if Scalar.isNull text then .ok .null else .error .scalar
    else if tag.head? = some 33 ∧ plain then ofPlain text
    else .ok (.string text)

/-- A scalar that may be under an application's own tag, which leaves it what it is. -/
def ofTaggedScalar (tag : Option Tag) (text : String) (plain : Bool) : Except Fault Value :=
  match tag.bind tagName? with
  | some name => (if plain then ofPlain text else .ok (.string text)).map (.tagged name)
  | none => ofScalar tag text plain

structure Aliases where
  targets : List (Nat × Node Nat)
  limit : Nat

/-- The node that an alias points at: of several with its number the last. -/
def Aliases.target? (aliases : Aliases) (anchor : Nat) : Option (Node Nat) :=
  (aliases.targets.reverse.find? (·.1 == anchor)).map (·.2)

/-- Reading a document counts how many aliases have been followed. -/
abbrev Reading := StateT Nat (Except Fault)

def follow (aliases : Aliases) : Node Nat → Reading (Node Nat)
  | .alias target => do
    let followed ← get
    if aliases.limit ≤ followed then throw .repetition
    set (followed + 1)
    match aliases.target? target with
    | some node => return node
    | none => throw .unknownAlias
  | node => return node

def underTag (tag : Option Tag) (value : Value) : Value :=
  match tag.bind tagName? with
  | some name => .tagged name value
  | none => value

def readItems (read : Node Nat → Reading Value) : List (Node Nat) → Reading (List Value)
  | [] => return []
  | item :: rest => do
    let value ← read item
    return value :: (← readItems read rest)

def readMembers (read : Node Nat → Reading Value) (before : List (Value × Value)) :
    List (Node Nat × Node Nat) → Reading (List (Value × Value))
  | [] => return before
  | (key, value) :: rest => do
    let key ← read key
    let value ← read value
    if hasKey before key then throw .duplicateKey
    readMembers read (before ++ [(key, value)]) rest

/-- The value of a node. The number is how many collections may still be nested. -/
def read (aliases : Aliases) : Nat → Node Nat → Reading Value
  | 0, node => do
    match ← follow aliases node with
    | .scalar p text plain => ofTaggedScalar p.tag text plain
    | .alias _ => throw .unknownAlias
    | _ => throw .depth
  | depth + 1, node => do
    match ← follow aliases node with
    | .scalar p text plain => ofTaggedScalar p.tag text plain
    | .alias _ => throw .unknownAlias
    | .sequence p items =>
      let items ← readItems (read aliases depth) items
      return underTag p.tag (.sequence items)
    | .mapping p members =>
      let members ← readMembers (read aliases depth) [] members
      return underTag p.tag (.mapping members)

def deepest : Nat := 128

def ofNode (node : Node String) : Except Fault Value := do
  let (_, node) ← Node.numbered .empty node
  let aliases : Aliases := ⟨node.anchored, 100 * node.steps⟩
  let (value, _) ← (read aliases deepest node).run 0
  return value

/-- The value that a text says; a text without a document says null. -/
def parse (text : String) : Except Fault Value := do
  match ← Node.ofTokens (← Token.scan text) with
  | some node => ofNode node
  | none => return .null

end Value

end NodeLaunch.Yaml
