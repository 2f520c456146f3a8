import NodeLaunch.Yaml.Token.Scan

/-!
# Nodes of a YAML document

A document is a tree of nodes with anchors, aliases and tags, read from its
tokens. Anchors are names in the text; `Node.numbered` replaces them by numbers,
so that an alias points at a node.
-/

namespace NodeLaunch.Yaml

/-- The tag of a node as bytes, its handle replaced. -/
abbrev Tag := List UInt8

structure Properties (α : Type) where
  anchor : Option α
  tag : Option Tag
  deriving Repr

inductive Node (α : Type)
  | alias (target : α)
  | scalar (properties : Properties α) (text : String) (plain : Bool)
  | sequence (properties : Properties α) (items : List (Node α))
  | mapping (properties : Properties α) (members : List (Node α × Node α))
  deriving Repr

abbrev Handles := List (List UInt8 × List UInt8)

namespace Handles

def usual : Handles :=
  [(bytesOf ['!'], bytesOf ['!']), (bytesOf ['!', '!'], bytesOf "tag:yaml.org,2002:".toList)]

/-- The tag that a name stands for. A name without a handle is the tag itself. -/
def resolve (handles : Handles) (name : TagName) : Except Fault Tag :=
  if name.handle.isEmpty then .ok name.suffix
  else
    match handles.find? (·.1 == name.handle) with
    | some (_, replacement) => .ok (replacement ++ name.suffix)
    | none => .error .document

end Handles

namespace Node

variable {α : Type}

def bare : Properties α := ⟨none, none⟩

def absent : Node α := .scalar bare "" true

def endsBlockValue : List Token → Bool
  | .key :: _ | .value :: _ | .blockEnd :: _ => true
  | _ => false

def endsBlockEntry : List Token → Bool
  | .blockEntry :: _ | .blockEnd :: _ => true
  | _ => false

def properties (handles : Handles) (tokens : List Token) :
    Except Fault (Properties String × List Token) := do
  match tokens with
  | .anchor a :: .tag t :: rest => return (⟨some a, some (← handles.resolve t)⟩, rest)
  | .tag t :: .anchor a :: rest => return (⟨some a, some (← handles.resolve t)⟩, rest)
  | .anchor a :: rest => return (⟨some a, none⟩, rest)
  | .tag t :: rest => return (⟨none, some (← handles.resolve t)⟩, rest)
  | rest => return (bare, rest)

mutual

/-- One node. Block collections can begin only where `block` allows it, and a
sequence without an indentation of its own only where `unindented` does. Every
call reads a token or hands on to one that does, so twice the number of tokens
is fuel enough. -/
def read (handles : Handles) (block unindented : Bool) :
    Nat → List Token → Except Fault (Node String × List Token)
  | 0, _ => .error .document
  | _ + 1, .alias name :: rest => .ok (.alias name, rest)
  | fuel + 1, tokens => do
    let (p, tokens) ← properties handles tokens
    match tokens, block, unindented with
    | .scalar text plain :: rest, _, _ => return (.scalar p text plain, rest)
    | .flowSequenceStart :: rest, _, _ =>
      let (items, rest) ← readFlowItems handles true fuel rest
      return (.sequence p items, rest)
    | .flowMappingStart :: rest, _, _ =>
      let (members, rest) ← readFlowMembers handles true fuel rest
      return (.mapping p members, rest)
    | .blockEntry :: rest, _, true =>
      let (items, rest) ← readUnindented handles fuel (.blockEntry :: rest)
      return (.sequence p items, rest)
    | .blockSequenceStart :: rest, true, _ =>
      let (items, rest) ← readBlockItems handles fuel rest
      return (.sequence p items, rest)
    | .blockMappingStart :: rest, true, _ =>
      let (members, rest) ← readBlockMembers handles fuel rest
      return (.mapping p members, rest)
    | tokens, _, _ =>
      if p.anchor.isSome || p.tag.isSome then return (.scalar p "" true, tokens)
      else throw .document

def readBlockItems (handles : Handles) :
    Nat → List Token → Except Fault (List (Node String) × List Token)
  | fuel + 1, .blockEntry :: rest => do
    let (item, rest) ← if endsBlockEntry rest then pure (absent, rest)
      else read handles true false fuel rest
    let (items, rest) ← readBlockItems handles fuel rest
    return (item :: items, rest)
  | _ + 1, .blockEnd :: rest => .ok ([], rest)
  | _, _ => .error .document

/-- Entries in the column of the key that holds them; no token ends them. -/
def readUnindented (handles : Handles) :
    Nat → List Token → Except Fault (List (Node String) × List Token)
  | fuel + 1, .blockEntry :: rest => do
    let (item, rest) ← if endsBlockEntry rest || endsBlockValue rest then pure (absent, rest)
      else read handles true false fuel rest
    let (items, rest) ← readUnindented handles fuel rest
    return (item :: items, rest)
  | _ + 1, rest => .ok ([], rest)
  | 0, _ => .error .document

def readBlockMembers (handles : Handles) :
    Nat → List Token → Except Fault (List (Node String × Node String) × List Token)
  | fuel + 1, .key :: rest => do
    let (key, rest) ← if endsBlockValue rest then pure (absent, rest)
      else read handles true true fuel rest
    let (value, rest) ← readBlockValue handles fuel rest
    let (members, rest) ← readBlockMembers handles fuel rest
    return ((key, value) :: members, rest)
  | _ + 1, .blockEnd :: rest => .ok ([], rest)
  | _, _ => .error .document

def readBlockValue (handles : Handles) :
    Nat → List Token → Except Fault (Node String × List Token)
  | fuel + 1, .value :: rest =>
    if endsBlockValue rest then .ok (absent, rest) else read handles true true fuel rest
  | _, rest => .ok (absent, rest)

/-- The items of a flow sequence and its closing bracket. An item written with a
key indicator or a colon is a mapping of that one member. -/
def readFlowItems (handles : Handles) (first : Bool) :
    Nat → List Token → Except Fault (List (Node String) × List Token)
  | 0, _ => .error .document
  | _ + 1, .flowSequenceEnd :: rest => .ok ([], rest)
  | fuel + 1, tokens => do
    let tokens ← match first, tokens with
      | true, _ => pure tokens
      | false, .flowEntry :: rest => pure rest
      | false, _ => throw .document
    match tokens with
    | .flowSequenceEnd :: rest => return ([], rest)
    | .key :: rest =>
      let (key, rest) ← match rest with
        | .value :: after | .flowEntry :: after | .flowSequenceEnd :: after => pure (absent, after)
        | _ => read handles false false fuel rest
      let (value, rest) ← match rest with
        | .value :: .flowEntry :: after => pure (absent, .flowEntry :: after)
        | .value :: .flowSequenceEnd :: after => pure (absent, .flowSequenceEnd :: after)
        | .value :: after => read handles false false fuel after
        | _ => pure (absent, rest)
      let (items, rest) ← readFlowItems handles false fuel rest
      return (.mapping bare [(key, value)] :: items, rest)
    | _ =>
      let (item, rest) ← read handles false false fuel tokens
      let (items, rest) ← readFlowItems handles false fuel rest
      return (item :: items, rest)

def readFlowMembers (handles : Handles) (first : Bool) :
    Nat → List Token → Except Fault (List (Node String × Node String) × List Token)
  | 0, _ => .error .document
  | _ + 1, .flowMappingEnd :: rest => .ok ([], rest)
  | fuel + 1, tokens => do
    let tokens ← match first, tokens with
      | true, _ => pure tokens
      | false, .flowEntry :: rest => pure rest
      | false, _ => throw .document
    match tokens with
    | .flowMappingEnd :: rest => return ([], rest)
    | .key :: rest =>
      let (key, rest) ← match rest with
        | .value :: _ | .flowEntry :: _ | .flowMappingEnd :: _ => pure (absent, rest)
        | _ => read handles false false fuel rest
      let (value, rest) ← match rest with
        | .value :: .flowEntry :: after => pure (absent, .flowEntry :: after)
        | .value :: .flowMappingEnd :: after => pure (absent, .flowMappingEnd :: after)
        | .value :: after => read handles false false fuel after
        | _ => pure (absent, rest)
      let (members, rest) ← readFlowMembers handles false fuel rest
      return ((key, value) :: members, rest)
    | _ =>
      let (key, rest) ← read handles false false fuel tokens
      let (members, rest) ← readFlowMembers handles false fuel rest
      return ((key, absent) :: members, rest)

end

def readDirectives (version : Bool) (handles : Handles) :
    List Token → Except Fault (Handles × List Token)
  | .versionDirective major minor :: rest =>
    if version || major ≠ 1 || !(minor == 1 || minor == 2) then .error .document
    else readDirectives true handles rest
  | .tagDirective handle replacement :: rest =>
    if handles.any (·.1 == handle) then .error .document
    else readDirectives version (handles ++ [(handle, replacement)]) rest
  | rest => .ok (handles ++ Handles.usual, rest)

def isDirective : Token → Bool
  | .versionDirective .. | .tagDirective .. => true
  | _ => false

def isDocumentEnd : Token → Bool
  | .documentEnd => true
  | _ => false

def endsDocument : List Token → Bool
  | [] => true
  | token :: _ => isDirective token || isDocumentEnd token || token matches .documentStart

def ofTokens (tokens : List Token) : Except Fault (Option (Node String)) := do
  let fuel := 2 * tokens.length + 8
  match tokens with
  | [] => return none
  | token :: _ =>
    let explicit := isDirective token || token matches .documentStart
    let (handles, rest) ← readDirectives false [] tokens
    let (node, rest) ← match explicit, rest with
      | true, .documentStart :: rest =>
        if endsDocument rest then pure (absent, rest) else read handles true false fuel rest
      | true, _ => throw .document
      | false, rest => read handles true false fuel rest
    if rest.all isDocumentEnd then return some node else throw .document

/-- The numbers that anchor names stand for, the latest first, and how many
different names there are. -/
structure Names where
  numbers : List (String × Nat)
  count : Nat

namespace Names

def empty : Names := ⟨[], 0⟩

/-- A new meaning for the name. It takes the number of names before it, so a
name that is used again may share the number of a later one. -/
def define (names : Names) (name : String) : Names × Nat :=
  let known := names.numbers.any (·.1 == name)
  (⟨(name, names.count) :: names.numbers, if known then names.count else names.count + 1⟩,
    names.count)

def number? (names : Names) (name : String) : Option Nat :=
  (names.numbers.find? (·.1 == name)).map (·.2)

def properties (names : Names) (p : Properties String) : Names × Properties Nat :=
  match p.anchor with
  | some name =>
    let (names, number) := names.define name
    (names, ⟨some number, p.tag⟩)
  | none => (names, ⟨none, p.tag⟩)

end Names

mutual

/-- The tree with numbers for anchors. An alias takes the meaning that its name
has at that place of the text. -/
def numbered (names : Names) : Node String → Except Fault (Names × Node Nat)
  | .alias name =>
    match names.number? name with
    | some number => .ok (names, .alias number)
    | none => .error .unknownAlias
  | .scalar p text plain =>
    let (names, p) := names.properties p
    .ok (names, .scalar p text plain)
  | .sequence p items => do
    let (names, p) := names.properties p
    let (names, items) ← numberedItems names items
    return (names, .sequence p items)
  | .mapping p members => do
    let (names, p) := names.properties p
    let (names, members) ← numberedMembers names members
    return (names, .mapping p members)

def numberedItems (names : Names) : List (Node String) → Except Fault (Names × List (Node Nat))
  | [] => .ok (names, [])
  | item :: rest => do
    let (names, item) ← numbered names item
    let (names, rest) ← numberedItems names rest
    return (names, item :: rest)

def numberedMembers (names : Names) :
    List (Node String × Node String) → Except Fault (Names × List (Node Nat × Node Nat))
  | [] => .ok (names, [])
  | (key, value) :: rest => do
    let (names, key) ← numbered names key
    let (names, value) ← numbered names value
    let (names, rest) ← numberedMembers names rest
    return (names, (key, value) :: rest)

end

def here (p : Properties Nat) (node : Node Nat) : List (Nat × Node Nat) :=
  match p.anchor with
  | some number => [(number, node)]
  | none => []

mutual

def anchored : Node Nat → List (Nat × Node Nat)
  | .alias _ => []
  | .scalar p text plain => here p (.scalar p text plain)
  | .sequence p items => here p (.sequence p items) ++ anchoredItems items
  | .mapping p members => here p (.mapping p members) ++ anchoredMembers members

def anchoredItems : List (Node Nat) → List (Nat × Node Nat)
  | [] => []
  | item :: rest => anchored item ++ anchoredItems rest

def anchoredMembers : List (Node Nat × Node Nat) → List (Nat × Node Nat)
  | [] => []
  | (key, value) :: rest => anchored key ++ anchored value ++ anchoredMembers rest

/-- How many steps a reader takes through the tree: one for a scalar or alias,
two for the ends of a collection. -/
def steps : Node Nat → Nat
  | .alias _ => 1
  | .scalar .. => 1
  | .sequence _ items => 2 + itemSteps items
  | .mapping _ members => 2 + memberSteps members

def itemSteps : List (Node Nat) → Nat
  | [] => 0
  | item :: rest => steps item + itemSteps rest

def memberSteps : List (Node Nat × Node Nat) → Nat
  | [] => 0
  | (key, value) :: rest => steps key + steps value + memberSteps rest

end

end Node

end NodeLaunch.Yaml
