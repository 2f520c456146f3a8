import NodeLaunch.Regex.Bracket
import NodeLaunch.Text.Letter

/-!
# Reading regular expressions

From the text of an expression to its tree, and to its meaning.
-/

namespace NodeLaunch.Regex

namespace Cursor

def flag? (c : Char) : Option Flag :=
  match c with
  | 'i' => some .ignoreCase
  | 'm' => some .multiLine
  | 's' => some .dotAll
  | 'U' => some .swapGreed
  | 'u' => some .unicode
  | 'x' => some .verbose
  | 'R' => some .crlf
  | _ => none

/-- Flags up to a colon or a closing parenthesis. `minus` is the span of the sign
after which they are taken back, and `seen` has the spans of those before. -/
def flagList (minus : Option Span) (seen : List (Flag × Span)) (changes : FlagChanges) :
    Nat → Cursor → Except Fault (FlagChanges × Cursor)
  | 0, cursor => fail .flagAtEnd cursor.here
  | fuel + 1, cursor => do
    let span := cursor.charSpan
    match cursor.rest with
    | [] => fail .flagAtEnd cursor.here
    | c :: _ =>
      if c = ':' ∨ c = ')' then return (changes, cursor)
      else if c = '-' then
        match minus with
        | some earlier => throw ⟨.flagRepeatedNegation, span, some earlier⟩
        | none =>
          let next := cursor.next
          if next.isAt ':' || next.isAt ')' then fail .flagDanglingNegation span
          else flagList (some span) seen changes fuel next
      else
        match flag? c with
        | none => fail .flagUnknown span
        | some flag =>
          match seen.lookup flag with
          | some earlier => throw ⟨.flagDuplicate, span, some earlier⟩
          | none =>
            flagList minus ((flag, span) :: seen) (changes ++ [(flag, minus.isNone)]) fuel
              cursor.next

def isNameChar (first : Bool) (c : Char) : Bool :=
  c == '_' || Text.isLetter c ||
    (!first && (Text.isNumeral c || c == '.' || c == '[' || c == ']'))

def groupName (cursor : Cursor) : Except Fault Cursor :=
  let (name, after) := cursor.word false (· != '>')
  let (_, valid) := cursor.word false (isNameChar false)
  if cursor.atEnd then fail .groupNameAtEnd cursor.here
  else if !name.isEmpty && !cursor.rest.head?.any (isNameChar true) then
    fail .groupNameCharacter cursor.charSpan
  else if valid.place ≠ after.place then fail .groupNameCharacter valid.charSpan
  else if after.atEnd then fail .groupNameAtEnd after.here
  else if name.isEmpty then fail .groupNameEmpty cursor.here
  else
    let text := String.ofList name
    let span : Span := ⟨cursor.place, after.place⟩
    match cursor.names.lookup text with
    | some earlier => .error ⟨.groupNameDuplicate, span, some earlier⟩
    | none => .ok { after.next with names := after.names ++ [(text, span)] }

/-- How a group begins: flags alone, or flags for the group that follows. -/
inductive GroupOpening
  | flags (changes : FlagChanges)
  | group (changes : FlagChanges)

def groupOpening (verbose : Bool) (cursor : Cursor) : Except Fault (GroupOpening × Cursor) :=
  let inside := cursor.advance verbose
  let lookAround := ["?=", "?!", "?<=", "?<!"].findSome? fun text => inside.skip? text.toList
  let named := (inside.skip? ['?', 'P', '<']).or (inside.skip? ['?', '<'])
  match lookAround, named, inside.skip? ['?'] with
  | some past, _, _ => fail .lookAround ⟨cursor.place, past.place⟩
  | none, some name, _ => do return (.group [], ← name.groupName)
  | none, none, none => .ok (.group [], inside)
  | none, none, some flags =>
    if flags.atEnd then fail .groupUnclosed cursor.charSpan
    else do
      let (changes, after) ← flagList none [] [] (flags.rest.length + 1) flags
      if after.isAt ':' then return (.group changes, after.next)
      else if changes.isEmpty then fail .nothingToRepeat inside.here
      else return (.flags changes, after.next)

/-- A sign after a repetition that says how much it takes; the meaning is the same. -/
def lazySign (cursor : Cursor) : Cursor := if cursor.isAt '?' then cursor.next else cursor

def count (verbose : Bool) (cursor : Cursor) : Except Fault ((Nat × Option Nat) × Cursor) := do
  let start := cursor.place
  let unclosed (cursor : Cursor) : Except Fault ((Nat × Option Nat) × Cursor) :=
    fail .countUnclosed ⟨start, cursor.place⟩
  let close (least : Nat) (most : Option Nat) (cursor : Cursor) :
      Except Fault ((Nat × Option Nat) × Cursor) :=
    if !cursor.isAt '\x7d' then unclosed cursor
    else
      let past := (cursor.advance verbose).lazySign
      if most.any (· < least) then fail .countRange ⟨start, past.place⟩
      else .ok ((least, most), past)
  let inside := cursor.advance verbose
  if inside.atEnd then unclosed inside
  else
    let (least, after) := inside.decimal verbose
    if after.atEnd then unclosed after
    else if after.isAt ',' then
      let beyond := after.advance verbose
      if beyond.atEnd then unclosed beyond
      else if beyond.isAt '\x7d' then close (← least) none beyond
      else
        let least ← least
        let (most, after) := beyond.decimal verbose
        close least (some (← most)) after
    else
      let least ← least
      close least (some least) after

/-- The last item can be repeated: it is there, and not a setting of flags. -/
def repeatable? : List Tree → Option (Tree × List Tree)
  | [] | .flags _ :: _ => none
  | item :: before => some (item, before)

def repetition? (verbose : Bool) (cursor : Cursor) :
    Option (Except Fault ((Nat × Option Nat) × Cursor)) :=
  match cursor.rest with
  | '?' :: _ => some (.ok ((0, some 1), cursor.next.lazySign))
  | '*' :: _ => some (.ok ((0, none), cursor.next.lazySign))
  | '+' :: _ => some (.ok ((1, none), cursor.next.lazySign))
  | '\x7b' :: _ => some (cursor.count verbose)
  | _ => none

def atom (verbose : Bool) (cursor : Cursor) : Except Fault (Atom × Cursor) :=
  match cursor.rest with
  | '\\' :: _ => cursor.escape verbose
  | '.' :: _ => .ok (.dot cursor.charSpan, cursor.next)
  | '^' :: _ => .ok (.anchor .caret cursor.charSpan, cursor.next)
  | '$' :: _ => .ok (.anchor .dollar cursor.charSpan, cursor.next)
  | c :: _ => .ok (.literal ⟨c, false, cursor.charSpan⟩, cursor.next)
  | [] => fail .escapeAtEnd cursor.here

def alternatives (before : Option Tree) (items : List Tree) : Tree :=
  let last := items.foldl (fun rest item => Tree.concat item rest) .empty
  match before with
  | some before => .either before last
  | none => last

/-- The alternatives up to the end of the text or, in a group, up to its closing
parenthesis; `opened` is the span of the one that opened it. Each call but the
last reads a character, so their number and one more is fuel enough. -/
def branches (opened : Option Span) : Nat → Bool → Option Tree → List Tree → Cursor →
    Except Fault (Tree × Cursor)
  | 0, _, _, _, cursor => fail .groupUnclosed cursor.here
  | fuel + 1, verbose, before, items, cursor => do
    let cursor := cursor.gap verbose
    match cursor.rest with
    | [] =>
      match opened with
      | some span => fail .groupUnclosed span
      | none => return (alternatives before items, cursor)
    | ')' :: _ =>
      match opened with
      | some _ => return (alternatives before items, cursor.next)
      | none => fail .groupUnopened cursor.charSpan
    | '|' :: _ => branches opened fuel verbose (some (alternatives before items)) [] cursor.next
    | '(' :: _ =>
      let (opening, inside) ← cursor.groupOpening verbose
      match opening with
      | .flags changes =>
        branches opened fuel ((changes.lookup .verbose).getD verbose) before
          (.flags changes :: items) inside
      | .group changes =>
        let (body, after) ← branches (some cursor.charSpan) fuel
          ((changes.lookup .verbose).getD verbose) none [] inside
        branches opened fuel verbose before (.group changes body :: items) after
    | '[' :: _ =>
      let (tree, after) ← cursor.bracket verbose (2 * cursor.rest.length + 2)
      branches opened fuel verbose before (.bracket tree :: items) after
    | _ =>
      match cursor.repetition? verbose with
      | some counted =>
        match repeatable? items with
        | none => fail .nothingToRepeat cursor.here
        | some (item, earlier) =>
          let ((least, most), after) ← counted
          branches opened fuel verbose before (.repeated item least most :: earlier) after
      | none =>
        let (atom, after) ← cursor.atom verbose
        branches opened fuel verbose before (.atom atom :: items) after

end Cursor

inductive Refusal
  | invalid (fault : Fault)
  /-- It is well written, but asks for the words of Unicode. -/
  | unicodeWords
  deriving DecidableEq, Repr

def Refusal.message (text : String) : Refusal → String
  | .invalid fault => fault.message text
  | .unicodeWords => "error building NFA"

def treeOf (text : String) : Except Fault Tree := do
  let cs := text.toList
  let (tree, _) ← Cursor.branches none (cs.length + 1) false none [] ⟨.start, cs, []⟩
  return tree

def ofText (text : String) : Except Refusal Regex :=
  match (do (← treeOf text).regex? .usual) with
  | .error fault => .error (.invalid fault)
  | .ok (none, _) => .error .unicodeWords
  | .ok (some regex, _) => .ok regex

end NodeLaunch.Regex
