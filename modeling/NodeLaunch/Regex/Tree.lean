import NodeLaunch.Regex.Basic
import NodeLaunch.Regex.Fault

/-!
# The syntax of regular expressions

The tree of an expression as it is written, its flags in place. What a part
means depends on the flags in force where it stands, so the meaning is worked
out from left to right: a flag that is set counts to the end of the innermost
group.

No Unicode tables are at hand. What would need one, such as a class of digits or
letters in any case, can be had without Unicode only.
-/

namespace NodeLaunch.Regex

inductive Flag
  | ignoreCase
  | multiLine
  | dotAll
  | swapGreed
  | unicode
  | verbose
  | crlf
  deriving DecidableEq, Repr

abbrev FlagChanges := List (Flag × Bool)

/-- The flags that matter for the meaning. How much a match takes does not, and
blanks in a verbose expression are left out while it is read. -/
structure Flags where
  ignoreCase : Bool
  multiLine : Bool
  dotAll : Bool
  unicode : Bool
  crlf : Bool

namespace Flags

def usual : Flags := ⟨false, false, false, true, false⟩

def set (flags : Flags) : Flag × Bool → Flags
  | (.ignoreCase, on) => { flags with ignoreCase := on }
  | (.multiLine, on) => { flags with multiLine := on }
  | (.dotAll, on) => { flags with dotAll := on }
  | (.unicode, on) => { flags with unicode := on }
  | (.crlf, on) => { flags with crlf := on }
  | (.swapGreed, _) | (.verbose, _) => flags

def apply (flags : Flags) (changes : FlagChanges) : Flags := changes.foldl set flags

end Flags

structure Literal where
  char : Char
  byte : Bool
  span : Span

inductive LetterClass
  | digit
  | blank
  | word

inductive EscapedClass
  | letter (name : LetterClass)
  | property (name : String)

inductive ClassOp
  | inter
  | diff
  | symmetricDiff

inductive ClassTree
  | nothing
  | one (literal : Literal)
  | range (first last : Literal)
  | escaped (name : EscapedClass) (negated : Bool) (span : Span)
  | ascii (ranges : List (Char × Char)) (negated : Bool) (span : Span)
  | nested (body : ClassTree) (negated : Bool) (span : Span)
  | union (a b : ClassTree)
  | combined (op : ClassOp) (a b : ClassTree)

inductive Anchor
  | caret
  | dollar
  | textStart
  | textEnd
  | word
  | noWord
  | wordStart
  | wordEnd
  | beforeWord
  | afterWord
  deriving DecidableEq, Repr

inductive Atom
  | literal (literal : Literal)
  | dot (span : Span)
  | anchor (anchor : Anchor) (span : Span)
  | escaped (name : EscapedClass) (negated : Bool) (span : Span)

inductive Tree
  | empty
  | atom (atom : Atom)
  | bracket (tree : ClassTree)
  | flags (changes : FlagChanges)
  | group (changes : FlagChanges) (body : Tree)
  | concat (first second : Tree)
  | either (a b : Tree)
  | repeated (body : Tree) (least : Nat) (most : Option Nat)

def fail {α : Type} (problem : Problem) (span : Span) : Except Fault α :=
  .error ⟨problem, span, none⟩

namespace Anchor

/-- The boundary as flags have it, without regard to what a word is. -/
def boundary (flags : Flags) : Anchor → Boundary
  | .caret => if flags.multiLine then .lineStart flags.crlf else .textStart
  | .dollar => if flags.multiLine then .lineEnd flags.crlf else .textEnd
  | .textStart => .textStart
  | .textEnd => .textEnd
  | .word => .word
  | .noWord => .noWord
  | .wordStart => .wordStart
  | .wordEnd => .wordEnd
  | .beforeWord => .beforeWord
  | .afterWord => .afterWord

def isOfWords : Anchor → Bool
  | .caret | .dollar | .textStart | .textEnd => false
  | _ => true

/-- Nothing, if the boundary is one of Unicode words. -/
def boundary? (flags : Flags) (anchor : Anchor) : Option Boundary :=
  if flags.unicode && anchor.isOfWords then none else some (anchor.boundary flags)

end Anchor

def Flags.fold (flags : Flags) (span : Span) (set : CharSet) : Except Fault CharSet :=
  if !flags.ignoreCase || set.isNothing then .ok set
  else if flags.unicode then fail .caseUnknown span
  else .ok (.anyCase set)

/-- The complement if so asked. Without Unicode it would hold bytes that are no text. -/
def Flags.negate (flags : Flags) (negated : Bool) (span : Span) (set : CharSet) :
    Except Fault CharSet :=
  if !negated then .ok set
  else if flags.unicode then .ok (.complement set)
  else fail .invalidText span

namespace LetterClass

def set : LetterClass → CharSet
  | .digit => .range '0' '9'
  | .blank => .ofRanges [('\t', '\r'), (' ', ' ')]
  | .word => .word

end LetterClass

namespace EscapedClass

def propertyKey (name : String) : String :=
  let cs := (name.toList.map Char.toLower)
  let cs := if ['i', 's'].isPrefixOf cs then cs.drop 2 else cs
  String.ofList (cs.filter fun c => c.toNat < 0x80 && c != ' ' && c != '_' && c != '-')

/-- Why a property is not found. These names are looked up as values at once. -/
def propertyProblem (name : String) : Problem :=
  if ["cf", "lc", "sc"].contains (propertyKey name) then .propertyValueUnknown
  else .propertyUnknown

def set (flags : Flags) (negated : Bool) (span : Span) : EscapedClass → Except Fault CharSet
  | .letter name =>
    if flags.unicode then fail .letterClassUnknown span
    else flags.negate negated span name.set
  | .property name =>
    if flags.unicode then fail (propertyProblem name) span else fail .unicodeNotAllowed span

end EscapedClass

namespace ClassTree

/-- Without Unicode a class holds ASCII characters alone. -/
def member (flags : Flags) (literal : Literal) : Except Fault Char :=
  if flags.unicode || literal.char.toNat < 0x80 then .ok literal.char
  else if literal.byte then fail .invalidText literal.span
  else fail .unicodeNotAllowed literal.span

def span? : ClassTree → Option Span
  | .nothing => none
  | .one literal => some literal.span
  | .range first last => some ⟨first.span.first, last.span.last⟩
  | .escaped _ _ span | .ascii _ _ span | .nested _ _ span => some span
  | .union a b | .combined _ a b =>
    match span? a, span? b with
    | some a, some b => some ⟨a.first, b.last⟩
    | a, b => a.or b

def foldSide (flags : Flags) (tree : ClassTree) (set : CharSet) : Except Fault CharSet :=
  match tree.span? with
  | some span => flags.fold span set
  | none => .ok set

/-- The set of a class; cases are folded before a complement is taken. -/
def set (flags : Flags) : ClassTree → Except Fault CharSet
  | .nothing => .ok .nothing
  | .one literal => (member flags literal).map CharSet.one
  | .range first last => do return .range (← member flags first) (← member flags last)
  | .escaped name negated span => name.set flags negated span
  | .ascii ranges negated span => do
    flags.negate negated span (← flags.fold span (.ofRanges ranges))
  | .nested body negated span => do
    flags.negate negated span (← flags.fold span (← set flags body))
  | .union a b => do return .union (← set flags a) (← set flags b)
  | .combined op a b => do
    let left ← set flags a
    let right ← set flags b
    let right ← foldSide flags b right
    let left ← foldSide flags a left
    match op with
    | .inter => return .inter left right
    | .diff => return .diff left right
    | .symmetricDiff => return .symmetricDiff left right

end ClassTree

def Atom.regex? (flags : Flags) : Atom → Except Fault (Option Regex)
  | .literal written =>
    if !flags.unicode && written.byte && 0x80 ≤ written.char.toNat then
      fail .invalidText written.span
    else do return some (.one (← flags.fold written.span (.one written.char)))
  | .dot span =>
    if !flags.unicode then fail .invalidText span
    else if flags.dotAll then .ok (some (.one .all))
    else .ok (some (.one (.complement (.ofList (if flags.crlf then ['\r', '\n'] else ['\n'])))))
  | .anchor place _ => .ok ((place.boundary? flags).map .look)
  | .escaped name negated span => do return some (.one (← name.set flags negated span))

namespace Tree

/-- The meaning under these flags, if it can be had, and the flags in force
afterwards. What is repeated no times need not have a meaning. -/
def regex? (flags : Flags) : Tree → Except Fault (Option Regex × Flags)
  | .empty => .ok (some .empty, flags)
  | .atom part => do return (← part.regex? flags, flags)
  | .bracket tree => do return (some (.one (← tree.set flags)), flags)
  | .flags changes => .ok (some .empty, flags.apply changes)
  | .group changes body => do
    let (body, _) ← regex? (flags.apply changes) body
    return (body, flags)
  | .concat first second => do
    let (first, flags) ← regex? flags first
    let (second, flags) ← regex? flags second
    return (first.bind fun first => second.map (.concat first), flags)
  | .either a b => do
    let (a, flags) ← regex? flags a
    let (b, flags) ← regex? flags b
    return (a.bind fun a => b.map (.either a), flags)
  | .repeated body least most => do
    let (body, flags) ← regex? flags body
    if most = some 0 then return (some .empty, flags)
    else return (body.map (.repeated · least most), flags)

end Tree

end NodeLaunch.Regex
