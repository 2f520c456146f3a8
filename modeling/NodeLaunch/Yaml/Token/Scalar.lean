import NodeLaunch.Text.Hexadecimal
import NodeLaunch.Yaml.Cursor

/-!
# Lexemes of scalars

The four ways of writing a scalar, each read by one pass over the characters.
Line breaks inside plain and quoted scalars fold: one break becomes a space, of
more than one all but the first stay. The two separators of Unicode do not fold.
-/

namespace NodeLaunch.Yaml

/-- A scalar read so far, and the gap after it that is not yet part of it. All
lists hold the latest character first. -/
structure Folding where
  text : List Char
  /-- Blanks since the last word, if the line goes on. -/
  blanks : List Char
  /-- A line has ended since the last word. -/
  broken : Bool
  firstBreak : List Char
  moreBreaks : List Char

namespace Folding

def empty : Folding := ⟨[], [], false, [], []⟩

def gap (f : Folding) : List Char :=
  if f.broken then
    if f.firstBreak = ['\n'] then (if f.moreBreaks = [] then [' '] else f.moreBreaks)
    else f.moreBreaks ++ f.firstBreak
  else f.blanks

def flush (f : Folding) : Folding := ⟨f.gap ++ f.text, [], false, [], []⟩

def push (f : Folding) (c : Char) : Folding := { f with text := c :: f.text }

/-- A space or tab; it counts only while the line goes on. -/
def blank (f : Folding) (c : Char) : Folding :=
  if f.broken then f else { f with blanks := c :: f.blanks }

def lineBreak (f : Folding) (c : Char) : Folding :=
  if f.broken then { f with moreBreaks := c :: f.moreBreaks }
  else { f with blanks := [], broken := true, firstBreak := [c] }

/-- A break written with a backslash before it joins the lines. -/
def joinLines (f : Folding) : Folding := { f with broken := true }

def result (f : Folding) : String := String.ofList f.text.reverse

end Folding

/-- A scalar, where it ends, and whether the last thing read was a line break. -/
structure ScalarLexeme where
  text : String
  cursor : Cursor
  broken : Bool

namespace ScalarLexeme

def isFlowIndicator (c : Char) : Bool :=
  c == ',' || c == '[' || c == ']' || c == '\x7b' || c == '\x7d'

/-- A plain scalar. It ends at a colon before a gap, at a comment after a gap, at
a document mark, in flow context at a flow indicator, and in block context at a
line that is not indented enough. -/
def plain (inFlow : Bool) (indent : Int) (f : Folding) (atWord : Bool) :
    Mark → List Char → Except Fault ScalarLexeme
  | mark, [] => .ok ⟨f.result, ⟨mark, []⟩, f.broken⟩
  | mark, c :: rest =>
    if isSpace c then
      if f.broken ∧ mark.column < indent ∧ c = '\t' then .error .token
      else plain inFlow indent (f.blank c) true (mark.next c) rest
    else if isBreak c then plain inFlow indent (f.lineBreak c) true mark.newLine rest
    else
      let stop : Except Fault ScalarLexeme := .ok ⟨f.result, ⟨mark, c :: rest⟩, f.broken⟩
      if atWord ∧ (!inFlow ∧ mark.column < indent) then stop
      else if atWord ∧ (c = '#' ∨ (mark.column = 0 ∧ atDocumentMark (c :: rest))) then stop
      else if inFlow ∧ c = ':' ∧ rest.head?.any (fun d => isFlowIndicator d || d == '?') then
        .error .token
      else if c = ':' ∧ atGap rest then stop
      else if inFlow ∧ isFlowIndicator c then stop
      else plain inFlow indent (f.flush.push c) false (mark.next c) rest

/-- A single-quoted scalar, after its first quote. Two quotes stand for one. -/
def singleQuoted (f : Folding) : Mark → List Char → Except Fault ScalarLexeme
  | _, [] => .error .token
  | mark, '\'' :: '\'' :: rest => singleQuoted (f.flush.push '\'') ((mark.next '\'').next '\'') rest
  | mark, c :: rest =>
    if isSpace c then singleQuoted (f.blank c) (mark.next c) rest
    else if isBreak c then singleQuoted (f.lineBreak c) mark.newLine rest
    else if mark.column = 0 ∧ atDocumentMark (c :: rest) then .error .token
    else if c = '\'' then .ok ⟨f.flush.result, ⟨mark.next c, rest⟩, false⟩
    else singleQuoted (f.flush.push c) (mark.next c) rest

def escaped? (c : Char) : Option Char :=
  match c with
  | '0' => some '\x00'
  | 'a' => some '\x07'
  | 'b' => some '\x08'
  | 't' => some '\t'
  | '\t' => some '\t'
  | 'n' => some '\n'
  | 'v' => some '\x0b'
  | 'f' => some '\x0c'
  | 'r' => some '\r'
  | 'e' => some '\x1b'
  | ' ' => some ' '
  | '"' => some '"'
  | '/' => some '/'
  | '\\' => some '\\'
  | 'N' => some '\u0085'
  | '_' => some '\u00a0'
  | 'L' => some '\u2028'
  | 'P' => some '\u2029'
  | _ => none

def escapeLength? (c : Char) : Option Nat :=
  match c with
  | 'x' => some 2
  | 'u' => some 4
  | 'U' => some 8
  | _ => none

inductive QuoteState
  | words
  | backslash
  /-- Inside a numeric escape: digits still to come, and the value so far. -/
  | digits (left value : Nat)

def doubleQuoted (f : Folding) : QuoteState → Mark → List Char → Except Fault ScalarLexeme
  | _, _, [] => .error .token
  | .words, mark, c :: rest =>
    if isSpace c then doubleQuoted (f.blank c) .words (mark.next c) rest
    else if isBreak c then doubleQuoted (f.lineBreak c) .words mark.newLine rest
    else if mark.column = 0 ∧ atDocumentMark (c :: rest) then .error .token
    else if c = '"' then .ok ⟨f.flush.result, ⟨mark.next c, rest⟩, false⟩
    else if c = '\\' then doubleQuoted f.flush .backslash (mark.next c) rest
    else doubleQuoted (f.flush.push c) .words (mark.next c) rest
  | .backslash, mark, c :: rest =>
    if isBreak c then doubleQuoted f.joinLines .words mark.newLine rest
    else
      match escaped? c, escapeLength? c with
      | some d, _ => doubleQuoted (f.push d) .words (mark.next c) rest
      | none, some left => doubleQuoted f (.digits left 0) (mark.next c) rest
      | none, none => .error .token
  | .digits left value, mark, c :: rest =>
    match Text.hexValue? c with
    | none => .error .token
    | some digit =>
      let value := value * 16 + digit
      if 1 < left then doubleQuoted f (.digits (left - 1) value) (mark.next c) rest
      else
        match Text.charOf? value with
        | some d => doubleQuoted (f.push d) .words (mark.next c) rest
        | none => .error .token

inductive Chomping
  | strip
  | clip
  | keep
  deriving DecidableEq

def chompingOf? (c : Char) : Option Chomping :=
  if c = '+' then some .keep else if c = '-' then some .strip else none

/-- The indicators after `|` or `>`: chomping, and an explicit indentation from 1 to 9. -/
def blockHeader (cursor : Cursor) : Except Fault (Chomping × Nat × Cursor) :=
  let digit (cursor : Cursor) : Except Fault (Nat × Cursor) :=
    match cursor.rest.head? with
    | some c =>
      if c = '0' then .error .token
      else if c.isDigit then .ok (c.toNat - 48, cursor.drop 1)
      else .ok (0, cursor)
    | none => .ok (0, cursor)
  match cursor.rest.head?.bind chompingOf? with
  | some chomping => do
    let (increment, cursor) ← digit (cursor.drop 1)
    return (chomping, increment, cursor)
  | none => do
    let (increment, cursor) ← digit cursor
    match cursor.rest.head?.bind chompingOf? with
    | some chomping => return (chomping, increment, cursor.drop 1)
    | none => return (.clip, increment, cursor)

/-- A block scalar read so far; lists hold the latest character first. -/
structure BlockText where
  text : List Char
  /-- The break of the last line with text. -/
  lineEnd : List Char
  emptyLines : List Char
  /-- The last line with text began with a blank. -/
  indented : Bool
  /-- The indentation of the text; none until a line shows it. -/
  indent : Option Nat
  /-- The deepest of the leading empty lines. -/
  deepest : Nat

namespace BlockText

def beginLine (literal : Bool) (b : BlockText) (c : Char) : BlockText :=
  let folds := !literal && b.lineEnd == ['\n'] && !b.indented && !isSpace c
  let joined := if folds then (if b.emptyLines = [] then ' ' :: b.text else b.text)
                else b.lineEnd ++ b.text
  { b with text := b.emptyLines ++ joined, lineEnd := [], emptyLines := [], indented := isSpace c }

def result (chomping : Chomping) (b : BlockText) : String :=
  let lastLine := if chomping = .strip then b.text else b.lineEnd ++ b.text
  String.ofList (if chomping = .keep then b.emptyLines ++ lastLine else lastLine).reverse

end BlockText

/-- A block scalar from the line after its header. `inLine` says that the line's
text has begun. -/
def block (literal : Bool) (chomping : Chomping) (least : Nat) (b : BlockText) (inLine : Bool) :
    Mark → List Char → Except Fault ScalarLexeme
  | mark, [] => .ok ⟨b.result chomping, ⟨mark, []⟩, false⟩
  | mark, c :: rest =>
    if inLine then
      if isBreak c then
        block literal chomping least { b with lineEnd := [c] } false mark.newLine rest
      else block literal chomping least { b with text := c :: b.text } true (mark.next c) rest
    else
      let within := b.indent.all (mark.column < ·)
      if within ∧ c = ' ' then block literal chomping least b false (mark.next c) rest
      else if within ∧ c = '\t' then .error .token
      else
        let deepest := max b.deepest mark.column
        if isBreak c then
          block literal chomping least { b with emptyLines := c :: b.emptyLines, deepest }
            false mark.newLine rest
        else
          let indent := b.indent.getD (max (max deepest least) 1)
          let b := { b with indent := some indent, deepest }
          if mark.column = indent then
            let b := b.beginLine literal c
            block literal chomping least { b with text := c :: b.text } true (mark.next c) rest
          else .ok ⟨b.result chomping, ⟨mark, c :: rest⟩, false⟩

def blockScalar (literal : Bool) (parentIndent : Int) (cursor : Cursor) :
    Except Fault ScalarLexeme := do
  let (chomping, increment, cursor) ← blockHeader cursor
  let cursor ← cursor.endLine
  let parent := parentIndent.toNat
  let indent := if increment = 0 then none else some (parent + increment)
  let least := (parentIndent + 1).toNat
  block literal chomping least ⟨[], [], [], false, indent, 0⟩ false cursor.mark cursor.rest

end ScalarLexeme

end NodeLaunch.Yaml
