import NodeLaunch.Yaml.Fault

/-!
# Reading positions in a YAML text

Which characters a YAML text may hold, its line breaks, and a position in it.
Breaks of all lengths are made one character before anything else is read, so
a position moves by one character at a time.
-/

namespace NodeLaunch.Yaml

def isAllowed (c : Char) : Bool :=
  let n := c.toNat
  n == 0x09 || n == 0x0A || n == 0x0D || (0x20 ≤ n && n ≤ 0x7E) || n == 0x85 ||
    (0xA0 ≤ n && n ≤ 0xD7FF) || (0xE000 ≤ n && n ≤ 0xFFFD) || 0x10000 ≤ n

/-- Returns, alone or before a newline, and the next-line character become
newlines. The two separators of Unicode stay what they are. -/
def unifyBreaks : List Char → List Char
  | [] => []
  | '\r' :: '\n' :: rest => '\n' :: unifyBreaks rest
  | c :: rest => (if c = '\r' ∨ c.toNat = 0x85 then '\n' else c) :: unifyBreaks rest

def isBreak (c : Char) : Bool := c == '\n' || c.toNat == 0x2028 || c.toNat == 0x2029

def isSpace (c : Char) : Bool := c == ' ' || c == '\t'

def isGap (c : Char) : Bool := isSpace c || isBreak c

def atGap : List Char → Bool
  | [] => true
  | c :: _ => isGap c

def isWordChar (c : Char) : Bool := c.isAlphanum || c == '_' || c == '-'

def atDocumentMark : List Char → Bool
  | '-' :: '-' :: '-' :: rest => atGap rest
  | '.' :: '.' :: '.' :: rest => atGap rest
  | _ => false

structure Mark where
  /-- How many bytes the text before it has in UTF-8. -/
  offset : Nat
  line : Nat
  column : Nat
  deriving Repr

namespace Mark

def start : Mark := ⟨0, 0, 0⟩

def next (m : Mark) (c : Char) : Mark := ⟨m.offset + c.utf8Size, m.line, m.column + 1⟩

/-- Past a break. All breaks count as one byte, for offsets are compared only within a line. -/
def newLine (m : Mark) : Mark := ⟨m.offset + 1, m.line + 1, 0⟩

def skip (m : Mark) (cs : List Char) : Mark := cs.foldl next m

end Mark

structure Cursor where
  mark : Mark
  rest : List Char
  deriving Repr

namespace Cursor

def dropWhile (p : Char → Bool) (cursor : Cursor) : Cursor :=
  ⟨cursor.mark.skip (cursor.rest.takeWhile p), cursor.rest.dropWhile p⟩

def drop (n : Nat) (cursor : Cursor) : Cursor :=
  ⟨cursor.mark.skip (cursor.rest.take n), cursor.rest.drop n⟩

def skipSpaces (cursor : Cursor) : Cursor := cursor.dropWhile isSpace

def isAt (c : Char) (cursor : Cursor) : Bool := cursor.rest.head? == some c

/-- Past the blanks and the comment that end a line, and its break; nothing else
may stand there. -/
def endLine (cursor : Cursor) : Except Fault Cursor :=
  let cursor := cursor.skipSpaces
  let cursor := if cursor.isAt '#' then cursor.dropWhile (!isBreak ·) else cursor
  match cursor.rest with
  | [] => .ok cursor
  | c :: rest => if isBreak c then .ok ⟨cursor.mark.newLine, rest⟩ else .error .token

/-- Past blanks, comments and line breaks, up to the next token. A new line in
block context allows a simple key, which is the second result. Tabs count as
blanks only where no simple key can start. A byte order mark is passed over in
front of a line, where it takes up a column like any other character. -/
def toToken (inFlow comment keyAllowed : Bool) : Mark → List Char → Bool × Cursor
  | mark, [] => (keyAllowed, ⟨mark, []⟩)
  | mark, c :: rest =>
    if isBreak c then toToken inFlow false (keyAllowed || !inFlow) mark.newLine rest
    else if comment then toToken inFlow true keyAllowed (mark.next c) rest
    else if mark.column = 0 ∧ c.toNat = 0xFEFF then
      toToken inFlow false keyAllowed (mark.next c) rest
    else if c = ' ' ∨ (c = '\t' ∧ (inFlow ∨ !keyAllowed)) then
      toToken inFlow false keyAllowed (mark.next c) rest
    else if c = '#' then toToken inFlow true keyAllowed (mark.next c) rest
    else (keyAllowed, ⟨mark, c :: rest⟩)

end Cursor

end NodeLaunch.Yaml
