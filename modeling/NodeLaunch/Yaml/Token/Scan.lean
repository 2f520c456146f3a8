import NodeLaunch.Yaml.Token.Name

/-!
# From a text to tokens

Block structure is shown by indentation alone, so the scanner writes tokens of
its own where a block begins and ends. A key without an indicator is known for
one only at its colon. Until then the place where it began is kept as a
*pending key*, and the tokens for the key and for the mapping it may open are
put there afterwards. A pending key lasts for one line and 1024 bytes.
-/

namespace NodeLaunch.Yaml

/-- The place where a key without an indicator may have begun. -/
structure PendingKey where
  mark : Mark
  /-- How many tokens stand before it. -/
  tokens : Nat
  /-- At this indentation nothing else than a key can begin. -/
  required : Bool

structure Scanner where
  cursor : Cursor
  /-- The latest token first. -/
  tokens : List Token
  count : Nat
  /-- The column of the innermost block, `-1` outside all blocks. -/
  indent : Int
  /-- The columns of the blocks around it, the nearest first. -/
  outerIndents : List Int
  /-- The pending key of each open flow collection, the innermost first. -/
  flowKeys : List (Option PendingKey)
  blockKey : Option PendingKey
  keyAllowed : Bool

namespace Scanner

def start (text : List Char) : Scanner where
  cursor := ⟨.start, text⟩
  tokens := []
  count := 0
  indent := -1
  outerIndents := []
  flowKeys := []
  blockKey := none
  keyAllowed := true

def inFlow (s : Scanner) : Bool := !s.flowKeys.isEmpty

def emit (s : Scanner) (token : Token) : Scanner :=
  { s with tokens := token :: s.tokens, count := s.count + 1 }

/-- A token with `before` tokens before it, all later ones after it. -/
def emitAt (s : Scanner) (before : Nat) (token : Token) : Scanner :=
  let later := s.count - before
  { s with
    tokens := s.tokens.take later ++ token :: s.tokens.drop later
    count := s.count + 1 }

def pendingKey (s : Scanner) : Option PendingKey :=
  match s.flowKeys with
  | [] => s.blockKey
  | key :: _ => key

def setPendingKey (s : Scanner) (key : Option PendingKey) : Scanner :=
  match s.flowKeys with
  | [] => { s with blockKey := key }
  | _ :: outer => { s with flowKeys := key :: outer }

/-- Where no key can follow any more, a required one is missed. -/
def dropPendingKey (s : Scanner) : Except Fault Scanner :=
  match s.pendingKey with
  | some key => if key.required then .error .token else .ok (s.setPendingKey none)
  | none => .ok s

def isStale (now : Mark) (key : PendingKey) : Bool :=
  key.mark.line < now.line || key.mark.offset + 1024 < now.offset

def dropIfStale (now : Mark) : Option PendingKey → Except Fault (Option PendingKey)
  | some key =>
    if isStale now key then (if key.required then .error .token else .ok none) else .ok (some key)
  | none => .ok none

def dropStaleKeys (s : Scanner) : Except Fault Scanner := do
  let flowKeys ← s.flowKeys.mapM (dropIfStale s.cursor.mark)
  let blockKey ← dropIfStale s.cursor.mark s.blockKey
  return { s with flowKeys, blockKey }

def notePendingKey (s : Scanner) : Except Fault Scanner :=
  if s.keyAllowed then do
    let s ← s.dropPendingKey
    let required := !s.inFlow && s.indent == s.cursor.mark.column
    return s.setPendingKey (some ⟨s.cursor.mark, s.count, required⟩)
  else .ok s

def openBlock (s : Scanner) (column : Nat) (before : Nat) (token : Token) : Scanner :=
  if !s.inFlow && s.indent < column then
    { s.emitAt before token with indent := column, outerIndents := s.indent :: s.outerIndents }
  else s

def closeBlocks (s : Scanner) (column : Int) : Scanner :=
  if s.inFlow then s else
  let rec close (s : Scanner) : List Int → Scanner
    | [] => s
    | outer :: rest =>
      if column < s.indent then
        close { s.emit .blockEnd with indent := outer, outerIndents := rest } rest
      else s
  close s s.outerIndents

def accept (s : Scanner) (length : Nat) (token : Token) : Scanner :=
  { s with cursor := s.cursor.drop length }.emit token

def acceptScalar (s : Scanner) (lexeme : ScalarLexeme) (plain : Bool) : Scanner :=
  { s with cursor := lexeme.cursor }.emit (.scalar lexeme.text plain)

def allowKey (s : Scanner) (allowed : Bool) : Scanner := { s with keyAllowed := allowed }

def openFlow (s : Scanner) (token : Token) : Except Fault Scanner := do
  let s ← s.notePendingKey
  return { s.allowKey true with flowKeys := none :: s.flowKeys }.accept 1 token

def closeFlow (s : Scanner) (token : Token) : Except Fault Scanner := do
  let s ← s.dropPendingKey
  return { s.allowKey false with flowKeys := s.flowKeys.tail }.accept 1 token

def flowEntry (s : Scanner) : Except Fault Scanner := do
  let s ← s.dropPendingKey
  return (s.allowKey true).accept 1 .flowEntry

def blockEntry (s : Scanner) : Except Fault Scanner := do
  if !s.inFlow && !s.keyAllowed then throw .token
  let s := s.openBlock s.cursor.mark.column s.count .blockSequenceStart
  let s ← s.dropPendingKey
  return (s.allowKey true).accept 1 .blockEntry

def key (s : Scanner) : Except Fault Scanner := do
  if !s.inFlow && !s.keyAllowed then throw .token
  let s := s.openBlock s.cursor.mark.column s.count .blockMappingStart
  let s ← s.dropPendingKey
  return (s.allowKey !s.inFlow).accept 1 .key

/-- A colon makes a key of what the pending key points at; without one it stands
for a key that is empty or was written with its indicator. -/
def value (s : Scanner) : Except Fault Scanner := do
  match s.pendingKey with
  | some pending =>
    let s := (s.emitAt pending.tokens .key).openBlock pending.mark.column pending.tokens
      .blockMappingStart
    return ((s.setPendingKey none).allowKey false).accept 1 .value
  | none =>
    if !s.inFlow && !s.keyAllowed then throw .token
    let s := s.openBlock s.cursor.mark.column s.count .blockMappingStart
    return (s.allowKey !s.inFlow).accept 1 .value

/-- A line that begins or ends a document, or a directive: all blocks end before it. -/
def endBlocks (s : Scanner) : Except Fault Scanner := do
  let s ← (s.closeBlocks (-1)).dropPendingKey
  return s.allowKey false

def isIndicator (c : Char) : Bool := "-?:,[]\x7b\x7d#&*!|>'\"%@`".toList.contains c

def startsPlain (inFlow : Bool) (c : Char) (rest : List Char) : Bool :=
  (!isIndicator c && !isGap c) || (c == '-' && !(rest.head?.any isSpace)) ||
    (!inFlow && (c == '?' || c == ':') && !atGap rest)

def token (s : Scanner) (c : Char) (rest : List Char) : Except Fault Scanner := do
  let cursor := s.cursor
  let atLineStart := cursor.mark.column == 0
  let separated := s.inFlow || atGap rest
  if atLineStart && c = '%' then
    let s ← s.endBlocks
    let (directive, cursor) ← (cursor.drop 1).directive
    return { s with cursor }.emit directive
  if atLineStart && atDocumentMark (c :: rest) then
    let s ← s.endBlocks
    return s.accept 3 (if c = '-' then .documentStart else .documentEnd)
  if c = '[' then return ← s.openFlow .flowSequenceStart
  if c = '\x7b' then return ← s.openFlow .flowMappingStart
  if c = ']' then return ← s.closeFlow .flowSequenceEnd
  if c = '\x7d' then return ← s.closeFlow .flowMappingEnd
  if c = ',' then return ← s.flowEntry
  -- glued to what follows, these three belong to a scalar; `?` and `:` not so in flow
  if c = '-' && atGap rest then return ← s.blockEntry
  if c = '?' && separated then return ← s.key
  if c = ':' && separated then return ← s.value
  if c = '*' || c = '&' then
    let s ← s.notePendingKey
    let (name, cursor) ← (cursor.drop 1).anchorName
    return { s.allowKey false with cursor }.emit (if c = '*' then .alias name else .anchor name)
  if c = '!' then
    let s ← s.notePendingKey
    let (name, cursor) ← cursor.tag s.inFlow
    return { s.allowKey false with cursor }.emit (.tag name)
  if (c = '|' || c = '>') && !s.inFlow then
    let s ← s.dropPendingKey
    let lexeme ← ScalarLexeme.blockScalar (c = '|') s.indent (cursor.drop 1)
    return (s.allowKey true).acceptScalar lexeme false
  if c = '\'' then
    let s ← s.notePendingKey
    let lexeme ← ScalarLexeme.singleQuoted .empty (cursor.mark.next c) rest
    return (s.allowKey false).acceptScalar lexeme false
  if c = '"' then
    let s ← s.notePendingKey
    let lexeme ← ScalarLexeme.doubleQuoted .empty .words (cursor.mark.next c) rest
    return (s.allowKey false).acceptScalar lexeme false
  if startsPlain s.inFlow c rest then
    let s ← s.notePendingKey
    let lexeme ← ScalarLexeme.plain s.inFlow (s.indent + 1) .empty false cursor.mark (c :: rest)
    return (s.allowKey lexeme.broken).acceptScalar lexeme true
  throw .token

/-- All the tokens to the end of the text. Each step reads at least one
character, so `fuel` is the number of characters and one for the end. -/
def run : Nat → Scanner → Except Fault (List Token)
  | 0, _ => .error .token
  | fuel + 1, s => do
    let (keyAllowed, cursor) :=
      Cursor.toToken s.inFlow false s.keyAllowed s.cursor.mark s.cursor.rest
    let s ← { s with cursor, keyAllowed }.dropStaleKeys
    let s := s.closeBlocks cursor.mark.column
    match cursor.rest with
    | [] =>
      let s ← s.endBlocks
      return s.tokens.reverse
    | c :: rest => run fuel (← s.token c rest)

end Scanner

def Token.scan (text : String) : Except Fault (List Token) :=
  let chars := text.toList
  if chars.all isAllowed then
    let chars := unifyBreaks chars
    (Scanner.start chars).run (chars.length + 1)
  else .error .character

end NodeLaunch.Yaml
