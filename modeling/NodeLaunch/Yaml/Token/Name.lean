import NodeLaunch.Yaml.Cursor
import NodeLaunch.Yaml.Token.Basic
import NodeLaunch.Yaml.Token.Scalar

/-!
# Lexemes of names

Anchors, aliases, tags and directives. Tags are bytes: an escape `%XX` in a tag
is one byte, and a byte zero ends the text it stands in.
-/

namespace NodeLaunch.Yaml

def bytesOf (cs : List Char) : List UInt8 := cs.flatMap String.utf8EncodeChar

def untilZero (bytes : List UInt8) : List UInt8 := bytes.takeWhile (· != 0)

namespace Cursor

def anchorName (cursor : Cursor) : Except Fault (String × Cursor) :=
  let name := cursor.rest.takeWhile isWordChar
  let cursor := cursor.dropWhile isWordChar
  let ends := match cursor.rest with
    | [] => true
    | c :: _ => isGap c || "?:,]\x7d%@`".toList.contains c
  if name.isEmpty || !ends then .error .token else .ok (String.ofList name, cursor)

def sequenceLength (first : Nat) : Nat :=
  if first < 0x80 then 1
  else if first / 0x20 = 6 then 2
  else if first / 0x10 = 14 then 3
  else if first / 0x08 = 30 then 4
  else 0

def escapedBytes (left : Nat) (cursor : Cursor) : Except Fault (List UInt8 × Cursor) :=
  match left with
  | 0 => .ok ([], cursor)
  | left + 1 =>
    match cursor.rest with
    | '%' :: a :: b :: _ =>
      match Text.hexValue? a, Text.hexValue? b with
      | some high, some low => do
        let byte := high * 16 + low
        if byte / 0x40 ≠ 2 then throw .token
        let (bytes, cursor) ← escapedBytes left (cursor.drop 3)
        return (UInt8.ofNat byte :: bytes, cursor)
      | _, _ => .error .token
    | _ => .error .token

def escapedChar (cursor : Cursor) : Except Fault (List UInt8 × Cursor) :=
  match cursor.rest with
  | '%' :: a :: b :: _ =>
    match Text.hexValue? a, Text.hexValue? b with
    | some high, some low => do
      let byte := high * 16 + low
      if sequenceLength byte = 0 then throw .token
      let (bytes, cursor) ← escapedBytes (sequenceLength byte - 1) (cursor.drop 3)
      return (UInt8.ofNat byte :: bytes, cursor)
    | _, _ => .error .token
  | _ => .error .token

def isUriChar (verbatim : Bool) (c : Char) : Bool :=
  isWordChar c || ";/?:@&=+$.!~*'()%".toList.contains c ||
    (verbatim && (c == ',' || c == '[' || c == ']'))

/-- The characters of a tag, escapes decoded; `fuel` is at least their number. -/
def uriBytes (verbatim : Bool) : Nat → Cursor → Except Fault (List UInt8 × Cursor)
  | 0, cursor => .ok ([], cursor)
  | fuel + 1, cursor =>
    match cursor.rest with
    | [] => .ok ([], cursor)
    | c :: _ =>
      if c = '%' then do
        let (bytes, cursor) ← cursor.escapedChar
        let (more, cursor) ← uriBytes verbatim fuel cursor
        return (bytes ++ more, cursor)
      else if isUriChar verbatim c then do
        let (more, cursor) ← uriBytes verbatim fuel (cursor.drop 1)
        return (String.utf8EncodeChar c ++ more, cursor)
      else .ok ([], cursor)

/-- A part of a tag after `head`, which is already read. The two are not both empty. -/
def uri (verbatim : Bool) (head : List Char) (cursor : Cursor) :
    Except Fault (List UInt8 × Cursor) := do
  let (bytes, cursor') ← uriBytes verbatim cursor.rest.length cursor
  if head.isEmpty && cursor'.rest.length == cursor.rest.length then throw .token
  return (untilZero (bytesOf (head.drop 1) ++ bytes), cursor')

def tagHandle (cursor : Cursor) : Except Fault (List Char × Cursor) :=
  match cursor.rest with
  | '!' :: rest =>
    let word := rest.takeWhile isWordChar
    let cursor := (cursor.drop 1).dropWhile isWordChar
    if cursor.isAt '!' then .ok ('!' :: word ++ ['!'], cursor.drop 1)
    else .ok ('!' :: word, cursor)
  | _ => .error .token

def isClosedHandle (handle : List Char) : Bool :=
  2 ≤ handle.length && handle.getLast? == some '!'

def tag (inFlow : Bool) (cursor : Cursor) : Except Fault (TagName × Cursor) := do
  let (name, cursor) ← match cursor.rest with
    | '!' :: '<' :: _ => do
      let (suffix, cursor) ← uri true [] (cursor.drop 2)
      if !cursor.isAt '>' then throw .token
      pure (⟨[], suffix⟩, cursor.drop 1)
    | _ => do
      let (handle, cursor) ← tagHandle cursor
      if isClosedHandle handle then
        let (suffix, cursor) ← uri false [] cursor
        pure (⟨bytesOf handle, suffix⟩, cursor)
      else
        let (suffix, cursor) ← uri false handle cursor
        pure (if suffix.isEmpty then (⟨[], bytesOf ['!']⟩, cursor)
          else (⟨bytesOf ['!'], suffix⟩, cursor))
  if atGap cursor.rest || (inFlow && cursor.isAt ',') then return (name, cursor)
  else throw .token

def versionNumber (cursor : Cursor) : Except Fault (Nat × Cursor) :=
  let digits := cursor.rest.takeWhile Char.isDigit
  if digits.isEmpty || digits.length > 9 then .error .token
  else .ok (Nat.ofDigitChars 10 digits 0, cursor.dropWhile Char.isDigit)

def directive (cursor : Cursor) : Except Fault (Token × Cursor) := do
  let name := String.ofList (cursor.rest.takeWhile isWordChar)
  let cursor := cursor.dropWhile isWordChar
  if !atGap cursor.rest then throw .token
  let cursor := cursor.skipSpaces
  let (token, cursor) ← match name with
    | "YAML" => do
      let (major, cursor) ← versionNumber cursor
      if !cursor.isAt '.' then throw .token
      let (minor, cursor) ← versionNumber (cursor.drop 1)
      pure (Token.versionDirective major minor, cursor)
    | "TAG" => do
      let (handle, cursor) ← tagHandle cursor
      if !isClosedHandle handle && handle != ['!'] then throw .token
      if !(cursor.rest.head?.any isSpace) then throw .token
      let (replacement, cursor) ← uri true [] cursor.skipSpaces
      if !atGap cursor.rest then throw .token
      pure (Token.tagDirective (bytesOf handle) replacement, cursor)
    | _ => throw .token
  return (token, ← cursor.endLine)

end Cursor

end NodeLaunch.Yaml
