import NodeLaunch.Number.Basic
import NodeLaunch.Text.Hexadecimal

/-!
# JSON values and their text

An object is a list of members in the order in which they are written; nothing
here stops a name from occurring twice. A value has two texts: a compact one
without any blank, and an indented one with every item and member on a line of
its own. An empty array or object is written as its two brackets in both.
-/

namespace NodeLaunch

inductive Json
  | null
  | bool (value : Bool)
  | number (value : Number)
  | string (text : String)
  | array (items : List Json)
  | object (members : List (String × Json))
  deriving Repr

namespace Json

/-- Floats are written positionally below `10 ^ 16`. -/
def floatLayout : FloatLayout where
  lastPoint := 16
  firstPoint := -5
  signedExponent := true
  infinity := "null"
  negativeInfinity := "null"
  nan := "null"

def escapeChar (c : Char) : List Char :=
  if c = '"' then ['\\', '"']
  else if c = '\\' then ['\\', '\\']
  else if c = '\x08' then ['\\', 'b']
  else if c = '\t' then ['\\', 't']
  else if c = '\n' then ['\\', 'n']
  else if c = '\x0c' then ['\\', 'f']
  else if c = '\r' then ['\\', 'r']
  else if c.toNat < 0x20 then
    ['\\', 'u', '0', '0', Text.hexDigit (c.toNat / 16), Text.hexDigit (c.toNat % 16)]
  else [c]

def stringChars (text : String) : List Char :=
  '"' :: text.toList.flatMap escapeChar ++ ['"']

def numberChars (n : Number) : List Char := (n.render floatLayout).toList

def boolChars : Bool → List Char
  | true => ['t', 'r', 'u', 'e']
  | false => ['f', 'a', 'l', 's', 'e']

def nullChars : List Char := ['n', 'u', 'l', 'l']

mutual

def compactChars : Json → List Char
  | .null => nullChars
  | .bool b => boolChars b
  | .number n => numberChars n
  | .string s => stringChars s
  | .array items => '[' :: compactItems items
  | .object members => '\x7b' :: compactMembers members

def compactItems : List Json → List Char
  | [] => [']']
  | [item] => compactChars item ++ [']']
  | item :: rest => compactChars item ++ ',' :: compactItems rest

def compactMembers : List (String × Json) → List Char
  | [] => ['\x7d']
  | [(name, value)] => stringChars name ++ ':' :: (compactChars value ++ ['\x7d'])
  | (name, value) :: rest =>
    stringChars name ++ ':' :: (compactChars value ++ ',' :: compactMembers rest)

end

def newLine (depth : Nat) : List Char := '\n' :: List.replicate (2 * depth) ' '

mutual

def prettyChars (depth : Nat) : Json → List Char
  | .null => nullChars
  | .bool b => boolChars b
  | .number n => numberChars n
  | .string s => stringChars s
  | .array [] => ['[', ']']
  | .array (item :: rest) => '[' :: prettyItems depth (item :: rest)
  | .object [] => ['\x7b', '\x7d']
  | .object (member :: rest) => '\x7b' :: prettyMembers depth (member :: rest)

def prettyItems (depth : Nat) : List Json → List Char
  | [] => [']']
  | [item] => newLine (depth + 1) ++ prettyChars (depth + 1) item ++ newLine depth ++ [']']
  | item :: rest =>
    newLine (depth + 1) ++ prettyChars (depth + 1) item ++ ',' :: prettyItems depth rest

def prettyMembers (depth : Nat) : List (String × Json) → List Char
  | [] => ['\x7d']
  | [(name, value)] =>
    newLine (depth + 1) ++ stringChars name ++ [':', ' '] ++ prettyChars (depth + 1) value ++
      newLine depth ++ ['\x7d']
  | (name, value) :: rest =>
    newLine (depth + 1) ++ stringChars name ++ [':', ' '] ++ prettyChars (depth + 1) value ++
      ',' :: prettyMembers depth rest

end

def compact (value : Json) : String := String.ofList value.compactChars

def pretty (value : Json) : String := String.ofList (value.prettyChars 0)

end Json

end NodeLaunch
