import NodeLaunch.Text.Hexadecimal
import NodeLaunch.Text.Printable

/-!
# Quoted text

A text between double quotes in which every character that is not visible on
its own is written as an escape: the usual short forms for NUL, tab, newline
and carriage return, `\u{…}` with lowercase hexadecimal digits for the rest.
-/

namespace NodeLaunch.Text

def quoteChar (c : Char) : List Char :=
  if c = '\x00' then ['\\', '0']
  else if c = '\t' then ['\\', 't']
  else if c = '\n' then ['\\', 'n']
  else if c = '\r' then ['\\', 'r']
  else if c = '"' ∨ c = '\\' then ['\\', c]
  else if isExtending c || !isPrintable c then
    ['\\', 'u', '\x7b'] ++ hexDigits c.toNat ++ ['\x7d']
  else [c]

def quoted (s : String) : String :=
  String.ofList ('"' :: (s.toList.flatMap quoteChar ++ ['"']))

def bracketed (items : List String) : String := "[" ++ ", ".intercalate items ++ "]"

end NodeLaunch.Text
