import NodeLaunch.Text.Pieces

/-!
# Why a regular expression is refused

A fault has a cause and the part of the expression that it lies in, sometimes a
second part that it clashes with. Its message shows the expression with both
parts marked.
-/

namespace NodeLaunch.Regex

/-- A place in the text of an expression; lines and columns count from one. -/
structure Place where
  line : Nat
  column : Nat
  deriving DecidableEq, Repr

namespace Place

def start : Place := ⟨1, 1⟩

def after (place : Place) (c : Char) : Place :=
  if c = '\n' then ⟨place.line + 1, 1⟩ else ⟨place.line, place.column + 1⟩

def before (a b : Place) : Bool := a.line < b.line || (a.line == b.line && a.column < b.column)

end Place

/-- From one place up to another, which is not part of it. -/
structure Span where
  first : Place
  last : Place
  deriving DecidableEq, Repr

inductive Problem
  | classEscape
  | classRange
  | classRangeEnd
  | classUnclosed
  | decimalTooLarge
  | hexEmpty
  | hexValue
  | hexDigit
  | escapeAtEnd
  | escapeUnknown
  | flagDanglingNegation
  | flagDuplicate
  | flagRepeatedNegation
  | flagAtEnd
  | flagUnknown
  | groupNameDuplicate
  | groupNameEmpty
  | groupNameCharacter
  | groupNameAtEnd
  | groupUnclosed
  | groupUnopened
  | countRange
  | countEmpty
  | countUnclosed
  | nothingToRepeat
  | wordBoundaryUnclosed
  | wordBoundaryUnknown
  | wordBoundaryAtEnd
  | propertyClass
  | propertyUnknown
  | propertyValueUnknown
  | letterClassUnknown
  | caseUnknown
  | backreference
  | lookAround
  | unicodeNotAllowed
  | invalidText
  deriving DecidableEq, Repr

def Problem.text : Problem → String
  | .classEscape => "invalid escape sequence found in character class"
  | .classRange => "invalid character class range, the start must be <= the end"
  | .classRangeEnd => "invalid range boundary, must be a literal"
  | .classUnclosed => "unclosed character class"
  | .decimalTooLarge => "decimal literal invalid"
  | .hexEmpty => "hexadecimal literal empty"
  | .hexValue => "hexadecimal literal is not a Unicode scalar value"
  | .hexDigit => "invalid hexadecimal digit"
  | .escapeAtEnd => "incomplete escape sequence, reached end of pattern prematurely"
  | .escapeUnknown => "unrecognized escape sequence"
  | .flagDanglingNegation => "dangling flag negation operator"
  | .flagDuplicate => "duplicate flag"
  | .flagRepeatedNegation => "flag negation operator repeated"
  | .flagAtEnd => "expected flag but got end of regex"
  | .flagUnknown => "unrecognized flag"
  | .groupNameDuplicate => "duplicate capture group name"
  | .groupNameEmpty => "empty capture group name"
  | .groupNameCharacter => "invalid capture group character"
  | .groupNameAtEnd => "unclosed capture group name"
  | .groupUnclosed => "unclosed group"
  | .groupUnopened => "unopened group"
  | .countRange => "invalid repetition count range, the start must be <= the end"
  | .countEmpty => "repetition quantifier expects a valid decimal"
  | .countUnclosed => "unclosed counted repetition"
  | .nothingToRepeat => "repetition operator missing expression"
  | .wordBoundaryUnclosed =>
    "special word boundary assertion is either unclosed or contains an invalid character"
  | .wordBoundaryUnknown =>
    "unrecognized special word boundary assertion, valid choices are: start, end, start-half " ++
      "or end-half"
  | .wordBoundaryAtEnd =>
    "found either the beginning of a special word boundary or a bounded repetition on a \\b " ++
      "with an opening brace, but no closing brace"
  | .propertyClass => "invalid Unicode character class"
  | .propertyUnknown => "Unicode property not found"
  | .propertyValueUnknown => "Unicode property value not found"
  | .letterClassUnknown =>
    "Unicode-aware Perl class not found (make sure the unicode-perl feature is enabled)"
  | .caseUnknown =>
    "Unicode-aware case insensitivity matching is not available " ++
      "(make sure the unicode-case feature is enabled)"
  | .backreference => "backreferences are not supported"
  | .lookAround => "look-around, including look-ahead and look-behind, is not supported"
  | .unicodeNotAllowed => "Unicode not allowed here"
  | .invalidText => "pattern can match invalid UTF-8"

structure Fault where
  problem : Problem
  span : Span
  other : Option Span
  deriving DecidableEq, Repr

namespace Fault

def spans (fault : Fault) : List Span :=
  match fault.other with
  | none => [fault.span]
  | some other =>
    if other.first.before fault.span.first then [other, fault.span] else [fault.span, other]

def isOneLine (span : Span) : Bool := span.first.line == span.last.line

/-- Carets below the columns of the spans, from a column on; each has one at least. -/
def carets (column : Nat) : List Span → List Char
  | [] => []
  | span :: rest =>
    let blanks := span.first.column - column
    let width := max 1 (span.last.column - span.first.column)
    List.replicate blanks ' ' ++ List.replicate width '^' ++ carets (column + blanks + width) rest

def margin (width number : Nat) : String :=
  if width = 0 then "    "
  else
    let digits := toString number
    String.ofList (List.replicate (width - digits.length) ' ') ++ digits ++ ": "

def markedLine (width : Nat) (spans : List Span) (number : Nat) (line : String) : List String :=
  let here := spans.filter fun span => isOneLine span && span.first.line == number
  let blanks := List.replicate (margin width number).length ' '
  (margin width number ++ line) ::
    (if here.isEmpty then [] else [String.ofList (blanks ++ carets 1 here)])

def markedLines (width : Nat) (spans : List Span) (number : Nat) : List String → List String
  | [] => []
  | line :: rest =>
    markedLine width spans number line ++ markedLines width spans (number + 1) rest

/-- The lines of a text; a newline at its end begins no further line. -/
def linesOf (text : String) : List String :=
  let lines := Text.pieces '\n' text
  if lines.getLast? = some "" then lines.dropLast else lines

def placeText (span : Span) : String :=
  .join ["on line ", toString span.first.line, " (column ", toString span.first.column,
    ") through line ", toString span.last.line, " (column ", toString (span.last.column - 1), ")"]

def lines (regex : String) (fault : Fault) : List String :=
  let count := (Text.pieces '\n' regex).length
  let width := if count ≤ 1 then 0 else (toString count).length
  let marked := markedLines width fault.spans 1 (linesOf regex)
  let error := String.join ["error: ", fault.problem.text]
  if count ≤ 1 then "regex parse error:" :: marked ++ [error]
  else
    let divider := String.ofList (List.replicate 79 '~')
    let notes := (fault.spans.filter (!isOneLine ·)).map placeText
    "regex parse error:" :: divider :: marked ++ divider :: notes ++ [error]

def message (regex : String) (fault : Fault) : String := "\n".intercalate (fault.lines regex)

end Fault

end NodeLaunch.Regex
