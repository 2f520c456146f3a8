import NodeLaunch.Notice
import NodeLaunch.Regex.Read
import NodeLaunch.Text.Blank
import NodeLaunch.Text.Pieces

/-!
# Log filters

A filter says which notices are shown. Its directives set a level for the
notices of one source and of all whose name begins with it; a directive without
a source is for all others. Of several that fit, the longest counts. After a
slash a filter may give a regular expression that a notice has to match. What
cannot be read is left out, and the filter says so.
-/

namespace NodeLaunch

/-- Notices up to this level are shown; none are if there is no level. -/
structure Directive where
  source : Option String
  level : Option Level
  deriving DecidableEq, Repr

inductive FilterFault
  | level (text : String)
  | directive (text : String)
  /-- A second slash makes the whole filter unreadable. -/
  | slashes (text : String)
  | regex (text : String) (refusal : Regex.Refusal)
  deriving DecidableEq, Repr

def FilterFault.message : FilterFault → String
  | .level text | .directive text => .join ["invalid logging spec '", text, "'"]
  | .slashes text => .join ["invalid logging spec '", text, "' (too many '/'s)"]
  | .regex text refusal => .join ["invalid regex filter - ", refusal.message text]

structure LogFilter where
  directives : List Directive
  regex : Option Regex
  faults : List FilterFault
  deriving DecidableEq, Repr

namespace LogFilter

def upTo (level : Option Level) : LogFilter := ⟨[⟨none, level⟩], none, []⟩

def lowercase (text : String) : String := String.ofList (text.toList.map Char.toLower)

def levelOf? (name : String) : Option (Option Level) :=
  match lowercase name with
  | "off" => some none
  | "error" => some (some .error)
  | "warn" => some (some .warn)
  | "info" => some (some .info)
  | "debug" => some (some .debug)
  | "trace" => some (some .trace)
  | _ => none

/-- A level alone is for all sources, a source alone for all levels. -/
def directive (text : String) : Except FilterFault Directive :=
  match Text.pieces '=' text with
  | [one] =>
    match levelOf? one with
    | some level => .ok ⟨none, level⟩
    | none => .ok ⟨some one, some .trace⟩
  | [source, level] =>
    let level := Text.trim level
    if level = "" then .ok ⟨some source, some .trace⟩
    else
      match levelOf? level with
      | some level => .ok ⟨some source, level⟩
      | none => .error (.level level)
  | _ => .error (.directive text)

def insert (directives : List Directive) (directive : Directive) : List Directive :=
  if directives.any (·.source == directive.source) then
    directives.map fun other => if other.source == directive.source then directive else other
  else directives ++ [directive]

def addDirective (filter : LogFilter) (text : String) : LogFilter :=
  match directive text with
  | .ok directive => { filter with directives := insert filter.directives directive }
  | .error fault => { filter with faults := filter.faults ++ [fault] }

def ofDirectives (text : String) : LogFilter :=
  (((Text.pieces ',' text).map Text.trim).filter (· ≠ "")).foldl addDirective ⟨[], none, []⟩

def addRegex (filter : LogFilter) (text : String) : LogFilter :=
  match Regex.ofText text with
  | .ok regex => { filter with regex := some regex }
  | .error refusal => { filter with faults := filter.faults ++ [.regex text refusal] }

def parse (text : String) : LogFilter :=
  match Text.pieces '/' text with
  | [directives] => ofDirectives directives
  | [directives, regex] => (ofDirectives directives).addRegex regex
  | _ => ⟨[], none, [.slashes text]⟩

def sourceLength (directive : Directive) : Nat := (directive.source.getD "").utf8ByteSize

def fits (directive : Directive) (source : String) : Bool :=
  match directive.source with
  | none => true
  | some start => start.toList.isPrefixOf source.toList

/-- The later one of two equally long ones counts. -/
def longest? : List Directive → Option Directive
  | [] => none
  | first :: rest =>
    match longest? rest with
    | none => some first
    | some other => if sourceLength first ≤ sourceLength other then some other else some first

/-- The level for a source. Without any directive only errors are shown. -/
def levelFor (filter : LogFilter) (source : String) : Option Level :=
  if filter.directives.isEmpty then some .error
  else (longest? (filter.directives.filter (fits · source))).bind Directive.level

def shows (wording : Wording) (filter : LogFilter) (notice : Notice) : Bool :=
  (filter.levelFor notice.source).any (notice.level.rank ≤ ·.rank) &&
    filter.regex.all (·.matchesIn (notice.text wording))

end LogFilter

end NodeLaunch
