/-!
# Tokens of a YAML text
-/

namespace NodeLaunch.Yaml

/-- A tag as written: a handle that a directive may define, and what follows it.
Both are bytes, because escapes in a tag need not spell characters. -/
structure TagName where
  handle : List UInt8
  suffix : List UInt8
  deriving DecidableEq, Repr

inductive Token
  | versionDirective (major minor : Nat)
  | tagDirective (handle replacement : List UInt8)
  | documentStart
  | documentEnd
  | blockSequenceStart
  | blockMappingStart
  | blockEnd
  | flowSequenceStart
  | flowSequenceEnd
  | flowMappingStart
  | flowMappingEnd
  | blockEntry
  | flowEntry
  | key
  | value
  | alias (name : String)
  | anchor (name : String)
  | tag (name : TagName)
  /-- A scalar's text, and whether it is plain, that is neither quoted nor a block. -/
  | scalar (text : String) (plain : Bool)
  deriving DecidableEq, Repr

end NodeLaunch.Yaml
