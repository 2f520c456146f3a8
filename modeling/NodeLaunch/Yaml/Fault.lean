/-!
# Faults of a YAML text
-/

namespace NodeLaunch.Yaml

inductive Fault
  | character
  /-- A lexeme that no token begins or continues with, or one that is cut short. -/
  | token
  /-- Tokens in an order that no document has, or more than one document. -/
  | document
  /-- No document where one is needed. -/
  | missing
  | unknownAlias
  /-- Aliases that repeat more than the text can justify. -/
  | repetition
  | depth
  /-- A scalar that its tag or its size rules out. -/
  | scalar
  | duplicateKey
  deriving DecidableEq, Repr

end NodeLaunch.Yaml
