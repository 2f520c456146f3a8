import NodeLaunch.Text.System

/-!
# Texts of the libraries

Some of what a run shows is worded by the libraries under it. What they word is
a parameter of every text it is part of.
-/

namespace NodeLaunch

structure Wording where
  /-- What the YAML reader says about a text that it refuses. -/
  refusal : String → String
  /-- The help for a command line that asks for help. -/
  help : List SystemText → String

end NodeLaunch
