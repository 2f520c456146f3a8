import NodeLaunch.Text.Blank

/-!
# Output modes
-/

namespace NodeLaunch

inductive OutputMode
  | screen
  | log
  | both
  deriving DecidableEq, Repr

structure InvalidOutputMode where
  text : String
  deriving DecidableEq, Repr

def InvalidOutputMode.message (error : InvalidOutputMode) : String :=
  .join ["Invalid output mode '", error.text, "' (expected screen, log or both)"]

namespace OutputMode

def name : OutputMode → String
  | .screen => "screen"
  | .log => "log"
  | .both => "both"

def all : List OutputMode := [.screen, .log, .both]

def named? (text : String) : Option OutputMode := all.find? (·.name == text)

/-- The mode that a text names when the blanks around it are ignored. -/
def ofText (text : String) : Except InvalidOutputMode OutputMode :=
  match named? (Text.trim text) with
  | some mode => .ok mode
  | none => .error ⟨Text.trim text⟩

theorem named?_name (mode : OutputMode) : named? mode.name = some mode := by
  cases mode <;> decide

instance : ToString OutputMode := ⟨name⟩

end OutputMode

end NodeLaunch
