import NodeLaunch.Text.Pieces

/-!
# Node names and section patterns

A node is known by its fully qualified name, a slash before each segment. The
sections of a parameter file are named by patterns over such segments: `*`
stands for one segment, `**` for any number of them, any other segment for
itself. Slashes at the ends and repeated slashes make no segments, so they
change nothing in a name or in a pattern.
-/

namespace NodeLaunch

/-- The namespace's own slashes at the end do not count; a slash comes first
whether or not the namespace brings one. -/
def nodeName (scope name : String) : String :=
  let scope := Text.dropSlashes scope
  if scope = "" then "/" ++ name
  else if scope.toList.head? = some '/' then scope ++ "/" ++ name
  else "/" ++ scope ++ "/" ++ name

theorem head?_nodeName (scope name : String) : (nodeName scope name).toList.head? = some '/' := by
  simp only [nodeName]
  split
  · simp [String.toList_append]
  · split
    · rename_i h
      simp [String.toList_append, List.head?_append, h]
    · simp [String.toList_append]

theorem segments_nodeName (scope name : String) :
    Text.segments (nodeName scope name) = Text.segments scope ++ Text.segments name := by
  rw [← Text.segments_dropSlashes scope]
  simp only [nodeName]
  split
  · rename_i h
    rw [h, Text.segments_empty, Text.segments_slash_append, List.nil_append]
  · split
    · exact Text.segments_append _ _
    · rw [Text.segments_append, Text.segments_slash_append]

namespace SectionPattern

def anyTail (test : List String → Bool) : List String → Bool
  | [] => test []
  | name :: rest => test (name :: rest) || anyTail test rest

def covers : List String → List String → Bool
  | [], names => names.isEmpty
  | pattern :: rest, names =>
    if pattern = "**" then anyTail (covers rest) names
    else
      match names with
      | [] => false
      | name :: others => (pattern == "*" || pattern == name) && covers rest others

/-- The rule of the patterns: the names are cut into one block for each
element, any block for `**`, one name for `*`, that very name for all others. -/
inductive Covers : List String → List String → Prop
  | nil : Covers [] []
  | any (block : List String) : Covers rest names → Covers ("**" :: rest) (block ++ names)
  | one (name : String) : Covers rest names → Covers ("*" :: rest) (name :: names)
  | same (segment : String) (star : segment ≠ "*") (stars : segment ≠ "**") :
      Covers rest names → Covers (segment :: rest) (segment :: names)

end SectionPattern

def sectionMatches (pattern node : String) : Bool :=
  SectionPattern.covers (Text.segments pattern) (Text.segments node)

end NodeLaunch
