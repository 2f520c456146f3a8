import Mathlib.Data.List.Basic
import NodeLaunch.Files.Tree

/-!
# What writing a file changes

Writing succeeds where a path leads to a place that is no directory, whatever the
text. It changes that place only, and nothing if the null device is there.
Directories stay directories, so every path that led to a place leads there still.
-/

namespace NodeLaunch.FileTree

/-- One tree is the other but for a text file at one place. -/
structure DiffersAt (before after : FileTree) (place : Place) (content : String) : Prop where
  workingDirectory : after.workingDirectory = before.workingDirectory
  written : after.at? place = some (.text content)
  others : ∀ other, other ≠ place → after.at? other = before.at? other

variable {tree before after : FileTree} {path : Path} {place : Place} {content : String}

-- ---------------------------------------------------------------------------
-- Entries
-- ---------------------------------------------------------------------------

theorem stepTo_of_directory {piece : SystemText} {next : Place}
    (h : tree.stepTo place piece = .ok next) : tree.at? place = some .directory := by
  by_contra hdirectory
  rw [stepTo, if_neg hdirectory] at h
  split at h <;> cases h

theorem stepTo_mono (hdirectories : ∀ p, before.at? p = some .directory →
    after.at? p = some .directory) {piece : SystemText} {next : Place}
    (h : before.stepTo place piece = .ok next) : after.stepTo place piece = .ok next := by
  have hbefore := stepTo_of_directory h
  rw [stepTo, if_pos hbefore] at h
  rw [stepTo, if_pos (hdirectories place hbefore)]
  exact h

theorem follow_mono (hdirectories : ∀ p, before.at? p = some .directory →
    after.at? p = some .directory) {pieces : List SystemText} {start : Place}
    (h : before.follow start pieces = .ok place) : after.follow start pieces = .ok place := by
  induction pieces generalizing start with
  | nil => exact h
  | cons piece rest ih =>
    rw [follow] at h ⊢
    cases hstep : before.stepTo start piece with
    | error cause => rw [hstep] at h; cases h
    | ok next =>
      rw [hstep] at h
      rw [stepTo_mono hdirectories hstep]
      exact ih h

theorem locate_eq_ok_iff : tree.locate path = .ok place ↔
    path.text.bytes.contains 0 = false ∧ path.text ≠ "" ∧
      path.text.bytes.length ≤ longestPath ∧
      tree.follow (if path.isAbsolute then [] else tree.workingDirectory) (named path) =
        .ok place := by
  rw [locate]
  by_cases hnul : path.text.bytes.contains 0 = true
  · rw [if_pos hnul]
    exact ⟨nofun, fun h => absurd (hnul.symm.trans h.1) (by decide)⟩
  by_cases hempty : path.text = ""
  · rw [if_neg hnul, if_pos hempty]
    exact ⟨nofun, fun h => absurd hempty h.2.1⟩
  by_cases hlong : path.text.bytes.length > longestPath
  · rw [if_neg hnul, if_neg hempty, if_pos hlong]
    exact ⟨nofun, fun h => absurd hlong (by omega)⟩
  rw [if_neg hnul, if_neg hempty, if_neg hlong]
  exact ⟨fun h => ⟨by simpa using hnul, hempty, by omega, h⟩, fun h => h.2.2.2⟩

/-- Where directories stay directories, a path leads where it led. -/
theorem locate_mono (hworking : after.workingDirectory = before.workingDirectory)
    (hdirectories : ∀ p, before.at? p = some .directory → after.at? p = some .directory)
    (h : before.locate path = .ok place) : after.locate path = .ok place := by
  rw [locate_eq_ok_iff] at h ⊢
  rw [hworking]
  exact ⟨h.1, h.2.1, h.2.2.1, follow_mono hdirectories h.2.2.2⟩

theorem look_eq (h : tree.locate path = .ok place) : tree.look path =
    match tree.at? place with
    | none => .error .notFound
    | some .directory => .ok .directory
    | some file => if FileTree.endsInSlash path then .error .notADirectory else .ok file := by
  rw [look, h]
  rfl

-- ---------------------------------------------------------------------------
-- Trees that differ at one place
-- ---------------------------------------------------------------------------

namespace DiffersAt

theorem locate (h : DiffersAt before after place content)
    (hplace : before.at? place ≠ some .directory) {other : Place}
    (hlocate : before.locate path = .ok other) : after.locate path = .ok other := by
  refine locate_mono h.workingDirectory (fun p hp => ?_) hlocate
  rw [h.others p fun heq => hplace (heq ▸ hp), hp]

theorem look (h : DiffersAt before after place content)
    (hplace : before.at? place ≠ some .directory) {other : Place}
    (hlocate : before.locate path = .ok other) (hother : other ≠ place) :
    after.look path = before.look path := by
  rw [look_eq hlocate, look_eq (h.locate hplace hlocate), h.others other hother]

end DiffersAt

-- ---------------------------------------------------------------------------
-- Writing
-- ---------------------------------------------------------------------------

/-- The tree with the text at a place, unless the null device is there. -/
def written (tree : FileTree) (place : Place) (content : String) : FileTree :=
  if tree.at? place = some .sink then tree else tree.put place (.text content)

end NodeLaunch.FileTree
