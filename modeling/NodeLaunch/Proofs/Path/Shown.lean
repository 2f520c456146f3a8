import NodeLaunch.Proofs.Path.Spelling
import NodeLaunch.Proofs.Text.System

/-!
# What is shown of a path

Paths that are UTF-8 are told apart by what they are shown as; other paths need
not be. What is shown is itself the spelling of a path, and this one has the
components of the first as they are shown.
-/

namespace NodeLaunch.Path

open SystemText (slash)

def IsText (p : Path) : Prop := ∃ s : String, p = ⟨s⟩

theorem IsText.eq_of_display {p q : Path} (hp : p.IsText) (hq : q.IsText)
    (h : p.display = q.display) : p = q := by
  obtain ⟨s, rfl⟩ := hp
  obtain ⟨t, rfl⟩ := hq
  simp only [display, SystemText.display_ofString] at h
  rw [h]

-- ---------------------------------------------------------------------------
-- Components
-- ---------------------------------------------------------------------------

def Component.shown : Component → Component
  | .name text => .name text.display
  | anchor => anchor

/-- A text that is shown without replacement characters is what is shown. -/
theorem ofString_display_iff {t : SystemText} {s : String} (h : '\uFFFD' ∉ s.toList) :
    (t.display : SystemText) = s ↔ t = s := by
  rw [SystemText.ofString_inj, SystemText.display_eq_iff h]

section
variable (piece : SystemText)

theorem Component.display_dots_iff :
    ((piece.display : SystemText) = "" ↔ piece = "") ∧
    ((piece.display : SystemText) = "." ↔ piece = ".") ∧
    ((piece.display : SystemText) = ".." ↔ piece = "..") :=
  ⟨ofString_display_iff (by decide), ofString_display_iff (by decide),
    ofString_display_iff (by decide)⟩

theorem Component.ofFirst_display : ofFirst piece.display = (ofFirst piece).shown := by
  obtain ⟨hempty, hdot, hdots⟩ := display_dots_iff piece
  simp only [ofFirst, hempty, hdot, hdots]
  split_ifs <;> rfl

theorem Component.ofPiece?_display : ofPiece? piece.display = (ofPiece? piece).map shown := by
  obtain ⟨hempty, hdot, hdots⟩ := display_dots_iff piece
  simp only [ofPiece?, hempty, hdot, hdots]
  split_ifs <;> rfl

end

theorem pieces_display (p : Path) :
    (⟨p.display⟩ : Path).pieces = p.pieces.map fun piece => (piece.display : SystemText) := by
  rw [pieces, display, SystemText.pieces_ofString, SystemText.pieces_display, List.map_map]
  rfl

theorem components_display (p : Path) :
    (⟨p.display⟩ : Path).components = p.components.map Component.shown := by
  by_cases htext : p.text = ""
  · obtain ⟨text⟩ := p
    subst htext
    decide
  · have hshown : (⟨p.display⟩ : Path).text ≠ "" := by
      exact mt (ofString_display_iff (by decide)).1 htext
    obtain ⟨first, more, hpieces⟩ :=
      List.exists_cons_of_ne_nil (SystemText.pieces_ne_nil slash p.text)
    have hall : (⟨p.display⟩ : Path).pieces =
        (first.display : SystemText) :: more.map fun piece => (piece.display : SystemText) := by
      rw [pieces_display, pieces, hpieces]
      rfl
    rw [components_eq hall hshown, components_eq hpieces htext, Component.ofFirst_display,
      List.map_cons, List.filterMap_map, List.map_filterMap]
    exact congrArg _ (List.filterMap_congr fun piece _ => Component.ofPiece?_display piece)

end NodeLaunch.Path
