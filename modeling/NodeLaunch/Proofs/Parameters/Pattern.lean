import Mathlib.Data.List.Forall2
import NodeLaunch.Parameters.NodeName

/-!
# Section patterns are decided

`covers_iff`: the search through all places where a `**` may end finds a cut of
the names into blocks exactly if there is one. The blocks themselves are those of
`IsBlock`. Slashes make no segments, so spacing a pattern or a name with other
slashes changes no answer.
-/

namespace NodeLaunch

-- ---------------------------------------------------------------------------
-- Slashes
-- ---------------------------------------------------------------------------

/-- Texts that differ in slashes at either end and in how often slashes are repeated. -/
inductive Text.Reslashed : String → String → Prop
  | refl (s : String) : Reslashed s s
  | leading (s : String) : Reslashed ("/" ++ s) s
  | trailing (s : String) : Reslashed (s ++ "/") s
  | repeated (before after : String) :
    Reslashed (before ++ "//" ++ after) (before ++ "/" ++ after)
  | symm {s t : String} : Reslashed s t → Reslashed t s
  | trans {s t u : String} : Reslashed s t → Reslashed t u → Reslashed s u

theorem Text.segments_repeated (before after : String) :
    segments (before ++ "//" ++ after) = segments (before ++ "/" ++ after) := by
  have hdouble : before ++ "//" ++ after = before ++ "/" ++ ("/" ++ after) := by
    simp only [String.append_assoc]
    rfl
  rw [hdouble, segments_append, segments_append, segments_slash_append]

theorem Text.Reslashed.segments_eq {s t : String} (h : Reslashed s t) :
    segments s = segments t := by
  induction h with
  | refl s => rfl
  | leading s => exact segments_slash_append s
  | trailing s => exact segments_append_slash s
  | repeated before after => exact segments_repeated before after
  | symm _ ih => exact ih.symm
  | trans _ _ ihs iht => exact ihs.trans iht

namespace SectionPattern

-- ---------------------------------------------------------------------------
-- The search
-- ---------------------------------------------------------------------------

theorem anyTail_iff {test : List String → Bool} {names : List String} :
    anyTail test names = true ↔ ∃ block rest, names = block ++ rest ∧ test rest = true := by
  induction names with
  | nil =>
    constructor
    · intro h
      exact ⟨[], [], rfl, h⟩
    · rintro ⟨block, rest, heq, h⟩
      obtain ⟨-, rfl⟩ := List.append_eq_nil_iff.1 heq.symm
      exact h
  | cons name names ih =>
    rw [anyTail, Bool.or_eq_true, ih]
    constructor
    · rintro (h | ⟨block, rest, rfl, h⟩)
      · exact ⟨[], name :: names, rfl, h⟩
      · exact ⟨name :: block, rest, rfl, h⟩
    · rintro ⟨block, rest, heq, h⟩
      cases block with
      | nil => exact .inl (heq ▸ h)
      | cons head block => exact .inr ⟨block, rest, (List.cons.inj heq).2, h⟩

theorem covers_of_covers {pattern names : List String} (h : Covers pattern names) :
    covers pattern names = true := by
  induction h with
  | nil => rfl
  | any block _ ih =>
    unfold covers
    rw [if_pos rfl]
    exact anyTail_iff.2 ⟨block, _, rfl, ih⟩
  | one name _ ih =>
    unfold covers
    rw [if_neg (by decide)]
    exact ih
  | same segment _ stars _ ih => simp [covers, stars, ih]

theorem Covers.of_covers {pattern names : List String} (h : covers pattern names = true) :
    Covers pattern names := by
  induction pattern generalizing names with
  | nil =>
    rw [covers, List.isEmpty_iff] at h
    exact h ▸ .nil
  | cons segment rest ih =>
    unfold covers at h
    split at h
    · next hstars =>
      obtain ⟨block, tail, rfl, htail⟩ := anyTail_iff.1 h
      exact hstars ▸ .any block (ih htail)
    · next hstars =>
      cases names with
      | nil => cases h
      | cons name names =>
        obtain ⟨hhead, htail⟩ := Bool.and_eq_true_iff.1 h
        by_cases hstar : segment = "*"
        · exact hstar ▸ .one name (ih htail)
        · have hname : segment = name := by simpa [hstar] using hhead
          exact hname ▸ .same segment hstar hstars (ih htail)

theorem covers_iff {pattern names : List String} :
    covers pattern names = true ↔ Covers pattern names :=
  ⟨Covers.of_covers, covers_of_covers⟩

instance (pattern names : List String) : Decidable (Covers pattern names) :=
  decidable_of_iff _ covers_iff

-- ---------------------------------------------------------------------------
-- Blocks
-- ---------------------------------------------------------------------------

def IsBlock (element : String) (block : List String) : Prop :=
  if element = "**" then True
  else if element = "*" then block.length = 1
  else block = [element]

theorem exists_blocks_of_covers {pattern names : List String} (h : Covers pattern names) :
    ∃ blocks : List (List String), blocks.flatten = names ∧
      List.Forall₂ IsBlock pattern blocks := by
  induction h with
  | nil => exact ⟨[], rfl, .nil⟩
  | any block _ ih =>
    obtain ⟨blocks, rfl, hblocks⟩ := ih
    exact ⟨block :: blocks, rfl, .cons (by simp [IsBlock]) hblocks⟩
  | one name _ ih =>
    obtain ⟨blocks, rfl, hblocks⟩ := ih
    exact ⟨[name] :: blocks, rfl, .cons (by simp [IsBlock]) hblocks⟩
  | same segment star stars _ ih =>
    obtain ⟨blocks, rfl, hblocks⟩ := ih
    exact ⟨[segment] :: blocks, rfl, .cons (by simp [IsBlock, star, stars]) hblocks⟩

theorem Covers.cons_of_isBlock {element : String} {block pattern names : List String}
    (hblock : IsBlock element block) (h : Covers pattern names) :
    Covers (element :: pattern) (block ++ names) := by
  rw [IsBlock] at hblock
  split at hblock
  · next hstars => exact hstars ▸ .any block h
  · next hstars =>
    split at hblock
    · next hstar =>
      obtain ⟨name, rfl⟩ := List.length_eq_one_iff.1 hblock
      exact hstar ▸ .one name h
    · next hstar =>
      subst hblock
      exact .same element hstar hstars h

theorem covers_of_blocks {pattern : List String} {blocks : List (List String)}
    (h : List.Forall₂ IsBlock pattern blocks) : Covers pattern blocks.flatten := by
  induction h with
  | nil => exact .nil
  | cons hblock _ ih => exact .cons_of_isBlock hblock ih

/-- A pattern matches a node's name exactly if the segments of the name can be cut
into blocks, one for each segment of the pattern in order. Only segments count,
however they are set apart by slashes. -/
theorem sectionMatches_iff_blocks (pattern node : String) :
    (sectionMatches pattern node = true ↔
      ∃ blocks : List (List String), blocks.flatten = Text.segments node ∧
        List.Forall₂ IsBlock (Text.segments pattern) blocks) ∧
    ∀ pattern' node', Text.Reslashed pattern pattern' → Text.Reslashed node node' →
      sectionMatches pattern' node' = sectionMatches pattern node := by
  refine ⟨?_, fun pattern' node' hpattern hnode => ?_⟩
  · rw [sectionMatches, covers_iff]
    constructor
    · exact exists_blocks_of_covers
    · rintro ⟨blocks, hnames, hblocks⟩
      exact hnames ▸ covers_of_blocks hblocks
  · rw [sectionMatches, sectionMatches, hpattern.segments_eq, hnode.segments_eq]

example : sectionMatches "/**/kart//*/**/node/**/" "a/kart/left/node" = true := by
  decide +kernel

end SectionPattern

end NodeLaunch
