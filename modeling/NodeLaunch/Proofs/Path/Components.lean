import Mathlib.Data.List.DropRight
import NodeLaunch.Proofs.Path.Spelling

/-!
# Components of joined paths and of parents

Joining adds components at the end and the parent drops the last one, whatever the
slashes and dots in the texts. Only an absolute text, or one with a `.` in front,
has more components by itself than it adds when it is joined to a path.
-/

namespace NodeLaunch.Path

open SystemText (slash)

/-- The components that a relative text adds to a path: a `.` adds none. -/
def steps (tail : SystemText) : List Component :=
  (SystemText.pieces slash tail).filterMap Component.ofPiece?

theorem ne_anchor_of_mem_steps {tail : SystemText} {step : Component} (h : step ∈ steps tail) :
    step ≠ .root ∧ step ≠ .here := by
  obtain ⟨piece, -, hpiece⟩ := List.mem_filterMap.1 h
  exact ⟨fun hroot => Component.ofPiece?_ne_root piece (hroot ▸ hpiece),
    fun hhere => Component.ofPiece?_ne_here piece (hhere ▸ hpiece)⟩

theorem isRelative_iff {p : Path} : p.isRelative = true ↔ p.text.bytes.head? ≠ some slash := by
  simp [isRelative, isAbsolute]

theorem components_of_isRelative {tail : SystemText} (h : (⟨tail⟩ : Path).isRelative = true) :
    (⟨tail⟩ : Path).components = steps tail ∨
      (⟨tail⟩ : Path).components = .here :: steps tail := by
  have habs : (⟨tail⟩ : Path).isAbsolute = false := by simpa [isRelative] using h
  rw [components, body, anchor, habs, if_neg Bool.false_ne_true]
  by_cases hdot : (⟨tail⟩ : Path).pieces.head? = some ("." : SystemText)
  · obtain ⟨rest, hpieces⟩ := List.head?_eq_some_iff.1 hdot
    right
    rw [if_pos hdot, steps, ← pieces, hpieces]
    rfl
  · left
    rw [if_neg hdot]
    rfl

theorem filter_components {tail : SystemText} (h : (⟨tail⟩ : Path).isRelative = true) :
    (⟨tail⟩ : Path).components.filter (· ≠ .here) = steps tail := by
  have hsteps : (steps tail).filter (· ≠ .here) = steps tail :=
    List.filter_eq_self.2 fun step hstep => by simpa using (ne_anchor_of_mem_steps hstep).2
  rcases components_of_isRelative h with hcomponents | hcomponents <;> rw [hcomponents]
  · exact hsteps
  · rw [List.filter_cons_of_neg (by simp), hsteps]

-- ---------------------------------------------------------------------------
-- Joining
-- ---------------------------------------------------------------------------

theorem join_of_empty {p : Path} {tail : SystemText} (hp : p.text = "")
    (htail : (⟨tail⟩ : Path).isRelative = true) : p.join tail = ⟨tail⟩ := by
  rw [join, if_neg (isRelative_iff.1 htail), if_pos (.inl hp), hp, SystemText.empty_append]

/-- A path that is not empty has its own components in front, whatever is joined to it. -/
theorem components_join {p : Path} {tail : SystemText} (hp : p.components ≠ [])
    (htail : (⟨tail⟩ : Path).isRelative = true) :
    (p.join tail).components = p.components ++ steps tail := by
  have htext : p.text ≠ "" := mt components_eq_nil_iff.2 hp
  obtain ⟨first, more, hpieces⟩ :=
    List.exists_cons_of_ne_nil (SystemText.pieces_ne_nil slash p.text)
  have hspaced : (⟨p.text ++ "/" ++ tail⟩ : Path).pieces =
      first :: (more ++ SystemText.pieces slash tail) := by
    rw [pieces_append_slash, pieces, pieces, hpieces]
    rfl
  rw [same_iff.1 (respelled_join htext (isRelative_iff.1 htail)).same,
    components_eq hspaced (by simp), components_eq hpieces htext, List.filterMap_append]
  rfl

theorem ne_empty_of_pieces {text first : SystemText} {rest : List SystemText}
    (hpieces : text.pieces slash = first :: rest) (hfirst : first ≠ "") : text ≠ "" := by
  rintro rfl
  rw [SystemText.pieces_of_not_mem (by simp)] at hpieces
  exact hfirst (List.cons.inj hpieces).1.symm

/-- A text whose first piece is neither empty nor a dot adds to any path the
components that it has by itself. -/
theorem components_join_of_first {p : Path} {tail first : SystemText} {rest : List SystemText}
    (hpieces : tail.pieces slash = first :: rest) (hempty : first ≠ "") (hdot : first ≠ ".") :
    (p.join tail).components = p.components ++ (⟨tail⟩ : Path).components := by
  have htext := ne_empty_of_pieces hpieces hempty
  have hrelative : (⟨tail⟩ : Path).isRelative = true := by
    simpa [isRelative] using mt (isAbsolute_iff (p := ⟨tail⟩) hpieces htext).1 hempty
  have hsteps : (⟨tail⟩ : Path).components = steps tail := by
    rw [components_eq hpieces htext, steps, hpieces, List.filterMap_cons,
      Component.ofPiece?_eq_some hempty hdot]
  by_cases hp : p.components = []
  · rw [join_of_empty (components_eq_nil_iff.1 hp) hrelative, hp, List.nil_append]
  · rw [components_join hp hrelative, hsteps]

theorem components_join_name {p : Path} {name : SystemText} (hslash : slash ∉ name.bytes)
    (hname : Component.ofPiece? name = some (.name name)) :
    (p.join name).components = p.components ++ [.name name] := by
  have hsolid : ¬(name = "" ∨ name = ".") := by
    rw [← Component.ofPiece?_eq_none_iff, hname]
    exact Option.some_ne_none _
  obtain ⟨hempty, hdot⟩ := not_or.1 hsolid
  have hpieces := SystemText.pieces_of_not_mem hslash
  have hfirst : Component.ofFirst name = .name name :=
    Option.some.inj ((Component.ofPiece?_eq_some hempty hdot).symm.trans hname)
  rw [components_join_of_first hpieces hempty hdot, components_eq hpieces hempty, hfirst]
  rfl

-- ---------------------------------------------------------------------------
-- Parents
-- ---------------------------------------------------------------------------

theorem trimBody_eq (body : List SystemText) :
    trimBody body = body.rdropWhile fun piece => (Component.ofPiece? piece).isNone := rfl

theorem trimBody_isPrefix (body : List SystemText) : trimBody body <+: body :=
  List.rdropWhile_prefix _ body

theorem filterMap_trimBody (body : List SystemText) :
    (trimBody body).filterMap Component.ofPiece? = body.filterMap Component.ofPiece? := by
  induction body using List.reverseRecOn with
  | nil => rfl
  | append_singleton front last ih =>
    rw [trimBody_eq, List.rdropWhile_concat]
    split
    · next hnone =>
      have hlast : [last].filterMap Component.ofPiece? = [] :=
        List.filterMap_cons_none (Option.isNone_iff_eq_none.1 hnone)
      rw [← trimBody_eq, ih, List.filterMap_append, hlast, List.append_nil]
    · rfl

theorem trimBody_cases (body : List SystemText) :
    trimBody body = [] ∨
      ∃ front last step, trimBody body = front ++ [last] ∧ Component.ofPiece? last = some step := by
  rcases List.eq_nil_or_concat' (trimBody body) with hnil | ⟨front, last, hconcat⟩
  · exact .inl hnil
  · have hne : trimBody body ≠ [] := by simp [hconcat]
    have hlast := List.rdropWhile_last_not _ body hne
    simp only [← trimBody_eq, hconcat, List.getLast_concat, Bool.not_eq_true,
      Option.isNone_eq_false_iff] at hlast
    obtain ⟨step, hstep⟩ := Option.isSome_iff_exists.1 hlast
    exact .inr ⟨front, last, step, hconcat, hstep⟩

/-- A text is read as the anchor and the pieces it is written from, if no piece in
front can be taken for an anchor. -/
theorem components_ofBody {anchor : Anchor} {body : List SystemText}
    (hslash : ∀ piece ∈ body, slash ∉ piece.bytes)
    (hfirst : anchor = .unanchored → ∀ first ∈ body.head?, Component.ofPiece? first ≠ none) :
    (ofBody anchor body).components =
      anchor.components ++ body.filterMap Component.ofPiece? := by
  cases anchor with
  | root =>
    cases body with
    | nil => decide
    | cons first rest =>
      have hpieces : (⟨"/" ++ SystemText.join slash (first :: rest)⟩ : Path).pieces =
          ("" : SystemText) :: first :: rest := by
        rw [← SystemText.empty_append "/", pieces_append_slash, pieces, pieces,
          SystemText.pieces_join (by simp) hslash]
        rfl
      rw [ofBody, components_eq hpieces (by simp)]
      rfl
  | here =>
    have hpieces : (⟨SystemText.join slash ("." :: body)⟩ : Path).pieces =
        ("." : SystemText) :: body :=
      SystemText.pieces_join (by simp) (List.forall_mem_cons.2 ⟨by decide, hslash⟩)
    rw [ofBody, components_eq hpieces (SystemText.join_ne_empty slash (by decide) body)]
    rfl
  | unanchored =>
    cases body with
    | nil => decide
    | cons first rest =>
      obtain ⟨hempty, hdot⟩ := not_or.1 (mt Component.ofPiece?_eq_none_iff.2 (hfirst rfl first rfl))
      have hpieces : (⟨SystemText.join slash (first :: rest)⟩ : Path).pieces = first :: rest :=
        SystemText.pieces_join (by simp) hslash
      rw [ofBody, components_eq hpieces (SystemText.join_ne_empty slash hempty rest),
        List.filterMap_cons, Component.ofPiece?_eq_some hempty hdot]
      rfl

theorem ofPiece?_head_body {p : Path} (htext : p.text ≠ "") (hanchor : p.anchor = .unanchored) :
    ∀ first ∈ p.body.head?, Component.ofPiece? first ≠ none := by
  intro first hfirst
  rw [body, hanchor] at hfirst
  obtain ⟨more, hpieces⟩ := List.head?_eq_some_iff.1 hfirst
  have habs := isAbsolute_iff hpieces htext
  rw [anchor] at hanchor
  split at hanchor
  · cases hanchor
  · next hrelative =>
    split at hanchor
    · cases hanchor
    · next hdot =>
      rw [ne_eq, Component.ofPiece?_eq_none_iff, not_or]
      exact ⟨mt habs.2 hrelative, fun h => hdot (h ▸ hfirst)⟩

theorem not_mem_of_mem_body {p : Path} {piece : SystemText} (h : piece ∈ p.body) :
    slash ∉ piece.bytes := by
  refine SystemText.not_mem_of_mem_pieces (t := p.text) ?_
  rw [body] at h
  split at h
  · exact h
  · exact List.mem_of_mem_tail h

theorem components_ofBody_trimBody {p : Path} {front : List SystemText} (htext : p.text ≠ "")
    (h : front <+: p.body) :
    (ofBody p.anchor (trimBody front)).components =
      p.anchor.components ++ front.filterMap Component.ofPiece? := by
  have hfront : trimBody front <+: p.body := (trimBody_isPrefix front).trans h
  rw [components_ofBody, filterMap_trimBody]
  · exact fun piece hpiece => not_mem_of_mem_body (hfront.subset hpiece)
  · intro hanchor first hfirst
    refine ofPiece?_head_body htext hanchor first ?_
    obtain ⟨rest, hrest⟩ := hfront
    rw [← hrest, List.head?_append, Option.mem_def.1 hfirst]
    rfl

theorem parent?_of_trimBody {p : Path} {front : List SystemText} {last : SystemText}
    (h : trimBody p.body = front ++ [last]) :
    p.parent? = some (ofBody p.anchor (trimBody front)) := by
  obtain ⟨first, rest, hcons⟩ := List.exists_cons_of_ne_nil (List.concat_ne_nil last front)
  have hfront : front = (first :: rest).dropLast := by rw [← hcons, List.dropLast_concat]
  rw [parent?, h, hcons, hfront]
  cases p.anchor <;> rfl

/-- The root and the empty path have no parent; any other path has its parent's
components and one more. -/
theorem parent?_cases (p : Path) :
    ((p.components = [] ∨ p.components = [.root]) ∧ p.parent? = none) ∨
      ∃ parent last, p.parent? = some parent ∧ p.components = parent.components ++ [last] := by
  -- Either nothing stands after the anchor, or the last piece that does is dropped.
  rcases trimBody_cases p.body with hbody | ⟨front, last, step, hbody, hstep⟩
  · have hcomponents : p.components = p.anchor.components := by
      rw [components, ← filterMap_trimBody, hbody, List.filterMap_nil, List.append_nil]
    rw [parent?, hbody, hcomponents]
    cases p.anchor with
    | root => exact .inl ⟨.inr rfl, rfl⟩
    | here => exact .inr ⟨⟨""⟩, .here, rfl, by decide⟩
    | unanchored => exact .inl ⟨.inl rfl, rfl⟩
  · have hcomponents : p.components =
        p.anchor.components ++ front.filterMap Component.ofPiece? ++ [step] := by
      rw [components, ← filterMap_trimBody, hbody, List.filterMap_append,
        List.filterMap_cons_some hstep, List.append_assoc]
      rfl
    have htext : p.text ≠ "" := mt components_eq_nil_iff.2 (by simp [hcomponents])
    have hfront : front <+: p.body :=
      (List.prefix_append front [last]).trans (hbody ▸ trimBody_isPrefix p.body)
    refine .inr ⟨_, step, parent?_of_trimBody hbody, ?_⟩
    rw [hcomponents, components_ofBody_trimBody htext hfront]

theorem components_of_parent? {p parent : Path} (h : p.parent? = some parent) :
    ∃ last, p.components = parent.components ++ [last] := by
  rcases parent?_cases p with ⟨-, hnone⟩ | ⟨other, last, hsome, hcomponents⟩
  · cases hnone.symm.trans h
  · cases hsome.symm.trans h
    exact ⟨last, hcomponents⟩

theorem exists_parent? {p : Path} {front : List Component} {last : Component}
    (h : p.components = front ++ [last]) (hlast : last ≠ .root) :
    ∃ parent, p.parent? = some parent ∧ parent.components = front := by
  rcases parent?_cases p with ⟨hnone | hroot, -⟩ | ⟨parent, other, hsome, hcomponents⟩
  · simp [h] at hnone
  · rw [h, List.append_eq_singleton_iff] at hroot
    simp [hlast] at hroot
  · exact ⟨parent, hsome, (List.append_inj' (hcomponents.symm.trans h) rfl).1⟩

end NodeLaunch.Path
