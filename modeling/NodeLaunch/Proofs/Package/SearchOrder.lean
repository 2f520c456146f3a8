import Mathlib.Data.List.Basic
import Mathlib.Data.List.Induction
import NodeLaunch.Package.Search

/-!
# The order of a search

A search looks through its prefixes as they are given, and then through the
distributions below its root directory. A distribution is left out if a root
before it names the same place, so the list has every place once, the prefixes
aside, under the spelling that comes first. Setting the root directory or the
distribution anew changes the distributions only, and the latest setting counts.
-/

namespace NodeLaunch.PackageSearch

/-- What the candidates add to the prefixes: one root for each place that no prefix names.
Paths with the same components name the same place. -/
structure AreFallbacks (prefixes candidates fallbacks : List Path) : Prop where
  distinct : fallbacks.Pairwise fun p q => p.components ≠ q.components
  new : ∀ fallback ∈ fallbacks, ∀ given ∈ prefixes, fallback.components ≠ given.components
  sublist : fallbacks.Sublist candidates
  complete : ∀ candidate ∈ candidates, ∃ root ∈ prefixes ++ fallbacks,
    root.components = candidate.components

/-- The prefixes and then their fallbacks. Any first part of the candidates has its own
fallbacks at the front, so of several candidates for one place the first stays. -/
def IsSearchOrder (prefixes candidates roots : List Path) : Prop :=
  ∃ fallbacks, roots = prefixes ++ fallbacks ∧ AreFallbacks prefixes candidates fallbacks ∧
    ∀ seen, seen <+: candidates → ∃ kept, kept <+: fallbacks ∧ AreFallbacks prefixes seen kept

-- ---------------------------------------------------------------------------
-- One candidate after the other
-- ---------------------------------------------------------------------------

theorem addRoot_cases (roots : List Path) (root : Path) :
    (addRoot roots root = roots ∧ ∃ earlier ∈ roots, earlier.components = root.components) ∨
    (addRoot roots root = roots ++ [root] ∧
      ∀ earlier ∈ roots, earlier.components ≠ root.components) := by
  unfold addRoot
  split
  · next hany =>
    obtain ⟨earlier, hearlier, hsame⟩ := List.any_eq_true.1 hany
    exact .inl ⟨rfl, earlier, hearlier, Path.same_iff.1 hsame⟩
  · next hany =>
    refine .inr ⟨rfl, fun earlier hearlier heq => hany ?_⟩
    exact List.any_eq_true.2 ⟨earlier, hearlier, Path.same_iff.2 heq⟩

section
variable {prefixes candidates fallbacks : List Path} {root : Path}

theorem AreFallbacks.leaveOut (h : AreFallbacks prefixes candidates fallbacks)
    (hroot : ∃ earlier ∈ prefixes ++ fallbacks, earlier.components = root.components) :
    AreFallbacks prefixes (candidates ++ [root]) fallbacks where
  distinct := h.distinct
  new := h.new
  sublist := h.sublist.trans (List.sublist_append_left candidates [root])
  complete := by
    intro candidate hcandidate
    rcases List.mem_append.1 hcandidate with hcandidate | hlast
    · exact h.complete candidate hcandidate
    · cases List.mem_singleton.1 hlast
      exact hroot

theorem AreFallbacks.add (h : AreFallbacks prefixes candidates fallbacks)
    (hroot : ∀ earlier ∈ prefixes ++ fallbacks, earlier.components ≠ root.components) :
    AreFallbacks prefixes (candidates ++ [root]) (fallbacks ++ [root]) where
  distinct := by
    refine List.pairwise_append.2 ⟨h.distinct, List.pairwise_singleton _ root, ?_⟩
    intro fallback hfallback last hlast
    cases List.mem_singleton.1 hlast
    exact hroot fallback (List.mem_append_right _ hfallback)
  new := by
    intro fallback hfallback given hgiven
    rcases List.mem_append.1 hfallback with hfallback | hlast
    · exact h.new fallback hfallback given hgiven
    · cases List.mem_singleton.1 hlast
      exact (hroot given (List.mem_append_left _ hgiven)).symm
  sublist := h.sublist.append (List.Sublist.refl [root])
  complete := by
    intro candidate hcandidate
    rw [← List.append_assoc]
    rcases List.mem_append.1 hcandidate with hcandidate | hlast
    · obtain ⟨earlier, hearlier, heq⟩ := h.complete candidate hcandidate
      exact ⟨earlier, List.mem_append_left _ hearlier, heq⟩
    · exact ⟨candidate, List.mem_append_right _ hlast, rfl⟩

end

theorem exists_fallbacks (prefixes candidates : List Path) :
    ∃ fallbacks, candidates.foldl addRoot prefixes = prefixes ++ fallbacks ∧
      AreFallbacks prefixes candidates fallbacks := by
  induction candidates using List.reverseRecOn with
  | nil => exact ⟨[], by simp, by simp, by simp, .slnil, by simp⟩
  | append_singleton front root ih =>
    obtain ⟨fallbacks, hfold, hfallbacks⟩ := ih
    rw [List.foldl_concat, hfold]
    rcases addRoot_cases (prefixes ++ fallbacks) root with ⟨hsame, hearlier⟩ | ⟨hadd, hroot⟩
    · exact ⟨fallbacks, hsame, hfallbacks.leaveOut hearlier⟩
    · exact ⟨fallbacks ++ [root], by rw [hadd, List.append_assoc], hfallbacks.add hroot⟩

theorem isPrefix_foldl_addRoot (roots more : List Path) : roots <+: more.foldl addRoot roots := by
  obtain ⟨fallbacks, hfold, -⟩ := exists_fallbacks roots more
  exact ⟨fallbacks, hfold.symm⟩

theorem isSearchOrder_foldl (prefixes candidates : List Path) :
    IsSearchOrder prefixes candidates (candidates.foldl addRoot prefixes) := by
  obtain ⟨fallbacks, hfold, hfallbacks⟩ := exists_fallbacks prefixes candidates
  refine ⟨fallbacks, hfold, hfallbacks, ?_⟩
  rintro seen ⟨rest, rfl⟩
  obtain ⟨kept, hseen, hkept⟩ := exists_fallbacks prefixes seen
  refine ⟨kept, ?_, hkept⟩
  -- The fold goes on from the roots of the first part, and only adds to them.
  have hprefix := isPrefix_foldl_addRoot (seen.foldl addRoot prefixes) rest
  rwa [← List.foldl_append, hfold, hseen, List.prefix_append_right_inj] at hprefix

-- ---------------------------------------------------------------------------
-- Setting the root directory and the distribution
-- ---------------------------------------------------------------------------

inductive Adjustment
  | optRoot (root : Path)
  | distro (name : String)
  deriving DecidableEq, Repr

namespace Adjustment

def root? : Adjustment → Option Path
  | .optRoot root => some root
  | .distro _ => none

def name? : Adjustment → Option String
  | .optRoot _ => none
  | .distro name => some name

end Adjustment

def adjust (search : PackageSearch) : Adjustment → PackageSearch
  | .optRoot root => search.withOptRoot root
  | .distro name => search.withDistro name

def adjustAll (search : PackageSearch) (adjustments : List Adjustment) : PackageSearch :=
  adjustments.foldl adjust search

def rootAfter (root : Option Path) (adjustments : List Adjustment) : Option Path :=
  (adjustments.filterMap Adjustment.root?).getLast?.or root

def nameAfter (name : String) (adjustments : List Adjustment) : String :=
  (adjustments.filterMap Adjustment.name?).getLast?.getD name

/-- The distribution of this name, unless it is empty, and the well-known ones. -/
def distributions (root : Option Path) (name : String) : List Path :=
  match root with
  | none => []
  | some root =>
    (if name = "" then [] else [root.join name]) ++
      ["jazzy", "iron", "humble", "galactic", "foxy"].map fun known : String => root.join known

theorem adjustAll_eq (prefixes : List Path) (name : String) (root : Option Path)
    (adjustments : List Adjustment) :
    adjustAll ⟨prefixes, distroOf name, root⟩ adjustments =
      ⟨prefixes, distroOf (nameAfter name adjustments), rootAfter root adjustments⟩ := by
  induction adjustments using List.reverseRecOn with
  | nil => rfl
  | append_singleton front last ih =>
    rw [adjustAll, List.foldl_concat, ← adjustAll, ih]
    cases last <;>
      simp [adjust, withOptRoot, withDistro, nameAfter, rootAfter, Adjustment.root?,
        Adjustment.name?]

theorem candidates_eq (prefixes : List Path) (name : String) (root : Option Path) :
    candidates ⟨prefixes, distroOf name, root⟩ = distributions root name := by
  cases root with
  | none => rfl
  | some root =>
    simp only [candidates, distributions, distroOf, knownDistros]
    split <;> simp

theorem isSearchOrder_roots (prefixes : List Path) (name : String) (root : Option Path) :
    IsSearchOrder prefixes (distributions root name)
      (roots ⟨prefixes, distroOf name, root⟩) := by
  rw [roots, candidates_eq]
  exact isSearchOrder_foldl prefixes (distributions root name)

-- ---------------------------------------------------------------------------
-- What a search starts from
-- ---------------------------------------------------------------------------

theorem ofPrefixes_eq (prefixes : List Path) :
    ofPrefixes prefixes = ⟨prefixes, distroOf "", none⟩ := rfl

def nonEmpty (parts : List SystemText) : List Path :=
  (parts.filter fun part => part.bytes ≠ []).map Path.mk

theorem ofEnvironment_eq (prefixPath distro : Option SystemText) :
    ofEnvironment prefixPath distro =
      ⟨nonEmpty ((prefixPath.getD "").pieces colon),
        distroOf ((distro.bind SystemText.text?).getD ""), some ⟨"/opt/ros"⟩⟩ := by
  have hprefixes : (ofEnvironment prefixPath distro).prefixes =
      nonEmpty ((prefixPath.getD "").pieces colon) := by
    cases prefixPath <;> rfl
  have hdistro : (ofEnvironment prefixPath distro).distro =
      distroOf ((distro.bind SystemText.text?).getD "") := by
    rw [ofEnvironment]
    cases distro.bind SystemText.text? <;> rfl
  rw [← hprefixes, ← hdistro]
  rfl

theorem nonEmpty_pieces_join {parts : List SystemText} (h : ∀ part ∈ parts, colon ∉ part.bytes) :
    nonEmpty ((SystemText.join colon parts).pieces colon) = nonEmpty parts := by
  cases parts with
  | nil => rfl
  | cons first rest => rw [SystemText.pieces_join (by simp) h]

/-- The roots of a search are its prefixes as given and then the distributions below its
root directory, the named one first, without those that name the place of an earlier root.
Of the environment's list of prefixes every part counts that is not empty. -/
theorem roots_complete_in_order (adjustments : List Adjustment) :
    (∀ prefixes,
      let search := (ofPrefixes prefixes).adjustAll adjustments
      search.prefixes = prefixes ∧
      IsSearchOrder prefixes
        (distributions (rootAfter none adjustments) (nameAfter "" adjustments)) search.roots) ∧
    (∀ prefixPath distro : Option SystemText,
      let search := (ofEnvironment prefixPath distro).adjustAll adjustments
      search.prefixes = nonEmpty ((prefixPath.getD "").pieces colon) ∧
      IsSearchOrder search.prefixes
        (distributions (rootAfter (some ⟨"/opt/ros"⟩) adjustments)
          (nameAfter ((distro.bind SystemText.text?).getD "") adjustments)) search.roots) ∧
    ∀ parts : List SystemText, (∀ part ∈ parts, colon ∉ part.bytes) → ∀ distro,
      ((ofEnvironment (some (SystemText.join colon parts)) distro).adjustAll
        adjustments).prefixes = nonEmpty parts := by
  refine ⟨?_, ?_, ?_⟩
  · intro prefixes
    simp only [ofPrefixes_eq, adjustAll_eq, true_and]
    exact isSearchOrder_roots _ _ _
  · intro prefixPath distro
    simp only [ofEnvironment_eq, adjustAll_eq, true_and]
    exact isSearchOrder_roots _ _ _
  · intro parts hparts distro
    rw [ofEnvironment_eq, adjustAll_eq]
    exact nonEmpty_pieces_join hparts

theorem roots_complete_in_order_respelled :
    let parts : List SystemText := ["/ws/install", "", "/opt//ros/./humble/", ""]
    let search := (ofEnvironment (some (SystemText.join colon parts)) (some "rolling")).adjustAll
      [.optRoot ⟨"/mnt"⟩, .distro "/opt/ros//jazzy/.", .optRoot ⟨"/opt/ros"⟩]
    (∀ part ∈ parts, colon ∉ part.bytes) ∧
    search.prefixes = [⟨"/ws/install"⟩, ⟨"/opt//ros/./humble/"⟩] ∧
    search.roots = [⟨"/ws/install"⟩, ⟨"/opt//ros/./humble/"⟩, ⟨"/opt/ros//jazzy/."⟩,
      ⟨"/opt/ros/iron"⟩, ⟨"/opt/ros/galactic"⟩, ⟨"/opt/ros/foxy"⟩] := by
  intro parts search
  have hparts : ∀ part ∈ parts, colon ∉ part.bytes := by decide +kernel
  have hprefixes : search.prefixes = nonEmpty parts :=
    (roots_complete_in_order _).2.2 parts hparts (some "rolling")
  exact ⟨hparts, hprefixes.trans (by decide +kernel), by decide +kernel⟩

end NodeLaunch.PackageSearch
