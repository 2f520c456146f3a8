import NodeLaunch.Package.Search
import NodeLaunch.Proofs.Path.Spelling

/-!
# The first root that has a package

A search leaves out roots that it has in the list under another spelling. It
still finds what a search through all of them finds, and spells it as the first
root that has the package is spelled: a root that is left out has a package only
if the one that stands for it has.
-/

namespace NodeLaunch

/-- Spellings of one path get one answer, as far as these paths are asked about.
A file system with a longest path does not treat all spellings alike. -/
def Snapshot.IgnoresSpelling (files : Snapshot) (paths : List Path) : Prop :=
  ∀ p ∈ paths, ∀ q ∈ paths, p.Respelled q →
    files.isFile p = files.isFile q ∧ files.isDirectory p = files.isDirectory q

namespace PackageSearch

/-- All roots, repeated ones too: the prefixes and then the distributions. -/
def allRoots (search : PackageSearch) : List Path :=
  search.prefixes ++ search.optRoot.toList.flatMap fun root =>
    let distribution (name : String) : Path := root.join name
    search.distro.toList.map distribution ++ knownDistros.map distribution

def Installed (files : Snapshot) (package : String) (root : Path) : Prop :=
  files.isFile ((root.join "share/ament_index/resource_index/packages").join package) = true ∨
    files.isDirectory ((root.join "share").join package) = true

instance (files : Snapshot) (package : String) (root : Path) :
    Decidable (Installed files package root) := inferInstanceAs (Decidable (_ ∨ _))

def IsFirst (files : Snapshot) (package : String) (roots : List Path) (root : Path) : Prop :=
  ∃ before after, roots = before ++ root :: after ∧ Installed files package root ∧
    ∀ earlier ∈ before, ¬Installed files package earlier

def asked (search : PackageSearch) (package : String) : List Path :=
  search.allRoots.flatMap fun root =>
    [(root.join markerDirectory).join package, shareDirectory root package]

theorem allRoots_eq (search : PackageSearch) :
    search.allRoots = search.prefixes ++ search.candidates := by
  rw [allRoots, candidates]
  cases search.optRoot <;> simp

theorem hasPackage_iff {files : Snapshot} {root : Path} {package : String} :
    hasPackage files root package = true ↔ Installed files package root := by
  rw [hasPackage, Bool.or_eq_true]
  rfl

theorem hasPackage_eq_false_iff {files : Snapshot} {root : Path} {package : String} :
    hasPackage files root package = false ↔ ¬Installed files package root := by
  rw [← hasPackage_iff, Bool.not_eq_true]

-- ---------------------------------------------------------------------------
-- Leaving out repeated roots
-- ---------------------------------------------------------------------------

theorem mem_of_mem_addRoot {roots : List Path} {root other : Path}
    (h : other ∈ addRoot roots root) : other ∈ roots ++ [root] := by
  rw [addRoot] at h
  split at h
  · exact List.mem_append_left _ h
  · exact h

/-- A root that is left out is not the first to pass a test that does not see spelling. -/
theorem find?_addRoot {test : Path → Bool} {roots : List Path} {root : Path}
    (h : ∀ earlier ∈ roots, earlier.same root = true → test earlier = test root) :
    (addRoot roots root).find? test = (roots ++ [root]).find? test := by
  rw [addRoot]
  split
  · rename_i hany
    obtain ⟨earlier, hearlier, hsame⟩ := List.any_eq_true.1 hany
    rw [List.find?_append]
    cases hroot : test root with
    | false => simp [hroot]
    | true =>
      have htest : test earlier = true := (h earlier hearlier hsame).trans hroot
      have hsome : (roots.find? test).isSome := List.find?_isSome.2 ⟨earlier, hearlier, htest⟩
      rw [Option.or_of_isSome hsome]
  · rfl

theorem find?_foldl_addRoot {test : Path → Bool} {roots more : List Path}
    (h : ∀ p ∈ roots ++ more, ∀ q ∈ roots ++ more, p.same q = true → test p = test q) :
    (more.foldl addRoot roots).find? test = (roots ++ more).find? test := by
  induction more generalizing roots with
  | nil => rw [List.foldl_nil, List.append_nil]
  | cons root rest ih =>
    have hsub : ∀ p ∈ addRoot roots root ++ rest, p ∈ roots ++ root :: rest := by
      intro p hp
      rw [List.append_cons]
      rcases List.mem_append.1 hp with hp | hp
      · exact List.mem_append_left _ (mem_of_mem_addRoot hp)
      · exact List.mem_append_right _ hp
    have hroot : ∀ earlier ∈ roots, earlier.same root = true → test earlier = test root :=
      fun earlier hearlier => h earlier (List.mem_append_left _ hearlier) root (by simp)
    rw [List.foldl_cons, ih fun p hp q hq => h p (hsub p hp) q (hsub q hq), List.find?_append,
      find?_addRoot hroot, ← List.find?_append, List.append_assoc, List.singleton_append]

theorem hasPackage_of_same {search : PackageSearch} {files : Snapshot} {package : String}
    (hfiles : files.IgnoresSpelling (search.asked package)) {p q : Path}
    (hp : p ∈ search.allRoots) (hq : q ∈ search.allRoots) (h : p.same q = true) :
    hasPackage files p package = hasPackage files q package := by
  have hmarker := (Path.respelled_join_of_same h markerDirectory).join package
  have hshare := (Path.respelled_join_of_same h "share").join package
  have hasked {root : Path} (hroot : root ∈ search.allRoots) {path : Path}
      (hpath : path ∈ [(root.join markerDirectory).join package, shareDirectory root package]) :
      path ∈ search.asked package := List.mem_flatMap.2 ⟨root, hroot, hpath⟩
  have hfile := (hfiles _ (hasked hp (.head _)) _ (hasked hq (.head _)) hmarker).1
  have hdirectory :=
    (hfiles _ (hasked hp (.tail _ (.head _))) _ (hasked hq (.tail _ (.head _))) hshare).2
  rw [hasPackage, hasPackage, hfile, hdirectory]

theorem find?_roots {search : PackageSearch} {files : Snapshot} {package : String}
    (hfiles : files.IgnoresSpelling (search.asked package)) :
    search.roots.find? (hasPackage files · package) =
      search.allRoots.find? (hasPackage files · package) := by
  rw [allRoots_eq]
  refine find?_foldl_addRoot fun p hp q hq h => ?_
  rw [← allRoots_eq] at hp hq
  exact hasPackage_of_same hfiles hp hq h

-- ---------------------------------------------------------------------------
-- What a search says on its way
-- ---------------------------------------------------------------------------

variable {files : Snapshot} {package : String}

theorem look_of_miss {roots : List Path} (h : ∀ root ∈ roots, ¬Installed files package root) :
    look files package roots = ⟨none, roots.map (.searching package)⟩ := by
  induction roots with
  | nil => rfl
  | cons root rest ih =>
    have hroot := hasPackage_eq_false_iff.2 (h root (by simp))
    rw [look, hroot, if_neg Bool.false_ne_true, ih fun other hother => h other (.tail _ hother)]
    rfl

theorem look_of_hit {before after : List Path} {root : Path}
    (hbefore : ∀ earlier ∈ before, ¬Installed files package earlier)
    (hroot : Installed files package root) :
    look files package (before ++ root :: after) =
      ⟨some (shareDirectory root package),
        (before ++ [root]).map (.searching package) ++
          [.found package (shareDirectory root package)]⟩ := by
  induction before with
  | nil =>
    rw [List.nil_append, look, hasPackage_iff.2 hroot, if_pos rfl]
    rfl
  | cons first rest ih =>
    have hfirst := hasPackage_eq_false_iff.2 (hbefore first (by simp))
    rw [List.cons_append, look, hfirst, if_neg Bool.false_ne_true,
      ih fun other hother => hbefore other (.tail _ hother)]
    rfl

theorem resolve_of_miss {search : PackageSearch} (hpackage : package ≠ "")
    (h : ∀ root ∈ search.roots, ¬Installed files package root) :
    search.resolve files package = ⟨.error (.packageNotFound package),
      search.roots.map (.searching package) ++ [.exhausted package search.roots.length]⟩ := by
  rw [resolve, if_neg hpackage, look_of_miss h]
  rfl

theorem resolve_of_hit {search : PackageSearch} {before after : List Path} {root : Path}
    (hpackage : package ≠ "") (hroots : search.roots = before ++ root :: after)
    (hbefore : ∀ earlier ∈ before, ¬Installed files package earlier)
    (hroot : Installed files package root) :
    search.resolve files package = ⟨.ok (shareDirectory root package),
      (before ++ [root]).map (.searching package) ++
        [.found package (shareDirectory root package)]⟩ := by
  rw [resolve, if_neg hpackage, hroots, look_of_hit hbefore hroot, Logged.ext_iff']
  exact ⟨rfl, List.append_nil _⟩

theorem isFirst_iff {roots : List Path} {root : Path} :
    IsFirst files package roots root ↔
      roots.find? (hasPackage files · package) = some root := by
  rw [List.find?_eq_some_iff_append, IsFirst]
  simp only [hasPackage_iff, Bool.not_eq_true', hasPackage_eq_false_iff]
  constructor
  · rintro ⟨before, after, hroots, hroot, hbefore⟩
    exact ⟨hroot, before, after, hroots, hbefore⟩
  · rintro ⟨hroot, before, after, hroots, hbefore⟩
    exact ⟨before, after, hroots, hroot, hbefore⟩

theorem not_installed_iff {roots : List Path} :
    (∀ root ∈ roots, ¬Installed files package root) ↔
      roots.find? (hasPackage files · package) = none := by
  simp only [List.find?_eq_none, hasPackage_iff]

/-- A search either stops at the first root that has the package or gets to the end. -/
theorem resolve_cases {search : PackageSearch} (hpackage : package ≠ "")
    (hfiles : files.IgnoresSpelling (search.asked package)) :
    (∃ before root after, search.roots = before ++ root :: after ∧
      Installed files package root ∧ (∀ earlier ∈ before, ¬Installed files package earlier) ∧
      IsFirst files package search.allRoots root ∧
      search.resolve files package = ⟨.ok ((root.join "share").join package),
        (before ++ [root]).map (.searching package) ++
          [.found package ((root.join "share").join package)]⟩) ∨
    ((∀ root ∈ search.allRoots, ¬Installed files package root) ∧
      search.resolve files package = ⟨.error (.packageNotFound package),
        search.roots.map (.searching package) ++ [.exhausted package search.roots.length]⟩) := by
  have hfind := find?_roots hfiles
  cases hfirst : search.roots.find? (hasPackage files · package) with
  | none =>
    have hmiss := not_installed_iff.2 hfirst
    exact .inr ⟨not_installed_iff.2 (hfind.symm.trans hfirst), resolve_of_miss hpackage hmiss⟩
  | some root =>
    obtain ⟨before, after, hroots, hroot, hbefore⟩ := isFirst_iff.2 hfirst
    exact .inl ⟨before, root, after, hroots, hroot, hbefore,
      isFirst_iff.2 (hfind.symm.trans hfirst), resolve_of_hit hpackage hroots hbefore hroot⟩

theorem level_of_mem_searching {roots : List Path} {last notice : Notice}
    (hlast : last.level = .debug)
    (h : notice ∈ roots.map (.searching package) ++ [last]) : notice.level = .debug := by
  rcases List.mem_append.1 h with h | h
  · obtain ⟨root, -, rfl⟩ := List.mem_map.1 h
    rfl
  · rw [List.mem_singleton.1 h, hlast]

theorem IsFirst.unique {roots : List Path} {root other : Path}
    (h : IsFirst files package roots root) (h' : IsFirst files package roots other) :
    root = other :=
  Option.some.inj ((isFirst_iff.1 h).symm.trans (isFirst_iff.1 h'))

theorem IsFirst.not_miss {roots : List Path} {root : Path}
    (h : IsFirst files package roots root) :
    ¬∀ other ∈ roots, ¬Installed files package other := by
  obtain ⟨before, after, rfl, hroot, -⟩ := h
  exact fun hmiss => hmiss root (by simp) hroot

/-- A search finds a package in the first of all the roots that has it, and under
that root's spelling, though it does not look at repeated roots again. It names
the roots it looks at, up to the one that has the package or all of them. -/
theorem resolve_eq_first_root (search : PackageSearch) (files : Snapshot) (package : String)
    (hpackage : package ≠ "") (hfiles : files.IgnoresSpelling (search.asked package)) :
    (∀ share, (search.resolve files package).value = .ok share ↔
      ∃ root, IsFirst files package search.allRoots root ∧
        share = (root.join "share").join package) ∧
    (∀ error, (search.resolve files package).value = .error error ↔
      error = .packageNotFound package ∧
        ∀ root ∈ search.allRoots, ¬Installed files package root) ∧
    (∀ share, (search.resolve files package).value = .ok share →
      ∃ before root after, search.roots = before ++ root :: after ∧
        Installed files package root ∧
        (∀ earlier ∈ before, ¬Installed files package earlier) ∧
        (search.resolve files package).notices =
          (before ++ [root]).map (.searching package) ++ [.found package share]) ∧
    (∀ error, (search.resolve files package).value = .error error →
      (search.resolve files package).notices =
        search.roots.map (.searching package) ++
          [.exhausted package search.roots.length]) ∧
    ∀ notice ∈ (search.resolve files package).notices, notice.level = .debug := by
  rcases resolve_cases hpackage hfiles with
    ⟨before, root, after, hroots, hroot, hbefore, hfirst, heq⟩ | ⟨hmiss, heq⟩
  · rw [heq]
    refine ⟨fun share => ⟨?_, ?_⟩, fun error => ⟨?_, ?_⟩, ?_, ?_, ?_⟩
    · rintro ⟨⟩
      exact ⟨root, hfirst, rfl⟩
    · rintro ⟨other, hother, rfl⟩
      rw [hfirst.unique hother]
    · rintro ⟨⟩
    · rintro ⟨-, hnone⟩
      exact absurd hnone hfirst.not_miss
    · rintro _ ⟨⟩
      exact ⟨before, root, after, hroots, hroot, hbefore, rfl⟩
    · rintro _ ⟨⟩
    · exact fun _ => level_of_mem_searching rfl
  · rw [heq]
    refine ⟨fun share => ⟨?_, ?_⟩, fun error => ⟨?_, ?_⟩, ?_, ?_, ?_⟩
    · rintro ⟨⟩
    · rintro ⟨root, hfirst, -⟩
      exact absurd hmiss hfirst.not_miss
    · rintro ⟨⟩
      exact ⟨rfl, hmiss⟩
    · rintro ⟨rfl, -⟩
      rfl
    · rintro _ ⟨⟩
    · exact fun _ _ => rfl
    · exact fun _ => level_of_mem_searching rfl

def onlyDirectory (path : Path) : Snapshot where
  isFile _ := false
  isDirectory other := other.same path
  read _ := .error .notFound

theorem ignoresSpelling_onlyDirectory (path : Path) (paths : List Path) :
    (onlyDirectory path).IgnoresSpelling paths := by
  intro p _ q _ hspelled
  have hcomponents := Path.same_iff.1 hspelled.same
  simp only [onlyDirectory, Path.same, hcomponents, true_and]

/-- The last prefix is the root of the distribution, spelled otherwise. -/
def overlaidSearch : PackageSearch where
  prefixes := [⟨"overlay"⟩, ⟨"/opt//ros/./humble/"⟩]
  distro := some "humble"
  optRoot := some ⟨"/opt/ros"⟩

theorem resolve_eq_first_root_overlaid :
    let files := onlyDirectory ⟨"/opt/ros/humble/share/demo"⟩
    "demo" ≠ "" ∧ files.IgnoresSpelling (overlaidSearch.asked "demo") ∧
    (overlaidSearch.resolve files "demo").value = .ok ⟨"/opt//ros/./humble/share/demo"⟩ := by
  intro files
  have hpackage : "demo" ≠ "" := by decide
  have hfiles : files.IgnoresSpelling (overlaidSearch.asked "demo") :=
    ignoresSpelling_onlyDirectory _ _
  have hfirst : IsFirst files "demo" overlaidSearch.allRoots ⟨"/opt//ros/./humble/"⟩ :=
    ⟨[⟨"overlay"⟩], overlaidSearch.allRoots.drop 2, rfl, by decide +kernel, by decide +kernel⟩
  refine ⟨hpackage, hfiles, ?_⟩
  rw [(resolve_eq_first_root overlaidSearch files "demo" hpackage hfiles).1]
  exact ⟨_, hfirst, by decide +kernel⟩

end PackageSearch

end NodeLaunch
