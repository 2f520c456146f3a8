import NodeLaunch.Description.Config
import NodeLaunch.Proofs.Path.Components
import NodeLaunch.Proofs.Text.System

/-!
# Parameter files below the share directory

The parts of a configuration are read here by their texts alone: a name is not
blank, a segment cut at its slashes starts with a name and never goes up.
`make` accepts exactly such parts, and a parameter file put together from such
segments lies below the share directory, wherever that is.
-/

namespace NodeLaunch

def Text.NotBlank (s : String) : Prop := ∃ c ∈ s.toList, isBlank c = false

theorem Text.notBlank_iff {s : String} : NotBlank s ↔ isAllBlank s = false := by
  simp [NotBlank, isAllBlank]

namespace Path

/-- Cut at its slashes the text starts with a piece that is neither empty nor a dot,
and no piece of it is `..`. -/
def IsPlain (text : String) : Prop :=
  ∃ first rest, Text.pieces '/' text = first :: rest ∧
    first ≠ "" ∧ first ≠ "." ∧ ".." ∉ first :: rest

theorem Component.isName_ofFirst {piece : SystemText} :
    (ofFirst piece).isName = true ↔ piece ≠ "" ∧ piece ≠ "." ∧ piece ≠ ".." := by
  rw [ofFirst]
  split
  · simp_all [isName]
  · split
    · simp_all [isName]
    · split <;> simp_all [isName]

theorem all_isName_filterMap {pieces : List SystemText} :
    (pieces.filterMap Component.ofPiece?).all Component.isName = true ↔
      (".." : SystemText) ∉ pieces := by
  induction pieces with
  | nil => simp
  | cons piece rest ih =>
    rw [List.filterMap_cons, List.mem_cons, not_or, ← ih, ← ne_eq, ne_comm]
    by_cases h : piece = "" ∨ piece = "."
    · have hup : piece ≠ ".." := by rcases h with rfl | rfl <;> decide
      rw [Component.ofPiece?_eq_none_iff.2 h]
      exact (and_iff_right hup).symm
    · obtain ⟨hempty, hdot⟩ := not_or.1 h
      rw [Component.ofPiece?_eq_some hempty hdot, List.all_cons, Bool.and_eq_true,
        Component.isName_ofFirst, and_iff_right hempty, and_iff_right hdot]

theorem pieces_of_pieces {text first : String} {rest : List String}
    (h : Text.pieces '/' text = first :: rest) :
    (⟨text⟩ : Path).pieces = SystemText.ofString first :: rest.map SystemText.ofString := by
  rw [pieces, SystemText.pieces_ofString, h, List.map_cons]

theorem isPlain_iff {text : String} :
    IsPlain text ↔ LaunchConfig.isPlainSegment text = true := by
  obtain ⟨first, rest, hpieces⟩ := List.exists_cons_of_ne_nil (Text.pieces_ne_nil '/' text)
  have hbytes := pieces_of_pieces hpieces
  have hplain : IsPlain text ↔ first ≠ "" ∧ first ≠ "." ∧ ".." ∉ first :: rest := by
    simp [IsPlain, hpieces]
  rw [hplain, LaunchConfig.isPlainSegment]
  by_cases htext : SystemText.ofString text = ""
  · have hfirst : first = "" := by
      by_contra hfirst
      exact ne_empty_of_pieces hbytes (mt SystemText.ofString_inj.1 hfirst) htext
    rw [(components_eq_nil_iff (p := ⟨text⟩)).2 htext]
    simp [hfirst]
  · rw [components_eq (p := ⟨text⟩) hbytes htext, List.isEmpty_cons, Bool.not_false, Bool.true_and,
      List.all_cons, Bool.and_eq_true, Component.isName_ofFirst, all_isName_filterMap,
      List.mem_cons, not_or, eq_comm (a := "..")]
    simp only [and_assoc, ne_eq, SystemText.ofString_inj, List.mem_map, exists_eq_right]

theorem components_join_of_isPlain {p : Path} {tail : String} (h : IsPlain tail) :
    (p.join tail).components = p.components ++ (⟨tail⟩ : Path).components := by
  obtain ⟨first, rest, hpieces, hempty, hdot, -⟩ := h
  exact components_join_of_first (pieces_of_pieces hpieces) (mt SystemText.ofString_inj.1 hempty)
    (mt SystemText.ofString_inj.1 hdot)

def componentsOf (texts : List String) : List Component :=
  texts.flatMap fun text : String => (⟨text⟩ : Path).components

theorem components_joinAll {base : Path} {texts : List String}
    (h : ∀ text ∈ texts, IsPlain text) :
    (base.joinAll texts).components = base.components ++ componentsOf texts := by
  induction texts generalizing base with
  | nil => exact (List.append_nil _).symm
  | cons text rest ih =>
    obtain ⟨htext, hrest⟩ := List.forall_mem_cons.1 h
    have hstep : base.joinAll (text :: rest) = (base.join text).joinAll rest := rfl
    rw [hstep, ih hrest, components_join_of_isPlain htext, List.append_assoc]
    rfl

theorem isName_of_mem_componentsOf {texts : List String} (h : ∀ text ∈ texts, IsPlain text)
    {step : Component} (hstep : step ∈ componentsOf texts) : step.isName = true := by
  obtain ⟨text, htext, hmem⟩ := List.mem_flatMap.1 hstep
  have hplain := isPlain_iff.1 (h text htext)
  rw [LaunchConfig.isPlainSegment, Bool.and_eq_true] at hplain
  exact List.all_eq_true.1 hplain.2 step hmem

theorem componentsOf_ne_nil {texts : List String} (hne : texts ≠ [])
    (h : ∀ text ∈ texts, IsPlain text) : componentsOf texts ≠ [] := by
  obtain ⟨text, rest, rfl⟩ := List.exists_cons_of_ne_nil hne
  have hplain := isPlain_iff.1 (h text (.head _))
  rw [LaunchConfig.isPlainSegment, Bool.and_eq_true] at hplain
  have hcomponents : (⟨text⟩ : Path).components ≠ [] := by simpa using hplain.1
  rw [componentsOf, List.flatMap_cons]
  exact List.append_ne_nil_of_left_ne_nil hcomponents _

end Path

namespace LaunchConfig

-- ---------------------------------------------------------------------------
-- What is accepted, and what is reported of the rest
-- ---------------------------------------------------------------------------

/-- The parts make a configuration. -/
structure Acceptable (package executable name : String) (segments : List String) : Prop where
  package : Text.NotBlank package
  executable : Text.NotBlank executable
  name : Text.NotBlank name
  nonempty : segments ≠ []
  plain : ∀ segment ∈ segments, Path.IsPlain segment

inductive FirstFault (package executable name : String) (segments : List String) :
    ConfigError → Prop
  | package : ¬Text.NotBlank package →
    FirstFault package executable name segments (.emptyField .package)
  | executable : Text.NotBlank package → ¬Text.NotBlank executable →
    FirstFault package executable name segments (.emptyField .executable)
  | name : Text.NotBlank package → Text.NotBlank executable → ¬Text.NotBlank name →
    FirstFault package executable name segments (.emptyField .name)
  | noSegment : Text.NotBlank package → Text.NotBlank executable → Text.NotBlank name →
    segments = [] → FirstFault package executable name segments .emptyParameterPath
  | segment (before : List String) (bad : String) (after : List String) :
    Text.NotBlank package → Text.NotBlank executable → Text.NotBlank name →
    segments = before ++ bad :: after → (∀ earlier ∈ before, Path.IsPlain earlier) →
    ¬Path.IsPlain bad → FirstFault package executable name segments (.invalidSegment bad)

theorem requireName_of_notBlank {field : ConfigField} {value : String}
    (h : Text.NotBlank value) : requireName field value = .ok () := by
  rw [requireName, Text.notBlank_iff.1 h, if_neg Bool.false_ne_true]

theorem requireName_of_blank {field : ConfigField} {value : String}
    (h : ¬Text.NotBlank value) : requireName field value = .error (.emptyField field) := by
  rw [Text.notBlank_iff, Bool.not_eq_false] at h
  rw [requireName, h, if_pos rfl]

theorem requireSegments_of_plain {segments : List String} (hne : segments ≠ [])
    (h : ∀ segment ∈ segments, Path.IsPlain segment) : requireSegments segments = .ok () := by
  have hfind : segments.find? (!isPlainSegment ·) = none :=
    List.find?_eq_none.2 fun segment hsegment => by simp [Path.isPlain_iff.1 (h segment hsegment)]
  rw [requireSegments, if_neg (by simpa using hne), hfind]

theorem requireSegments_of_first {before after : List String} {bad : String}
    (hbefore : ∀ earlier ∈ before, Path.IsPlain earlier) (hbad : ¬Path.IsPlain bad) :
    requireSegments (before ++ bad :: after) = .error (.invalidSegment bad) := by
  have hfind : (before ++ bad :: after).find? (!isPlainSegment ·) = some bad := by
    refine List.find?_eq_some_iff_append.2 ⟨?_, before, after, rfl, fun earlier hearlier => ?_⟩
    · simpa [Path.isPlain_iff] using hbad
    · simp [Path.isPlain_iff.1 (hbefore earlier hearlier)]
  rw [requireSegments, if_neg (by simp), hfind]

variable {package executable name : String} {segments : List String}

theorem make_of_acceptable (h : Acceptable package executable name segments) :
    make package executable name segments =
      .ok ⟨package, executable, name, segments, true, .screen⟩ := by
  rw [make, requireName_of_notBlank h.package, requireName_of_notBlank h.executable,
    requireName_of_notBlank h.name, requireSegments_of_plain h.nonempty h.plain]
  rfl

theorem make_of_firstFault {error : ConfigError}
    (h : FirstFault package executable name segments error) :
    make package executable name segments = .error error := by
  cases h with
  | package hpackage =>
    rw [make, requireName_of_blank hpackage]
    rfl
  | executable hpackage hexecutable =>
    rw [make, requireName_of_notBlank hpackage, requireName_of_blank hexecutable]
    rfl
  | name hpackage hexecutable hname =>
    rw [make, requireName_of_notBlank hpackage, requireName_of_notBlank hexecutable,
      requireName_of_blank hname]
    rfl
  | noSegment hpackage hexecutable hname hnone =>
    rw [make, requireName_of_notBlank hpackage, requireName_of_notBlank hexecutable,
      requireName_of_notBlank hname, hnone]
    rfl
  | segment before bad after hpackage hexecutable hname hsegments hbefore hbad =>
    rw [make, requireName_of_notBlank hpackage, requireName_of_notBlank hexecutable,
      requireName_of_notBlank hname, hsegments, requireSegments_of_first hbefore hbad]
    rfl

theorem acceptable_or_firstFault (package executable name : String) (segments : List String) :
    Acceptable package executable name segments ∨
      ∃ error, FirstFault package executable name segments error := by
  by_cases hpackage : Text.NotBlank package
  case neg => exact .inr ⟨_, .package hpackage⟩
  by_cases hexecutable : Text.NotBlank executable
  case neg => exact .inr ⟨_, .executable hpackage hexecutable⟩
  by_cases hname : Text.NotBlank name
  case neg => exact .inr ⟨_, .name hpackage hexecutable hname⟩
  by_cases hnone : segments = []
  case pos => exact .inr ⟨_, .noSegment hpackage hexecutable hname hnone⟩
  cases hfind : segments.find? (!isPlainSegment ·) with
  | none =>
    have hplain : ∀ segment ∈ segments, Path.IsPlain segment := by
      simpa [Path.isPlain_iff] using List.find?_eq_none.1 hfind
    exact .inl ⟨hpackage, hexecutable, hname, hnone, hplain⟩
  | some bad =>
    obtain ⟨hbad, before, after, hsegments, hbefore⟩ := List.find?_eq_some_iff_append.1 hfind
    refine .inr ⟨_, .segment before bad after hpackage hexecutable hname hsegments ?_ ?_⟩
    · simpa [Path.isPlain_iff] using hbefore
    · simpa [Path.isPlain_iff] using hbad

theorem make_eq_ok_iff {config : LaunchConfig} :
    make package executable name segments = .ok config ↔
      Acceptable package executable name segments ∧
        config = ⟨package, executable, name, segments, true, .screen⟩ := by
  constructor
  · intro h
    rcases acceptable_or_firstFault package executable name segments with hok | ⟨error, herror⟩
    · rw [make_of_acceptable hok] at h
      exact ⟨hok, (Except.ok.inj h).symm⟩
    · rw [make_of_firstFault herror] at h
      cases h
  · rintro ⟨hok, rfl⟩
    exact make_of_acceptable hok

theorem make_eq_error_iff {error : ConfigError} :
    make package executable name segments = .error error ↔
      FirstFault package executable name segments error := by
  refine ⟨fun h => ?_, make_of_firstFault⟩
  rcases acceptable_or_firstFault package executable name segments with hok | ⟨other, hother⟩
  · rw [make_of_acceptable hok] at h
    cases h
  · rw [make_of_firstFault hother] at h
    exact Except.error.inj h ▸ hother

-- ---------------------------------------------------------------------------
-- Where the parameter file lies
-- ---------------------------------------------------------------------------

theorem build_of_resolve {config : LaunchConfig} {resolver : Resolver} {files : Snapshot}
    {share : Path} (h : (resolver.resolve files config.package).value = .ok share) :
    (config.build resolver files).value = .ok (.ofProcesses [config.processAt share]) := by
  rw [build, Logged.value_bind, h]
  rfl

/-- A configuration is made of exactly the acceptable parts, and of others the first
fault is reported. What is built of it, with whatever output, is one process with
one parameter file, which lies below the share directory: its components are those
of that directory and then those of the segments, plain names all of them. -/
theorem make_build_below_share (package executable name : String) (segments : List String) :
    (∀ config, make package executable name segments = .ok config ↔
      Acceptable package executable name segments ∧
        config = ⟨package, executable, name, segments, true, .screen⟩) ∧
    (∀ error, make package executable name segments = .error error ↔
      FirstFault package executable name segments error) ∧
    ∀ config, make package executable name segments = .ok config →
      ∀ (emulateTty : Bool) (output : OutputMode) (resolver : Resolver) (files : Snapshot)
        (share : Path), (resolver.resolve files package).value = .ok share →
        ∃ process file,
          ({ config with emulateTty, output }.build resolver files).value =
            .ok (.ofProcesses [process]) ∧
          process.parameterFiles = [file] ∧
          file.components = share.components ++ Path.componentsOf segments ∧
          (∀ step ∈ Path.componentsOf segments, ∃ text, step = .name text) ∧
          0 < (Path.componentsOf segments).length := by
  refine ⟨fun config => make_eq_ok_iff, fun error => make_eq_error_iff, ?_⟩
  intro config hmake emulateTty output resolver files share hshare
  obtain ⟨hok, rfl⟩ := make_eq_ok_iff.1 hmake
  refine ⟨_, share.joinAll segments, build_of_resolve hshare, rfl,
    Path.components_joinAll hok.plain, fun step hstep => ?_,
    List.length_pos_iff.2 (Path.componentsOf_ne_nil hok.nonempty hok.plain)⟩
  have hname := Path.isName_of_mem_componentsOf hok.plain hstep
  cases step with
  | name text => exact ⟨text, rfl⟩
  | root | here | up => cases hname

theorem make_standard :
    make standard.package standard.executable standard.name standard.parameterFile =
      .ok standard := by
  decide +kernel

end LaunchConfig

end NodeLaunch
