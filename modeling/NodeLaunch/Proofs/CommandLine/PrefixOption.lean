import Mathlib.Data.List.TakeWhile
import NodeLaunch.CommandLine.Arguments
import NodeLaunch.Proofs.Text.System

/-!
# Prefixes in one argument

One argument of the command line gives a prefix if it has the option and its value,
and it waits for one if it is the option alone. Letters give none.
-/

namespace NodeLaunch.CommandLine

def prefixWord : SystemText := "prefix-path"

def prefixOption : SystemText := "--prefix-path"

/-- How an argument begins that has the option and its value. -/
def prefixStart : List UInt8 := dash :: dash :: (prefixWord.bytes ++ [equals])

/-- The value of the option in the option's own argument. -/
def attached (arg : SystemText) : List Path :=
  if prefixStart.isPrefixOf arg.bytes then [⟨⟨arg.bytes.drop prefixStart.length⟩⟩] else []

theorem looksLikeOption_of_attached {arg : SystemText} (h : attached arg ≠ []) :
    looksLikeOption arg = true := by
  rw [attached] at h
  split at h
  · rename_i hstart
    obtain ⟨value, hvalue⟩ := List.isPrefixOf_iff_prefix.1 hstart
    rw [looksLikeOption, ← hvalue]
    rfl
  · exact absurd rfl h

/-- What is made of an argument has the prefixes so far and those in the argument,
or it waits for the value of an option, or it asks for no run. -/
def Adds (options : Options) (command : Option CommandName) (arg : SystemText) : Step → Prop
  | .options after =>
    arg ≠ prefixOption ∧ after.prefixPaths = options.prefixPaths ++ attached arg
  | .needsValue option after =>
    after.prefixPaths = options.prefixPaths ∧ attached arg = [] ∧
      (option = .prefixPath ∧ arg = prefixOption ∨
        option = .output ∧ arg ≠ prefixOption ∧ command = some .record)
  | .request request => ∀ given, request ≠ .run given

-- ---------------------------------------------------------------------------
-- One option
-- ---------------------------------------------------------------------------

theorem ofWord?_prefixPath_iff {command : Option CommandName} {word : String} {option : OptionName}
    (h : OptionName.ofWord? command word = some option) :
    option = .prefixPath ↔ word = "prefix-path" := by
  unfold OptionName.ofWord? at h
  obtain ⟨hfound, -⟩ := Option.filter_eq_some_iff.1 h
  split at hfound <;> cases hfound <;> simp_all

theorem ofWord?_output {command : Option CommandName} {word : String}
    (h : OptionName.ofWord? command word = some .output) : command = some .record := by
  unfold OptionName.ofWord? at h
  exact eq_of_beq (Option.filter_eq_some_iff.1 h).2

def named? (command : Option CommandName) (word : SystemText) : Option OptionName :=
  word.text?.bind (OptionName.ofWord? command)

theorem named?_prefixPath_iff {command : Option CommandName} {word : SystemText}
    {option : OptionName} (h : named? command word = some option) :
    option = .prefixPath ↔ word = prefixWord := by
  obtain ⟨text, htext, hword⟩ := Option.bind_eq_some_iff.1 h
  rw [ofWord?_prefixPath_iff hword, SystemText.text?_eq_some_iff.1 htext, prefixWord,
    SystemText.ofString_inj]

theorem named?_output {command : Option CommandName} {word : SystemText}
    (h : named? command word = some .output) : command = some .record := by
  obtain ⟨text, -, hword⟩ := Option.bind_eq_some_iff.1 h
  exact ofWord?_output hword

theorem ofLetter?_output {command : Option CommandName} {letter : Char}
    (h : OptionName.ofLetter? command letter = some .output) : command = some .record := by
  unfold OptionName.ofLetter? at h
  exact eq_of_beq (Option.filter_eq_some_iff.1 h).2

theorem ofLetter?_ne_prefixPath (command : Option CommandName) (letter : Char) :
    OptionName.ofLetter? command letter ≠ some .prefixPath := by
  intro h
  unfold OptionName.ofLetter? at h
  obtain ⟨hfound, -⟩ := Option.filter_eq_some_iff.1 h
  split at hfound <;> cases hfound

theorem setFlag_ok {options : Options} {option : OptionName} {step : Step}
    (h : options.setFlag option = .ok step) :
    (∃ after, step = .options after ∧ after.prefixPaths = options.prefixPaths ∧
      option ≠ .prefixPath) ∨
    (step = .needsValue option options ∧ (option = .prefixPath ∨ option = .output)) ∨
    ∃ request, step = .request request ∧ ∀ given, request ≠ .run given := by
  cases option with
  | verbose =>
    rw [Options.setFlag] at h
    split at h
    · cases h
    · cases h
      exact .inl ⟨_, rfl, rfl, by decide⟩
  | quiet =>
    rw [Options.setFlag] at h
    split at h
    · cases h
    · cases h
      exact .inl ⟨_, rfl, rfl, by decide⟩
  | prefixPath => cases h; exact .inr (.inl ⟨rfl, .inl rfl⟩)
  | output => cases h; exact .inr (.inl ⟨rfl, .inr rfl⟩)
  | help => cases h; exact .inr (.inr ⟨_, rfl, nofun⟩)
  | version => cases h; exact .inr (.inr ⟨_, rfl, nofun⟩)

theorem setValue_ok {options after : Options} {option : OptionName} {value : SystemText}
    (h : options.setValue option value = .ok after) :
    (option = .prefixPath ∧ after.prefixPaths = options.prefixPaths ++ [⟨value⟩]) ∨
      (option = .output ∧ after.prefixPaths = options.prefixPaths) := by
  unfold Options.setValue at h
  split at h
  · cases h
  · split at h
    · cases h
      exact .inl ⟨rfl, rfl⟩
    · split at h
      · cases h
      · cases h
        exact .inr ⟨rfl, rfl⟩
    · cases h

-- ---------------------------------------------------------------------------
-- One argument
-- ---------------------------------------------------------------------------

theorem options_of_setValue_output {options : Options} {value : SystemText} {step : Step}
    (h : (options.setValue .output value).map Step.options = .ok step) :
    ∃ after, step = .options after ∧ after.prefixPaths = options.prefixPaths := by
  cases hafter : options.setValue .output value with
  | error error => rw [hafter] at h; cases h
  | ok after =>
    rw [hafter] at h
    cases h
    obtain ⟨hfalse, -⟩ | ⟨-, hsame⟩ := setValue_ok hafter
    · cases hfalse
    · exact ⟨_, rfl, hsame⟩

theorem letters_ok {options : Options} {command : Option CommandName} {bytes : List UInt8}
    {step : Step} (h : options.letters command bytes = .ok step) :
    (∃ after, step = .options after ∧ after.prefixPaths = options.prefixPaths) ∨
    (∃ after, step = .needsValue .output after ∧ after.prefixPaths = options.prefixPaths ∧
      command = some .record) ∨
    ∃ request, step = .request request ∧ ∀ given, request ≠ .run given := by
  induction bytes generalizing options with
  | nil => cases h; exact .inl ⟨_, rfl, rfl⟩
  | cons letter rest ih =>
    rw [Options.letters] at h
    cases hletter : OptionName.ofLetter? command (Char.ofUInt8 letter) with
    | none => rw [hletter] at h; cases h
    | some option =>
      have hoption : option ≠ .prefixPath := by
        rintro rfl
        exact ofLetter?_ne_prefixPath command _ hletter
      rw [hletter] at h
      dsimp only at h
      cases hflag : options.setFlag option with
      | error error => rw [hflag] at h; cases h
      | ok middle =>
        rw [hflag] at h
        obtain ⟨after, rfl, hafter, -⟩ | ⟨rfl, hvalue⟩ | ⟨request, rfl, hrequest⟩ :=
          setFlag_ok hflag
        · rw [← hafter]
          exact ih h
        · obtain rfl := hvalue.resolve_left hoption
          dsimp only at h
          split at h
          · cases h
            exact .inr (.inl ⟨_, rfl, rfl, ofLetter?_output hletter⟩)
          · exact .inl (options_of_setValue_output h)
        · cases h
          exact .inr (.inr ⟨_, rfl, hrequest⟩)

theorem eq_takeWhile_append_of_mem {sep : UInt8} {bytes : List UInt8} (h : sep ∈ bytes) :
    bytes = bytes.takeWhile (· != sep) ++ sep :: (bytes.dropWhile (· != sep)).tail := by
  induction bytes with
  | nil => cases h
  | cons byte rest ih =>
    by_cases hbyte : byte = sep
    · subst hbyte
      simp
    · have hmem : sep ∈ rest := (List.mem_cons.1 h).resolve_left (Ne.symm hbyte)
      simpa [hbyte] using ih hmem

section

variable {options : Options} {command : Option CommandName} {arg : SystemText}
  {bytes : List UInt8} {option : OptionName}

theorem eq_prefixOption_iff (harg : arg.bytes = dash :: dash :: bytes) :
    arg = prefixOption ↔ bytes = prefixWord.bytes := by
  have hoption : prefixOption.bytes = dash :: dash :: prefixWord.bytes := by decide
  rw [SystemText.ext_iff, harg, hoption, List.cons.injEq, List.cons.injEq]
  simp only [true_and]

theorem attached_of_eq {value : List UInt8}
    (h : arg.bytes = dash :: dash :: (prefixWord.bytes ++ equals :: value)) :
    attached arg = [⟨⟨value⟩⟩] := by
  have hstart : arg.bytes = prefixStart ++ value := by rw [h, prefixStart]; simp
  rw [attached, if_pos (List.isPrefixOf_iff_prefix.2 ⟨value, hstart.symm⟩), hstart,
    List.drop_left]

theorem exists_of_attached (harg : arg.bytes = dash :: dash :: bytes) (h : attached arg ≠ []) :
    equals ∈ bytes ∧ bytes.takeWhile (· != equals) = prefixWord.bytes := by
  rw [attached] at h
  split at h
  · rename_i hstart
    obtain ⟨value, hvalue⟩ := List.isPrefixOf_iff_prefix.1 hstart
    rw [harg, prefixStart, List.cons_append, List.cons_append, List.cons.injEq,
      List.cons.injEq] at hvalue
    obtain ⟨-, -, rfl⟩ := hvalue
    exact ⟨by simp, rfl⟩
  · exact absurd rfl h

theorem adds_wordValue {after : Options} (harg : arg.bytes = dash :: dash :: bytes)
    (hmem : equals ∈ bytes)
    (hword : named? command ⟨bytes.takeWhile (· != equals)⟩ = some option)
    (hset : options.setValue option ⟨(bytes.dropWhile (· != equals)).tail⟩ = .ok after) :
    Adds options command arg (.options after) := by
  have hnamed := named?_prefixPath_iff hword
  rw [SystemText.ext_iff] at hnamed
  have hne : arg ≠ prefixOption := by
    intro heq
    rw [(eq_prefixOption_iff harg).1 heq] at hmem
    revert hmem
    decide
  refine ⟨hne, ?_⟩
  obtain ⟨hoption, hafter⟩ | ⟨rfl, hafter⟩ := setValue_ok hset
  · have hname : bytes.takeWhile (· != equals) = prefixWord.bytes := hnamed.1 hoption
    have hbytes := eq_takeWhile_append_of_mem hmem
    rw [hname] at hbytes
    rw [hafter, attached_of_eq (harg.trans (by rw [← hbytes]))]
  · have hnone : attached arg = [] := by
      by_contra hsome
      exact absurd (hnamed.2 (exists_of_attached harg hsome).2) (by decide)
    rw [hafter, hnone, List.append_nil]

theorem adds_wordFlag {step : Step} (harg : arg.bytes = dash :: dash :: bytes)
    (hmem : equals ∉ bytes) (hword : named? command ⟨bytes⟩ = some option)
    (hflag : options.setFlag option = .ok step) : Adds options command arg step := by
  have hnamed := named?_prefixPath_iff hword
  rw [SystemText.ext_iff, ← eq_prefixOption_iff harg] at hnamed
  have hnone : attached arg = [] := by
    by_contra hsome
    exact hmem (exists_of_attached harg hsome).1
  obtain ⟨after, rfl, hafter, hoption⟩ | ⟨rfl, hoption⟩ | ⟨request, rfl, hrequest⟩ :=
    setFlag_ok hflag
  · exact ⟨fun heq => hoption (hnamed.2 heq), by rw [hafter, hnone, List.append_nil]⟩
  · refine ⟨rfl, hnone, hoption.imp (fun heq => ⟨heq, hnamed.1 heq⟩) ?_⟩
    rintro rfl
    exact ⟨rfl, fun heq => absurd (hnamed.2 heq) (by decide), named?_output hword⟩
  · exact hrequest

theorem adds_word {step : Step} (harg : arg.bytes = dash :: dash :: bytes)
    (h : options.word command bytes = .ok step) : Adds options command arg step := by
  simp only [Options.word] at h
  cases hword : named? command ⟨bytes.takeWhile (· != equals)⟩ with
  | none => rw [← named?, hword] at h; cases h
  | some option =>
    rw [← named?, hword] at h
    dsimp only at h
    by_cases hmem : equals ∈ bytes
    · rw [if_pos (by simpa using hmem)] at h
      cases hset : options.setValue option ⟨(bytes.dropWhile (· != equals)).tail⟩ with
      | error error => rw [hset] at h; cases h
      | ok after =>
        rw [hset] at h
        cases h
        exact adds_wordValue harg hmem hword hset
    · rw [if_neg (by simpa using hmem)] at h
      have hname : bytes.takeWhile (· != equals) = bytes := by
        refine List.takeWhile_eq_self_iff.2 fun byte hbyte => ?_
        simpa using fun heq : byte = equals => hmem (heq ▸ hbyte)
      rw [hname] at hword
      exact adds_wordFlag harg hmem hword h

end

theorem adds_readOption {options : Options} {command : Option CommandName} {arg : SystemText}
    {step : Step} (h : readOption options command arg = .ok step) :
    Adds options command arg step := by
  rw [readOption] at h
  split at h
  · rename_i hlong
    have hparts := List.take_append_drop 2 arg.bytes
    rw [hlong] at hparts
    exact adds_word hparts.symm h
  · rename_i hshort
    have hne : arg ≠ prefixOption := by
      rintro rfl
      exact hshort (by decide)
    have hnone : attached arg = [] := by
      rw [attached, if_neg]
      intro hstart
      obtain ⟨value, hvalue⟩ := List.isPrefixOf_iff_prefix.1 hstart
      exact hshort (hvalue ▸ rfl)
    obtain ⟨after, rfl, hafter⟩ | ⟨after, rfl, hafter, hcommand⟩ | ⟨request, rfl, hrequest⟩ :=
      letters_ok h
    · exact ⟨hne, by rw [hafter, hnone, List.append_nil]⟩
    · exact ⟨hafter, hnone, .inr ⟨rfl, hne, hcommand⟩⟩
    · exact hrequest

end NodeLaunch.CommandLine
