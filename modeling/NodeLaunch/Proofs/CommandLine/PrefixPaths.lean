import NodeLaunch.CommandLine.Run
import NodeLaunch.Proofs.CommandLine.PrefixOption

/-!
# Prefixes on the command line

All prefixes that are given on one side of the command are searched, in their
order. Where both sides give some, only those after the command are searched:
they stand in place of the others, which are lost.
-/

namespace NodeLaunch.CommandLine

-- ---------------------------------------------------------------------------
-- What is given
-- ---------------------------------------------------------------------------

/-- The prefixes that arguments give, in their order. The value of the option is
in the same argument after an equals sign, or it is the next argument. -/
def prefixesIn : List SystemText → List Path
  | [] => []
  | [arg] => attached arg
  | arg :: value :: rest =>
    if arg = prefixOption then ⟨value⟩ :: prefixesIn rest
    else attached arg ++ prefixesIn (value :: rest)

/-- Options and their values, as they may stand before the command. -/
inductive OptionsOnly : List SystemText → Prop
  | nil : OptionsOnly []
  | flag {arg : SystemText} {rest : List SystemText} : looksLikeOption arg = true →
    arg ≠ prefixOption → OptionsOnly rest → OptionsOnly (arg :: rest)
  | prefixPath (value : SystemText) {rest : List SystemText} : OptionsOnly rest →
    OptionsOnly (prefixOption :: value :: rest)

theorem prefixesIn_cons {arg : SystemText} (h : arg ≠ prefixOption) (rest : List SystemText) :
    prefixesIn (arg :: rest) = attached arg ++ prefixesIn rest := by
  cases rest with
  | nil => rw [prefixesIn, prefixesIn, List.append_nil]
  | cons value rest => rw [prefixesIn, if_neg h]

theorem prefixesIn_value (value : SystemText) (rest : List SystemText) :
    prefixesIn (prefixOption :: value :: rest) = ⟨value⟩ :: prefixesIn rest := by
  rw [prefixesIn, if_pos rfl]

theorem prefixesIn_cons_of_not_option {arg : SystemText} (h : looksLikeOption arg = false)
    (rest : List SystemText) : prefixesIn (arg :: rest) = prefixesIn rest := by
  have hattached : attached arg = [] := by
    by_contra hne
    rw [looksLikeOption_of_attached hne] at h
    cases h
  have hne : arg ≠ prefixOption := by
    rintro rfl
    revert h
    decide
  rw [prefixesIn_cons hne, hattached, List.nil_append]

theorem prefixesIn_append {before : List SystemText} (h : OptionsOnly before) {name : SystemText}
    (hname : looksLikeOption name = false) (after : List SystemText) :
    prefixesIn (before ++ name :: after) = prefixesIn before ++ prefixesIn after := by
  induction h with
  | nil => rw [List.nil_append, prefixesIn_cons_of_not_option hname, prefixesIn, List.nil_append]
  | flag _ hne _ ih =>
    rw [List.cons_append, prefixesIn_cons hne, prefixesIn_cons hne, ih, List.append_assoc]
  | prefixPath value _ ih =>
    rw [List.cons_append, List.cons_append, prefixesIn_value, prefixesIn_value, ih,
      List.cons_append]

/-- Where the options end is seen from the arguments. -/
theorem OptionsOnly.inj {before before' : List SystemText} (h : OptionsOnly before)
    (h' : OptionsOnly before') {name name' : SystemText} (hname : looksLikeOption name = false)
    (hname' : looksLikeOption name' = false) {after after' : List SystemText}
    (heq : before ++ name :: after = before' ++ name' :: after') :
    before = before' ∧ after = after' := by
  have hoption : looksLikeOption prefixOption = true := by decide
  induction h generalizing before' with
  | nil =>
    cases h' with
    | nil => exact ⟨rfl, (List.cons.inj heq).2⟩
    | flag harg => exact absurd harg (by simp [← (List.cons.inj heq).1, hname])
    | prefixPath => exact absurd hoption (by simp [← (List.cons.inj heq).1, hname])
  | flag harg hne _ ih =>
    cases h' with
    | nil => exact absurd harg (by simp [(List.cons.inj heq).1, hname'])
    | flag _ _ h' =>
      obtain ⟨rfl, htail⟩ := List.cons.inj heq
      obtain ⟨rfl, rfl⟩ := ih h' htail
      exact ⟨rfl, rfl⟩
    | prefixPath => exact absurd (List.cons.inj heq).1 hne
  | prefixPath value _ ih =>
    cases h' with
    | nil => exact absurd hoption (by simp [(List.cons.inj heq).1, hname'])
    | flag _ hne => exact absurd (List.cons.inj heq).1.symm hne
    | prefixPath _ h' =>
      obtain ⟨rfl, htail⟩ := List.cons.inj (List.cons.inj heq).2
      obtain ⟨rfl, rfl⟩ := ih h' htail
      exact ⟨rfl, rfl⟩

-- ---------------------------------------------------------------------------
-- After the command
-- ---------------------------------------------------------------------------

section

variable {options after : Options} {command : Option CommandName} {arg : SystemText}

/-- No prefix is lost or made up by an argument with options. -/
theorem prefixesIn_of_options (h : readOption options command arg = .ok (.options after))
    (rest : List SystemText) :
    after.prefixPaths ++ prefixesIn rest = options.prefixPaths ++ prefixesIn (arg :: rest) := by
  obtain ⟨hne, hafter⟩ := adds_readOption h
  rw [hafter, prefixesIn_cons hne, List.append_assoc]

theorem prefixesIn_of_value {middle : Options} {option : OptionName} {value : SystemText}
    (h : readOption options command arg = .ok (.needsValue option middle))
    (hvalue : looksLikeOption value = false) (hset : middle.setValue option value = .ok after)
    (rest : List SystemText) :
    after.prefixPaths ++ prefixesIn rest =
      options.prefixPaths ++ prefixesIn (arg :: value :: rest) := by
  obtain ⟨hmiddle, hnone, hoption⟩ := adds_readOption h
  obtain ⟨rfl, rfl⟩ | ⟨rfl, hne, -⟩ := hoption
  · obtain ⟨-, hafter⟩ | ⟨hfalse, -⟩ := setValue_ok hset
    · rw [hafter, hmiddle, prefixesIn_value, List.append_assoc, List.singleton_append]
    · cases hfalse
  · obtain ⟨hfalse, -⟩ | ⟨-, hafter⟩ := setValue_ok hset
    · cases hfalse
    · rw [hafter, hmiddle, prefixesIn_cons hne, hnone, List.nil_append,
        prefixesIn_cons_of_not_option hvalue]

end

theorem readAfter_ok {before options : Options} {command : CommandName} {args : List SystemText}
    {given : Invocation} (h : readAfter before command options args = .ok (.run given)) :
    ∃ after, given = invocation before after command ∧
      after.prefixPaths = options.prefixPaths ++ prefixesIn args := by
  fun_induction readAfter before command options args with
  -- the arguments end, with two dashes or without
  | case1 options =>
    cases h
    exact ⟨options, rfl, (List.append_nil _).symm⟩
  | case2 options =>
    cases h
    exact ⟨options, rfl, (List.append_nil _).symm⟩
  -- a request instead of a run
  | case5 options arg rest _ _ request hread =>
    cases h
    exact absurd rfl (adds_readOption hread given)
  -- one argument with options
  | case6 options arg rest _ _ middle hread ih =>
    obtain ⟨after, hgiven, hafter⟩ := ih h
    exact ⟨after, hgiven, hafter.trans (prefixesIn_of_options hread rest)⟩
  -- an option and its value
  | case10 options arg _ _ option waiting hread value rest hvalue middle hset ih =>
    obtain ⟨after, hgiven, hafter⟩ := ih h
    refine ⟨after, hgiven, hafter.trans (prefixesIn_of_value hread ?_ hset rest)⟩
    exact eq_false_of_ne_true hvalue
  -- faults
  | case3 | case4 | case7 | case8 | case9 | case11 => cases h

-- ---------------------------------------------------------------------------
-- Before the command
-- ---------------------------------------------------------------------------

/-- A command line with its command: what stands before it, its name, and what
stands after it. -/
structure Sides (args : List SystemText) where
  before : List SystemText
  name : SystemText
  after : List SystemText
  command : CommandName
  args_eq : args = before ++ name :: after
  optionsOnly : OptionsOnly before
  isCommand : CommandName.ofText? name = some command

namespace Sides

theorem looksLikeOption_name {args : List SystemText} (sides : Sides args) :
    looksLikeOption sides.name = false := by
  have hcommand := sides.isCommand
  rw [CommandName.ofText?] at hcommand
  split at hcommand
  · rename_i hname
    rw [hname]
    rfl
  · split at hcommand
    · rename_i hname
      rw [hname]
      rfl
    · cases hcommand

theorem prefixesIn_eq {args : List SystemText} (sides : Sides args) :
    prefixesIn args = prefixesIn sides.before ++ prefixesIn sides.after :=
  calc prefixesIn args
    _ = prefixesIn (sides.before ++ sides.name :: sides.after) := congrArg _ sides.args_eq
    _ = prefixesIn sides.before ++ prefixesIn sides.after :=
      prefixesIn_append sides.optionsOnly sides.looksLikeOption_name sides.after

theorem sides_inj {args : List SystemText} (sides sides' : Sides args) :
    sides.before = sides'.before ∧ sides.after = sides'.after :=
  sides.optionsOnly.inj sides'.optionsOnly sides.looksLikeOption_name
    sides'.looksLikeOption_name (sides.args_eq.symm.trans sides'.args_eq)

def ofCommand {name : SystemText} {command : CommandName}
    (h : CommandName.ofText? name = some command) (after : List SystemText) :
    Sides (name :: after) where
  before := []
  name := name
  after := after
  command := command
  args_eq := rfl
  optionsOnly := .nil
  isCommand := h

def withFlag {arg : SystemText} {rest : List SystemText} (sides : Sides rest)
    (harg : looksLikeOption arg = true) (hne : arg ≠ prefixOption) : Sides (arg :: rest) where
  before := arg :: sides.before
  name := sides.name
  after := sides.after
  command := sides.command
  args_eq := congrArg (arg :: ·) sides.args_eq
  optionsOnly := .flag harg hne sides.optionsOnly
  isCommand := sides.isCommand

def withPrefixPath {rest : List SystemText} (sides : Sides rest) (value : SystemText) :
    Sides (prefixOption :: value :: rest) where
  before := prefixOption :: value :: sides.before
  name := sides.name
  after := sides.after
  command := sides.command
  args_eq := congrArg (prefixOption :: value :: ·) sides.args_eq
  optionsOnly := .prefixPath value sides.optionsOnly
  isCommand := sides.isCommand

end Sides

theorem readBefore_ok {options : Options} {args : List SystemText} {given : Invocation}
    (h : readBefore options args = .ok (.run given)) :
    ∃ (sides : Sides args) (before after : Options),
      given = invocation before after sides.command ∧
      before.prefixPaths = options.prefixPaths ++ prefixesIn sides.before ∧
      after.prefixPaths = prefixesIn sides.after := by
  fun_induction readBefore options args with
  -- a request instead of a run
  | case5 options arg rest _ _ request hread =>
    cases h
    exact absurd rfl (adds_readOption hread given)
  -- one argument with options
  | case6 options arg rest harg _ middle hread ih =>
    obtain ⟨sides, before, after, hgiven, hbefore, hafter⟩ := ih h
    exact ⟨sides.withFlag harg (adds_readOption hread).1, before, after, hgiven,
      hbefore.trans (prefixesIn_of_options hread sides.before), hafter⟩
  -- an option and its value
  | case10 options arg _ _ option waiting hread value rest hvalue middle hset ih =>
    obtain ⟨-, -, hoption⟩ := adds_readOption hread
    -- Before the command no option but this one takes a value.
    obtain ⟨-, rfl⟩ | ⟨-, -, hfalse⟩ := hoption
    · obtain ⟨sides, before, after, hgiven, hbefore, hafter⟩ := ih h
      refine ⟨sides.withPrefixPath value, before, after, hgiven, hbefore.trans ?_, hafter⟩
      exact prefixesIn_of_value hread (eq_false_of_ne_true hvalue) hset sides.before
    · cases hfalse
  -- the command
  | case11 options name rest _ command hcommand =>
    obtain ⟨after, hgiven, hafter⟩ := readAfter_ok h
    exact ⟨.ofCommand hcommand rest, options, after, hgiven, (List.append_nil _).symm, hafter⟩
  -- faults and help
  | case1 | case2 | case3 | case4 | case7 | case8 | case9 => cases h
  | case12 | case13 | case14 | case15 | case16 => cases h

-- ---------------------------------------------------------------------------
-- What is searched
-- ---------------------------------------------------------------------------

/-- The prefixes that are searched of those on the two sides of the command. -/
def searched (before after : List Path) : List Path := if after = [] then before else after

theorem prefixPaths_of_parse {args : List SystemText} {given : Invocation}
    (h : parse args = .ok (.run given)) :
    ∃ sides : Sides args,
      given.prefixPaths = searched (prefixesIn sides.before) (prefixesIn sides.after) := by
  obtain ⟨sides, before, after, rfl, hbefore, hafter⟩ := readBefore_ok h
  refine ⟨sides, ?_⟩
  rw [Options.empty, List.nil_append] at hbefore
  simp only [invocation, hbefore, hafter, searched, List.isEmpty_iff]

theorem searched_eq_append_iff {before after : List Path} :
    searched before after = before ++ after ↔ before = [] ∨ after = [] := by
  unfold searched
  split
  · rename_i hafter
    simp [hafter]
  · rename_i hafter
    constructor
    · intro heq
      exact .inl (List.append_left_eq_self.1 heq.symm)
    · rintro (rfl | hnil)
      · rfl
      · exact absurd hnil hafter

theorem searched_eq_nil_iff {before after : List Path} :
    searched before after = [] ↔ before = [] ∧ after = [] := by
  unfold searched
  split <;> rename_i hafter <;> simp [hafter]

/-- A run that is given prefixes searches those after its command if there are any,
else those before it. So it searches all of them just when the command has them on
one side. -/
theorem prefixes_of_parse {args : List SystemText} {given : Invocation}
    (h : parse args = .ok (.run given)) (hgiven : prefixesIn args ≠ [])
    (environment : Environment) :
    Nonempty (Sides args) ∧ ∀ sides : Sides args,
      prefixesIn args = prefixesIn sides.before ++ prefixesIn sides.after ∧
      (given.search environment).prefixes =
        searched (prefixesIn sides.before) (prefixesIn sides.after) ∧
      ((given.search environment).prefixes = prefixesIn args ↔
        prefixesIn sides.before = [] ∨ prefixesIn sides.after = []) := by
  obtain ⟨found, hpaths⟩ := prefixPaths_of_parse h
  refine ⟨⟨found⟩, fun sides => ?_⟩
  rw [(found.sides_inj sides).1, (found.sides_inj sides).2] at hpaths
  have hsearch : (given.search environment).prefixes =
      searched (prefixesIn sides.before) (prefixesIn sides.after) := by
    rw [← hpaths, Invocation.search, if_neg]
    · rfl
    · rw [List.isEmpty_iff, hpaths, searched_eq_nil_iff, ← List.append_eq_nil_iff,
        ← sides.prefixesIn_eq]
      exact hgiven
  refine ⟨sides.prefixesIn_eq, hsearch, ?_⟩
  rw [hsearch, sides.prefixesIn_eq]
  exact searched_eq_append_iff

theorem prefix_before_command_lost :
    ∃ given : Invocation,
      parse ["--prefix-path", "w", "describe", "--prefix-path", "x"] = .ok (.run given) ∧
      prefixesIn ["--prefix-path", "w", "describe", "--prefix-path", "x"] = [⟨"w"⟩, ⟨"x"⟩] ∧
      ∀ environment, (given.search environment).prefixes = [⟨"x"⟩] :=
  ⟨⟨.describe, false, false, [⟨"x"⟩]⟩, by decide +kernel, by decide, fun _ => rfl⟩

def beforeArgs : List SystemText := ["-v", "--prefix-path=t", "--prefix-path", "record"]

def afterArgs : List SystemText := ["--prefix-path", "w", "-qoout", "--prefix-path=x"]

def aboutRecord : Sides (beforeArgs ++ ("record" : SystemText) :: afterArgs) :=
  (((Sides.ofCommand rfl afterArgs).withPrefixPath "record").withFlag
    (by decide) (by decide)).withFlag (by decide) (by decide)

theorem prefixes_of_parse_about_record :
    prefixesIn (beforeArgs ++ ("record" : SystemText) :: afterArgs) =
      [⟨"t"⟩, ⟨"record"⟩, ⟨"w"⟩, ⟨"x"⟩] ∧
    ∃ given : Invocation,
      parse (beforeArgs ++ ("record" : SystemText) :: afterArgs) = .ok (.run given) ∧
      ∀ environment, (given.search environment).prefixes = [⟨"w"⟩, ⟨"x"⟩] := by
  have hparse : parse (beforeArgs ++ ("record" : SystemText) :: afterArgs) =
      .ok (.run ⟨.record ⟨"out"⟩, true, true, [⟨"w"⟩, ⟨"x"⟩]⟩) := by decide +kernel
  refine ⟨by decide, _, hparse, fun environment => ?_⟩
  have hsides := (prefixes_of_parse hparse (by decide) environment).2 aboutRecord
  rw [hsides.2.1]
  decide

end NodeLaunch.CommandLine
