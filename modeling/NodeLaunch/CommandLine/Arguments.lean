import NodeLaunch.Path

/-!
# Command lines

The arguments of the program: options that may stand before or after the
command, the command, and the options of the command itself. An option that
takes a value takes the rest of its argument or the next argument; options of
one letter may share an argument. Arguments are looked at from left to right, so
the first fault or request for help ends the reading.
-/

namespace NodeLaunch

inductive Command
  | describe
  | record (output : Path)
  deriving DecidableEq, Repr

structure Invocation where
  command : Command
  verbose : Bool
  quiet : Bool
  /-- Prefixes to search instead of those of the environment. -/
  prefixPaths : List Path
  deriving DecidableEq, Repr

inductive ArgumentError
  | missingCommand
  | unknownCommand (text : String)
  | unknownOption (text : String)
  | unexpectedArgument (text : String)
  | missingValue (option : String)
  | unexpectedValue (option : String)
  | repeatedOption (option : String)
  deriving DecidableEq, Repr

def ArgumentError.message : ArgumentError → String
  | .missingCommand => "a command is needed"
  | .unknownCommand text => .join ["unrecognized subcommand '", text, "'"]
  | .unknownOption text | .unexpectedArgument text =>
    .join ["unexpected argument '", text, "' found"]
  | .missingValue option => .join ["a value is required for '", option, "' but none was supplied"]
  | .unexpectedValue option =>
    .join ["unexpected value for '", option, "' found; no more were expected"]
  | .repeatedOption option => .join ["the argument '", option, "' cannot be used multiple times"]

inductive Request
  | run (invocation : Invocation)
  | version
  | help
  deriving DecidableEq, Repr

namespace CommandLine

inductive CommandName
  | describe
  | record
  deriving DecidableEq, Repr

def CommandName.ofText? (text : SystemText) : Option CommandName :=
  if text = "describe" then some .describe else if text = "record" then some .record else none

/-- The options given before the command, or those given after it. -/
structure Options where
  verbose : Bool
  quiet : Bool
  prefixPaths : List Path
  output : Option Path
  deriving DecidableEq, Repr

def Options.empty : Options := ⟨false, false, [], none⟩

inductive OptionName
  | verbose
  | quiet
  | prefixPath
  | output
  | help
  | version
  deriving DecidableEq, Repr

namespace OptionName

def label : OptionName → String
  | .verbose => "--verbose"
  | .quiet => "--quiet"
  | .prefixPath => "--prefix-path <PREFIX_PATH>"
  | .output => "--output <OUTPUT>"
  | .help => "--help"
  | .version => "--version"

def isAllowed (command : Option CommandName) : OptionName → Bool
  | .output => command == some .record
  | .version => command.isNone
  | _ => true

def ofWord? (command : Option CommandName) (word : String) : Option OptionName :=
  let found := match word with
    | "verbose" => some verbose
    | "quiet" => some quiet
    | "prefix-path" => some prefixPath
    | "output" => some output
    | "help" => some help
    | "version" => some version
    | _ => none
  found.filter (isAllowed command)

def ofLetter? (command : Option CommandName) (letter : Char) : Option OptionName :=
  let found := match letter with
    | 'v' => some verbose
    | 'q' => some quiet
    | 'o' => some output
    | 'h' => some help
    | 'V' => some version
    | _ => none
  found.filter (isAllowed command)

end OptionName

/-- What an argument comes to: more options, an option that needs the next
argument for its value, or the end of the reading. -/
inductive Step
  | options (options : Options)
  | needsValue (option : OptionName) (options : Options)
  | request (request : Request)

abbrev dash : UInt8 := 0x2D

abbrev equals : UInt8 := 0x3D

namespace Options

/-- An option with its value. An empty path is no value. -/
def setValue (options : Options) (option : OptionName) (value : SystemText) :
    Except ArgumentError Options :=
  if value = "" then .error (.missingValue option.label)
  else
    match option with
    | .prefixPath => .ok { options with prefixPaths := options.prefixPaths ++ [⟨value⟩] }
    | .output =>
      if options.output.isSome then .error (.repeatedOption option.label)
      else .ok { options with output := some ⟨value⟩ }
    | _ => .error (.unexpectedValue option.label)

def setFlag (options : Options) (option : OptionName) : Except ArgumentError Step :=
  match option with
  | .verbose =>
    if options.verbose then .error (.repeatedOption option.label)
    else .ok (.options { options with verbose := true })
  | .quiet =>
    if options.quiet then .error (.repeatedOption option.label)
    else .ok (.options { options with quiet := true })
  | .prefixPath | .output => .ok (.needsValue option options)
  | .help => .ok (.request .help)
  | .version => .ok (.request .version)

def word (options : Options) (command : Option CommandName) (bytes : List UInt8) :
    Except ArgumentError Step := do
  let name : SystemText := ⟨bytes.takeWhile (· != equals)⟩
  let value : SystemText := ⟨(bytes.dropWhile (· != equals)).tail⟩
  match name.text?.bind (OptionName.ofWord? command) with
  | none => throw (.unknownOption ("--" ++ name.display))
  | some option =>
    if bytes.contains equals then return .options (← options.setValue option value)
    else options.setFlag option

/-- The first letter of some that are no option, or all of them if no letter is first. -/
def unknownLetters (bytes : List UInt8) : String :=
  match SystemText.firstChar? bytes with
  | some letter => "-" ++ String.singleton letter
  | none => "-" ++ SystemText.display ⟨bytes⟩

/-- Options by their letters, which are bytes of their own. The rest after one
that takes a value is its value. -/
def letters (options : Options) (command : Option CommandName) :
    List UInt8 → Except ArgumentError Step
  | [] => .ok (.options options)
  | letter :: rest =>
    match OptionName.ofLetter? command (Char.ofUInt8 letter) with
    | none => .error (.unknownOption (unknownLetters (letter :: rest)))
    | some option =>
      match options.setFlag option with
      | .error error => .error error
      | .ok (.options options) => letters options command rest
      | .ok (.needsValue option options) =>
        match rest with
        | [] => .ok (.needsValue option options)
        | first :: value =>
          let value := if first = equals then value else rest
          (options.setValue option ⟨value⟩).map .options
      | .ok (.request request) => .ok (.request request)

end Options

def looksLikeOption (arg : SystemText) : Bool :=
  arg.bytes.head? == some dash && 2 ≤ arg.bytes.length

def readOption (options : Options) (command : Option CommandName) (arg : SystemText) :
    Except ArgumentError Step :=
  if arg.bytes.take 2 = [dash, dash] then options.word command (arg.bytes.drop 2)
  else options.letters command (arg.bytes.drop 1)

/-- The invocation that the options before and after the command make. Prefixes
after the command stand in place of those before it. -/
def invocation (before after : Options) (command : CommandName) : Invocation where
  command := match command with
    | .describe => .describe
    | .record => .record (after.output.getD ⟨"record.json"⟩)
  verbose := before.verbose || after.verbose
  quiet := before.quiet || after.quiet
  prefixPaths := if after.prefixPaths.isEmpty then before.prefixPaths else after.prefixPaths

def readAfter (before : Options) (command : CommandName) (options : Options) :
    List SystemText → Except ArgumentError Request
  | [] => .ok (.run (invocation before options command))
  | arg :: rest =>
    if looksLikeOption arg then
      if arg = "--" then
        match rest with
        | [] => .ok (.run (invocation before options command))
        | extra :: _ => .error (.unexpectedArgument extra.display)
      else
        match readOption options (some command) arg with
        | .error error => .error error
        | .ok (.request request) => .ok request
        | .ok (.options options) => readAfter before command options rest
        | .ok (.needsValue option options) =>
          match rest with
          | [] => .error (.missingValue option.label)
          | value :: rest =>
            if looksLikeOption value then .error (.missingValue option.label)
            else
              match options.setValue option value with
              | .error error => .error error
              | .ok options => readAfter before command options rest
    else .error (.unexpectedArgument arg.display)

def readBefore (options : Options) : List SystemText → Except ArgumentError Request
  | [] => .error .missingCommand
  | arg :: rest =>
    if looksLikeOption arg then
      if arg = "--" then
        match rest with
        | [] => .error .missingCommand
        | extra :: _ => .error (.unexpectedArgument extra.display)
      else
        match readOption options none arg with
        | .error error => .error error
        | .ok (.request request) => .ok request
        | .ok (.options options) => readBefore options rest
        | .ok (.needsValue option options) =>
          match rest with
          | [] => .error (.missingValue option.label)
          | value :: rest =>
            if looksLikeOption value then .error (.missingValue option.label)
            else
              match options.setValue option value with
              | .error error => .error error
              | .ok options => readBefore options rest
    else
      match CommandName.ofText? arg with
      | some command => readAfter options command .empty rest
      | none =>
        if arg = "help" then
          match rest with
          | [] => .ok .help
          | topic :: more =>
            if topic = "help" ∨ (CommandName.ofText? topic).isSome then
              match more with
              | [] => .ok .help
              | extra :: _ => .error (.unknownCommand extra.display)
            else .error (.unknownCommand topic.display)
        else .error (.unknownCommand arg.display)

def parse (args : List SystemText) : Except ArgumentError Request := readBefore .empty args

end CommandLine

end NodeLaunch
