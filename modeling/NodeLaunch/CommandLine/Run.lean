import NodeLaunch.CommandLine.Arguments
import NodeLaunch.CommandLine.LogFilter
import NodeLaunch.Description.Encode
import NodeLaunch.Files.Tree
import NodeLaunch.Record.Encode
import NodeLaunch.Record.Generate

/-!
# Running a command

A run first reads what it needs and comes to a *plan*: a report that is final,
or a file to write and the reports for either outcome of that. So everything a
run shows is known from a snapshot taken before it writes.
-/

namespace NodeLaunch

structure Environment where
  prefixPath : Option SystemText
  distro : Option SystemText
  logFilter : Option SystemText
  deriving DecidableEq, Repr

structure Report where
  code : Nat
  output : String
  error : Option String
  notices : List Notice
  faults : List FilterFault
  deriving DecidableEq, Repr

namespace Report

def success (output : String) (notices : List Notice) : Report := ⟨0, output, none, notices, []⟩

def failure (error : String) (notices : List Notice) : Report := ⟨1, "", some error, notices, []⟩

def usage (error : ArgumentError) : Report := ⟨2, "", some error.message, [], []⟩

/-- The lines of a notice under its heading. All after the first are indented. -/
def noticeLines (wording : Wording) (heading : Notice → String) (notice : Notice) : List String :=
  match Text.pieces '\n' (notice.text wording) with
  | [] => [heading notice]
  | first :: rest => (heading notice ++ first) :: rest.map ("    " ++ ·)

def log (wording : Wording) (report : Report) (heading : Notice → String) : List String :=
  report.faults.flatMap (fun fault =>
    Text.pieces '\n' (.join ["warning: ", fault.message, ", ignoring it"])) ++
  report.notices.flatMap (noticeLines wording heading)

def complaint (report : Report) : Option String :=
  report.error.map fun error =>
    if report.code = 2 then "error: " ++ error else "Error: " ++ error

end Report

inductive Plan
  | finish (report : Report)
  /-- Write a file, then report success with these notices; the first of the two
  lists has been written before. -/
  | write (path : Path) (content : String) (before after : List Notice)
  deriving DecidableEq, Repr

namespace Plan

def report (plan : Plan) (written : Except FileError Unit) : Report :=
  match plan with
  | .finish report => report
  | .write _ _ before after =>
    match written with
    | .ok () => .success "" (before ++ after)
    | .error cause => .failure cause.message before

def apply (plan : Plan) (tree : FileTree) : Report × FileTree :=
  match plan with
  | .finish report => (report, tree)
  | .write path content before after =>
    match tree.write path content with
    | .ok written => (Plan.report (.write path content before after) (.ok ()), written)
    | .error cause => (Plan.report (.write path content before after) (.error cause), tree)

end Plan

namespace Invocation

/-- Prefixes on the command line stand in place of all that the environment says. -/
def search (invocation : Invocation) (environment : Environment) : PackageSearch :=
  if invocation.prefixPaths.isEmpty then
    .ofEnvironment environment.prefixPath environment.distro
  else .ofPrefixes invocation.prefixPaths

/-- The level of a run that the environment sets no filter for, or none that is UTF-8. -/
def level (invocation : Invocation) : Level :=
  if invocation.verbose then .debug else if invocation.quiet then .error else .info

def filter (invocation : Invocation) (environment : Environment) : LogFilter :=
  match environment.logFilter.bind SystemText.text? with
  | some text => .parse text
  | none => .upTo (some invocation.level)

def describe (search : PackageSearch) (files : Snapshot) : Logged (Except String String) := do
  Logged.tell (.prefixes search.prefixes)
  match ← LaunchConfig.standard.build (Locator.search search) files with
  | .error cause => return .error cause.message
  | .ok description =>
    match description.text with
    | .error error => return .error error.message
    | .ok text => return .ok (text ++ "\n")

def record (search : PackageSearch) (files : Snapshot) :
    Logged (Except String LaunchRecord) := do
  Logged.tell (.prefixes search.prefixes)
  match ← LaunchConfig.standard.build (Locator.search search) files with
  | .error cause => return .error cause.message
  | .ok description =>
    match ← LaunchRecord.generate (Locator.search search) files description with
    | .error error => return .error error.message
    | .ok record => return .ok record

/-- All that the run notices is in the plan, shown or not. -/
def plan (invocation : Invocation) (environment : Environment) (files : Snapshot) : Plan :=
  let search := invocation.search environment
  match invocation.command with
  | .describe =>
    let described := describe search files
    match described.value with
    | .ok text => .finish (.success text described.notices)
    | .error error => .finish (.failure error described.notices)
  | .record output =>
    let recorded := record search files
    match recorded.value with
    | .error error => .finish (.failure error recorded.notices)
    | .ok made => .write output made.text recorded.notices
        [.written output, .totals made.nodes.length made.fileData.size]

end Invocation

namespace CommandLine

def versionText : String := "tai_gokart_launch 0.1.0\n"

def plan (wording : Wording) (args : List SystemText) (environment : Environment)
    (files : Snapshot) : Plan × LogFilter :=
  match parse args with
  | .error error => (.finish (.usage error), .upTo none)
  | .ok .version => (.finish (.success versionText []), .upTo none)
  | .ok .help => (.finish (.success (wording.help args) []), .upTo none)
  | .ok (.run invocation) => (invocation.plan environment files, invocation.filter environment)

def shown (wording : Wording) (filter : LogFilter) (report : Report) : Report :=
  { report with notices := report.notices.filter (filter.shows wording), faults := filter.faults }

def run (wording : Wording) (args : List SystemText) (environment : Environment)
    (tree : FileTree) : Report × FileTree :=
  let (plan, filter) := plan wording args environment tree.snapshot
  let (report, tree) := plan.apply tree
  (shown wording filter report, tree)

/-- The paths that a run with these arguments may ask about. -/
def inspected (args : List SystemText) (environment : Environment) : List Path :=
  match parse args with
  | .ok (.run invocation) =>
    let config := LaunchConfig.standard
    (invocation.search environment).roots.flatMap fun root =>
      let share := PackageSearch.shareDirectory root config.package
      [(root.join PackageSearch.markerDirectory).join config.package, share,
        share.joinAll config.parameterFile]
  | _ => []

end CommandLine

end NodeLaunch
