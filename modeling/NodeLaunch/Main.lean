import NodeLaunch.CommandLine.Run

/-!
# The program

Looks at the paths that a run may ask about, carries out the plan, and prints
what the run shows. All decisions are made in `CommandLine`. Arguments and
variables come as characters here, so all paths are UTF-8.
-/

namespace NodeLaunch.Program

def helpLines : List String :=
  ["Launch description for the go-kart controller node",
   "",
   "Usage: tai_gokart_launch [OPTIONS] <COMMAND>",
   "",
   "Commands:",
   "  describe  Print the launch description as JSON",
   "  record    Write the launch record for a process supervisor",
   "  help      Print this message or the help of the given subcommand(s)",
   "",
   "Options:",
   "  -v, --verbose                    ",
   "  -q, --quiet                      ",
   "      --prefix-path <PREFIX_PATH>  Install prefixes to search instead of AMENT_PREFIX_PATH",
   "  -h, --help                       Print help",
   "  -V, --version                    Print version"]

/-- One help for all commands, and no details of what the YAML reader refuses. -/
def wording : Wording where
  refusal _ := "malformed document"
  help _ := .join (helpLines.map (· ++ "\n"))

def fileError : IO.Error → FileError
  | .noFileOrDirectory _ code text => .system code.toNat text
  | .inappropriateType _ code text => .system code.toNat text
  | .permissionDenied _ code text => .system code.toNat text
  | .resourceExhausted _ code text => .system code.toNat text
  | .invalidArgument _ code text => .system code.toNat text
  | .alreadyExists _ code text => .system code.toNat text
  | .interrupted _ code text => .system code.toNat text
  | .noSuchThing _ code text => .system code.toNat text
  | .otherError code text => .system code.toNat text
  | .resourceBusy code text => .system code.toNat text
  | .unsupportedOperation code text => .system code.toNat text
  | .illegalOperation code text => .system code.toNat text
  | .hardwareFault code text => .system code.toNat text
  | .unsatisfiedConstraints code text => .system code.toNat text
  | .protocolError code text => .system code.toNat text
  | .timeExpired code text => .system code.toNat text
  | .resourceVanished code text => .system code.toNat text
  | _ => .system 5 "Input/output error"

structure Probe where
  path : Path
  isDirectory : Bool
  content : Except FileError Entry

def hasNul (path : Path) : Bool := path.text.bytes.contains 0

def probe (path : Path) : IO Probe := do
  if hasNul path then return ⟨path, false, .error .nulInName⟩
  let content ← try
      pure (Except.ok (Entry.ofBytes (← IO.FS.readBinFile path.display)))
    catch error => pure (.error (fileError error))
  let isDirectory ← try
      let _ ← IO.FS.realPath (path.display ++ "/.")
      pure (match content with | .ok _ => false | .error _ => true)
    catch _ => pure false
  return ⟨path, isDirectory, content⟩

def snapshotOf (probes : List Probe) : Snapshot :=
  let known (path : Path) : Option Probe := probes.find? (·.path == path)
  { isFile := fun path => (known path).any fun p => p.content matches .ok _
    isDirectory := fun path => (known path).any Probe.isDirectory
    read := fun path =>
      match known path with
      | some ⟨_, _, .ok (.text content)⟩ => .ok content
      | some ⟨_, _, .ok .sink⟩ => .ok ""
      | some ⟨_, _, .ok .binary⟩ => .error .notText
      | some ⟨_, _, .ok .directory⟩ => .error .isADirectory
      | some ⟨_, _, .error cause⟩ => .error cause
      | none => .error .notFound }

def write (plan : Plan) : IO (Except FileError Unit) :=
  match plan with
  | .finish _ => pure (.ok ())
  | .write path content _ _ => do
    if hasNul path then return .error .nulInName
    try
      IO.FS.writeFile path.display content
      return .ok ()
    catch error => return .error (fileError error)

def print (report : Report) : IO Unit := do
  for line in report.log wording fun notice => s!"[{notice.level.name} {notice.source}] " do
    IO.eprintln line
  IO.print report.output
  if let some line := report.complaint then
    IO.eprintln line

end NodeLaunch.Program

open NodeLaunch in
def main (args : List String) : IO UInt32 := do
  let args := args.map SystemText.ofString
  let look (name : String) : IO (Option SystemText) :=
    return (← IO.getEnv name).map SystemText.ofString
  let environment : Environment :=
    { prefixPath := ← look "AMENT_PREFIX_PATH"
      distro := ← look "ROS_DISTRO"
      logFilter := ← look "RUST_LOG" }
  let probes ← (CommandLine.inspected args environment).mapM Program.probe
  let (plan, filter) :=
    CommandLine.plan Program.wording args environment (Program.snapshotOf probes)
  let report := CommandLine.shown Program.wording filter (plan.report (← Program.write plan))
  Program.print report
  return UInt32.ofNat report.code
