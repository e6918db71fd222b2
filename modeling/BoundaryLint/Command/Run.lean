import BoundaryLint.Command.Arguments
import BoundaryLint.Project.Run
import BoundaryLint.Report.Console
import BoundaryLint.Report.Json
import BoundaryLint.Report.Plain

/-!
The command: reads its arguments, checks a project and reports the result. The exit status is that
of the result, one for a configuration that is refused, and two for arguments that cannot be used.
-/

namespace BoundaryLint.Command

def name : String := "layerguard"

def version : String := "0.1.0"

def usageText : String :=
  s!"usage: {name} [-h] [--config CONFIG] [--format \x7bjson,rich,text\x7d]\n" ++
    "                  [--min-severity \x7blow,normal,high,higher\x7d]\n" ++
    "                  [--workers WORKERS] [-v] [--version]\n" ++
    "                  [path]\n"

def helpText : String :=
  usageText ++ "\n" ++
    "Architecture linter for layered Elixir umbrella projects.\n\n" ++
    "positional arguments:\n" ++
    "  path                  Project directory to lint (default: .)\n\n" ++
    "options:\n" ++
    "  -h, --help            show this help message and exit\n" ++
    "  --config CONFIG       TOML config file (default: discovered above PATH)\n" ++
    "  --format \x7bjson,rich,text\x7d\n" ++
    "                        Output format\n" ++
    "  --min-severity \x7blow,normal,high,higher\x7d\n" ++
    "                        Issues below this severity do not affect the exit\n" ++
    "                        status\n" ++
    "  --workers WORKERS     Worker threads for per-file analysis\n" ++
    "  -v, --verbose         Debug logging on stderr\n" ++
    "  --version             show program's version number and exit\n"

inductive Ending where
  | stopped (stop : Stop)
  /-- The configuration is refused; the user is told why. -/
  | misconfigured (fault : Config.Fault) (complaint : Config.Complaint)
  | failed (fault : Project.Fault)
  | reported (format : Format) (result : LintResult)

namespace Ending

/-- A run that stops. Only complaints about the configuration have an exit status of their own. -/
def ofFault [Host] : Project.Fault → Ending
  | .config (.config fault) =>
    match fault.complaint with
    | .ok complaint => .misconfigured fault complaint
    | .error _ => .failed (.config (.config fault))
  | fault => .failed fault

def status? : Ending → Option Nat
  | .stopped (.usage _) => some 2
  | .stopped .help | .stopped .version => some 0
  | .misconfigured _ _ => some 1
  | .failed _ => none
  | .reported _ result => some result.exitStatus

def report : Format → LintResult → String
  | .json, result => Report.json (some 2) result
  | .text, result => Report.plain result
  | .console, result =>
    String.join ((Report.consoleLines {} result).map fun line => s!"{line}\n")

def output : Ending → String
  | .stopped .help => helpText
  | .stopped .version => s!"{name} {version}\n"
  | .reported format result => report format result
  | .stopped (.usage _) | .misconfigured _ _ | .failed _ => ""

def usageMessage? : Ending → Option String
  | .stopped (.usage error) => some s!"{usageText}{name}: error: {error.message}\n"
  | _ => none

def logged : Ending → List String
  | .misconfigured _ complaint => [complaint.message]
  | _ => []

end Ending

/-- The configuration of a run: that of the given file, or the one that is found for the root, with
what the arguments set over it. -/
def configuration [Host] (disk : Disk) (arguments : Arguments) (root : DiskPath) :
    Except Config.FileFault Config := do
  let config ← match arguments.config with
    | some path => Config.load disk (.ofText path)
    | none => Config.discover disk root
  (config.override arguments.minSeverity arguments.workers).mapError .config

def lint [Host] (disk : Disk) (arguments : Arguments) (root : DiskPath) :
    Except Project.Fault LintResult := do
  let config ← (configuration disk arguments root).mapError .config
  Project.lint disk root config

def run [Host] (disk : Disk) (texts : List String) : Ending :=
  match Arguments.parse texts with
  | .error stop => .stopped stop
  | .ok arguments =>
    let root := DiskPath.ofText arguments.path
    match disk.isDirectory root with
    | .error fault => .failed (.source (.disk fault root))
    | .ok false => .stopped (.usage (.notDirectory root.toText))
    | .ok true =>
      match lint disk arguments root with
      | .ok result => .reported arguments.format result
      | .error fault => .ofFault fault

end BoundaryLint.Command
