import EntityProjection.CommandLine.Execution
import EntityProjection.CommandLine.Parsing
import EntityProjection.Log.Settings

/-!
# The program

What the program does with its arguments, the variables of its environment and a disk: it parses the
command line, executes the command, and answers with an exit code, printed text and log lines.
-/

namespace EntityProjection

/-- The exit code of a command line that is refused or answered with help. -/
def UsageFault.exitCode : UsageFault → Nat
  | .help => 0
  | _ => 2

/-- How the program is used. -/
def usageLines : List String := [
  "Usage: entity-typegen [-v] <generate|lint|graph> --input <DIR> [OPTIONS]",
  "",
  "generate  --output <FILE> --target <FAMILY> --partial-types <true|false>",
  "          --namespace <NAME> --config <FILE> --force --dry-run",
  "lint      --config <FILE> --fail-on-error --errors-only",
  "graph     --json"]

/-- What a run of the program leaves behind. -/
structure ProgramRun where
  /-- The disk afterwards. -/
  disk : Disk
  exitCode : Nat := 0
  printed : String := ""
  /-- Why the command line was not executed. -/
  usage : Option UsageFault := none
  /-- What is said about the log settings. -/
  warnings : List String := []
  log : List Json := []
  /-- Why the command failed. -/
  failure : Option Failure := none
  deriving Inhabited

/-- The line that tells of a failure. -/
def Failure.line (f : Failure) : String :=
  "error: " ++ f.message

/-- What a command line does. -/
def runInvocation (disk : Disk) (lookup : String → Option String) (i : Invocation) :
    ProgramRun :=
  let given := LogSettings.ofVariables lookup
  let settings := if i.verbose then given.verbose else given
  let outcome := execute disk i.command
  let log := settings.lines (settings.toFilter (lookup "RUST_LOG")) outcome.entries
  let run : ProgramRun :=
    { disk := outcome.disk, printed := outcome.printed, warnings := settings.warnings, log }
  match outcome.result with
  | .ok () => run
  | .error e => { run with exitCode := 1, failure := some e }

/-- What the program does with the arguments behind its name. -/
def runProgram (disk : Disk) (lookup : String → Option String) (arguments : List String) :
    ProgramRun :=
  match Invocation.parse arguments with
  | .error fault => { disk, exitCode := fault.exitCode, usage := some fault }
  | .ok i => runInvocation disk lookup i

end EntityProjection
