import DeclWeave.CommandLine.Run

/-!
# The Program

`Program.execute` is the whole command line program as a function of its arguments and inputs.
Help comes before the version, and both before anything is read.
-/

namespace DeclWeave.Program

/-- What an execution leaves behind. -/
structure Outcome where
  /-- The exit status: 0 for success, 1 if errors were found, 2 if there is no result. -/
  code : Nat
  output : String := ""
  errors : String := ""
  deriving DecidableEq, Repr, Inhabited

def versionText : String := "sugarloom 0.1.0\n"

def helpText : String :=
"sugarloom - declaration-level sugar expansion

USAGE:
    sugarloom [OPTIONS] <FILES>...

ARGS:
    <FILES>...    Declaration files to expand (- reads stdin)

OPTIONS:
    -h, --help              Print this help message
    -V, --version           Print version information
    --emit <FORMAT>         Output format: text (default) or json
    --permissive            Expand every type, not only :sugar true ones,
                            and skip scope checks of spliced bodies
    --no-scope-check        Skip scope checks of spliced bodies
    --cycles <POLICY>       Cyclic usedOnlyBy graphs: reject (default) or fixpoint
    --builtin <NAME>        Accept NAME in spliced bodies (repeatable)
    --log-level <LEVEL>     error, warn (default), info, debug, or trace
    --log-format <FORMAT>   text (default) or json

ENVIRONMENT:
    SUGARLOOM_LOG_LEVEL     Default log level
    SUGARLOOM_LOG_FORMAT    Default log format
    RUST_LOG                Full filter directives, overriding the level

EXIT STATUS:
    0  expansion finished without errors
    1  expansion reported errors
    2  bad arguments or unreadable input
"

namespace Outcome

/-- The outcome of a run that ended without a result. The message is shown in red. -/
def ofFault (f : RunFault) : Outcome :=
  { code := 2, errors := s!"\x1b[31mError: {f.message}\x1b[0m\n" }

def ofReport (r : Report) : Outcome where
  code := if r.success then 0 else 1
  output := r.output
  errors := String.join (r.findings.map (· ++ "\n"))

end Outcome

/-- Carries out a command line. -/
def execute (args : List String) (inputs : Inputs) : Outcome :=
  match CommandLine.ofArgs args with
  | .error fault => .ofFault (.usage fault)
  | .ok line =>
    if line.showHelp then { code := 0, output := helpText }
    else if line.showVersion then { code := 0, output := versionText }
    else
      match line.run inputs with
      | .ok report => .ofReport report
      | .error fault => .ofFault fault

end DeclWeave.Program
