/-!
# Log Options

How much is logged, and in which format. The environment names a format and a level, and the
command line overrides it; a name that means nothing in the environment is ignored.
-/

namespace DeclWeave

inductive LogFormat where
  /-- A line to be read by people. -/
  | text
  /-- An object for each event. -/
  | json
  deriving DecidableEq, Repr, Inhabited

/-- How much is logged, from least to most. -/
inductive LogLevel where
  | error
  | warn
  | info
  | debug
  | trace
  deriving DecidableEq, Ord, Repr, Inhabited

namespace LogFormat

def name : LogFormat → String
  | .text => "text"
  | .json => "json"

/-- The format with a name, whatever the case of its letters. -/
def ofString? (spec : String) : Option LogFormat :=
  match spec.toLower with
  | "text" | "plain" => some .text
  | "json" => some .json
  | _ => none

end LogFormat

namespace LogLevel

def name : LogLevel → String
  | .error => "error"
  | .warn => "warn"
  | .info => "info"
  | .debug => "debug"
  | .trace => "trace"

/-- The level with a name, whatever the case of its letters. -/
def ofString? (spec : String) : Option LogLevel :=
  match spec.toLower with
  | "error" | "err" => some .error
  | "warn" | "warning" => some .warn
  | "info" => some .info
  | "debug" => some .debug
  | "trace" | "verbose" => some .trace
  | _ => none

end LogLevel

/-- What is said about logging in one place. -/
structure LogSettings where
  format : Option LogFormat := none
  level : Option LogLevel := none
  deriving DecidableEq, Repr, Inhabited

namespace LogSettings

/-- What two names say, each as far as it is given and means something. -/
def ofNames (format level : Option String) : LogSettings :=
  ⟨format.bind LogFormat.ofString?, level.bind LogLevel.ofString?⟩

end LogSettings

structure LogOptions where
  format : LogFormat := .text
  level : LogLevel := .warn
  deriving DecidableEq, Repr, Inhabited

namespace LogOptions

/-- The options with what some settings say in their place. -/
def override (o : LogOptions) (s : LogSettings) : LogOptions :=
  ⟨s.format.getD o.format, s.level.getD o.level⟩

end LogOptions

end DeclWeave
