import DeclWeave.CommandLine.Log
import DeclWeave.Synthesis.Settings

/-!
# Command Lines

Arguments are read from left to right, and the first that is wrong is reported. A switch stands
alone, a setting takes the argument after it whatever that is, and all else that does not begin
with a hyphen is an input. A lone hyphen is an input too. What is set twice is as set last.
-/

namespace DeclWeave

/-- How an expansion is written. -/
inductive EmitFormat where
  /-- As declarations. -/
  | text
  /-- As one document. -/
  | json
  deriving DecidableEq, Repr, Inhabited

namespace EmitFormat

def name : EmitFormat → String
  | .text => "text"
  | .json => "json"

def ofString? : String → Option EmitFormat
  | "text" => some .text
  | "json" => some .json
  | _ => none

end EmitFormat

namespace CyclePolicy

def name : CyclePolicy → String
  | .reject => "reject"
  | .leastFixpoint => "fixpoint"

def ofString? : String → Option CyclePolicy
  | "reject" => some .reject
  | "fixpoint" => some .leastFixpoint
  | _ => none

end CyclePolicy

/-- What the arguments of a command ask for. -/
structure CommandLine where
  /-- The inputs in order. -/
  files : List String := []
  emit : EmitFormat := .text
  permissive : Bool := false
  noScopeCheck : Bool := false
  cyclePolicy : Option CyclePolicy := none
  /-- Further names that spliced bodies may use. -/
  builtins : List String := []
  log : LogSettings := {}
  showHelp : Bool := false
  showVersion : Bool := false
  deriving DecidableEq, Repr, Inhabited

/-- Why a command line is refused. -/
inductive UsageFault where
  | missingValue (flag : String)
  | invalidValue (flag value : String)
  | unknownOption (arg : String)
  | noInput
  deriving DecidableEq, Repr

namespace UsageFault

def message : UsageFault → String
  | .missingValue flag => s!"{flag} requires a value"
  | .invalidValue flag value => s!"invalid {flag} value: {value}"
  | .unknownOption arg => s!"unknown option: {arg}"
  | .noInput => "no input files"

end UsageFault

/-- An option that stands alone. -/
inductive Switch where
  | help
  | version
  | permissive
  | noScopeCheck
  deriving DecidableEq, Repr

namespace Switch

def ofString? : String → Option Switch
  | "-h" | "--help" => some .help
  | "-V" | "--version" => some .version
  | "--permissive" => some .permissive
  | "--no-scope-check" => some .noScopeCheck
  | _ => none

def set (c : CommandLine) : Switch → CommandLine
  | .help => { c with showHelp := true }
  | .version => { c with showVersion := true }
  | .permissive => { c with permissive := true }
  | .noScopeCheck => { c with noScopeCheck := true }

end Switch

/-- An option that takes a value. -/
inductive Setting where
  | emit
  | cycles
  | builtin
  | logLevel
  | logFormat
  deriving DecidableEq, Repr

namespace Setting

def flag : Setting → String
  | .emit => "--emit"
  | .cycles => "--cycles"
  | .builtin => "--builtin"
  | .logLevel => "--log-level"
  | .logFormat => "--log-format"

def all : List Setting := [.emit, .cycles, .builtin, .logLevel, .logFormat]

def ofString? (arg : String) : Option Setting :=
  all.find? (·.flag == arg)

/-- The options with a value set, if the value is one that the setting takes. -/
def set? (c : CommandLine) (value : String) : Setting → Option CommandLine
  | .emit => (EmitFormat.ofString? value).map fun emit => { c with emit }
  | .cycles => (CyclePolicy.ofString? value).map fun policy => { c with cyclePolicy := some policy }
  | .builtin => some { c with builtins := c.builtins ++ [value] }
  | .logLevel =>
    (LogLevel.ofString? value).map fun level => { c with log := { c.log with level := some level } }
  | .logFormat =>
    (LogFormat.ofString? value).map fun format =>
      { c with log := { c.log with format := some format } }

/-- The options with a value set. -/
def set (s : Setting) (c : CommandLine) (value : String) : Except UsageFault CommandLine :=
  match s.set? c value with
  | some c => .ok c
  | none => .error (.invalidValue s.flag value)

end Setting

namespace CommandLine

/-- The input that stands for what is typed or piped in. -/
def standardInput : String := "-"

/-- Whether an argument that is neither switch nor setting names an input. -/
def isInput (arg : String) : Bool :=
  arg == standardInput || arg.toList.head? != some '-'

/-- Reads arguments on top of the options read so far. -/
def readFrom (c : CommandLine) : List String → Except UsageFault CommandLine
  | [] => .ok c
  | arg :: rest =>
    match Switch.ofString? arg with
    | some switch => readFrom (switch.set c) rest
    | none =>
      match Setting.ofString? arg with
      | none =>
        if isInput arg then readFrom { c with files := c.files ++ [arg] } rest
        else .error (.unknownOption arg)
      | some setting =>
        match rest with
        | [] => .error (.missingValue setting.flag)
        | value :: rest => do readFrom (← setting.set c value) rest

/-- The options that some arguments ask for. -/
def ofArgs (args : List String) : Except UsageFault CommandLine :=
  readFrom {} args

/-- The settings of the expansion. -/
def settings (c : CommandLine) : Settings :=
  let s := if c.permissive then Settings.permissive else {}
  let s := if c.noScopeCheck then { s with checkScope := false } else s
  Settings.addBuiltins { s with cyclePolicy := c.cyclePolicy.getD s.cyclePolicy } c.builtins

end CommandLine

end DeclWeave
