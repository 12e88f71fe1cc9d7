import DeclWeave.CommandLine.Basic
import DeclWeave.Decl.Printer
import DeclWeave.Decl.Reader
import DeclWeave.Document.Expansion
import DeclWeave.Document.Printer

/-!
# A Run

A run reads its inputs one after the other into one unit, expands it and writes the result. The
first input that cannot be read or is malformed ends it; what the expansion finds does not.
-/

namespace DeclWeave

/-- Why an input gives no text. -/
inductive InputFault where
  | missing
  | notText
  /-- What the system says. -/
  | system (reason : String)
  deriving DecidableEq, Repr

namespace InputFault

def message : InputFault → String
  | .missing => "No such file or directory (os error 2)"
  | .notText => "stream did not contain valid UTF-8"
  | .system reason => reason

end InputFault

/-- Where a run reads from. -/
structure Inputs where
  /-- The content of a file. -/
  file : String → Except InputFault ByteArray
  /-- What can still be read from standard input. -/
  standard : ByteArray := .empty

instance : Inhabited Inputs := ⟨{ file := fun _ => .error .missing }⟩

namespace Inputs

/-- The content of an input, and what can be read after it: standard input is read to its end, so
that it gives nothing when read again. -/
def read (i : Inputs) (path : String) : Except InputFault (ByteArray × Inputs) :=
  if path = CommandLine.standardInput then .ok (i.standard, { i with standard := .empty })
  else (i.file path).map (·, i)

/-- The text of an input, and what can be read after it. -/
def readText (i : Inputs) (path : String) : Except InputFault (String × Inputs) := do
  let (bytes, i) ← i.read path
  match String.fromUTF8? bytes with
  | some text => return (text, i)
  | none => throw .notText

end Inputs

/-- Why a run ends without a result. -/
inductive RunFault where
  | usage (fault : UsageFault)
  | unreadable (path : String) (fault : InputFault)
  | malformed (path : String) (fault : Fault)
  deriving Repr

namespace RunFault

def message : RunFault → String
  | .usage fault => fault.message
  | .unreadable path fault => s!"cannot read {path}: {fault.message}"
  | .malformed path fault => s!"{path}: {fault.message}"

end RunFault

/-- What a run writes. -/
structure Report where
  /-- The expansion as asked for. -/
  output : String
  /-- A line for each finding. -/
  findings : List String
  /-- Whether no error was found. -/
  success : Bool
  deriving DecidableEq, Repr, Inhabited

namespace Report

/-- An expansion written in a format. Declarations end with a line feed. -/
def ofExpansion (e : Expansion) (emit : EmitFormat) : Report where
  output :=
    match emit with
    | .text => e.toUnit.print ++ "\n"
    | .json => e.toDocument.print
  findings := e.diagnostics.entries.map (·.text)
  success := e.isOk

end Report

namespace CommandLine

/-- The declarations of some inputs as one unit. -/
def load (inputs : Inputs) : List String → Except RunFault SourceUnit
  | [] => .ok {}
  | path :: rest => do
    let (text, inputs) ← (inputs.readText path).mapError (.unreadable path)
    let unit ← (SourceUnit.ofSource text).mapError (.malformed path)
    return unit ++ (← load inputs rest)

/-- Reads, expands and writes what a command line asks for. -/
def run (c : CommandLine) (inputs : Inputs) : Except RunFault Report := do
  if c.files.isEmpty then throw (.usage .noInput)
  let unit ← load inputs c.files
  return .ofExpansion (expand c.settings unit) c.emit

end CommandLine

end DeclWeave
