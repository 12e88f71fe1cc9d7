import DeclWeave.Diagnostic.Fault

/-!
# Diagnostics

Every stage of an expansion reports into one `Diagnostics` value. Entries are only ever added at
the end, so the stream reads in the order in which the decisions were made.
-/

namespace DeclWeave

/-- How serious a finding is: a warning drops nothing, an error says that something could not be
made. -/
inductive Severity where
  | warning
  | error
  deriving DecidableEq, Repr

namespace Severity

def name : Severity → String
  | .warning => "warning"
  | .error => "error"

end Severity

/-- One reported finding. -/
structure Diagnostic where
  severity : Severity
  fault : Fault
  deriving DecidableEq, Repr

namespace Diagnostic

/-- The line shown for a finding: its severity, its message and its place. -/
def text (d : Diagnostic) : String :=
  let place := match d.fault.place with
    | some p => " " ++ p.text
    | none => ""
  s!"{d.severity.name}: {d.fault.message}" ++ place

def isError (d : Diagnostic) : Bool :=
  d.severity == .error

end Diagnostic

/-- Findings in the order reported. -/
structure Diagnostics where
  entries : List Diagnostic := []
  deriving DecidableEq, Repr, Inhabited

namespace Diagnostics

def empty : Diagnostics := {}

/-- Adds an error at the end. -/
def error (ds : Diagnostics) (f : Fault) : Diagnostics :=
  ⟨ds.entries ++ [⟨.error, f⟩]⟩

/-- Adds a warning at the end. -/
def warning (ds : Diagnostics) (f : Fault) : Diagnostics :=
  ⟨ds.entries ++ [⟨.warning, f⟩]⟩

/-- Adds every finding of another stream at the end, in its order. -/
protected def append (ds es : Diagnostics) : Diagnostics :=
  ⟨ds.entries ++ es.entries⟩

instance : Append Diagnostics := ⟨Diagnostics.append⟩

def errors (ds : Diagnostics) : List Diagnostic :=
  ds.entries.filter (·.severity == .error)

def warnings (ds : Diagnostics) : List Diagnostic :=
  ds.entries.filter (·.severity == .warning)

def hasErrors (ds : Diagnostics) : Bool :=
  ds.entries.any (·.isError)

def size (ds : Diagnostics) : Nat :=
  ds.entries.length

@[simp] theorem entries_error (ds : Diagnostics) (f : Fault) :
    (ds.error f).entries = ds.entries ++ [⟨.error, f⟩] := rfl

@[simp] theorem entries_warning (ds : Diagnostics) (f : Fault) :
    (ds.warning f).entries = ds.entries ++ [⟨.warning, f⟩] := rfl

@[simp] theorem entries_append (ds es : Diagnostics) :
    (ds ++ es).entries = ds.entries ++ es.entries := rfl

/-- There are errors exactly when the list of errors is not empty. -/
theorem hasErrors_iff (ds : Diagnostics) : ds.hasErrors = true ↔ ds.errors ≠ [] := by
  simp [hasErrors, errors, Diagnostic.isError]

end Diagnostics

end DeclWeave
