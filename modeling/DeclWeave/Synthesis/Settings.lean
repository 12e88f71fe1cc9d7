/-!
# Settings of an Expansion
-/

namespace DeclWeave

/-- What becomes of a donor whose members are used only by one another in a circle. -/
inductive CyclePolicy where
  /-- The donor is rejected and donates nothing. -/
  | reject
  /-- The circle stays out unless a member from outside pulls it in. -/
  | leastFixpoint
  deriving DecidableEq, Repr, Inhabited

/-- The names that every body may use. -/
def defaultBuiltins : List String :=
  ["this", "super",
    "+", "-", "*", "/", "%", "=", "==", "!=", "<", ">", "<=", ">=", "and", "or", "not",
    "str", "print", "trace", "count", "empty?", "head", "tail", "cons", "list", "max", "min",
    "abs",
    "Int", "Float", "String", "Bool", "Void", "Dynamic", "Array", "Map", "Iterator", "Fn",
    "Math", "Std", "Noise", "Signal", "Future", "SignalTrigger", "FutureTrigger"]

structure Settings where
  /-- Whether only types marked `:sugar true` are expanded. -/
  requireOptIn : Bool := true
  cyclePolicy : CyclePolicy := .reject
  /-- The names that every spliced body may use. -/
  builtins : List String := defaultBuiltins
  /-- Whether the names in spliced bodies are resolved. -/
  checkScope : Bool := true
  deriving DecidableEq, Repr, Inhabited

namespace Settings

/-- Every type is expanded and no scope checked. -/
def permissive : Settings :=
  { requireOptIn := false, checkScope := false }

def isBuiltin (s : Settings) (name : String) : Bool :=
  s.builtins.contains name

/-- Adds names that every spliced body may use. -/
def addBuiltins (s : Settings) (names : List String) : Settings :=
  { s with builtins := names.foldl (fun known name => known.insert name) s.builtins }

end Settings

end DeclWeave
