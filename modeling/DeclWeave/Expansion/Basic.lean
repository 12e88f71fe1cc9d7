import DeclWeave.Expansion.Emit
import DeclWeave.Expansion.Order
import DeclWeave.Expansion.Synthesis

/-!
# Expansion

`expand` makes the plan of every declaration of a unit. Types are taken in dependency order,
first all interfaces, whose plans become donors, then all classes. A second declaration of a name
is reported and stays as it is written.
-/

namespace DeclWeave

/-- The plan of one declaration. -/
structure MemberPlan where
  decl : TypeDecl
  /-- Whether an error was reported against the type. -/
  failed : Bool
  deriving Repr, Inhabited

/-- The result of an expansion: one plan for each declaration, in source order, and all
findings. -/
structure Expansion where
  plans : List MemberPlan := []
  diagnostics : Diagnostics := {}
  deriving Repr, Inhabited

namespace Expansion

/-- The first plan of a name. -/
def plan? (e : Expansion) (name : String) : Option MemberPlan :=
  e.plans.find? (·.decl.name == name)

/-- Whether no error was reported. -/
def isOk (e : Expansion) : Bool :=
  !e.diagnostics.hasErrors

/-- The plans as declarations. -/
def toUnit (e : Expansion) : SourceUnit :=
  ⟨e.plans.map (·.decl)⟩

/-- Splits declarations into the first of each name and the others, both in their order. The
flag of each says whether it is the first. -/
def markFirst (seen : List String) : List TypeDecl → List (TypeDecl × Bool)
  | [] => []
  | d :: ds => (d, !seen.contains d.name) :: markFirst (d.name :: seen) ds

/-- The work on a unit: what synthesis looks at, the names of failed types and the findings. -/
structure Pass where
  context : Context
  failed : List String
  found : Diagnostics

namespace Pass

/-- Reports a fault of a declaration as a whole. -/
def report (cause : String → Cause) (p : Pass) (d : TypeDecl) : Pass :=
  { p with
    failed := d.name :: p.failed
    found := p.found.error (d.fault (cause d.name) d.span) }

/-- Takes in the finished plan of a type and what was found about it. -/
def finish (p : Pass) (plan : TypeDecl) (found : Diagnostics) : Pass :=
  { context := { p.context with finished := p.context.finished ++ [plan.emit] }
    failed := if found.hasErrors then plan.name :: p.failed else p.failed
    found := p.found ++ found }

/-- Expands an interface and registers it as a donor. -/
def expandInterface (p : Pass) (d : TypeDecl) : Pass :=
  let (plan, found) := Synthesis.ofDecl p.context d
  if p.context.sugarEnabled d then
    let (donors, more) := p.context.donors.register p.context.settings plan
    { p with context := { p.context with donors } }.finish plan (found ++ more)
  else p.finish plan found

/-- Expands a class. -/
def expandClass (p : Pass) (d : TypeDecl) : Pass :=
  let (plan, found) := Synthesis.ofDecl p.context d
  p.finish plan found

/-- The whole work on some declarations, each marked whether it is the first of its name. -/
def run (settings : Settings) (marked : List (TypeDecl × Bool)) : Pass :=
  let types := (marked.filter (·.2)).map (·.1)
  let repeated := (marked.filter (!·.2)).map (·.1)
  let sorted := Order.sorted types
  let p : Pass := { context := { settings, types }, failed := [], found := {} }
  let p := repeated.foldl (report .duplicateType) p
  let p := (Order.cyclic types).foldl (report .inheritanceCycle) p
  let p := (sorted.filter (·.isInterface)).foldl expandInterface p
  (sorted.filter (!·.isInterface)).foldl expandClass p

end Pass

end Expansion

/-- Expands every declaration of a unit. -/
def expand (settings : Settings) (unit : SourceUnit) : Expansion :=
  let marked := Expansion.markFirst [] unit.types
  let p := Expansion.Pass.run settings marked
  let planOf (entry : TypeDecl × Bool) : MemberPlan :=
    let (d, first) := entry
    let finished := if first then p.context.finished.find? (·.name == d.name) else none
    ⟨finished.getD d.emit, p.failed.contains d.name⟩
  ⟨marked.map planOf, p.found⟩

end DeclWeave
