import DeclWeave.Form.Printer

/-!
# Type References

A type is referred to by its name and, for a generic type, its arguments: `Array<Int>`. As a form
it is a symbol, or a list headed by one: `(Array Int)`.

`Bindings` give type parameters their arguments. Only a name without arguments can be a
parameter, so substitution never meets a bound name applied to something.
-/

namespace DeclWeave

/-- A possibly generic type, by name. -/
inductive TypeRef where
  | mk (name : String) (args : List TypeRef)
  deriving Repr, Inhabited

namespace TypeRef

/-- A type with no arguments. -/
def named (name : String) : TypeRef := ⟨name, []⟩

def name : TypeRef → String
  | ⟨name, _⟩ => name

def args : TypeRef → List TypeRef
  | ⟨_, args⟩ => args

/-- Whether this is the type of what returns nothing. -/
def isVoid : TypeRef → Bool
  | ⟨name, []⟩ => name == "Void" || name == "void"
  | ⟨_, _ :: _⟩ => false

mutual

/-- The reference as a reader of types would write it, arguments between angle brackets. -/
def display : TypeRef → String
  | ⟨name, []⟩ => name
  | ⟨name, arg :: args⟩ => name ++ "<" ++ display arg ++ displayRest args ++ ">"

/-- Further arguments, each after a comma. -/
def displayRest : List TypeRef → String
  | [] => ""
  | arg :: args => ", " ++ display arg ++ displayRest args

end

mutual

/-- The reference as a form. -/
def toForm (s : Span) : TypeRef → Form
  | ⟨name, []⟩ => .sym name s
  | ⟨name, arg :: args⟩ => .list (.sym name s :: toForm s arg :: toForms s args) s

/-- Some references as forms. -/
def toForms (s : Span) : List TypeRef → List Form
  | [] => []
  | arg :: args => toForm s arg :: toForms s args

end

theorem toForms_eq_map (s : Span) (ts : List TypeRef) : toForms s ts = ts.map (toForm s) := by
  induction ts with
  | nil => rfl
  | cons t ts ih => simp [toForms, ih]

end TypeRef

/-- Arguments for type parameters. The first entry of a name counts. -/
structure Bindings where
  entries : List (String × TypeRef) := []
  deriving Repr, Inhabited

namespace Bindings

/-- What a name is bound to. -/
def find? (b : Bindings) (name : String) : Option TypeRef :=
  b.entries.lookup name

def isEmpty (b : Bindings) : Bool :=
  b.entries.isEmpty

/-- Entries in the order written: a later one replaces an earlier one of the same name. -/
def ofList (entries : List (String × TypeRef)) : Bindings :=
  ⟨entries.reverse⟩

/-- Pairs parameters with arguments by position; parameters with no argument stay unbound. -/
def ofParams (params : List String) (args : List TypeRef) : Bindings :=
  ofList (params.zip args)

/-- The entries that count, one for each name. -/
def effective (b : Bindings) : List (String × TypeRef) :=
  b.entries.foldr (fun e rest => e :: rest.filter (·.1 != e.1)) []

@[simp] theorem find?_empty (name : String) : find? {} name = none := rfl

end Bindings

namespace TypeRef

mutual

/-- Puts the arguments of `b` in the place of its parameters. -/
def substitute (b : Bindings) : TypeRef → TypeRef
  | ⟨name, []⟩ => (b.find? name).getD ⟨name, []⟩
  | ⟨name, arg :: args⟩ => ⟨name, substitute b arg :: substituteAll b args⟩

/-- Substitutes in some references. -/
def substituteAll (b : Bindings) : List TypeRef → List TypeRef
  | [] => []
  | arg :: args => substitute b arg :: substituteAll b args

end

theorem substituteAll_eq_map (b : Bindings) (ts : List TypeRef) :
    substituteAll b ts = ts.map (substitute b) := by
  induction ts with
  | nil => rfl
  | cons t ts ih => simp [substituteAll, ih]

mutual

/-- With nothing bound, substitution changes nothing. -/
theorem substitute_empty : ∀ t : TypeRef, t.substitute {} = t
  | ⟨_, []⟩ => rfl
  | ⟨name, arg :: args⟩ => by
    rw [substitute, substitute_empty arg, substituteAll_empty args]

theorem substituteAll_empty : ∀ ts : List TypeRef, substituteAll {} ts = ts
  | [] => rfl
  | t :: ts => by rw [substituteAll, substitute_empty t, substituteAll_empty ts]

end

end TypeRef

end DeclWeave
