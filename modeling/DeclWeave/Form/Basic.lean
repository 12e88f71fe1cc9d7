import DeclWeave.Form.Token

/-!
# Forms

A `Form` is an atom or a bracketed sequence of forms, with the span of text it came from.
Declarations, initializers and method bodies are all forms. A form made rather than read carries
the span of the declaration that caused it.

The constructors' common shapes have names of their own (`Form.sym`, `Form.list`, …), usable in
patterns, and the calls that expansion writes have builders (`Form.invoke`, `Form.assign`, …).
-/

namespace DeclWeave

/-- A tree of bracketed sequences with atoms at its leaves. -/
inductive Form where
  | atom (value : Atom) (span : Span)
  | seq (bracket : Bracket) (items : List Form) (span : Span)
  deriving Repr, Inhabited

namespace Form

@[match_pattern] def nil (span : Span) : Form := .atom .nil span
@[match_pattern] def bool (value : Bool) (span : Span) : Form := .atom (.bool value) span
@[match_pattern] def str (text : String) (span : Span) : Form := .atom (.str text) span
@[match_pattern] def sym (name : String) (span : Span) : Form := .atom (.sym name) span
@[match_pattern] def keyword (name : String) (span : Span) : Form := .atom (.keyword name) span
@[match_pattern] def list (items : List Form) (span : Span) : Form := .seq .round items span
@[match_pattern] def vector (items : List Form) (span : Span) : Form := .seq .square items span

/-- Where the form was read, or what caused it. -/
def span : Form → Span
  | .atom _ s => s
  | .seq _ _ s => s

/-- The name of a symbol. -/
def symbol? : Form → Option String
  | .sym name _ => some name
  | _ => none

/-- The name of a keyword, without its colon. -/
def keyword? : Form → Option String
  | .keyword name _ => some name
  | _ => none

/-- The value of a boolean literal. -/
def bool? : Form → Option Bool
  | .bool value _ => some value
  | _ => none

/-- The elements of a vector. -/
def vector? : Form → Option (List Form)
  | .vector items _ => some items
  | _ => none

/-- The symbol at the head of a list. -/
def head? : Form → Option String
  | .list (.sym name _ :: _) _ => some name
  | _ => none

/-- Whether the form is the symbol `name`. -/
def isSymbol (f : Form) (name : String) : Bool :=
  f.symbol? == some name

/-- The name of the kind of a form, for messages. -/
def kindName : Form → String
  | .atom a _ => a.kindName
  | .seq b _ _ => b.sequenceName

mutual

/-- The same form with every span replaced. -/
def respan (s : Span) : Form → Form
  | .atom a _ => .atom a s
  | .seq b items _ => .seq b (respanAll s items) s

/-- The same forms with every span replaced. -/
def respanAll (s : Span) : List Form → List Form
  | [] => []
  | f :: fs => respan s f :: respanAll s fs

end

@[simp] theorem respanAll_eq_map (s : Span) (fs : List Form) :
    respanAll s fs = fs.map (respan s) := by
  induction fs with
  | nil => rfl
  | cons f fs ih => simp [respanAll, ih]

@[simp] theorem span_respan (s : Span) (f : Form) : (f.respan s).span = s := by
  cases f <;> simp [respan, span]

/-! ### Calls -/

/-- The list of a head symbol and arguments. -/
def call (head : String) (args : List Form) (s : Span) : Form :=
  .list (.sym head s :: args) s

/-- Reads a member of a target. -/
def get (target : Form) (member : String) (s : Span) : Form :=
  call "get" [target, .sym member s] s

/-- Reads a member of the receiver. -/
def getOfThis (member : String) (s : Span) : Form :=
  get (.sym "this" s) member s

/-- Calls a method of a target. -/
def invoke (target : Form) (method : String) (args : List Form) (s : Span) : Form :=
  call "invoke" (target :: .sym method s :: args) s

/-- Assigns a value to a place. -/
def assign (place value : Form) (s : Span) : Form :=
  call "set!" [place, value] s

/-- Returns a value. -/
def ret (value : Form) (s : Span) : Form :=
  call "return" [value] s

end Form

end DeclWeave
