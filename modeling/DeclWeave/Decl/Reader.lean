import DeclWeave.Decl.TypeDecl
import DeclWeave.Form.Reader

/-!
# From Forms to Declarations

Every top-level form of a source is a type declaration:

    (class: Stack
      :params [T]
      :implements [(Collection T)]
      (field: items :type (Array T) :property true)
      (method: push [[x T]] (invoke (get this items) push x)))

Only the shape of a declaration is checked here. What its directives mean is checked when they
are expanded, so that a bad directive fails one member and not the whole source.

Options are read from left to right and the first fault wins.
-/

namespace DeclWeave

/-- Why a form is no declaration. -/
inductive ShapeCause where
  | notATypeDecl
  | typeNameNotSymbol (kind : String)
  | missingTypeName
  | missingValue (key : String)
  | unknownTypeOption (key : String)
  | duplicateMember (member owner : String)
  | emptyTypeRef
  | notAType (kind : String)
  | notAMember (kind : String)
  | unknownMemberHead
  | memberNameNotSymbol (kind : String)
  | missingMemberName
  | extraInitializer
  | methodWithoutParams (name : String)
  | constructorWithoutParams
  | badTypedParam
  | badParam (kind : String)
  | badForward (kind : String)
  | badVia
  | viaWithoutForward
  | unknownMemberOption (key : String)
  | notAVector (what kind : String)
  | entryNotSymbol (what kind : String)
  | notABoolean (what kind : String)
  deriving DecidableEq, Repr

namespace ShapeCause

def message : ShapeCause → String
  | .notATypeDecl => "expected (class: ...) or (interface: ...)"
  | .typeNameNotSymbol kind => s!"type name must be a symbol, got {kind}"
  | .missingTypeName => "type declaration requires a name"
  | .missingValue key => s!"missing value for :{key}"
  | .unknownTypeOption key => s!"unknown type option :{key}"
  | .duplicateMember member owner => s!"duplicate member {member} in {owner}"
  | .emptyTypeRef => "empty type reference"
  | .notAType kind => s!"expected a type, got {kind}"
  | .notAMember kind => s!"expected a member form, got {kind}"
  | .unknownMemberHead => "expected (field: ...), (method: ...), or (constructor: ...)"
  | .memberNameNotSymbol kind => s!"member name must be a symbol, got {kind}"
  | .missingMemberName => "member requires a name"
  | .extraInitializer => "a field takes at most one initializer"
  | .methodWithoutParams name => s!"method {name} requires a parameter vector"
  | .constructorWithoutParams => "constructor requires a parameter vector"
  | .badTypedParam => "typed parameter must be [name type]"
  | .badParam kind => s!"parameter must be a symbol, got {kind}"
  | .badForward kind => s!":forward takes true or a filter vector, got {kind}"
  | .badVia => ":via takes a method name"
  | .viaWithoutForward => ":via requires :forward"
  | .unknownMemberOption key => s!"unknown member option :{key}"
  | .notAVector what kind => s!"{what} must be a vector, got {kind}"
  | .entryNotSymbol what kind => s!"{what} entries must be symbols, got {kind}"
  | .notABoolean what kind => s!"{what} must be a boolean, got {kind}"

end ShapeCause

/-- Refuses a form. -/
def reject {α : Type} (cause : ShapeCause) (s : Span) : Except Fault α :=
  .error ⟨.malformed cause.message s.line s.column "", none⟩

namespace Form

/-- The elements of a vector that an option named `what` asks for. -/
def asVector (what : String) (f : Form) : Except Fault (List Form) :=
  match f.vector? with
  | some items => .ok items
  | none => reject (.notAVector what f.kindName) f.span

/-- The names in a vector of symbols. -/
def asNames (what : String) (f : Form) : Except Fault (List String) := do
  (← f.asVector what).mapM fun item =>
    match item.symbol? with
    | some name => .ok name
    | none => reject (.entryNotSymbol what item.kindName) item.span

/-- The value of a boolean option. -/
def asBool (what : String) (f : Form) : Except Fault Bool :=
  match f.bool? with
  | some value => .ok value
  | none => reject (.notABoolean what f.kindName) f.span

end Form

namespace TypeRef

mutual

/-- A type reference: a symbol, or a list of a symbol and references. -/
def ofForm : Form → Except Fault TypeRef
  | .atom (.sym name) _ => .ok (.named name)
  | .seq .round [] s => reject .emptyTypeRef s
  | .seq .round (head :: args) _ =>
    match head.symbol? with
    | some name => do return ⟨name, ← ofForms args⟩
    | none => reject (.typeNameNotSymbol head.kindName) head.span
  | .atom a s => reject (.notAType a.kindName) s
  | .seq .square _ s => reject (.notAType Bracket.square.sequenceName) s

/-- Some type references. -/
def ofForms : List Form → Except Fault (List TypeRef)
  | [] => .ok []
  | f :: fs => do return (← ofForm f) :: (← ofForms fs)

end

end TypeRef

namespace Param

/-- A parameter: a symbol, or a vector of a symbol and its type. -/
def ofForm : Form → Except Fault Param
  | .sym name _ => .ok { name }
  | .vector [.sym name _, type] _ => do return { name, type := some (← TypeRef.ofForm type) }
  | .vector _ s => reject .badTypedParam s
  | f => reject (.badParam f.kindName) f.span

/-- A vector of parameters. -/
def listOfForm (f : Form) : Except Fault (List Param) := do
  (← f.asVector "parameters").mapM ofForm

end Param

namespace Member

/-- What the options of a member have asked for so far. -/
structure Options where
  member : Member
  accessor : Option AccessorRequest := none
  forward : Option ForwardRequest := none
  via : Option (String × Span) := none

namespace Options

/-- Adds a directive that takes effect by itself. -/
def push (o : Options) (d : Directive) : Options :=
  { o with member := { o.member with directives := o.member.directives ++ [d] } }

/-- Adds a directive if its option is true. -/
def pushIf (o : Options) (d : Directive) (wanted : Bool) : Options :=
  if wanted then o.push d else o

/-- Changes the accessor request, which begins where its first option stands. -/
def onAccessor (o : Options) (s : Span) (f : AccessorRequest → AccessorRequest) : Options :=
  { o with accessor := some (f (o.accessor.getD { span := s })) }

/-- Adds a property mode if its option is true. -/
def addMode (o : Options) (mode : PropertyMode) (s : Span) (wanted : Bool) : Options :=
  if wanted then o.onAccessor s fun a => { a with modes := a.modes ++ [mode] } else o

/-- The filters of a forward option. -/
def filtersOf : Form → Except Fault (List Form)
  | .bool true _ => .ok []
  | .vector filters _ => .ok filters
  | f => reject (.badForward f.kindName) f.span

/-- Takes in one option. -/
def apply (o : Options) (key : String) (keySpan : Span) (value : Form) :
    Except Fault Options :=
  match key with
  | "type" | "returns" => do
    let type ← TypeRef.ofForm value
    return { o with member := o.member.withType (some type) }
  | "private" => do
    if ← value.asBool ":private" then
      return { o with member := { o.member with visibility := some .hidden } }
    else return o
  | "public" => do
    if ← value.asBool ":public" then
      return { o with member := { o.member with visibility := some .exported } }
    else return o
  | "calculated" => return o.addMode .calculated keySpan (← value.asBool key)
  | "readonly" => return o.addMode .readonly keySpan (← value.asBool key)
  | "property" => return o.addMode .readwrite keySpan (← value.asBool key)
  | "getter" => return o.onAccessor keySpan fun a => { a with getter := some value }
  | "setter" => return o.onAccessor keySpan fun a => { a with setter := some value }
  | "guard" => return o.onAccessor keySpan fun a => { a with guard := some value }
  | "inline" => do
    let inlined ← value.asBool ":inline"
    return o.onAccessor keySpan fun a => { a with inlined }
  | "signal" => return o.pushIf (.signal ⟨.signal, keySpan⟩) (← value.asBool key)
  | "future" => return o.pushIf (.signal ⟨.future, keySpan⟩) (← value.asBool key)
  | "forward" => do
    let filters ← filtersOf value
    return { o with forward := some { filters, span := keySpan } }
  | "via" =>
    match value.symbol? with
    | some name => return { o with via := some (name, keySpan) }
    | none => reject .badVia value.span
  | "used-only-by" => return o.push (.usedOnlyBy (← value.asNames ":used-only-by"))
  | "requires" => return o.push (.requires (← value.asNames ":requires"))
  | "direct-init" => return o.pushIf .directInit (← value.asBool ":direct-init")
  | "template" => return o.pushIf .template (← value.asBool ":template")
  | "no-sugar" => do
    let optOut ← value.asBool ":no-sugar"
    return { o with member := { o.member with sugar := { o.member.sugar with optOut } } }
  | other => reject (.unknownMemberOption other) keySpan

/-- The member with the directives that several options make up together. -/
def finish (o : Options) : Except Fault Member := do
  let o ← match o.forward, o.via with
    | some request, via => pure (o.push (.forward { request with via := via.map (·.1) }))
    | none, some (_, s) => reject .viaWithoutForward s
    | none, none => pure o
  match o.accessor with
  | some request => return (o.push (.accessor request)).member
  | none => return o.member

/-- Takes in the options at the start of some forms; gives the forms after them. -/
def read (o : Options) : List Form → Except Fault (Options × List Form)
  | .atom (.keyword key) s :: value :: rest => do read (← o.apply key s value) rest
  | [.atom (.keyword key) s] => reject (.missingValue key) s
  | forms => .ok (o, forms)

end Options

/-- Takes in the options of a member; gives the forms after them. -/
def readOptions (m : Member) (forms : List Form) : Except Fault (Member × List Form) := do
  let (options, rest) ← Options.read { member := m } forms
  return (← options.finish, rest)

/-- The body that some forms make: none is no body, one is the body, more are a block. -/
def blockOf (forms : List Form) (s : Span) : Option Form :=
  match forms with
  | [] => none
  | [f] => some f
  | fs => some (.call "do" fs s)

/-- The name of a member, the second form in its list. -/
def readName (rest : List Form) (s : Span) : Except Fault (String × List Form) :=
  match rest with
  | .sym name _ :: rest => .ok (name, rest)
  | f :: _ => reject (.memberNameNotSymbol f.kindName) f.span
  | [] => reject .missingMemberName s

/-- A field: its name, options, and at most one initializer. -/
def readField (rest : List Form) (s : Span) : Except Fault Member := do
  let (name, rest) ← readName rest s
  let (m, rest) ← (bareField name s).readOptions rest
  match rest with
  | [] => return m
  | [init] => return { m with body := some init }
  | _ :: extra :: _ => reject .extraInitializer extra.span

/-- A method: its name, parameters, options and body. -/
def readMethod (rest : List Form) (s : Span) : Except Fault Member := do
  let (name, rest) ← readName rest s
  match rest with
  | params :: rest =>
    let (m, body) ← (bareMethod name (← Param.listOfForm params) s).readOptions rest
    return { m with body := blockOf body s }
  | [] => reject (.methodWithoutParams name) s

/-- A constructor: its parameters, options and statements. Its body is a block even when it is
empty. -/
def readConstructor (rest : List Form) (s : Span) : Except Fault Member :=
  match rest with
  | params :: rest => do
    let (m, body) ← (bareMethod constructorName (← Param.listOfForm params) s).readOptions rest
    return { m with body := some (.call "do" body s) }
  | [] => reject .constructorWithoutParams s

/-- A member declaration. -/
def ofForm : Form → Except Fault Member
  | .list (.sym "field:" _ :: rest) s => readField rest s
  | .list (.sym "method:" _ :: rest) s => readMethod rest s
  | .list (.sym "constructor:" _ :: rest) s => readConstructor rest s
  | .list _ s => reject .unknownMemberHead s
  | f => reject (.notAMember f.kindName) f.span

end Member

namespace TypeDecl

/-- Takes in one option of a type. -/
def applyOption (d : TypeDecl) (key : String) (value : Form) : Except Fault TypeDecl :=
  match key with
  | "params" => do return { d with typeParams := ← value.asNames ":params" }
  | "extends" => do return { d with superclass := some (← TypeRef.ofForm value) }
  | "implements" => do
    return { d with interfaces := ← TypeRef.ofForms (← value.asVector ":implements") }
  | "sugar" => do
    let optIn ← value.asBool ":sugar"
    return { d with sugar := { d.sugar with optIn } }
  | "no-sugar" => do
    let optOut ← value.asBool ":no-sugar"
    return { d with sugar := { d.sugar with optOut } }
  | "using" => do return { d with usedNames := ← value.asNames ":using" }
  | "capabilities" => do return { d with capabilities := ← value.asNames ":capabilities" }
  | other => reject (.unknownTypeOption other) value.span

/-- Takes in the options at the start of some forms; gives the forms after them. -/
def readOptions (d : TypeDecl) : List Form → Except Fault (TypeDecl × List Form)
  | .atom (.keyword key) _ :: value :: rest => do readOptions (← d.applyOption key value) rest
  | [.atom (.keyword key) s] => reject (.missingValue key) s
  | forms => .ok (d, forms)

/-- The members that some forms declare; a name may be declared once. -/
def readMembers (owner : String) (seen : List String) : List Form → Except Fault (List Member)
  | [] => .ok []
  | f :: fs => do
    let m ← Member.ofForm f
    if seen.contains m.name then
      reject (.duplicateMember m.name owner) m.span
    else
      return m :: (← readMembers owner (m.name :: seen) fs)

/-- The body of a declaration: its name, options and members. -/
def read (kind : TypeKind) (rest : List Form) (s : Span) : Except Fault TypeDecl :=
  match rest with
  | .sym name _ :: rest => do
    let (d, rest) ← readOptions { name, kind, span := s } rest
    return { d with members := ← readMembers name [] rest }
  | f :: _ => reject (.typeNameNotSymbol f.kindName) f.span
  | [] => reject .missingTypeName s

/-- A class or interface declaration; nothing for a form that does not begin like one. -/
def ofForm? : Form → Except Fault (Option TypeDecl)
  | .list (.sym "class:" _ :: rest) s => do return some (← read .classType rest s)
  | .list (.sym "interface:" _ :: rest) s => do return some (← read .interfaceType rest s)
  | _ => .ok none

end TypeDecl

namespace SourceUnit

/-- The declaration that a form must be. -/
def readDecl (f : Form) : Except Fault TypeDecl := do
  match ← TypeDecl.ofForm? f with
  | some d => return d
  | none => reject .notATypeDecl f.span

/-- The unit of some top-level forms. -/
def ofForms (forms : List Form) : Except Fault SourceUnit := do
  return ⟨← forms.mapM readDecl⟩

/-- The unit that a source text declares. -/
def ofSource (source : String) : Except Fault SourceUnit := do
  ofForms (← Form.readAll source)

end SourceUnit

end DeclWeave
