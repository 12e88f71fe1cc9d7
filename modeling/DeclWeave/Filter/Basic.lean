import DeclWeave.Diagnostic.Fault
import DeclWeave.Filter.Glob
import DeclWeave.Form.Basic
import DeclWeave.Pattern.Reader
import DeclWeave.Pattern.Search
import DeclWeave.Text.Shown

/-!
# Filters

A filter selects members by name:

    push                      exact name
    "do*"                     glob, for its star
    (glob "get?")             glob
    (regex "^(push|pop)$")    pattern
    (and f g ...) (or f g ...) (not f)
    (any push pop length)     also (any [push pop length])

A name or glob with a dot, and a pattern with an escaped dot, are held against the qualified name
`Type.member` when the type that declares the member is known; all others against the name alone.
-/

namespace DeclWeave

/-- A predicate on members. A pattern keeps the text it was read from. -/
inductive Filter where
  | name (text : String)
  | glob (text : String)
  | pattern (text : String) (compiled : Automaton)
  | and (f g : Filter)
  | or (f g : Filter)
  | not (f : Filter)
  | any (filters : List Filter)
  deriving Repr, Inhabited

/-- Why a form is no filter. -/
inductive FilterFault where
  | emptyName
  | emptyGlob
  | emptyList
  | largeGlob
  | badPattern (text : String)
  | operatorNotSymbol (kind : String)
  | notAFilter (kind : String)
  | unknownOperator (op : String)
  | onePattern (op : String)
  | oneFilter
  | twoFilters (op : String)
  | noFilter
  deriving DecidableEq, Repr

namespace FilterFault

def message : FilterFault → String
  | .emptyName => "empty name"
  | .emptyGlob => "empty glob pattern"
  | .emptyList => "empty filter form"
  | .largeGlob => s!"Compiled regex exceeds size limit of {Automaton.weightLimit} bytes."
  | .badPattern text => "bad regex " ++ Text.shown text ++ ": <regex error>"
  | .operatorNotSymbol kind => s!"filter operator must be a symbol, got {kind}"
  | .notAFilter kind => s!"expected a name, string, or filter form, got {kind}"
  | .unknownOperator op => s!"unknown filter operator {op}"
  | .onePattern op => s!"({op} ...) takes one pattern"
  | .oneFilter => "(not ...) takes one filter"
  | .twoFilters op => s!"({op} ...) takes at least two filters"
  | .noFilter => "(any ...) needs at least one filter"

def toCause (f : FilterFault) : Cause :=
  .invalidFilter f.message

end FilterFault

namespace Filter

/-! ### Reading -/

/-- The filter of a glob. -/
def ofGlob (text : String) : Except FilterFault Filter :=
  if text.isEmpty then .error .emptyGlob
  else if Glob.fits text.toList then .ok (.glob text)
  else .error .largeGlob

/-- The filter of a pattern. -/
def ofPattern (text : String) : Except FilterFault Filter :=
  match Pattern.ofString? text >>= Pattern.compile? with
  | some compiled => .ok (.pattern text compiled)
  | none => .error (.badPattern text)

/-- The filter of a name, which is a glob if it has a star. -/
def ofName (text : String) : Except FilterFault Filter :=
  if text.isEmpty then .error .emptyName
  else if text.toList.contains '*' then ofGlob text
  else .ok (.name text)

/-- The only argument of an operator that takes a text. -/
def patternArg (op : String) (args : List Form) : Except FilterFault String :=
  match args with
  | [.str text _] => .ok text
  | [.sym text _] => .ok text
  | _ => .error (.onePattern op)

/-- The filter of an operator, given its arguments and what they denote as filters. The number of
arguments is checked before their meaning. -/
def ofOperator (op : String) (args : List Form) (operands : Except FilterFault (List Filter)) :
    Except FilterFault Filter :=
  match op with
  | "glob" => do ofGlob (← patternArg op args)
  | "regex" => do ofPattern (← patternArg op args)
  | "not" => do
    if args.length ≠ 1 then throw .oneFilter
    match ← operands with
    | [f] => return .not f
    | _ => throw .oneFilter
  | "and" => joined .and
  | "or" => joined .or
  | "any" => do
    let filters ← operands
    if filters.isEmpty then throw .noFilter else return .any filters
  | _ => .error (.unknownOperator op)
where
  /-- Joins the operands from the left. -/
  joined (join : Filter → Filter → Filter) : Except FilterFault Filter := do
    if args.length < 2 then throw (.twoFilters op)
    match ← operands with
    | first :: rest => return rest.foldl join first
    | [] => throw (.twoFilters op)

mutual

/-- The filter that a form denotes. -/
def ofForm : Form → Except FilterFault Filter
  | .atom (.sym text) _ => ofName text
  | .atom (.str text) _ => ofName text
  | .atom a _ => .error (.notAFilter a.kindName)
  | .seq .square _ _ => .error (.notAFilter Bracket.square.sequenceName)
  | .seq .round [] _ => .error .emptyList
  | .seq .round (head :: args) _ =>
    match head.symbol? with
    | none => .error (.operatorNotSymbol head.kindName)
    | some op => ofOperator op args (operandsOf op args)

/-- The filters that the arguments of an operator denote. The filters of an `any` may stand in a
vector. -/
def operandsOf (op : String) : List Form → Except FilterFault (List Filter)
  | [] => .ok []
  | [.seq .square items _] =>
    if op = "any" then ofForms items
    else .error (.notAFilter Bracket.square.sequenceName)
  | f :: fs => do return (← ofForm f) :: (← ofForms fs)

/-- The filters that some forms denote, or the first fault. -/
def ofForms : List Form → Except FilterFault (List Filter)
  | [] => .ok []
  | f :: fs => do return (← ofForm f) :: (← ofForms fs)

end

/-- The filter of a list of filters: any of them; none if the list is empty. -/
def ofList (forms : List Form) : Except FilterFault (Option Filter) := do
  match ← ofForms forms with
  | [] => return none
  | [f] => return some f
  | filters => return some (.any filters)

/-! ### Selecting -/

/-- Whether a text has a backslash with a dot after it. -/
def hasEscapedDot : List Char → Bool
  | '\\' :: '.' :: _ => true
  | _ :: cs => hasEscapedDot cs
  | [] => false

/-- What a filter is held against: the qualified name, if it is known and asked for. -/
def subject (name : String) (qualified : Option String) (dotted : Bool) : String :=
  if dotted then qualified.getD name else name

mutual

/-- Whether a filter selects a member of a name, with the qualified name if it is known. -/
def selects (name : String) (qualified : Option String) : Filter → Bool
  | .name text => text == subject name qualified (text.toList.contains '.')
  | .glob text =>
    Glob.isMatch text.toList (subject name qualified (text.toList.contains '.')).toList
  | .pattern text compiled =>
    compiled.isMatch (subject name qualified (hasEscapedDot text.toList))
  | .and f g => selects name qualified f && selects name qualified g
  | .or f g => selects name qualified f || selects name qualified g
  | .not f => !selects name qualified f
  | .any filters => selectsAny name qualified filters

/-- Whether any of some filters selects a member. -/
def selectsAny (name : String) (qualified : Option String) : List Filter → Bool
  | [] => false
  | f :: fs => selects name qualified f || selectsAny name qualified fs

end

/-- Whether a filter selects a name of unknown origin. -/
def selectsName (f : Filter) (name : String) : Bool :=
  f.selects name none

/-- Whether a filter selects a member that a type declares. -/
def selectsMember (f : Filter) (name origin : String) : Bool :=
  f.selects name (some (origin ++ "." ++ name))

end Filter

end DeclWeave
