import DeclWeave.Form.Basic

/-!
# Free Names

`freeNames` lists the names that a body uses and does not bind, in the order in which they
stand, repetitions included, and the locals known after it. `var`, `fn` and `for` bind; the
member slots of `get` and `invoke` are no names of this scope.

A `do`, the body of a `fn` or `for` and a case of a `switch` are scopes of their own: what is
bound inside does not reach out. Any other form is no scope, and a `var` inside it binds for
what follows.
-/

namespace DeclWeave.Form

/-- The heads of forms that are no calls: only their arguments hold names. -/
def plainHeads : List String :=
  ["if", "while", "return", "throw", "set!", "new", "no-sugar", "break", "continue"]

/-- The locals after a binder: a symbol, or a vector that begins with one. -/
def bind (locals : List String) : Form → List String
  | .sym name _ => name :: locals
  | .vector (.sym name _ :: _) _ => name :: locals
  | _ => locals

/-- Whether the elements are those of a `case` or a `default`. -/
def isCase : List Form → Bool
  | .sym head _ :: _ => head == "case" || head == "default"
  | _ => false

/-- Runs a scope: what it binds is forgotten after it. -/
def enclosed (locals : List String) (found : List String × List String) :
    List String × List String :=
  (found.1, locals)

mutual

/-- The free names of a form, and the locals known after it. -/
def freeNames (locals : List String) : Form → List String × List String
  | .atom (.sym name) _ => (if locals.contains name then [] else [name], locals)
  | .atom _ _ => ([], locals)
  | .seq .square items _ => freeNamesAll locals items
  | .seq .round items _ => freeNamesList locals items

/-- The free names of some forms, each in the scope that the ones before leave. -/
def freeNamesAll (locals : List String) : List Form → List String × List String
  | [] => ([], locals)
  | f :: fs =>
    let (names, locals) := freeNames locals f
    let (more, locals) := freeNamesAll locals fs
    (names ++ more, locals)

/-- The free names of a list with the given elements. -/
def freeNamesList (locals : List String) : List Form → List String × List String
  | [] => ([], locals)
  | .atom (.sym head) _ :: args =>
    if head = "do" then enclosed locals (freeNamesAll locals args)
    else if head = "var" then freeNamesVar locals args
    else if head = "fn" then enclosed locals (freeNamesFn locals args)
    else if head = "for" then freeNamesFor locals args
    else if head = "get" then freeNamesFirst locals args
    else if head = "invoke" then freeNamesInvoke locals args
    else if head = "switch" then freeNamesSwitch locals args
    else if plainHeads.contains head then freeNamesAll locals args
    else
      let (more, after) := freeNamesAll locals args
      (if locals.contains head then more else head :: more, after)
  | head :: args =>
    let (names, locals) := freeNames locals head
    let (more, locals) := freeNamesAll locals args
    (names ++ more, locals)

/-- A variable is known after its initializer. -/
def freeNamesVar (locals : List String) : List Form → List String × List String
  | [] => ([], locals)
  | binder :: init =>
    let (names, locals) := freeNamesAll locals init
    (names, bind locals binder)

/-- The parameters of a function are known in its body. -/
def freeNamesFn (locals : List String) : List Form → List String × List String
  | .seq .square params _ :: body => freeNamesAll (params.foldl bind locals) body
  | args => freeNamesAll locals args

/-- The variable of a loop is known in its body and not in what it goes through. -/
def freeNamesFor (locals : List String) : List Form → List String × List String
  | binder :: source :: body =>
    let (names, locals) := freeNames locals source
    let (more, _) := freeNamesAll (bind locals binder) body
    (names ++ more, locals)
  | args => freeNamesAll locals args

/-- Only the first argument holds names. -/
def freeNamesFirst (locals : List String) : List Form → List String × List String
  | [] => ([], locals)
  | target :: _ => freeNames locals target

/-- All arguments but the second hold names. -/
def freeNamesInvoke (locals : List String) : List Form → List String × List String
  | target :: _ :: args =>
    let (names, locals) := freeNames locals target
    let (more, locals) := freeNamesAll locals args
    (names ++ more, locals)
  | args => freeNamesAll locals args

/-- The subject of a switch, then its cases. -/
def freeNamesSwitch (locals : List String) : List Form → List String × List String
  | [] => ([], locals)
  | subject :: cases =>
    let (names, locals) := freeNames locals subject
    let (more, locals) := freeNamesCases locals cases
    (names ++ more, locals)

/-- The free names of the cases of a switch, each a scope of its own. -/
def freeNamesCases (locals : List String) : List Form → List String × List String
  | [] => ([], locals)
  | .seq .round items _ :: rest =>
    let (names, locals) :=
      if isCase items then enclosed locals (freeNamesRest locals items)
      else freeNamesList locals items
    let (more, locals) := freeNamesCases locals rest
    (names ++ more, locals)
  | f :: rest =>
    let (names, locals) := freeNames locals f
    let (more, locals) := freeNamesCases locals rest
    (names ++ more, locals)

/-- The free names of all elements but the first. -/
def freeNamesRest (locals : List String) : List Form → List String × List String
  | [] => ([], locals)
  | _ :: rest => freeNamesAll locals rest

end

/-- The names that a body with some parameters uses, neither binds nor finds visible: each once,
in the order in which they first stand. -/
def unresolvedNames (params : List String) (visible : String → Bool) (body : Form) :
    List String :=
  ((freeNames params body).1.filter (!visible ·)).eraseDups

end DeclWeave.Form
