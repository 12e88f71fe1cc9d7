import DeclWeave.Form.Basic

/-!
# Returns in Tail Position

A synthesized body may be written as an expression; `insertReturns` makes it return its value.
The tail positions of a body are the body itself and, inside a tail position, the last statement
of a `do`, both branches of an `if` and the last statement of every `case` or `default` of a
`switch`. A statement that never has a value is left alone.

`(no-sugar e)` shields `e` from insertion. `stripShields` takes the shields off again, at every
depth.
-/

namespace DeclWeave

/-- The heads of statements, which have no value to return. -/
def statementHeads : List String :=
  ["return", "throw", "while", "for", "var", "break", "continue"]

/-- The head of the list that shields its only argument. -/
def shieldHead : String := "no-sugar"

namespace Form

mutual

/-- Makes a body return its value in every tail position. -/
def insertReturns : Form → Form
  | .atom .nil s => .call "return" [] s
  | .atom a s => .ret (.atom a s) s
  | .seq .square items s => .ret (.seq .square items s) s
  | .seq .round (.atom (.sym head) h :: rest) s =>
    if head = "do" then .list (.sym head h :: returnLast rest) s
    else if head = "if" then .list (.sym head h :: returnBranches rest) s
    else if head = "switch" then .list (.sym head h :: returnCases rest) s
    else if head = shieldHead || statementHeads.contains head then .list (.sym head h :: rest) s
    else .ret (.list (.sym head h :: rest) s) s
  | .seq .round items s => .ret (.seq .round items s) s

/-- Makes the last of some statements return its value. -/
def returnLast : List Form → List Form
  | [] => []
  | [f] => [insertReturns f]
  | f :: g :: rest => f :: returnLast (g :: rest)

/-- The condition of an `if` with its branches, both made to return. -/
def returnBranches : List Form → List Form
  | condition :: yes :: no :: rest => condition :: insertReturns yes :: insertReturns no :: rest
  | [condition, yes] => [condition, insertReturns yes]
  | rest => rest

/-- The subject of a `switch` with its cases, all made to return. -/
def returnCases : List Form → List Form
  | [] => []
  | subject :: cases => subject :: returnEachCase cases

/-- Cases of a `switch`, all made to return. What is neither a `case` nor a `default` stays. -/
def returnEachCase : List Form → List Form
  | [] => []
  | .seq .round items s :: rest => .seq .round (returnCase items) s :: returnEachCase rest
  | f :: rest => f :: returnEachCase rest

/-- The elements of a case, its last statement made to return. -/
def returnCase : List Form → List Form
  | .atom (.sym head) h :: rest =>
    if head = "case" then .sym head h :: returnAfterFirst rest
    else if head = "default" then .sym head h :: returnLast rest
    else .sym head h :: rest
  | items => items

/-- The value of a `case` and its statements, the last made to return. -/
def returnAfterFirst : List Form → List Form
  | [] => []
  | value :: statements => value :: returnLast statements

end

mutual

/-- Takes off every shield. -/
def stripShields : Form → Form
  | .atom a s => .atom a s
  | .seq .round [.atom (.sym "no-sugar") _, inner] _ => stripShields inner
  | .seq b items s => .seq b (stripShieldsAll items) s

/-- Takes off every shield in some forms. -/
def stripShieldsAll : List Form → List Form
  | [] => []
  | f :: fs => stripShields f :: stripShieldsAll fs

end

/-- The body of a finished member: with returns inserted, unless the member opts out, and
without shields. -/
def finish (optedOut : Bool) (body : Form) : Form :=
  if optedOut then body.stripShields else body.insertReturns.stripShields

end Form

end DeclWeave
