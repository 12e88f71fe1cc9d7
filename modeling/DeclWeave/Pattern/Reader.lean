import DeclWeave.Pattern.Bracket
import DeclWeave.Text.Letter
import DeclWeave.Text.Numeral

/-!
# Reading Patterns

The usual notation of regular expressions: alternatives, groups, bracketed sets with set
operations, counted repetition, escapes, and flags inside the pattern. Look-around and back
references do not belong to it. A text that is no pattern is refused; why is not said.

The reader is a loop over the text with a stack of open groups. It keeps an account of how deep
the notation nests: sequences and alternatives of several parts, repetitions, groups and bracketed
sets may stand inside each other two hundred and fifty times.
-/

namespace DeclWeave.Pattern

/-- The greatest depth of the notation of a pattern. -/
def depthLimit : Nat := 250

/-- A pattern with the depth of its notation. -/
structure DeepPattern where
  pattern : Pattern
  depth : Nat := 0

/-- The depth of several parts side by side. A single part is as deep as it is alone. -/
def depthOf : List Nat → Nat
  | [] => 0
  | [d] => d
  | ds => ds.foldl max 0 + 1

/-! ### Repetition -/

/-- The greatest bound of a repetition. -/
def countLimit : Nat := 4294967295

/-- A decimal number with blanks around it, if there is one that is not too large. -/
def readCount (f : Flags) (cs : List Char) : Option Nat × List Char :=
  let (digits, rest) := spanSkipping f Char.isDigit (cs.dropWhile Text.isSpace)
  let n := digits.foldl (fun n d => 10 * n + (d.toNat - '0'.toNat)) 0
  (if digits.isEmpty || countLimit < n then none else some n, rest.dropWhile Text.isSpace)

/-- The bounds of a counted repetition, after its opening brace. -/
def readBounds? (f : Flags) (cs : List Char) : Option (Nat × Option Nat × List Char) := do
  let (first, rest) := readCount f (skip f cs)
  let least ← first
  match rest with
  | '}' :: rest => return (least, some least, skip f rest)
  | ',' :: rest =>
    match skip f rest with
    | '}' :: rest => return (least, none, skip f rest)
    | rest =>
      let (last, rest) := readCount f rest
      let most ← last
      match rest with
      | '}' :: rest => if least ≤ most then some (least, some most, skip f rest) else none
      | _ => none
  | _ => none

/-- Whether a repetition is marked with a question mark, and what follows. -/
def readMark : List Char → Bool × List Char
  | '?' :: cs => (true, cs)
  | cs => (false, cs)

/-! ### Groups -/

/-- What a sequence holds: a part of the pattern, or a switch of flags, which matches nothing and
cannot be repeated. -/
inductive Element where
  | part (p : DeepPattern)
  | switch

namespace Element

def pattern? : Element → Option Pattern
  | .part p => some p.pattern
  | .switch => none

def depth : Element → Nat
  | .part p => p.depth
  | .switch => 0

end Element

/-- A group that is being read. -/
structure Group where
  /-- The number of the group, if it is counted. -/
  number : Option Nat := none
  /-- The finished alternatives, the last first. -/
  branches : List DeepPattern := []
  /-- The elements of the present alternative, the last first. -/
  elements : List Element := []
  /-- The flags in force after the group. -/
  outerFlags : Flags := {}

namespace Group

/-- The present alternative. -/
def branch (g : Group) : DeepPattern where
  pattern := sequence (g.elements.reverse.filterMap Element.pattern?)
  depth := depthOf (g.elements.map Element.depth)

/-- All alternatives of the group. -/
def content (g : Group) : DeepPattern :=
  if g.branches.isEmpty then g.branch
  else
    let all := g.branch :: g.branches
    { pattern := alternatives (all.reverse.map (·.pattern))
      depth := depthOf (all.map (·.depth)) }

/-- The group as a part of the one around it. -/
def toPart (g : Group) : DeepPattern where
  pattern :=
    match g.number with
    | some n => .group n g.content.pattern
    | none => g.content.pattern
  depth := g.content.depth + 1

def push (g : Group) (e : Element) : Group :=
  { g with elements := e :: g.elements }

/-- Ends the present alternative. -/
def nextBranch (g : Group) : Group :=
  { g with branches := g.branch :: g.branches, elements := [] }

end Group

/-- Where the reading of a pattern stands. -/
structure ReadState where
  flags : Flags := {}
  current : Group := {}
  /-- The groups around the current one, the innermost first. -/
  outer : List Group := []
  /-- The names given to groups. -/
  names : List String := []
  /-- The number of the next group that is counted. -/
  nextNumber : Nat := 1

/-- Whether a name of a group may begin with a character. -/
def beginsGroupName (c : Char) : Bool :=
  c == '_' || Text.isLetter c

/-- Whether a name of a group may go on with a character. -/
def continuesGroupName (c : Char) : Bool :=
  beginsGroupName c || c == '.' || c == '[' || c == ']' || Text.isNumeral c

/-- A new name of a group, up to its closing angle bracket. -/
def readGroupName? (known : List String) (cs : List Char) : Option (String × List Char) :=
  match cs.takeWhile (· != '>'), cs.dropWhile (· != '>') with
  | first :: more, _ :: rest =>
    let name := String.ofList (first :: more)
    if beginsGroupName first && more.all continuesGroupName && !known.contains name then
      some (name, rest)
    else none
  | _, _ => none

/-- Switches of flags up to a colon or a closing bracket, which is given back with the rest.
Each letter may stand once, and a hyphen before the letters that are switched off. -/
def readFlags? (f : Flags) (seen : List Char) : List Char → Option (Flags × Char × List Char)
  | [] => none
  | c :: cs =>
    if c == ':' || c == ')' then
      if seen.head? == some '-' then none
      else if seen.isEmpty && c == ')' then none
      else some (f, c, cs)
    else if seen.contains c then none
    else if c == '-' then readFlags? f (c :: seen) cs
    else do readFlags? (← f.switch? c (!seen.contains '-')) (c :: seen) cs

namespace ReadState

/-- Adds a part. -/
def push (s : ReadState) (p : Pattern) (depth : Nat) : ReadState :=
  { s with current := s.current.push (.part ⟨p, depth⟩) }

/-- Adds what a primitive stands for. -/
def pushPrimitive (s : ReadState) : Primitive → ReadState
  | .char c => s.push (s.flags.character c) 0
  | .set chars => s.push (ofSet chars) 0
  | .assertion a => s.push (.assertion a) 0

/-- Repeats the last element. -/
def repeat? (s : ReadState) (least : Nat) (most : Option Nat) (marked : Bool) :
    Option ReadState :=
  match s.current.elements with
  | .part p :: elements =>
    let q := s.flags.repeated p.pattern least most marked
    some { s with current := { s.current with elements := .part ⟨q, p.depth + 1⟩ :: elements } }
  | _ => none

/-- Opens a group in which the given flags are in force. -/
def openGroup (s : ReadState) (inner : Flags) : ReadState :=
  { s with
    flags := inner
    current := { outerFlags := s.flags }
    outer := s.current :: s.outer }

/-- Opens a group that is counted. -/
def openCounted (s : ReadState) : ReadState :=
  let opened := s.openGroup s.flags
  { opened with
    current := { opened.current with number := some s.nextNumber }
    nextNumber := s.nextNumber + 1 }

/-- Opens a group that is counted and has a name, which follows. -/
def openNamed? (s : ReadState) (cs : List Char) : Option (ReadState × List Char) := do
  let (name, rest) ← readGroupName? s.names cs
  return ({ s.openCounted with names := name :: s.names }, rest)

/-- Opens a group, or switches flags, after an opening bracket. -/
def onOpen? (s : ReadState) (cs : List Char) : Option (ReadState × List Char) :=
  match skip s.flags cs with
  | '?' :: '<' :: '=' :: _ => none
  | '?' :: '<' :: '!' :: _ => none
  | '?' :: '<' :: cs => s.openNamed? cs
  | '?' :: 'P' :: '<' :: cs => s.openNamed? cs
  | '?' :: cs => do
    let (flags, stop, rest) ← readFlags? s.flags [] cs
    if stop == ':' then return (s.openGroup flags, rest)
    else return ({ s with flags, current := s.current.push .switch }, rest)
  | cs => some (s.openCounted, cs)

/-- Closes the current group. -/
def onClose? (s : ReadState) : Option ReadState :=
  match s.outer with
  | [] => none
  | around :: outer =>
    some
      { s with
        flags := s.current.outerFlags
        current := around.push (.part s.current.toPart)
        outer }

/-- Takes in one construct at the start of a text of at least one and at most so many
characters. -/
def turn? (s : ReadState) (length : Nat) : List Char → Option (ReadState × List Char)
  | [] => none
  | '(' :: cs => s.onOpen? cs
  | ')' :: cs => do return (← s.onClose?, cs)
  | '|' :: cs => some ({ s with current := s.current.nextBranch }, cs)
  | '[' :: cs => do
    let (found, rest) ← readSet? s.flags length cs
    return (s.push (ofSet found.set) found.depth, rest)
  | '?' :: cs =>
    let (marked, rest) := readMark cs
    do return (← s.repeat? 0 (some 1) marked, rest)
  | '*' :: cs =>
    let (marked, rest) := readMark cs
    do return (← s.repeat? 0 none marked, rest)
  | '+' :: cs =>
    let (marked, rest) := readMark cs
    do return (← s.repeat? 1 none marked, rest)
  | '{' :: cs => do
    let (least, most, rest) ← readBounds? s.flags cs
    let (marked, rest) := readMark rest
    return (← s.repeat? least most marked, rest)
  | '\\' :: cs => do
    let (primitive, rest) ← readEscape? s.flags cs
    return (s.pushPrimitive primitive, rest)
  | '.' :: cs => do return (s.push (← s.flags.dot?) 0, cs)
  | '^' :: cs => some (s.push s.flags.caret 0, cs)
  | '$' :: cs => some (s.push s.flags.dollar 0, cs)
  | c :: cs => some (s.pushPrimitive (.char c), cs)

/-- Reads a pattern to its end, where no group may be open, in at most so many turns. Every turn
takes a character at least. -/
def run? : Nat → ReadState → List Char → Option DeepPattern
  | 0, _, _ => none
  | turns + 1, s, cs =>
    match skip s.flags cs with
    | [] => if s.outer.isEmpty then some s.current.content else none
    | cs => do
      let (s, rest) ← s.turn? (turns + 1) cs
      run? turns s rest

end ReadState

/-- The pattern that a text denotes, read in one turn more than the text has characters. -/
def ofString? (text : String) : Option Pattern := do
  let cs := text.toList
  let p ← ReadState.run? (cs.length + 1) {} cs
  if p.depth ≤ depthLimit then some p.pattern else none

end DeclWeave.Pattern
