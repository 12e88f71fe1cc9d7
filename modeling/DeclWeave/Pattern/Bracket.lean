import DeclWeave.Pattern.Escape

/-!
# Bracketed Sets

A set between brackets holds characters, ranges, classes and further brackets, joined by
operations on sets. Its depth counts the brackets and operations around each other, and a union of
several items once.
-/

namespace DeclWeave.Pattern

open Text (CharSet)

/-- The set of ASCII characters that has a name between colons. -/
def asciiSet? : String → Option CharSet
  | "alnum" => some asciiAlnum
  | "alpha" => some asciiLetters
  | "ascii" => some (.ofRanges [⟨0, 127⟩])
  | "blank" => some (.unionAll [.single '\t', .single ' '])
  | "cntrl" => some (.ofRanges [⟨0, 31⟩, ⟨127, 127⟩])
  | "digit" => some asciiDigits
  | "graph" => some (.between '!' '~')
  | "lower" => some (.between 'a' 'z')
  | "print" => some (.between ' ' '~')
  | "punct" => some (.ofRanges [⟨33, 47⟩, ⟨58, 64⟩, ⟨91, 96⟩, ⟨123, 126⟩])
  | "space" => some asciiSpace
  | "upper" => some (.between 'A' 'Z')
  | "word" => some asciiWord
  | "xdigit" => some (.unionAll [asciiDigits, .between 'A' 'F', .between 'a' 'f'])
  | _ => none

inductive SetOperation where
  | inter
  | diff
  | symmDiff

namespace SetOperation

def apply : SetOperation → CharSet → CharSet → CharSet
  | .inter, s, t => s.inter t
  | .diff, s, t => s.diff t
  | .symmDiff, s, t => s.symmDiff t

end SetOperation

/-- A set with the depth of its notation. -/
structure DeepSet where
  set : CharSet
  depth : Nat

/-- What a bracket holds so far: the union of its items, their number and their greatest depth. -/
structure Items where
  union : CharSet := .none
  count : Nat := 0
  depth : Nat := 0

namespace Items

def add (i : Items) (s : CharSet) (depth : Nat) : Items :=
  ⟨i.union.union s, i.count + 1, max i.depth depth⟩

/-- The set that the items make up. -/
def toSet (i : Items) : DeepSet :=
  ⟨i.union, if i.count ≤ 1 then i.depth else i.depth + 1⟩

end Items

/-- What waits for the rest of a bracketed set: an outer bracket with what it holds so far and
whether the inner one is negated, or the left side of an operation. -/
inductive SetFrame where
  | bracket (negated : Bool) (outer : Items)
  | operation (op : SetOperation) (left : DeepSet)

/-- Carries out the operation that waits for its right side, if one does. -/
def closeOperation (f : Flags) (right : DeepSet) : List SetFrame → DeepSet × List SetFrame
  | .operation op left :: rest =>
    (⟨op.apply (f.fold left.set) (f.fold right.set), max left.depth right.depth + 1⟩, rest)
  | frames => (right, frames)

/-- The name of a set between colons, with what follows its bracket: `:alpha:]`. The flag says
whether a caret negates it. -/
def namedSet? (cs : List Char) : Option (Bool × CharSet × List Char) :=
  match cs with
  | ':' :: cs =>
    let (negated, cs) := match cs with
      | '^' :: cs => (true, cs)
      | cs => (false, cs)
    let name := cs.takeWhile (· != ':')
    match cs.drop name.length with
    | ':' :: ']' :: rest => do
      let s ← asciiSet? (String.ofList name)
      return (negated, s, rest)
    | _ => none
  | _ => none

/-- The start of a bracketed set, after its bracket: a negation, hyphens and a closing bracket
that stand for themselves. -/
def readSetStart (f : Flags) (cs : List Char) : Bool × Items × List Char :=
  let (negated, cs) := match skip f cs with
    | '^' :: cs => (true, skip f cs)
    | cs => (false, cs)
  let (hyphens, cs) := spanSkipping f (· == '-') cs
  match hyphens, cs with
  | [], ']' :: cs => (negated, Items.add {} (.single ']') 0, cs)
  | hyphens, cs => (negated, hyphens.foldl (fun i c => i.add (.single c) 0) {}, cs)

/-- One character or class inside a bracketed set. -/
def readSetItem? (f : Flags) : List Char → Option (Primitive × List Char)
  | '\\' :: cs => readEscape? f cs
  | c :: cs => some (.char c, cs)
  | [] => none

/-- The character that decides what a hyphen before it means. Where a comment follows the hyphen,
it is the first of the comment. -/
def decisive? (f : Flags) (cs : List Char) : Option Char :=
  if !f.extended then cs.head?
  else
    match cs.dropWhile Text.isSpace with
    | '#' :: comment => (comment.dropWhile Text.isSpace).head?
    | rest => rest.head?

/-- Whether a hyphen with some text after it joins the two ends of a range. -/
def joinsRange (f : Flags) (afterHyphen : List Char) : Bool :=
  match decisive? f afterHyphen with
  | some ']' => false
  | some '-' => false
  | _ => true

/-- Whether a character may stand in a set. Without Unicode only ASCII may. -/
def isAllowed (f : Flags) (c : Char) : Bool :=
  f.unicode || c.toNat < 128

/-- One item or range inside a bracketed set. -/
def readSetRange? (f : Flags) (cs : List Char) : Option (CharSet × List Char) := do
  let (first, rest) ← readSetItem? f cs
  match skip f rest with
  | [] => none
  | c :: rest =>
    if c == '-' && joinsRange f rest then
      let (last, rest) ← readSetItem? f (skip f rest)
      match first, last with
      | .char a, .char b =>
        if a ≤ b && isAllowed f a && isAllowed f b then some (.between a b, rest) else none
      | _, _ => none
    else
      match first with
      | .char a => if isAllowed f a then some (.single a, c :: rest) else none
      | .set s => some (s, c :: rest)
      | .assertion _ => none

/-- What a step of reading a bracketed set comes to: the whole set with the text after it, or what
waits and what the innermost bracket holds. -/
inductive SetStep where
  | done (s : DeepSet) (rest : List Char)
  | more (frames : List SetFrame) (held : Items) (rest : List Char)

/-- Begins the right side of an operation. -/
def beginOperation (f : Flags) (op : SetOperation) (frames : List SetFrame) (held : Items)
    (rest : List Char) : SetStep :=
  let (left, frames) := closeOperation f held.toSet frames
  .more (.operation op left :: frames) {} rest

/-- Closes the innermost bracket. -/
def closeBracket? (f : Flags) (frames : List SetFrame) (held : Items) (rest : List Char) :
    Option SetStep :=
  match closeOperation f held.toSet frames with
  | (s, .bracket negated outer :: frames) => do
    let set ← f.foldAndNegate? negated s.set
    if frames.isEmpty then return .done ⟨set, s.depth + 1⟩ rest
    else return .more frames (outer.add set (s.depth + 1)) rest
  | _ => none

/-- Takes in one construct of a bracketed set. `frames` are the brackets and operations that wait,
`held` is what the innermost bracket holds. -/
def stepSet? (f : Flags) (frames : List SetFrame) (held : Items) : List Char → Option SetStep
  | [] => none
  | '[' :: rest =>
    match namedSet? rest with
    | some (negated, s, rest) => do
      return .more frames (held.add (← f.foldAndNegate? negated s) 0) rest
    | none =>
      let (negated, start, rest) := readSetStart f rest
      some (.more (.bracket negated held :: frames) start rest)
  | ']' :: rest => closeBracket? f frames held rest
  | '&' :: '&' :: rest => some (beginOperation f .inter frames held rest)
  | '-' :: '-' :: rest => some (beginOperation f .diff frames held rest)
  | '~' :: '~' :: rest => some (beginOperation f .symmDiff frames held rest)
  | cs => do
    let (s, rest) ← readSetRange? f cs
    return .more frames (held.add s 0) rest

/-- Reads a bracketed set to its end, in at most so many rounds. -/
def readSetRest? (f : Flags) :
    Nat → List SetFrame → Items → List Char → Option (DeepSet × List Char)
  | 0, _, _, _ => none
  | rounds + 1, frames, held, cs => do
    match ← stepSet? f frames held (skip f cs) with
    | .done s rest => return (s, rest)
    | .more frames held rest => readSetRest? f rounds frames held rest

/-- Reads a bracketed set after its opening bracket, in at most so many rounds. Every round takes a
character at least. -/
def readSet? (f : Flags) (rounds : Nat) (cs : List Char) : Option (DeepSet × List Char) :=
  let (negated, start, rest) := readSetStart f cs
  readSetRest? f rounds [.bracket negated {}] start rest

end DeclWeave.Pattern
