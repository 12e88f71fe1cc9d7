import DeclWeave.Pattern.Automaton
import DeclWeave.Pattern.Normal
import Std.Data.HashMap

/-!
# Assembling Automata

A pattern is turned into an automaton part by part. Each part is entered at one state and left at
another. A repetition is written out as often as it says, so automata can grow far beyond their
patterns; they may weigh ten mebibytes at most, counting thirty-two bytes for a state, eight for a
step of a state with several, and four for a path of a fork.

An automaton for a set of characters shares the states that its pieces end with. Which are known
already is looked up in a table with a fixed number of slots, where a new entry takes the place of
an older one.

The same pattern can be assembled backward, to read a text from its end; then it has to fit, too.
-/

namespace DeclWeave

open Text (ByteRange CharSet)

namespace Automaton

/-- How many bytes a state is taken to need. -/
def State.weight : State → Nat
  | .bytes steps => 32 + 8 * steps.length
  | .fork nexts => 32 + 4 * nexts.length
  | _ => 32

/-- The greatest weight of an automaton. -/
def weightLimit : Nat := 10485760

/-- The states assembled so far and their weight. -/
structure Assembly where
  states : Array State := #[]
  weight : Nat := 0

/-- A step of assembling, which fails when the automaton gets too heavy. -/
abbrev Assemble := StateT Assembly Option

/-- A part of an automaton, from the state where it is entered to that where it is left. -/
structure Part where
  first : Nat
  last : Nat

/-- Which end of the text is read first. -/
inductive Direction where
  | forward
  | backward
  deriving DecidableEq, Repr

/-- Lets a state lead on to another. -/
def State.leadTo (next : Nat) : State → State
  | .byte step => .byte { step with next }
  | .check a _ => .check a next
  | .fork nexts => .fork (next :: nexts)
  | .pass _ => .pass next
  | s => s

/-- Adds to the weight. -/
def weigh (weight : Nat) : Assemble Unit := fun a =>
  let total := a.weight + weight
  if total ≤ weightLimit then some ((), { a with weight := total }) else none

/-- Adds a state and gives its number. -/
def newState (s : State) : Assemble Nat := do
  let n ← modifyGet fun a => (a.states.size, { a with states := a.states.push s })
  weigh s.weight
  return n

/-- Lets a state that exists lead on to another. -/
def connect (state next : Nat) : Assemble Unit := do
  let isFork ← modifyGet fun a =>
    (match a.states[state]? with
      | some (.fork _) => true
      | _ => false,
      { a with states := a.states.modify state (·.leadTo next) })
  weigh (if isFork then 4 else 0)

namespace Part

/-- A part of a single state. -/
def single (s : State) : Assemble Part := do
  let n ← newState s
  return ⟨n, n⟩

/-- One part after the other. -/
def andThen (p q : Part) : Assemble Part := do
  connect p.last q.first
  return ⟨p.first, q.last⟩

/-- Two parts in the order of the text, assembled in the order of reading. -/
def inOrder (d : Direction) (p q : Assemble Part) : Assemble Part :=
  match d with
  | .forward => do
    let p ← p
    let q ← q
    p.andThen q
  | .backward => do
    let q ← q
    let p ← p
    q.andThen p

/-! ### Bytes and characters -/

/-- A byte of any of some ranges. -/
def anyOf (ranges : List ByteRange) : Assemble Part := do
  let last ← newState (.pass 0)
  let first ← newState (.bytes (ranges.map (⟨·, last⟩)))
  return ⟨first, last⟩

/-- Given bytes, in the order of reading. -/
def bytes : List Nat → Assemble Part
  | [] => single (.pass 0)
  | b :: bs => do
    let p ← single (.byte ⟨⟨b, b⟩, 0⟩)
    bs.foldlM (fun p b => do p.andThen (← single (.byte ⟨⟨b, b⟩, 0⟩))) p

/-- A table of what has been assembled for some keys. -/
abbrev Slots (κ : Type) := Std.HashMap UInt64 (κ × Nat)

/-- One number mixed into a hash. -/
def mixHash (hash : UInt64) (n : Nat) : UInt64 :=
  (hash ^^^ n.toUInt64) * 1099511628211

/-- The slot of a key that consists of some numbers, out of `count` slots. -/
def slot (count : UInt64) (key : List Nat) : UInt64 :=
  key.foldl mixHash 14695981039346656037 % count

/-- What a table holds for a key, or else what is newly assembled. -/
def shared {κ : Type} [DecidableEq κ] (slot : UInt64) (key : κ) (new : Assemble Nat) :
    StateT (Slots κ) Assemble Nat := do
  match (← get).get? slot with
  | some (known, n) => if known = key then return n
  | none => pure ()
  let n ← new
  modify (·.insert slot (key, n))
  return n

/-- The state with some steps, shared with those assembled before. -/
def sharedSteps (steps : List Step) : StateT (Slots (List Step)) Assemble Nat :=
  shared (slot 10000 (steps.flatMap fun s => [s.range.first, s.range.last, s.next])) steps
    (newState (.bytes steps))

/-- The state that reads any of some sequences of bytes up to the state `last`. The sequences
ascend; those that begin alike are read together. At most `length` bytes are read. -/
def sequences (last : Nat) : Nat → List (List ByteRange) → StateT (Slots (List Step)) Assemble Nat
  | 0, _ => return last
  | length + 1, seqs => do
    let groups := seqs.splitBy fun s t => s.head? == t.head?
    let steps ← groups.mapM fun group => do
      let range := (group.headD []).headD ⟨0, 0⟩
      let rests := group.map List.tail
      let next ← if rests.all List.isEmpty then pure last else sequences last length rests
      return (⟨range, next⟩ : Step)
    sharedSteps steps

/-- Any one character of a set above ASCII, whose bytes are given, read forward. -/
def setForward (seqs : List (List ByteRange)) : Assemble Part := do
  let last ← newState (.pass 0)
  let (first, _) ← (sequences last 4 seqs).run {}
  return ⟨first, last⟩

/-- The state that reads a sequence of bytes from its last one, up to the state `last`. -/
def sequenceBackward (last : Nat) (seq : List ByteRange) :
    StateT (Slots (Nat × ByteRange)) Assemble Nat :=
  seq.foldlM (fun next range =>
    shared (slot 1000 [next, range.first, range.last]) (next, range)
      (newState (.byte ⟨range, next⟩))) last

/-- Any one character of a set above ASCII, whose bytes are given, read backward. -/
def setBackward (seqs : List (List ByteRange)) : Assemble Part := do
  let first ← newState (.fork [])
  let last ← newState (.pass 0)
  let _ ← (seqs.forM fun seq => do
    let n ← sequenceBackward last seq
    connect first n).run {}
  return ⟨first, last⟩

/-- Any one character of a set. -/
def anyCharacter (d : Direction) (s : CharSet) : Assemble Part :=
  if s.isAscii then anyOf (s.ranges.map fun r => ⟨r.first, r.last⟩)
  else
    let seqs := s.byteRanges
    match d with
    | .forward => setForward seqs
    | .backward => setBackward seqs

/-! ### Alternatives -/

/-- Joins a branch to a fork and to the state where all branches end. -/
def addBranch (fork last : Nat) (p : Part) : Assemble Unit := do
  connect fork p.first
  connect p.last last

/-- Any of some parts. -/
def anyPart : List (Assemble Part) → Assemble Part
  | [] => anyOf []
  | [p] => p
  | p :: q :: rest => do
    let p ← p
    let q ← q
    let fork ← newState (.fork [])
    let last ← newState (.pass 0)
    addBranch fork last p
    addBranch fork last q
    rest.forM fun r => do addBranch fork last (← r)
    return ⟨fork, last⟩

/-- The texts up to the first that is at its end, and those after it, and so on. -/
def splitAtEnds : List (List Nat) → List (List (List Nat))
  | [] => [[]]
  | [] :: texts => [] :: splitAtEnds texts
  | text :: texts =>
    match splitAtEnds texts with
    | chunk :: chunks => (text :: chunk) :: chunks
    | [] => [[text]]

/-- The state that reads any of some texts up to the state `last`, where texts that begin alike
are read together as far as no text ends in between. At most `length` bytes are read. -/
def textTree (last : Nat) : Nat → List (List Nat) → Assemble Nat
  | 0, _ => return last
  | length + 1, texts => do
    let chunks ← (splitAtEnds texts).mapM fun chunk => do
      let sorted := chunk.mergeSort fun s t => s.headD 0 ≤ t.headD 0
      let steps ← (sorted.splitBy fun s t => s.headD 0 == t.headD 0).mapM fun group => do
        let byte := (group.headD []).headD 0
        let rests := group.map List.tail
        let next ← if rests.all List.isEmpty then pure last else textTree last length rests
        return (⟨⟨byte, byte⟩, next⟩ : Step)
      match steps with
      | [] => return []
      | [step] => return [← newState (.byte step)]
      | steps => return [← newState (.bytes steps)]
    newState (.fork (List.intercalate [last] chunks).reverse)

/-- Any of some texts. -/
def anyText (d : Direction) (texts : List (List Char)) : Assemble Part := do
  let texts := texts.map fun t =>
    match d with
    | .forward => Text.utf8 t
    | .backward => (Text.utf8 t).reverse
  let last ← newState (.pass 0)
  let first ← textTree last ((texts.map List.length).foldl max 0) texts
  return ⟨first, last⟩

/-! ### Repetition -/

/-- A part again and again after itself. -/
def timesAfter (part : Assemble Part) : Nat → Part → Assemble Part
  | 0, p => return p
  | n + 1, p => do timesAfter part n (← p.andThen (← part))

/-- A part a number of times. -/
def times (part : Assemble Part) : Nat → Assemble Part
  | 0 => single (.pass 0)
  | n + 1 => do timesAfter part n (← part)

/-- A part that may be left out. -/
def optional (part : Assemble Part) : Assemble Part := do
  let fork ← newState (.fork [])
  let p ← part
  let last ← newState (.pass 0)
  addBranch fork last p
  connect fork last
  return ⟨fork, last⟩

/-- A part any number of times, each of which reads something. -/
def loop (part : Assemble Part) : Assemble Part := do
  let fork ← newState (.fork [])
  let p ← part
  connect fork p.first
  connect p.last fork
  return ⟨fork, fork⟩

/-- A part once or more. -/
def oneOrMore (part : Assemble Part) : Assemble Part := do
  let p ← part
  let fork ← newState (.fork [])
  connect p.last fork
  connect fork p.first
  return ⟨p.first, fork⟩

/-- A part any number of times, even where it reads nothing. -/
def optionalLoop (part : Assemble Part) : Assemble Part := do
  let p ← oneOrMore part
  let fork ← newState (.fork [])
  let last ← newState (.pass 0)
  connect fork p.first
  connect fork last
  connect p.last last
  return ⟨fork, last⟩

/-- A part at most `n` times more, left from any of them to the state `last`. -/
def upTo (part : Assemble Part) (last : Nat) : Nat → Part → Assemble Part
  | 0, p => return p
  | n + 1, p => do
    let fork ← newState (.fork [])
    let q ← part
    connect p.last fork
    connect fork q.first
    connect fork last
    upTo part last n ⟨p.first, q.last⟩

/-- A part at least `least` and at most `most` times. -/
def repeated (part : Assemble Part) (readsMore : Bool) (least : Nat) (most : Option Nat) :
    Assemble Part :=
  match least, most with
  | 0, some 1 => optional part
  | 0, none => if readsMore then loop part else optionalLoop part
  | 1, none => oneOrMore part
  | n, none => do
    let p ← times part (n - 1)
    p.andThen (← oneOrMore part)
  | n, some m =>
    if n = m then times part n
    else do
      let p ← times part n
      let last ← newState (.pass 0)
      let p ← upTo part last (m - n) p
      connect p.last last
      return ⟨p.first, last⟩

/-- A part between two states that mark where a group begins and ends. -/
def marked (part : Assemble Part) : Assemble Part := do
  let first ← newState (.pass 0)
  let p ← part
  let last ← newState (.pass 0)
  connect first p.first
  connect p.last last
  return ⟨first, last⟩

end Part

end Automaton

namespace Pattern

open Automaton

/-- The text of a literal. -/
def text? : Pattern → Option (List Char)
  | .literal text => some text
  | _ => none

/-- The part for a pattern, given those for its branches. Where all of these are literals, they
are read together. -/
def joinedPart (d : Direction) (p : Pattern) (parts : List (Assemble Part)) : Assemble Part :=
  match parts, p.branches.mapM text? with
  | _ :: _ :: _, some texts => Part.anyText d texts
  | _, _ => Part.anyPart parts

/-- The parts for the branches of a pattern. Groups are marked forward only. -/
def branchParts (d : Direction) : Pattern → List (Assemble Part)
  | .empty => [Part.single (.pass 0)]
  | .literal text =>
    match d with
    | .forward => [Part.bytes (Text.utf8 text)]
    | .backward => [Part.bytes (Text.utf8 text).reverse]
  | .set s => [Part.anyCharacter d s]
  | .assertion a => [Part.single (.check a 0)]
  | .repetition p least most _ =>
    [Part.repeated (joinedPart d p (branchParts d p)) (p.minLength.any (0 < ·)) least most]
  | .group _ p =>
    match d with
    | .forward => [Part.marked (joinedPart d p (branchParts d p))]
    | .backward => [joinedPart d p (branchParts d p)]
  | .seq p q =>
    [Part.inOrder d (joinedPart d p (branchParts d p)) (joinedPart d q (branchParts d q))]
  | .alt p q => joinedPart d p (branchParts d p) :: branchParts d q

/-- The part for a pattern. -/
def part (d : Direction) (p : Pattern) : Assemble Part :=
  joinedPart d p (branchParts d p)

/-- The part that looks for the place where a match begins: none is passed over if it can only be
at the end of the text that is read first. -/
def searchPart (d : Direction) (p : Pattern) : Assemble Part :=
  let anchored := match d with
    | .forward => p.startsText
    | .backward => p.endsText
  if anchored then Part.single (.pass 0) else Part.loop (Part.anyOf [⟨0, 255⟩])

/-- Assembles the automaton of a pattern, and gives the state where it starts. -/
def assemble (d : Direction) (p : Pattern) : Assemble Nat := do
  let search ← p.searchPart d
  let whole ← match d with
    | .forward => Part.marked (p.part d)
    | .backward => p.part d
  connect whole.last (← newState .accept)
  connect search.last whole.first
  return search.first

/-- The automaton of a pattern in one direction, unless it is too heavy. -/
def automaton? (d : Direction) (p : Pattern) : Option Automaton := do
  let (start, assembly) ← (p.assemble d).run {}
  return ⟨assembly.states, start⟩

/-- The automaton that searches for a pattern, unless it is too heavy in either direction. -/
def assembled? (p : Pattern) : Option Automaton := do
  let _ ← p.automaton? .backward
  p.automaton? .forward

end Pattern

end DeclWeave
