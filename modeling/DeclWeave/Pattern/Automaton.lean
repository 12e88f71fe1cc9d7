import DeclWeave.Pattern.Basic
import DeclWeave.Text.Utf8

/-!
# Automata

An automaton reads the bytes of a text. Its states are numbered; some wait for a byte, the others
lead on at once, if need be under an assertion about the place. All paths are followed side by
side: at every place the states that are reached are collected, each once, so a search takes no
more steps than the automaton has links, for every byte.

The text matches when an accepting state is reached at a place between two characters. An
automaton that looks for matches anywhere begins with a loop over any bytes.
-/

namespace DeclWeave

open Text (ByteRange)

namespace Automaton

/-- What a byte of a range leads to. -/
structure Step where
  range : ByteRange
  next : Nat
  deriving DecidableEq, Repr

namespace Step

def admits (s : Step) (byte : Nat) : Bool :=
  s.range.first ≤ byte && byte ≤ s.range.last

end Step

inductive State where
  /-- Waits for a byte of one range. -/
  | byte (step : Step)
  /-- Waits for a byte of any of several ranges; without ranges, for ever. -/
  | bytes (steps : List Step)
  | check (a : Assertion) (next : Nat)
  /-- Goes on along several paths, which are listed from the last to the first. -/
  | fork (nexts : List Nat)
  | pass (next : Nat)
  | accept
  deriving Repr, Inhabited

namespace State

/-- The states that a byte leads to. -/
def after (byte : Nat) : State → List Nat
  | .byte step => if step.admits byte then [step.next] else []
  | .bytes steps => (steps.find? (·.admits byte)).toList.map (·.next)
  | _ => []

/-- The number of the states that a state leads to at once. -/
def links : State → Nat
  | .check _ _ => 1
  | .fork nexts => nexts.length
  | .pass _ => 1
  | _ => 0

end State

/-- The states reached at a place: those that wait for a byte, whether one accepts, and for every
state the number of the last place at which it was reached. -/
structure Front where
  waiting : List State
  accepting : Bool
  reached : Array Nat

end Automaton

/-- States with their numbers as indices, and the state that every path starts from. -/
structure Automaton where
  states : Array Automaton.State
  start : Nat
  deriving Repr, Inhabited

namespace Automaton

/-- The number of all links of an automaton. -/
def links (a : Automaton) : Nat :=
  a.states.foldl (fun n s => n + s.links) 0

/-- Follows the links from some states at the place with a number. A state is entered once at
every place, so with as many rounds as there are links and states to begin with, all are
followed. -/
def follow (a : Automaton) (holds : Assertion → Bool) (place : Nat) :
    Nat → List Nat → Front → Front
  | 0, _, front => front
  | _, [], front => front
  | rounds + 1, s :: todo, front =>
    if front.reached[s]? == some place then follow a holds place rounds todo front
    else
      let front := { front with reached := front.reached.setIfInBounds s place }
      match a.states[s]? with
      | some (.check c next) =>
        follow a holds place rounds (if holds c then next :: todo else todo) front
      | some (.fork nexts) => follow a holds place rounds (nexts ++ todo) front
      | some (.pass next) => follow a holds place rounds (next :: todo) front
      | some .accept => follow a holds place rounds todo { front with accepting := true }
      | some state =>
        follow a holds place rounds todo { front with waiting := state :: front.waiting }
      | none => follow a holds place rounds todo front

/-- The states reached at a place from some states on. -/
def frontAt (a : Automaton) (links : Nat) (holds : Assertion → Bool) (place : Nat)
    (entered : List Nat) (reached : Array Nat) : Front :=
  a.follow holds place (entered.length + links + 1) entered
    { waiting := [], accepting := false, reached }

/-- The states that the bytes of a character lead to from a front, with the number of the place
after them. Inside a character no assertion holds. -/
def advance (a : Automaton) (links : Nat) :
    List Nat → Nat → Front → List Nat × Nat × Array Nat
  | [], place, front => ([], place, front.reached)
  | [byte], place, front => (front.waiting.flatMap (·.after byte), place + 1, front.reached)
  | byte :: bytes, place, front =>
    advance a links bytes (place + 1)
      (a.frontAt links (fun _ => false) (place + 1) (front.waiting.flatMap (·.after byte))
        front.reached)

/-- Whether a match ends at the present place or a later one. Known are the character before the
place, the states entered there, and the characters that follow. -/
def reachesMatch (a : Automaton) (links : Nat) (before : Option Char) (place : Nat)
    (entered : List Nat) (reached : Array Nat) : List Char → Bool
  | [] => (a.frontAt links (Assertion.holds before none) place entered reached).accepting
  | c :: cs =>
    let front := a.frontAt links (Assertion.holds before (some c)) place entered reached
    if front.accepting then true
    else
      let (entered, place, reached) := a.advance links (Text.utf8Bytes c.toNat) place front
      a.reachesMatch links (some c) place entered reached cs

/-- Whether the automaton finds a match in a text. -/
def isMatch (a : Automaton) (text : String) : Bool :=
  a.reachesMatch a.links none 1 [a.start] (Array.replicate a.states.size 0) text.toList

end Automaton

end DeclWeave
