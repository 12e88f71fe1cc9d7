import DeclWeave.Pattern.Basic

/-!
# The Normal Form of Patterns

Patterns are built by functions that keep them in normal form:

* a set of one character is a literal;
* a sequence leans to the right, has no empty member and no two literals side by side;
* alternatives lean to the right, are no sets throughout, and do not all begin with the same
  member of a sequence;
* what matches places only is repeated once at most, and nothing is repeated exactly once.

Each function matches what its name says; the normal form matters for the size of a pattern.
-/

namespace DeclWeave.Pattern

open Text (CharSet)

/-- The pattern that matches nothing. -/
def fail : Pattern :=
  .set .none

/-- Any one character of a set. -/
def ofSet (s : CharSet) : Pattern :=
  match s.only? with
  | some c => .literal [c]
  | none => .set s

/-! ### Sequences -/

/-- The members of a sequence; the pattern itself if it is none. -/
def members : Pattern → List Pattern
  | .seq p q => p :: q.members
  | .empty => []
  | p => [p]

/-- The sequence of some members that are in normal form already. -/
def ofMembers : List Pattern → Pattern
  | [] => .empty
  | [p] => p
  | p :: ps => .seq p (ofMembers ps)

/-- Puts a member before others, joining it with a literal that comes first. -/
def consMember : Pattern → List Pattern → List Pattern
  | .literal s, .literal t :: rest => .literal (s ++ t) :: rest
  | p, rest => p :: rest

/-- One pattern after the other. -/
def sequence (ps : List Pattern) : Pattern :=
  ofMembers ((ps.flatMap members).foldr consMember [])

/-! ### Alternatives -/

/-- The alternatives of a pattern; the pattern itself if there are none. -/
def branches : Pattern → List Pattern
  | .alt p q => p :: q.branches
  | p => [p]

/-- The choice between some branches that are in normal form already. -/
def ofBranches : List Pattern → Pattern
  | [] => fail
  | [p] => p
  | p :: ps => .alt p (ofBranches ps)

/-- The character of a literal of one character. -/
def character? : Pattern → Option Char
  | .literal [c] => some c
  | _ => none

/-- The set of a pattern that is one. -/
def set? : Pattern → Option CharSet
  | .set s => some s
  | _ => none

/-- What two lists begin with in common. -/
def commonPrefix : List Pattern → List Pattern → List Pattern
  | p :: ps, q :: qs => if p = q then p :: commonPrefix ps qs else []
  | _, _ => []

/-- What all of some lists begin with. -/
def sharedPrefix : List (List Pattern) → List Pattern
  | [] => []
  | ps :: rest => rest.foldl commonPrefix ps

/-- The choice between some branches. What all of them begin with is taken out; the rests are
alternatives again, with at most `fuel` rounds. -/
def choice : Nat → List Pattern → Pattern
  | 0, ps => ofBranches (ps.flatMap branches)
  | fuel + 1, ps =>
    match ps.flatMap branches with
    | [] => fail
    | [p] => p
    | ps =>
      match ps.mapM character?, ps.mapM set? with
      | some cs, _ => ofSet (.unionAll (cs.map .single))
      | none, some sets => ofSet (.unionAll sets)
      | none, none =>
        let parts := ps.map members
        let shared := if parts.all (1 < ·.length) then sharedPrefix parts else []
        if shared.isEmpty then ofBranches ps
        else
          sequence (shared ++ [choice fuel (parts.map fun part =>
            ofMembers (part.drop shared.length))])

/-- Any of some patterns. -/
def alternatives (ps : List Pattern) : Pattern :=
  choice ((ps.map size).foldl (· + ·) 0 + 1) ps

/-! ### Repetition -/

/-- A pattern several times. -/
def repeated (p : Pattern) (least : Nat) (most : Option Nat) (greedy : Bool) : Pattern :=
  let (least, most) :=
    if p.onlyPlaces then (min least 1, some ((most.map (min · 1)).getD 1)) else (least, most)
  if least = 0 ∧ most = some 0 then .empty
  else if least = 1 ∧ most = some 1 then p
  else .repetition p least most greedy

end DeclWeave.Pattern
