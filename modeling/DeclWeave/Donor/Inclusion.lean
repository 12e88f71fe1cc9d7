import DeclWeave.Donor.Bank

/-!
# Included Members

A donor's member is included in a target that lacks it when it is untagged or a member that it
demands is itself included. `DonorBank.included` is the least set closed under this rule: it
begins with what is untagged and follows the demands backwards, from each member that has joined
to those that demand it, until no member is left to follow from.
-/

namespace DeclWeave.DonorBank

open DeclWeave.Graph (fresh)

/-- Takes in a member that the target lacks and that has not joined yet; it is then to be
followed from. The state is what has joined and what is still to be followed from. -/
def join (absent : List Nat) (state : List Nat × List Nat) (i : Nat) : List Nat × List Nat :=
  if i ∈ fresh absent state.1 then (i :: state.1, i :: state.2) else state

/-- A member that joins is no longer one that can. -/
theorem weight_join_le (absent : List Nat) (state : List Nat × List Nat) (i : Nat) :
    (fresh absent (join absent state i).1).length + (join absent state i).2.length ≤
      (fresh absent state.1).length + state.2.length := by
  unfold join
  split
  · have := Graph.fresh_length_lt_cons ‹i ∈ fresh absent state.1›
    simp only [List.length_cons]
    omega
  · exact Nat.le_refl _

theorem weight_foldl_join_le (absent : List Nat) (state : List Nat × List Nat) (is : List Nat) :
    (fresh absent (is.foldl (join absent) state).1).length +
        (is.foldl (join absent) state).2.length ≤
      (fresh absent state.1).length + state.2.length := by
  induction is generalizing state with
  | nil => exact Nat.le_refl _
  | cons i is ih => exact Nat.le_trans (ih _) (weight_join_le absent state i)

/-- What has joined when all of `work` has been followed from; of `absent`, a member joins as
soon as one that it demands has. -/
def close (b : DonorBank) (absent inside : List Nat) : (work : List Nat) → List Nat
  | [] => inside
  | i :: work =>
    let state := (b.dependents i).foldl (join absent) (inside, work)
    b.close absent state.1 state.2
termination_by work => (fresh absent inside).length + work.length
decreasing_by
  have := weight_foldl_join_le absent (inside, work) (b.dependents i)
  simp only [List.length_cons] at this ⊢
  omega

/-- The handles of the members that a target lacks in which the names satisfying `present`
exist. -/
def absent (b : DonorBank) (present : String → Bool) : List Nat :=
  b.handles.filter fun i => (b.members[i]?).any fun m => !present m.name

/-- The handles, in order, of the members that a target receives in which the names satisfying
`present` exist. -/
def included (b : DonorBank) (present : String → Bool) : List Nat :=
  let untagged := (b.absent present).filter fun i => (b.demand i).isNone
  let inside := b.close (b.absent present) untagged untagged.reverse
  b.handles.filter (inside.contains ·)

end DeclWeave.DonorBank
