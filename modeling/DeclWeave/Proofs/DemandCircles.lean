import DeclWeave.Proofs.DepthFirstOrder
import DeclWeave.Proofs.DonorInclusion
import DeclWeave.Proofs.KeptDirectives

/-!
# Circles of Demands

The tags of an interface make a graph of its donated members: an edge leads from a tagged member to
each donated one that its tag names. A bank is searched for a circle in this graph depth-first, and
the search stops at the first edge that leads back. So it finds a circle exactly where there is
one, what it finds is one, and what is reported and rejected follows.

The graph is one of names; the search runs on handles. Where no member name is used twice, the two
are the same graph (`linked_ofDecl_iff`).

## Main results

* `findCycle_eq_none_iff` and `isCircuit_of_findCycle`: for any bank, the search over its demands
  is complete and sound.
* `entries_ofDecl` and `rejected_ofDecl`: what is reported of a declaration and when its bank is
  rejected, in terms of what the search finds.
* `circles_ofDecl`: the search, the report and the rejection in terms of the graph of names.
-/

namespace DeclWeave

open Relation (TransGen)

/-- The donated member at one place is tagged, and its tag names the donated member at another. -/
def TypeDecl.Demands (plan : TypeDecl) (i j : ℕ) : Prop :=
  ∃ m m' names, (plan.members.filter DonorBank.isDonated)[i]? = some m ∧
    (plan.members.filter DonorBank.isDonated)[j]? = some m' ∧
      m.usedOnlyBy? = some names ∧ m'.name ∈ names

namespace DonorBank

variable {b : DonorBank} {settings : Settings} {plan : TypeDecl} {i j : ℕ} {path : List ℕ}

/-- A path of at least one step that ends where it begins and is nowhere else twice. -/
structure IsCircuit (r : ℕ → ℕ → Prop) (path : List ℕ) : Prop where
  two_le_length : 2 ≤ path.length
  head?_eq_getLast? : path.head? = path.getLast?
  nodup_dropLast : path.dropLast.Nodup
  isChain : path.IsChain r

theorem IsCircuit.mono {r r' : ℕ → ℕ → Prop} (hr : ∀ i j, r i j → r' i j)
    (h : IsCircuit r path) : IsCircuit r' path :=
  { h with isChain := h.isChain.imp hr }

/-! ### The search of a bank -/

/-- The edges of the search: those to what a member demands. -/
def searched (b : DonorBank) (i : ℕ) : List (ℕ × Unit) :=
  ((b.demand i).getD []).map (·, ())

/-- The graph that is searched. -/
def Linked (b : DonorBank) : ℕ → ℕ → Prop :=
  DepthFirst.Linked b.handles b.searched

theorem linked_iff : b.Linked i j ↔ j < b.members.length ∧ j ∈ (b.demand i).getD [] := by
  simp [Linked, DepthFirst.Linked, handles, searched]

/-- What is found is the path of the first edge that leads back, with its start added at the
end. -/
theorem findCycle_eq (b : DonorBank) : b.findCycle =
    (DepthFirst.backEdges (DepthFirst.trace b.handles b.searched)).head?.map
      fun back => back.1 ++ back.1.take 1 := by
  have hedges : (fun i => ((b.demand i).getD []).map (·, ())) = b.searched := rfl
  rw [findCycle, hedges]
  cases DepthFirst.backEdges (DepthFirst.trace b.handles b.searched) <;> rfl

/-- **The search is complete**: where nothing is found there is no circle. -/
theorem findCycle_eq_none_iff : b.findCycle = none ↔ ∀ i, ¬TransGen b.Linked i i := by
  rw [findCycle_eq, Option.map_eq_none_iff, List.head?_eq_none_iff,
    DepthFirst.backEdges_eq_nil_iff]
  rfl

/-- **The search is sound**: what is found is a circle. -/
theorem isCircuit_of_findCycle (h : b.findCycle = some path) : IsCircuit b.Linked path := by
  rw [findCycle_eq, Option.map_eq_some_iff] at h
  obtain ⟨⟨around, label⟩, hback, rfl⟩ := h
  have hback := List.mem_of_mem_head? hback
  obtain ⟨hchain, first, last, hfirst, hlast, hmem, hedge⟩ :=
    DepthFirst.isCircle_of_mem_backEdges hback
  have hnodup := DepthFirst.nodup_of_mem_backEdges hback
  obtain ⟨rest, rfl⟩ := List.head?_eq_some_iff.mp hfirst
  have htake : (first :: rest).take 1 = [first] := rfl
  refine ⟨by simp, ?_, ?_, ?_⟩
  · rw [htake, List.getLast?_concat]
    rfl
  · rw [htake, List.dropLast_concat]
    exact hnodup
  refine List.isChain_append.mpr ⟨hchain, by simp, fun x hx y hy => ?_⟩
  obtain rfl : last = x := Option.some.inj (hlast.symm.trans hx)
  obtain rfl : first = y := by simpa using hy
  exact ⟨hmem, label, hedge⟩

/-! ### The bank of a declaration -/

/-- A handle that demands something is one of a member. -/
theorem exists_member_of_mem_demand (h : j ∈ ((ofDecl settings plan).1.demand i).getD []) :
    ∃ m, (ofDecl settings plan).1.members[i]? = some m := by
  refine Option.ne_none_iff_exists'.mp fun hnone => ?_
  rw [members_ofDecl] at hnone
  simp [demand, demands_ofDecl, hnone] at h

/-- Only a tagged member demands others, and those are the members that its tag names. -/
theorem mem_getD_demand_ofDecl_iff (h : plan.memberNames.Nodup) {m : Member}
    (hm : (ofDecl settings plan).1.members[i]? = some m) :
    j ∈ ((ofDecl settings plan).1.demand i).getD [] ↔
      ∃ m' names, (ofDecl settings plan).1.members[j]? = some m' ∧
        m.usedOnlyBy? = some names ∧ m'.name ∈ names := by
  cases hnames : m.usedOnlyBy? with
  | none => simp [(demand_ofDecl_eq_none_iff hm).mpr hnames]
  | some names =>
    obtain ⟨demanded, hd⟩ : ∃ demanded, (ofDecl settings plan).1.demand i = some demanded := by
      rw [demand_ofDecl settings plan hm, demandOf, hnames]
      exact ⟨_, rfl⟩
    rw [hd, Option.getD_some, mem_demand_ofDecl_iff h hm hd, hnames]
    simp

/-- **Handles stand for names**: where no name is used twice, the graph that is searched is the one
that the tags describe. -/
theorem linked_ofDecl_iff (h : plan.memberNames.Nodup) :
    (ofDecl settings plan).1.Linked i j ↔ plan.Demands i j := by
  rw [linked_iff, TypeDecl.Demands, ← members_ofDecl settings plan]
  constructor
  · rintro ⟨-, hj⟩
    obtain ⟨m, hm⟩ := exists_member_of_mem_demand hj
    obtain ⟨m', names, hm', hnames, hname⟩ := (mem_getD_demand_ofDecl_iff h hm).mp hj
    exact ⟨m, m', names, hm, hm', hnames, hname⟩
  · rintro ⟨m, m', names, hm, hm', hnames, hname⟩
    refine ⟨(List.getElem?_eq_some_iff.mp hm').1, ?_⟩
    exact (mem_getD_demand_ofDecl_iff h hm).mpr ⟨m', names, hm', hnames, hname⟩

/-- Whether a bank is rejected has no bearing on its demands. -/
theorem findCycle_ofDecl (settings : Settings) (plan : TypeDecl) :
    (ofDecl settings plan).1.findCycle = (unchecked plan).findCycle := by
  rw [ofDecl_eq, judge]
  cases hcycle : (unchecked plan).findCycle with
  | none => exact hcycle
  | some cycle => cases settings.cyclePolicy <;> exact hcycle

/-- The finding about a circle: the members along it, as an error if circles are rejected. -/
def circleFinding (settings : Settings) (plan : TypeDecl) (path : List ℕ) : Diagnostic :=
  let names := path.filterMap fun i => (plan.members.filter isDonated)[i]?.map (·.name)
  let severity : Severity := match settings.cyclePolicy with
    | .reject => .error
    | .leastFixpoint => .warning
  ⟨severity, plan.fault (.cyclicDemand plan.name names) plan.span⟩

theorem entries_foldl_warning (faults : List Fault) (found : Diagnostics) :
    (faults.foldl .warning found).entries =
      found.entries ++ faults.map (Diagnostic.mk .warning) := by
  induction faults generalizing found with
  | nil => exact (List.append_nil _).symm
  | cons fault faults ih => simp [ih]

/-- **What is reported**: the loose tags, and then the circle that is found. -/
theorem entries_ofDecl (settings : Settings) (plan : TypeDecl) :
    (ofDecl settings plan).2.entries =
      (loose plan (plan.members.filter isDonated)).map (Diagnostic.mk .warning) ++
        ((ofDecl settings plan).1.findCycle.map (circleFinding settings plan)).toList := by
  have hloose := entries_foldl_warning (loose plan (unchecked plan).members) {}
  rw [findCycle_ofDecl, ofDecl_eq, judge]
  cases (unchecked plan).findCycle with
  | none => exact hloose.trans (List.append_nil _).symm
  | some cycle =>
    rw [Option.map_some, Option.toList_some, circleFinding]
    cases settings.cyclePolicy <;> exact congrArg (· ++ [_]) hloose

/-- **What is rejected**: a bank with a circle, under the policy that rejects these. -/
theorem rejected_ofDecl (settings : Settings) (plan : TypeDecl) :
    (ofDecl settings plan).1.rejected = true ↔
      (ofDecl settings plan).1.findCycle ≠ none ∧ settings.cyclePolicy = .reject := by
  rw [findCycle_ofDecl, ofDecl_eq, judge]
  cases (unchecked plan).findCycle with
  | none => simp [unchecked]
  | some cycle => cases settings.cyclePolicy <;> simp [unchecked]

/-- The findings about loose tags are not about circles. -/
theorem cause_ne_cyclicDemand_of_mem_loose {ms : List Member} {fault : Fault}
    (h : fault ∈ loose plan ms) (donor : String) (names : List String) :
    fault.cause ≠ .cyclicDemand donor names := by
  rcases List.mem_append.mp h with h | h
  · obtain ⟨m, -, h⟩ := List.mem_flatMap.mp h
    obtain ⟨cause, hcause, rfl⟩ := List.mem_map.mp h
    obtain ⟨tag, -, rfl⟩ := List.mem_map.mp hcause
    exact Cause.noConfusion
  · obtain ⟨m, -, h⟩ := List.mem_flatMap.mp h
    obtain ⟨name, -, rfl⟩ := List.mem_map.mp h
    by_cases hname : (plan.member? name).isSome
    · rw [if_pos hname]
      exact Cause.noConfusion
    · rw [if_neg hname]
      exact Cause.noConfusion

/-- A circle is reported exactly where one is found. -/
theorem exists_cyclicDemand_iff :
    (∃ entry ∈ (ofDecl settings plan).2.entries, ∃ donor names,
      entry.fault.cause = .cyclicDemand donor names) ↔
        (ofDecl settings plan).1.findCycle ≠ none := by
  rw [entries_ofDecl]
  constructor
  · rintro ⟨entry, hentry, donor, names, hcause⟩ hnone
    rw [hnone, Option.map_none, Option.toList_none, List.append_nil] at hentry
    obtain ⟨fault, hfault, rfl⟩ := List.mem_map.mp hentry
    exact cause_ne_cyclicDemand_of_mem_loose hfault donor names hcause
  · intro hsome
    obtain ⟨path, hpath⟩ := Option.ne_none_iff_exists'.mp hsome
    refine ⟨circleFinding settings plan path, ?_, plan.name, _, rfl⟩
    rw [hpath]
    exact List.mem_append_right _ List.mem_cons_self

/-! ### Circles of names -/

theorem findCycle_ofDecl_eq_none_iff (settings : Settings) (h : plan.memberNames.Nodup) :
    (ofDecl settings plan).1.findCycle = none ↔ ∀ i, ¬TransGen plan.Demands i i := by
  have hsame : (ofDecl settings plan).1.Linked = plan.Demands :=
    funext fun _ => funext fun _ => propext (linked_ofDecl_iff h)
  rw [findCycle_eq_none_iff, hsame]

/-- **Circles of demands are found exactly.** In the graph in which a tagged member leads to the
donated members that its tag names, the search finds nothing if and only if there is no circle, and
what it finds is one. A circle is reported if and only if there is one, and the bank is rejected if
and only if there is one and circles are to be rejected. -/
theorem circles_ofDecl (settings : Settings) (plan : TypeDecl) (h : plan.memberNames.Nodup) :
    let b := (ofDecl settings plan).1
    let found := (ofDecl settings plan).2
    (b.findCycle = none ↔ ∀ i, ¬TransGen plan.Demands i i) ∧
    (∀ path, b.findCycle = some path → IsCircuit plan.Demands path) ∧
    ((∃ entry ∈ found.entries, ∃ donor names,
      entry.fault.cause = .cyclicDemand donor names) ↔ ∃ i, TransGen plan.Demands i i) ∧
    (b.rejected = true ↔
      (∃ i, TransGen plan.Demands i i) ∧ settings.cyclePolicy = .reject) := by
  intro b found
  have hnone := findCycle_ofDecl_eq_none_iff settings h
  have hsome : b.findCycle ≠ none ↔ ∃ i, TransGen plan.Demands i i := by
    rw [ne_eq, hnone, not_forall_not]
  refine ⟨hnone, fun path hpath => ?_, exists_cyclicDemand_iff.trans hsome, ?_⟩
  · exact (isCircuit_of_findCycle hpath).mono fun _ _ => (linked_ofDecl_iff h).mp
  · rw [rejected_ofDecl]
    exact and_congr_left fun _ => hsome

/-- A donor with a circle between two members and a member that demands itself is rejected, and
what is found in it is a circle. -/
theorem circles_ofDecl_circleDonor :
    circleDonor.memberNames.Nodup ∧ (ofDecl {} circleDonor).1.rejected = true ∧
      ∃ path, (ofDecl {} circleDonor).1.findCycle = some path ∧
        IsCircuit circleDonor.Demands path := by
  have hnodup : circleDonor.memberNames.Nodup := by decide
  obtain ⟨hnone, hcircuit, -, hrejected⟩ := circles_ofDecl {} circleDonor hnodup
  have hself : TransGen circleDonor.Demands 3 3 :=
    .single ⟨_, _, _, rfl, rfl, rfl, by decide⟩
  refine ⟨hnodup, hrejected.mpr ⟨⟨3, hself⟩, rfl⟩, ?_⟩
  obtain ⟨path, hpath⟩ := Option.ne_none_iff_exists'.mp fun hfound => hnone.mp hfound 3 hself
  exact ⟨path, hpath, hcircuit path hpath⟩

end DonorBank

end DeclWeave
