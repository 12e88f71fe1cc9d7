import DeclWeave.Proofs.AttributedFindings
import DeclWeave.Proofs.WeaveContents

/-!
# Interleaved Weaves

The donors of a target are woven in one after the other, but a `DonorWeave` does not rely on it:
what it includes is computed at one moment and copied at a later one, and other weaves may have
taken names in between. Here any number of weaves share one registry, and their steps, and claims
from outside, come in any order and any number of times. Each weave still goes through its stages
once, for a step that is not its turn fails before it has touched anything; the name of a copy is
claimed when it is made; and a weave holds back the initializers of just the fields it has copied.

What has been given is read from the record of the moves that succeeded. `Loom.Sound` is the
invariant: it relates this record to the registry and to the stages, and one move keeps it.

## Main results

* `Loom.Sound.exists_attempt_eq_ok`, `Loom.attempt_eq_error`: a move succeeds just in its turn.
* `Loom.Sound.after`, `Loom.Sound.run`: the invariant, by one move and by induction.
* `Loom.Sound.copiesBy_after_splice`: with distinct names in the bank, a weave copies what it has
  included and nobody has taken since.
* `Loom.run_keepsToTurns`: the moves in any order.
-/

namespace DeclWeave

/-! ### Moves -/

/-- Something done with the weaves of a family, or with the names that they share. -/
inductive Move (ι : Type) where
  | closure (i : ι)
  | splice (i : ι) (target : TypeDecl)
  | finalize (i : ι)
  | claim (name : String)

/-- What a move gives that succeeds. -/
inductive Yield (ι : Type) where
  | included (i : ι) (handles : List ℕ)
  | spliced (i : ι) (copies : List SplicedMember)
  | handed (i : ι) (inits : List DefaultInit)
  | claimed (name : String)

namespace Yield

variable {ι : Type}

/-- The name that was claimed from outside. -/
def claims : Yield ι → List String
  | claimed name => [name]
  | _ => []

/-- What was copied, by whichever weave. -/
def copies : Yield ι → List Member
  | spliced _ copies => copies.map (·.member)
  | _ => []

variable [DecidableEq ι]

/-- What one weave copied. -/
def copiesBy (i : ι) : Yield ι → List Member
  | spliced j copies => if j = i then copies.map (·.member) else []
  | _ => []

/-- What one weave handed over, as often as it did. -/
def handedBy (i : ι) : Yield ι → List (List DefaultInit)
  | handed j inits => if j = i then [inits] else []
  | _ => []

end Yield

/-- Weaves that share their names, with what their moves have given so far. -/
structure Loom (ι : Type) where
  weaves : ι → DonorWeave
  registry : NameRegistry
  yields : List (Yield ι) := []

namespace Loom

variable {ι : Type} {s s' : Loom ι} {donors : ι → Donor} {registry : NameRegistry} {i : ι}

/-- One weave for each donor, before its first step. -/
def start (donors : ι → Donor) (registry : NameRegistry) : Loom ι where
  weaves i := { donor := donors i }
  registry := registry

/-- The names claimed from outside. -/
def claimed (s : Loom ι) : List String :=
  s.yields.flatMap Yield.claims

/-- The names under which members were copied. -/
def splicedNames (s : Loom ι) : List String :=
  (s.yields.flatMap Yield.copies).map (·.name)

/-- Whether it is the turn of a move. -/
def IsReady (s : Loom ι) : Move ι → Prop
  | .closure i => (s.weaves i).stage = .unresolved
  | .splice i _ => ∃ included, (s.weaves i).stage = .closureComputed included
  | .finalize i => ∃ pending, (s.weaves i).stage = .spliced pending
  | .claim name => name ∉ s.registry.names

/-- The fault of a move that is not in its turn. -/
def refusal (s : Loom ι) : Move ι → Fault
  | .closure i => (s.weaves i).outOfTurn "compute_closure" .unresolved
  | .splice i _ => (s.weaves i).outOfTurn "splice" (.closureComputed [])
  | .finalize i => (s.weaves i).outOfTurn "finalize" (.spliced [])
  | .claim name => ⟨.policyConflict s.registry.target name, none⟩

section Moves

variable [DecidableEq ι]

/-- What one weave has copied. -/
def copiesBy (s : Loom ι) (i : ι) : List Member :=
  s.yields.flatMap (Yield.copiesBy i)

/-- What one weave has handed over, as often as it did. -/
def handedBy (s : Loom ι) (i : ι) : List (List DefaultInit) :=
  s.yields.flatMap (Yield.handedBy i)

/-- Takes one weave a step further, with what the step gives. -/
def put (s : Loom ι) (i : ι) (w : DonorWeave) (registry : NameRegistry) (y : Yield ι) : Loom ι where
  weaves := Function.update s.weaves i w
  registry := registry
  yields := s.yields ++ [y]

theorem weaves_put_self (s : Loom ι) (i : ι) (w : DonorWeave) (registry : NameRegistry)
    (y : Yield ι) : (s.put i w registry y).weaves i = w :=
  Function.update_self ..

theorem weaves_put_of_ne {j : ι} (h : j ≠ i) (w : DonorWeave) (registry : NameRegistry)
    (y : Yield ι) : (s.put i w registry y).weaves j = s.weaves j :=
  Function.update_of_ne h ..

theorem copiesBy_put (s : Loom ι) (i j : ι) (w : DonorWeave) (registry : NameRegistry)
    (y : Yield ι) : (s.put i w registry y).copiesBy j = s.copiesBy j ++ y.copiesBy j := by
  rw [copiesBy, put, List.flatMap_append, List.flatMap_singleton, copiesBy]

theorem handedBy_put (s : Loom ι) (i j : ι) (w : DonorWeave) (registry : NameRegistry)
    (y : Yield ι) : (s.put i w registry y).handedBy j = s.handedBy j ++ y.handedBy j := by
  rw [handedBy, put, List.flatMap_append, List.flatMap_singleton, handedBy]

/-- Makes a move. -/
def attempt (s : Loom ι) : Move ι → Except Fault (Loom ι)
  | .closure i => do
    let (w, handles) ← (s.weaves i).computeClosure s.registry
    return s.put i w s.registry (.included i handles)
  | .splice i target => do
    let (w, copies, registry) ← (s.weaves i).splice target s.registry
    return s.put i w registry (.spliced i copies)
  | .finalize i => do
    let (w, inits) ← (s.weaves i).finalize
    return s.put i w s.registry (.handed i inits)
  | .claim name => do
    let registry ← s.registry.claim name
    return { s with registry, yields := s.yields ++ [.claimed name] }

/-- How things stand after a move; one that fails leaves them as they were. -/
def after (s : Loom ι) (m : Move ι) : Loom ι :=
  match s.attempt m with
  | .ok s' => s'
  | .error _ => s

/-- Some moves, one after the other. -/
def run (s : Loom ι) (moves : List (Move ι)) : Loom ι :=
  moves.foldl after s

/-! ### One move -/

/-- **A move not in its turn** fails before it has touched anything. -/
theorem attempt_eq_error {m : Move ι} (h : ¬ s.IsReady m) :
    s.attempt m = .error (s.refusal m) := by
  cases m with
  | closure i =>
    rw [attempt, DonorWeave.computeClosure]
    split
    · rename_i hstage
      exact absurd hstage h
    · rfl
  | splice i target =>
    rw [attempt, DonorWeave.splice]
    split
    · rename_i included hstage
      exact absurd ⟨included, hstage⟩ h
    · rfl
  | finalize i =>
    rw [attempt, DonorWeave.finalize]
    split
    · rename_i pending hstage
      exact absurd ⟨pending, hstage⟩ h
    · rfl
  | claim name =>
    have htaken : s.registry.claim? name = none :=
      NameRegistry.claim?_eq_none_iff.mpr (not_not.mp h)
    rw [attempt, NameRegistry.claim, htaken]
    rfl

theorem after_eq_self {m : Move ι} (h : ¬ s.IsReady m) : s.after m = s := by
  rw [after, attempt_eq_error h]

theorem attempt_closure_eq (h : (s.weaves i).stage = .unresolved) :
    let handles := (s.weaves i).donor.includedIn s.registry
    s.attempt (.closure i) = .ok (s.put i { s.weaves i with stage := .closureComputed handles }
      s.registry (.included i handles)) := by
  rw [attempt, DonorWeave.computeClosure, h]
  rfl

theorem attempt_splice_eq_ok {target : TypeDecl} {included : List ℕ} {copied : Spliced}
    (h : (s.weaves i).stage = .closureComputed included)
    (hcopied : (s.weaves i).donor.splice target s.registry included = .ok copied) :
    s.attempt (.splice i target) = .ok (s.put i { s.weaves i with stage := .spliced copied.inits }
      copied.registry (.spliced i copied.members)) := by
  rw [attempt, DonorWeave.splice, h]
  dsimp only
  rw [hcopied]
  rfl

theorem attempt_finalize_eq {pending : List DefaultInit}
    (h : (s.weaves i).stage = .spliced pending) :
    s.attempt (.finalize i) = .ok (s.put i { s.weaves i with stage := .finalized }
      s.registry (.handed i pending)) := by
  rw [attempt, DonorWeave.finalize, h]
  rfl

theorem attempt_claim_eq {name : String} (h : name ∉ s.registry.names) :
    s.attempt (.claim name) = .ok { s with
      registry := { s.registry with names := name :: s.registry.names }
      yields := s.yields ++ [.claimed name] } := by
  rw [attempt, NameRegistry.claim, NameRegistry.claim?_eq_some h]
  rfl

/-! ### What a weave has given -/

end Moves

/-- What the weave of a donor has given by the time it has come to a stage: nothing before it has
copied, and the initializers of what it copied only when all is done. -/
inductive HasGiven (d : Donor) : WeaveStage → List Member → List (List DefaultInit) → Prop
  | unresolved : HasGiven d .unresolved [] []
  | closureComputed {included : List ℕ} (h : included.Sublist d.bank.handles) :
      HasGiven d (.closureComputed included) [] []
  | spliced {target : TypeDecl} {given : List Member} (h : given.Sublist d.bank.members) :
      HasGiven d (.spliced (given.filterMap (d.initOf target))) (given.map (d.copy target)) []
  | finalized {target : TypeDecl} {given : List Member} (h : given.Sublist d.bank.members) :
      HasGiven d .finalized (given.map (d.copy target)) [given.filterMap (d.initOf target)]

namespace HasGiven

variable {d : Donor} {copies : List Member} {handed : List (List DefaultInit)}

theorem eq_nil_of_unresolved (h : HasGiven d .unresolved copies handed) :
    copies = [] ∧ handed = [] := by
  cases h
  exact ⟨rfl, rfl⟩

theorem of_closureComputed {included : List ℕ}
    (h : HasGiven d (.closureComputed included) copies handed) :
    included.Sublist d.bank.handles ∧ copies = [] ∧ handed = [] := by
  cases h with
  | closureComputed h => exact ⟨h, rfl, rfl⟩

theorem of_spliced {pending : List DefaultInit} (h : HasGiven d (.spliced pending) copies handed) :
    handed = [] ∧ HasGiven d .finalized copies [pending] := by
  cases h with
  | spliced h => exact ⟨rfl, .finalized h⟩

/-- In one sentence for all stages. -/
theorem exists_given {stage : WeaveStage} (h : HasGiven d stage copies handed) :
    ∃ (target : TypeDecl) (given : List Member), given.Sublist d.bank.members ∧
      copies = given.map (d.copy target) ∧
      (stage = .finalized → handed = [given.filterMap (d.initOf target)]) ∧
      (stage ≠ .finalized → handed = []) := by
  cases h with
  | unresolved =>
    exact ⟨default, [], List.nil_sublist _, rfl, fun h => absurd h (by simp), fun _ => rfl⟩
  | closureComputed h =>
    exact ⟨default, [], List.nil_sublist _, rfl, fun h => absurd h (by simp), fun _ => rfl⟩
  | spliced h => exact ⟨_, _, h, rfl, fun h => absurd h (by simp), fun _ => rfl⟩
  | finalized h => exact ⟨_, _, h, rfl, fun _ => rfl, fun h => absurd rfl h⟩

end HasGiven

/-- The registry has gained just the names claimed and copied, and none of them twice. -/
structure Accounts (known : List String) (s : Loom ι) : Prop where
  nodup : (s.claimed ++ s.splicedNames).Nodup
  fresh : ∀ name ∈ s.claimed ++ s.splicedNames, name ∉ known
  mem_names_iff : ∀ name,
    name ∈ s.registry.names ↔ name ∈ known ∨ name ∈ s.claimed ++ s.splicedNames

variable {known : List String}

/-- **New names** are accounted for when they were free. -/
theorem Accounts.grow (h : s.Accounts known) {y : Yield ι} (hyields : s'.yields = s.yields ++ [y])
    (hnodup : (y.claims ++ y.copies.map (·.name)).Nodup)
    (hfree : ∀ name ∈ y.claims ++ y.copies.map (·.name), name ∉ s.registry.names)
    (hnames : ∀ name, name ∈ s'.registry.names ↔
      name ∈ s.registry.names ∨ name ∈ y.claims ++ y.copies.map (·.name)) :
    s'.Accounts known := by
  have hperm : (s'.claimed ++ s'.splicedNames).Perm
      ((s.claimed ++ s.splicedNames) ++ (y.claims ++ y.copies.map (·.name))) := by
    rw [claimed, splicedNames, hyields, List.flatMap_append, List.flatMap_append, List.map_append,
      List.flatMap_singleton, List.flatMap_singleton, List.append_assoc, List.append_assoc]
    refine List.Perm.append_left _ ?_
    rw [← List.append_assoc, ← List.append_assoc]
    exact List.Perm.append_right _ List.perm_append_comm
  have hmem : ∀ name, name ∈ s'.claimed ++ s'.splicedNames ↔
      name ∈ s.claimed ++ s.splicedNames ∨ name ∈ y.claims ++ y.copies.map (·.name) := fun name =>
    hperm.mem_iff.trans List.mem_append
  refine ⟨?_, fun name hname hknown => ?_, fun name => ?_⟩
  · rw [hperm.nodup_iff]
    refine h.nodup.append hnodup fun name hold hnew => ?_
    exact hfree name hnew ((h.mem_names_iff name).mpr (.inr hold))
  · rcases (hmem name).mp hname with hold | hnew
    · exact h.fresh name hold hknown
    · exact hfree name hnew ((h.mem_names_iff name).mpr (.inl hknown))
  · rw [hnames, h.mem_names_iff, hmem, or_assoc]

variable [DecidableEq ι]

/-- How a family of weaves stands after any moves: the names are accounted for, and each weave has
given what its stage says. -/
structure Sound (donors : ι → Donor) (known : List String) (s : Loom ι) : Prop where
  accounts : s.Accounts known
  donor_eq : ∀ i, (s.weaves i).donor = donors i
  hasGiven : ∀ i, HasGiven (donors i) (s.weaves i).stage (s.copiesBy i) (s.handedBy i)

theorem sound_start (donors : ι → Donor) (registry : NameRegistry) :
    (start donors registry).Sound donors registry.names where
  accounts := ⟨List.nodup_nil, by simp [start, claimed, splicedNames],
    by simp [start, claimed, splicedNames]⟩
  donor_eq _ := rfl
  hasGiven _ := .unresolved

namespace Sound

theorem sublist_included (h : s.Sound donors known) {included : List ℕ}
    (hstage : (s.weaves i).stage = .closureComputed included) :
    included.Sublist (donors i).bank.handles := by
  have hgiven := h.hasGiven i
  rw [hstage] at hgiven
  exact hgiven.of_closureComputed.1

/-- What a weave has included, its donor has, so that copying does not fail. -/
theorem exists_splice_eq_ok (h : s.Sound donors known) {included : List ℕ}
    (hstage : (s.weaves i).stage = .closureComputed included) (target : TypeDecl) :
    ∃ copied, (s.weaves i).donor.splice target s.registry included = .ok copied := by
  refine Donor.exists_splice_eq_ok fun k hk => ?_
  rw [h.donor_eq i]
  exact List.mem_range.mp ((h.sublist_included hstage).subset hk)

/-- **Each move succeeds in its turn.** -/
theorem exists_attempt_eq_ok (h : s.Sound donors known) {m : Move ι} (hready : s.IsReady m) :
    ∃ s', s.attempt m = .ok s' := by
  cases m with
  | closure i => exact ⟨_, attempt_closure_eq hready⟩
  | splice i target =>
    obtain ⟨included, hstage⟩ := hready
    obtain ⟨copied, hcopied⟩ := h.exists_splice_eq_ok hstage target
    exact ⟨_, attempt_splice_eq_ok hstage hcopied⟩
  | finalize i =>
    obtain ⟨pending, hstage⟩ := hready
    exact ⟨_, attempt_finalize_eq hstage⟩
  | claim name => exact ⟨_, attempt_claim_eq hready⟩

/-- **One weave goes on** with `w` and gives `y`; the others stay as they are. -/
theorem put (h : s.Sound donors known) {w : DonorWeave} {y : Yield ι} {registry : NameRegistry}
    (haccounts : (s.put i w registry y).Accounts known) (hdonor : w.donor = donors i)
    (hgiven : HasGiven (donors i) w.stage (s.copiesBy i ++ y.copiesBy i)
      (s.handedBy i ++ y.handedBy i))
    (hother : ∀ j, j ≠ i → y.copiesBy j = [] ∧ y.handedBy j = []) :
    (s.put i w registry y).Sound donors known := by
  refine ⟨haccounts, fun j => ?_, fun j => ?_⟩
  · by_cases hj : j = i
    · obtain rfl := hj
      rw [weaves_put_self]
      exact hdonor
    · rw [weaves_put_of_ne hj]
      exact h.donor_eq j
  · rw [copiesBy_put, handedBy_put]
    by_cases hj : j = i
    · obtain rfl := hj
      rw [weaves_put_self]
      exact hgiven
    · obtain ⟨hnone, hnone'⟩ := hother j hj
      rw [weaves_put_of_ne hj, hnone, hnone', List.append_nil, List.append_nil]
      exact h.hasGiven j

/-- A move that takes no name. -/
theorem accounts_put (h : s.Sound donors known) {w : DonorWeave} {y : Yield ι}
    (hclaims : y.claims = []) (hcopies : y.copies = []) :
    (s.put i w s.registry y).Accounts known := by
  refine h.accounts.grow rfl ?_ ?_ ?_
  · simp [hclaims, hcopies]
  · simp [hclaims, hcopies]
  · simp [hclaims, hcopies, Loom.put]

theorem closure (h : s.Sound donors known) (hstage : (s.weaves i).stage = .unresolved) :
    let handles := (s.weaves i).donor.includedIn s.registry
    (s.put i { s.weaves i with stage := .closureComputed handles } s.registry
      (.included i handles)).Sound donors known := by
  intro handles
  have hgiven := h.hasGiven i
  rw [hstage] at hgiven
  obtain ⟨hcopies, hhanded⟩ := hgiven.eq_nil_of_unresolved
  refine h.put (h.accounts_put rfl rfl) (h.donor_eq i) ?_ fun j _ => ⟨rfl, rfl⟩
  rw [hcopies, hhanded, ← h.donor_eq i]
  exact .closureComputed List.filter_sublist

theorem splice (h : s.Sound donors known) {target : TypeDecl} {included : List ℕ}
    {copied : Spliced} (hstage : (s.weaves i).stage = .closureComputed included)
    (hcopied : (s.weaves i).donor.splice target s.registry included = .ok copied) :
    (s.put i { s.weaves i with stage := .spliced copied.inits } copied.registry
      (.spliced i copied.members)).Sound donors known := by
  have hgiven := h.hasGiven i
  rw [hstage] at hgiven
  obtain ⟨hincluded, hcopies, hhanded⟩ := hgiven.of_closureComputed
  have hclaims := Donor.claims_splice hcopied
  obtain ⟨given, hsub, hmembers, hinits⟩ := Donor.exists_given_splice hcopied
  rw [h.donor_eq i] at hsub hmembers hinits
  refine h.put ?_ (h.donor_eq i) ?_ fun j hj => ?_
  · refine h.accounts.grow rfl hclaims.nodup (fun name hname => ?_) fun name =>
      hclaims.mem_names_iff
    obtain ⟨m, hm, rfl⟩ := List.mem_map.mp hname
    exact hclaims.fresh m hm
  · rw [hcopies, hhanded, Yield.copiesBy, if_pos rfl, hmembers, hinits]
    exact .spliced (hsub.trans (Donor.given_sublist hincluded))
  · rw [Yield.copiesBy, if_neg (Ne.symm hj)]
    exact ⟨rfl, rfl⟩

theorem finalize (h : s.Sound donors known) {pending : List DefaultInit}
    (hstage : (s.weaves i).stage = .spliced pending) :
    (s.put i { s.weaves i with stage := .finalized } s.registry
      (.handed i pending)).Sound donors known := by
  have hgiven := h.hasGiven i
  rw [hstage] at hgiven
  obtain ⟨hhanded, hdone⟩ := hgiven.of_spliced
  refine h.put (h.accounts_put rfl rfl) (h.donor_eq i) ?_ fun j hj => ?_
  · change HasGiven (donors i) .finalized (s.copiesBy i ++ []) _
    rw [hhanded, Yield.handedBy, if_pos rfl, List.append_nil]
    exact hdone
  · rw [Yield.handedBy, if_neg (Ne.symm hj)]
    exact ⟨rfl, rfl⟩

theorem claim (h : s.Sound donors known) {name : String} (hfree : name ∉ s.registry.names) :
    Sound donors known { s with
      registry := { s.registry with names := name :: s.registry.names }
      yields := s.yields ++ [.claimed name] } where
  accounts := by
    refine h.accounts.grow rfl (List.nodup_singleton name) (by simpa [Yield.claims, Yield.copies])
      fun other => ?_
    simp [Yield.claims, Yield.copies, or_comm]
  donor_eq := h.donor_eq
  hasGiven := by
    intro j
    rw [copiesBy, handedBy, List.flatMap_append, List.flatMap_append]
    change HasGiven (donors j) (s.weaves j).stage (s.copiesBy j ++ []) (s.handedBy j ++ [])
    rw [List.append_nil, List.append_nil]
    exact h.hasGiven j

/-- **What a weave copies**, when the names of its donor are distinct: what it has included and
nobody has taken since. -/
theorem copiesBy_after_splice (h : s.Sound donors known)
    (hnames : ((donors i).bank.members.map (·.name)).Nodup) {included : List ℕ}
    (hstage : (s.weaves i).stage = .closureComputed included) (target : TypeDecl) :
    (s.after (.splice i target)).copiesBy i =
      (((donors i).given included).filter fun m => !s.registry.contains m.name).map
        ((donors i).copy target) := by
  have hincluded := h.sublist_included hstage
  have hcopied := (donors i).splice_eq target s.registry hnames
    (hincluded.nodup List.nodup_range) fun k hk => List.mem_range.mp (hincluded.subset hk)
  rw [← h.donor_eq i] at hcopied
  have hgiven := h.hasGiven i
  rw [hstage] at hgiven
  rw [Loom.after, attempt_splice_eq_ok hstage hcopied]
  dsimp only
  rw [copiesBy_put, hgiven.of_closureComputed.2.1, Yield.copiesBy, if_pos rfl, List.nil_append,
    Donor.given, List.filter_map, List.map_map, List.map_map, h.donor_eq i]
  rfl

/-- **One move** keeps the invariant. -/
theorem after (h : s.Sound donors known) (m : Move ι) : (s.after m).Sound donors known := by
  by_cases hready : s.IsReady m
  · rw [Loom.after]
    cases m with
    | closure i =>
      rw [attempt_closure_eq hready]
      exact h.closure hready
    | splice i target =>
      obtain ⟨included, hstage⟩ := hready
      obtain ⟨copied, hcopied⟩ := h.exists_splice_eq_ok hstage target
      rw [attempt_splice_eq_ok hstage hcopied]
      exact h.splice hstage hcopied
    | finalize i =>
      obtain ⟨pending, hstage⟩ := hready
      rw [attempt_finalize_eq hstage]
      exact h.finalize hstage
    | claim name =>
      rw [attempt_claim_eq hready]
      exact h.claim hready
  · rw [after_eq_self hready]
    exact h

/-- Any moves, by induction. -/
theorem run (h : s.Sound donors known) (moves : List (Move ι)) :
    (s.run moves).Sound donors known := by
  induction moves generalizing s with
  | nil => exact h
  | cons m moves ih => exact ih (h.after m)

end Sound

/-- **Moves in any order.** Whatever has been done before, a move succeeds just in its turn and
otherwise fails with its own fault, leaving all as it was. No name is copied or claimed twice, and
none that was known; the registry knows just those names beside the names it knew. What a weave has
copied are members of its donor, in the donor's order, and it hands over once, when it is finalized,
the initializers of just the fields among them. -/
theorem run_keepsToTurns (donors : ι → Donor) (registry : NameRegistry) (moves : List (Move ι)) :
    let s := (start donors registry).run moves
    (∀ m, ((∃ s', s.attempt m = .ok s') ↔ s.IsReady m) ∧
      (¬ s.IsReady m → s.attempt m = .error (s.refusal m) ∧ s.after m = s)) ∧
    (s.claimed ++ s.splicedNames).Nodup ∧
    (∀ name ∈ s.claimed ++ s.splicedNames, name ∉ registry.names) ∧
    (∀ name, name ∈ s.registry.names ↔
      name ∈ registry.names ∨ name ∈ s.claimed ∨ name ∈ s.splicedNames) ∧
    ∀ i, ∃ (target : TypeDecl) (given : List Member),
      given.Sublist (donors i).bank.members ∧
      s.copiesBy i = given.map ((donors i).copy target) ∧
      (given.filterMap ((donors i).initOf target)).map (·.field) =
        (given.filter fun m => m.isField && m.body.isSome).map (·.name) ∧
      ((s.weaves i).stage = .finalized →
        s.handedBy i = [given.filterMap ((donors i).initOf target)]) ∧
      ((s.weaves i).stage ≠ .finalized → s.handedBy i = []) := by
  intro s
  have hs : s.Sound donors registry.names := (sound_start donors registry).run moves
  refine ⟨fun m => ⟨⟨fun hok => ?_, hs.exists_attempt_eq_ok⟩, fun hturn =>
    ⟨attempt_eq_error hturn, after_eq_self hturn⟩⟩, hs.accounts.nodup, hs.accounts.fresh,
    fun name => ?_, fun i => ?_⟩
  · obtain ⟨s', hs'⟩ := hok
    by_contra hturn
    rw [attempt_eq_error hturn] at hs'
    exact absurd hs' (by simp)
  · rw [hs.accounts.mem_names_iff, List.mem_append]
  · obtain ⟨target, given, hsub, hcopies, hdone, hnot⟩ := (hs.hasGiven i).exists_given
    exact ⟨target, given, hsub, hcopies, Donor.map_field_filterMap_initOf given, hdone, hnot⟩

end Loom

/-- Both weaves have included a field of one name before either copies it: the second one leaves it
out, with its initializer. -/
example :
    let donor (front : Bool) : Donor :=
      { bank := (Weave.overlappingDonors.banks.find? fun b =>
          b.name == if front then "Front" else "Base").getD default
        bindings := default }
    let s := (Loom.start donor ⟨"Host", []⟩).run [.closure false, .closure true,
      .splice true default, .splice false default, .finalize false, .finalize true, .finalize true]
    s.splicedNames = ["cache", "stamp", "size"] ∧
      (s.handedBy false).map (·.map (·.field)) = [[]] ∧
      (s.handedBy true).map (·.map (·.field)) = [["cache"]] := by
  cbv

end DeclWeave
