import DeclWeave.Donor.Inclusion
import Mathlib.Order.Bounds.Basic
import Mathlib.Order.SetNotation
import Mathlib.Data.List.Nodup

/-!
# The Included Members of a Donor

A member of a donor is included in a target when the target lacks its name and it is untagged or
demands a member that is itself included. The rule is circular where demands are, so it does not
define a set by itself; `DonorBank.included` is the least one that it allows. The worklist behind
it follows the demands backwards, so what carries the proof is that `dependents` inverts `demand`:
a member that has been followed from has brought in all that demand it.

## Main results

* `DonorBank.mem_close_of_followed` and `DonorBank.mem_of_mem_close`: the worklist ends in a set
  that is closed under following and inside every such set.
* `DonorBank.isLeast_included`: the included handles of any bank are the least set closed under
  the rule.
* `DonorBank.mem_demand_ofDecl_iff`: in the bank of a declaration, the handles demanded are those
  of the donated members that the tag names; names of anything else are dropped.
-/

namespace DeclWeave.DonorBank

open DeclWeave.Graph (fresh)

/-- The rule by which a member belongs to a target in which the names satisfying `present`
exist, as soon as the members `inside` do. -/
def Admits (b : DonorBank) (present : String → Bool) (inside : Set ℕ) (i : ℕ) : Prop :=
  (∃ m, b.members[i]? = some m ∧ present m.name = false) ∧
    (b.demand i = none ∨ ∃ demanded, b.demand i = some demanded ∧ ∃ j ∈ demanded, j ∈ inside)

variable {b : DonorBank} {present : String → Bool}

theorem mem_absent {i : ℕ} :
    i ∈ b.absent present ↔ ∃ m, b.members[i]? = some m ∧ present m.name = false := by
  simp only [absent, handles, List.mem_filter, List.mem_range, Option.any_eq_true,
    Bool.not_eq_true']
  constructor
  · rintro ⟨-, m, hm, hp⟩
    exact ⟨m, hm, hp⟩
  · rintro ⟨m, hm, hp⟩
    exact ⟨(List.getElem?_eq_some_iff.mp hm).1, m, hm, hp⟩

/-- **Dependents invert demands**: the dependents of a member are the members that demand it. -/
theorem mem_dependents {i j : ℕ} :
    j ∈ b.dependents i ↔
      j < b.members.length ∧ ∃ demanded, b.demand j = some demanded ∧ i ∈ demanded := by
  simp only [dependents, List.mem_flatMap, List.mem_range, List.mem_replicate, ne_eq,
    List.count_eq_zero, Decidable.not_not]
  constructor
  · rintro ⟨k, hk, hmem, rfl⟩
    cases hd : b.demand j with
    | none => simp [hd] at hmem
    | some demanded => exact ⟨hk, demanded, rfl, by simpa [hd] using hmem⟩
  · rintro ⟨hj, demanded, hd, hmem⟩
    exact ⟨j, hj, by simpa [hd] using hmem, rfl⟩

/-! ### The worklist -/

/-- Taking in some members adds the same new ones to what has joined and to the worklist: those
that can still join. -/
theorem exists_foldl_join (absent inside work is : List ℕ) :
    ∃ new : List ℕ, is.foldl (join absent) (inside, work) = (new ++ inside, new ++ work) ∧
      (∀ j ∈ new, j ∈ is ∧ j ∈ absent) ∧ ∀ j ∈ is, j ∈ absent → j ∈ new ++ inside := by
  induction is generalizing inside work with
  | nil => exact ⟨[], rfl, by simp, by simp⟩
  | cons i is ih =>
    rw [List.foldl_cons]
    by_cases hi : i ∈ fresh absent inside
    · obtain ⟨new, hnew, hsub, hall⟩ := ih (i :: inside) (i :: work)
      refine ⟨new ++ [i], ?_, ?_, ?_⟩
      · rw [join, if_pos hi, hnew]
        simp
      · intro j hj
        rcases List.mem_append.mp hj with hj | hj
        · exact ⟨List.mem_cons_of_mem _ (hsub j hj).1, (hsub j hj).2⟩
        · obtain rfl := List.mem_singleton.mp hj
          exact ⟨List.mem_cons_self, (Graph.mem_fresh.mp hi).1⟩
      · intro j hj habs
        rcases List.mem_cons.mp hj with rfl | hj
        · simp
        · simpa using hall j hj habs
    · obtain ⟨new, hnew, hsub, hall⟩ := ih inside work
      refine ⟨new, ?_, fun j hj => ⟨List.mem_cons_of_mem _ (hsub j hj).1, (hsub j hj).2⟩, ?_⟩
      · rw [join, if_neg hi, hnew]
      · intro j hj habs
        rcases List.mem_cons.mp hj with rfl | hj
        · by_contra hnot
          exact hi (Graph.mem_fresh.mpr ⟨habs, fun h => hnot (List.mem_append_right _ h)⟩)
        · exact hall j hj habs

/-- What has joined stays. -/
theorem mem_close (absent inside work : List ℕ) {i : ℕ} (hi : i ∈ inside) :
    i ∈ b.close absent inside work := by
  fun_induction close b absent inside work with
  | case1 inside => exact hi
  | case2 inside k work state ih =>
    obtain ⟨new, hstate, -, -⟩ := exists_foldl_join absent inside work (b.dependents k)
    refine ih ?_
    show i ∈ ((b.dependents k).foldl (join absent) (inside, work)).1
    rw [hstate]
    exact List.mem_append_right _ hi

/-- **Soundness of the worklist**: nothing joins that is not in every set which holds what it
began with and is closed under following. -/
theorem mem_of_mem_close {I : Set ℕ} (absent inside work : List ℕ)
    (hI : ∀ i ∈ I, ∀ j ∈ b.dependents i, j ∈ absent → j ∈ I)
    (hinside : ∀ i ∈ inside, i ∈ I) (hwork : ∀ i ∈ work, i ∈ I) :
    ∀ i ∈ b.close absent inside work, i ∈ I := by
  fun_induction close b absent inside work with
  | case1 inside => exact hinside
  | case2 inside k work state ih =>
    obtain ⟨new, hstate, hsub, -⟩ := exists_foldl_join absent inside work (b.dependents k)
    have hnew : ∀ j ∈ new, j ∈ I := fun j hj =>
      hI k (hwork k List.mem_cons_self) j (hsub j hj).1 (hsub j hj).2
    have hstate' : state = (new ++ inside, new ++ work) := hstate
    rw [hstate'] at ih ⊢
    refine ih (fun i hi => ?_) (fun i hi => ?_)
    · exact (List.mem_append.mp hi).elim (hnew i) (hinside i)
    · exact (List.mem_append.mp hi).elim (hnew i) fun h => hwork i (List.mem_cons_of_mem _ h)

/-- **Completeness of the worklist**: when whatever is off it has been followed from, then in the
end everything that has joined has been. -/
theorem mem_close_of_followed (absent inside work : List ℕ)
    (h : ∀ i ∈ inside, i ∈ work ∨ ∀ j ∈ b.dependents i, j ∈ absent → j ∈ inside) :
    ∀ i ∈ b.close absent inside work, ∀ j ∈ b.dependents i, j ∈ absent →
      j ∈ b.close absent inside work := by
  fun_induction close b absent inside work with
  | case1 inside => exact fun i hi => (h i hi).resolve_left List.not_mem_nil
  | case2 inside k work state ih =>
    obtain ⟨new, hstate, -, hall⟩ := exists_foldl_join absent inside work (b.dependents k)
    have hstate' : state = (new ++ inside, new ++ work) := hstate
    rw [hstate'] at ih ⊢
    refine ih fun i hi => ?_
    rcases List.mem_append.mp hi with hi | hi
    · exact .inl (List.mem_append_left _ hi)
    · rcases h i hi with hwork | hdone
      · -- The member followed from in this round is done after it; the others keep waiting.
        rcases List.mem_cons.mp hwork with rfl | hwork
        · exact .inr hall
        · exact .inl (List.mem_append_right _ hwork)
      · exact .inr fun j hj habs => List.mem_append_right _ (hdone j hj habs)

/-! ### The least set -/

/-- The handles of a target's included members come in increasing order. -/
theorem pairwise_included (b : DonorBank) (present : String → Bool) :
    (b.included present).Pairwise (· < ·) :=
  List.Pairwise.filter _ List.pairwise_lt_range

/-- The result of the worklist, without the order. -/
theorem mem_included_iff {i : ℕ} :
    i ∈ b.included present ↔
      i ∈ b.close (b.absent present) ((b.absent present).filter fun i => (b.demand i).isNone)
        ((b.absent present).filter fun i => (b.demand i).isNone).reverse := by
  simp only [included, List.mem_filter, List.contains_iff_mem]
  refine ⟨And.right, fun hi => ⟨?_, hi⟩⟩
  refine mem_of_mem_close (I := {i | i ∈ b.handles}) _ _ _ (fun k _ j hj _ => ?_) ?_ ?_ i hi
  · exact List.mem_range.mpr (mem_dependents.mp hj).1
  · exact fun j hj => (List.mem_filter.mp (List.mem_filter.mp hj).1).1
  · exact fun j hj => (List.mem_filter.mp (List.mem_filter.mp (List.mem_reverse.mp hj)).1).1

/-- A set is closed under the rule only if it is closed under following. -/
theorem mem_of_closed_of_dependent {I : Set ℕ} (hI : ∀ i, b.Admits present I i → i ∈ I) {i j : ℕ}
    (hi : i ∈ I) (hj : j ∈ b.dependents i) (habs : j ∈ b.absent present) : j ∈ I := by
  obtain ⟨-, demanded, hd, hmem⟩ := mem_dependents.mp hj
  exact hI j ⟨mem_absent.mp habs, .inr ⟨demanded, hd, i, hmem, hi⟩⟩

/-- What the rule admits on the strength of the included members is included. -/
theorem mem_included_of_admits {i : ℕ}
    (h : b.Admits present {j | j ∈ b.included present} i) : i ∈ b.included present := by
  obtain ⟨hlack, hd | ⟨demanded, hd, j, hmem, hj⟩⟩ := h
  · refine mem_included_iff.mpr (mem_close _ _ _ ?_)
    exact List.mem_filter.mpr ⟨mem_absent.mpr hlack, by rw [hd]; rfl⟩
  · rw [mem_included_iff]
    refine mem_close_of_followed _ _ _ (fun k hk => .inl (List.mem_reverse.mpr hk)) j
      (mem_included_iff.mp hj) i ?_ (mem_absent.mpr hlack)
    obtain ⟨m, hm, -⟩ := hlack
    exact mem_dependents.mpr ⟨(List.getElem?_eq_some_iff.mp hm).1, demanded, hd, hmem⟩

/-- An included member is in every set that is closed under the rule. -/
theorem mem_of_mem_included {I : Set ℕ} (hI : ∀ i, b.Admits present I i → i ∈ I) {i : ℕ}
    (hi : i ∈ b.included present) : i ∈ I := by
  have hseed : ∀ j ∈ (b.absent present).filter fun j => (b.demand j).isNone, j ∈ I := by
    intro j hj
    obtain ⟨habs, hnone⟩ := List.mem_filter.mp hj
    exact hI j ⟨mem_absent.mp habs, .inl (Option.isNone_iff_eq_none.mp hnone)⟩
  exact mem_of_mem_close _ _ _ (fun _ hi _ hj habs => mem_of_closed_of_dependent hI hi hj habs)
    hseed (fun j hj => hseed j (List.mem_reverse.mp hj)) i (mem_included_iff.mp hi)

/-- **The included members are the least set closed under the rule**, for any bank. -/
theorem isLeast_included (b : DonorBank) (present : String → Bool) :
    IsLeast {I : Set ℕ | ∀ i, b.Admits present I i → i ∈ I} {i | i ∈ b.included present} :=
  ⟨fun _ h => mem_included_of_admits h, fun _ hI _ hi => mem_of_mem_included hI hi⟩

theorem Admits.mono {I J : Set ℕ} (h : I ⊆ J) {i : ℕ} (hi : b.Admits present I i) :
    b.Admits present J i := by
  obtain ⟨hlack, hd | ⟨demanded, hd, j, hmem, hj⟩⟩ := hi
  · exact ⟨hlack, .inl hd⟩
  · exact ⟨hlack, .inr ⟨demanded, hd, j, hmem, h hj⟩⟩

/-- A member is included exactly when the rule admits it on the strength of the others: what the
rule admits is closed under it too, so the least closed set is no larger. -/
theorem mem_included_iff_admits {i : ℕ} :
    i ∈ b.included present ↔ b.Admits present {j | j ∈ b.included present} i := by
  refine ⟨fun hi => ?_, mem_included_of_admits⟩
  refine mem_of_mem_included (I := {i | b.Admits present {j | j ∈ b.included present} i})
    (fun k hk => ?_) hi
  exact hk.mono fun j hj => mem_included_of_admits hj

/-! ### Banks of declarations -/

@[simp] theorem name_ofDecl (settings : Settings) (plan : TypeDecl) :
    (ofDecl settings plan).1.name = plan.name := by
  rw [ofDecl]
  dsimp only
  split
  · rfl
  · split <;> rfl

@[simp] theorem typeParams_ofDecl (settings : Settings) (plan : TypeDecl) :
    (ofDecl settings plan).1.typeParams = plan.typeParams := by
  rw [ofDecl]
  dsimp only
  split
  · rfl
  · split <;> rfl

@[simp] theorem interfaces_ofDecl (settings : Settings) (plan : TypeDecl) :
    (ofDecl settings plan).1.interfaces = plan.interfaces := by
  rw [ofDecl]
  dsimp only
  split
  · rfl
  · split <;> rfl

theorem members_ofDecl (settings : Settings) (plan : TypeDecl) :
    (ofDecl settings plan).1.members = plan.members.filter isDonated := by
  rw [ofDecl]
  dsimp only
  split
  · rfl
  · cases settings.cyclePolicy <;> rfl

theorem demands_ofDecl (settings : Settings) (plan : TypeDecl) :
    (ofDecl settings plan).1.demands =
      (plan.members.filter isDonated).map (demandOf (plan.members.filter isDonated)) := by
  rw [ofDecl]
  dsimp only
  split
  · rfl
  · cases settings.cyclePolicy <;> rfl

theorem demand_ofDecl (settings : Settings) (plan : TypeDecl) {i : ℕ} {m : Member}
    (hm : (ofDecl settings plan).1.members[i]? = some m) :
    (ofDecl settings plan).1.demand i = demandOf (plan.members.filter isDonated) m := by
  rw [members_ofDecl] at hm
  simp [demand, demands_ofDecl, hm]

/-- With no name twice, a name has one handle. -/
theorem handle_unique {members : List Member} (h : (members.map (·.name)).Nodup) {i j : ℕ}
    {m m' : Member} (hm : members[i]? = some m) (hm' : members[j]? = some m')
    (hname : m.name = m'.name) : i = j := by
  have hij : (members.map (·.name))[i]? = (members.map (·.name))[j]? := by
    simp [hm, hm', hname]
  have hlt : i < (members.map (·.name)).length := by
    simpa using (List.getElem?_eq_some_iff.mp hm).1
  exact (List.getElem?_inj hlt h).mp hij

/-- A name has the handle of the member that bears it. -/
theorem handle?_eq_some_iff {members : List Member} (h : (members.map (·.name)).Nodup)
    {name : String} {i : ℕ} :
    handle? members name = some i ↔ ∃ m, members[i]? = some m ∧ m.name = name := by
  have hsound : ∀ j, handle? members name = some j →
      ∃ m, members[j]? = some m ∧ m.name = name := by
    intro j hj
    obtain ⟨⟨m, k⟩, hfind, rfl⟩ := Option.map_eq_some_iff.mp hj
    have hmem := List.mem_reverse.mp (List.mem_of_find?_eq_some hfind)
    have hname := List.find?_some hfind
    exact ⟨m, List.mem_zipIdx_iff_getElem?.mp hmem, beq_iff_eq.mp hname⟩
  refine ⟨hsound i, ?_⟩
  rintro ⟨m, hm, rfl⟩
  obtain ⟨j, hj⟩ : ∃ j, handle? members m.name = some j := by
    refine Option.isSome_iff_exists.mp ?_
    simp only [handle?, Option.isSome_map, List.find?_isSome, List.mem_reverse]
    exact ⟨(m, i), List.mem_zipIdx_iff_getElem?.mpr hm, beq_self_eq_true _⟩
  obtain ⟨m', hm', hname⟩ := hsound j hj
  rw [hj, handle_unique h hm hm' hname.symm]

theorem nodup_donatedNames {plan : TypeDecl} (h : plan.memberNames.Nodup) :
    ((plan.members.filter isDonated).map (·.name)).Nodup :=
  h.sublist (List.filter_sublist.map _)

/-- **Demands by name.** A tagged member demands the donated members that its tag names, and
nothing else: a name of no member, or of one without a body, is dropped. -/
theorem mem_demand_ofDecl_iff {settings : Settings} {plan : TypeDecl}
    (h : plan.memberNames.Nodup) {i j : ℕ} {m : Member} {demanded : List ℕ}
    (hm : (ofDecl settings plan).1.members[i]? = some m)
    (hd : (ofDecl settings plan).1.demand i = some demanded) :
    j ∈ demanded ↔ ∃ m', (ofDecl settings plan).1.members[j]? = some m' ∧
      m'.name ∈ m.usedOnlyBy?.getD [] := by
  rw [demand_ofDecl settings plan hm] at hd
  obtain ⟨names, hnames, rfl⟩ := Option.map_eq_some_iff.mp hd
  simp only [List.mem_filterMap, handle?_eq_some_iff (nodup_donatedNames h), members_ofDecl,
    hnames, Option.getD_some]
  constructor
  · rintro ⟨name, hname, m', hm', rfl⟩
    exact ⟨m', hm', hname⟩
  · rintro ⟨m', hm', hname⟩
    exact ⟨m'.name, hname, m', hm', rfl⟩

theorem demand_ofDecl_eq_none_iff {settings : Settings} {plan : TypeDecl} {i : ℕ} {m : Member}
    (hm : (ofDecl settings plan).1.members[i]? = some m) :
    (ofDecl settings plan).1.demand i = none ↔ m.usedOnlyBy? = none := by
  rw [demand_ofDecl settings plan hm, demandOf, Option.map_eq_none_iff]

/-- **Least inclusion.** For the bank of a declaration, under either policy on circles: the
handles are those of its donated members, and each demands the donated members that its tag
names. The included ones come in increasing order, are what the rule admits on their own
strength, and are the least set that is closed under the rule. -/
theorem least_included_ofDecl (settings : Settings) (plan : TypeDecl)
    (h : plan.memberNames.Nodup) (present : String → Bool) :
    let b := (ofDecl settings plan).1
    b.members = plan.members.filter isDonated ∧
    (∀ i m, b.members[i]? = some m →
      (b.demand i = none ↔ m.usedOnlyBy? = none) ∧
      ∀ demanded, b.demand i = some demanded → ∀ j, j ∈ demanded ↔
        ∃ m', b.members[j]? = some m' ∧ m'.name ∈ m.usedOnlyBy?.getD []) ∧
    (b.included present).Pairwise (· < ·) ∧
    (∀ i, i ∈ b.included present ↔ b.Admits present {j | j ∈ b.included present} i) ∧
    IsLeast {I : Set ℕ | ∀ i, b.Admits present I i → i ∈ I} {i | i ∈ b.included present} := by
  intro b
  refine ⟨members_ofDecl settings plan, fun i m hm => ⟨demand_ofDecl_eq_none_iff hm, ?_⟩,
    pairwise_included b present, fun i => mem_included_iff_admits, isLeast_included b present⟩
  intro demanded hd j
  exact mem_demand_ofDecl_iff h hm hd

/-- A donor with a circle of demands between `a` and `b`, a member demanded by name, and one that
demands itself and a name that nobody bears. -/
def circleDonor : TypeDecl :=
  { name := "Circle"
    kind := .interfaceType
    members :=
      [{ Member.bareField "a" {} with directives := [.usedOnlyBy ["b"]] },
        { Member.bareField "b" {} with directives := [.usedOnlyBy ["a"]] },
        Member.bareField "c" {},
        { Member.bareField "d" {} with directives := [.usedOnlyBy ["d", "ghost", "c", "c"]] }] }

/-- A circle of demands that nothing outside it pulls in stays out; what demands itself comes in
through another member. -/
theorem circleDonor_included :
    circleDonor.memberNames.Nodup ∧
      0 ∉ (ofDecl {} circleDonor).1.included (fun _ => false) ∧
      3 ∈ (ofDecl {} circleDonor).1.included (fun _ => false) := by
  have hnodup : circleDonor.memberNames.Nodup := by decide
  obtain ⟨hmembers, -, -, hiff, hleast⟩ :=
    least_included_ofDecl {} circleDonor hnodup (fun _ => false)
  have hmember : ∀ i : ℕ, (ofDecl {} circleDonor).1.members[i]? = circleDonor.members[i]? := by
    intro i
    rw [hmembers]
    rfl
  have hdemand : ∀ (i : ℕ) (m : Member), circleDonor.members[i]? = some m →
      (ofDecl {} circleDonor).1.demand i = demandOf circleDonor.members m :=
    fun i m hm => demand_ofDecl {} circleDonor ((hmember i).trans hm)
  have hc : 2 ∈ (ofDecl {} circleDonor).1.included (fun _ => false) :=
    (hiff 2).mpr ⟨⟨_, hmember 2, rfl⟩, .inl (hdemand 2 _ rfl)⟩
  -- The set of all other handles is closed under the rule, so it holds what is included.
  have hout : {i | i ∈ (ofDecl {} circleDonor).1.included fun _ => false} ⊆
      {i : ℕ | i ≠ 0 ∧ i ≠ 1} := by
    refine hleast.2 ?_
    rintro i ⟨-, hd⟩
    constructor
    · rintro rfl
      rw [hdemand 0 _ rfl] at hd
      obtain hd | ⟨demanded, hd, j, hj, -, hj1⟩ := hd
      · exact absurd hd (by decide)
      · obtain rfl : [1] = demanded := Option.some.inj hd
        exact hj1 (List.mem_singleton.mp hj)
    · rintro rfl
      rw [hdemand 1 _ rfl] at hd
      obtain hd | ⟨demanded, hd, j, hj, hj0, -⟩ := hd
      · exact absurd hd (by decide)
      · obtain rfl : [0] = demanded := Option.some.inj hd
        exact hj0 (List.mem_singleton.mp hj)
  exact ⟨hnodup, fun h0 => (hout h0).1 rfl,
    (hiff 3).mpr ⟨⟨_, hmember 3, rfl⟩, .inr ⟨_, hdemand 3 _ rfl, 2, by decide, hc⟩⟩⟩

end DeclWeave.DonorBank
