import DeclWeave.Form.Walk
import DeclWeave.Proofs.DonorInclusion
import DeclWeave.Proofs.NameClaims
import DeclWeave.Proofs.Outcome
import DeclWeave.Weave.Basic
import Mathlib

/-!
# What a Weave Splices

The donors of a target are woven in one after the other, and all claim names from one registry.
What a donor gives is the least set of its members that its demands allow against the names known
when its turn comes: those of the target, and those that the donors before it gave. No claim made
while copying fails, for the included members of a donor have distinct names and none of them
existed; so no step fails, and nothing that was to be given is lost.

## Main results

* `Donor.splice_eq`: copying some handles of a donor takes exactly those whose names are free.
* `DonorBank.gives_included`: for the bank of a declaration, what is included is what the donor
  gives, said with the names in its tags.
* `Weave.exists_spliceAll`: a chain of donors, by induction on the chain.
* `Weave.exists_perform`: the weave of a target, as a whole.
-/

namespace DeclWeave

/-! ### What a donor gives -/

namespace DonorBank

/-- The rule by which a donor gives a member to a target in which the names `taken` exist, as soon
as it gives those with the handles `inside`. -/
def Qualifies (b : DonorBank) (taken : Set String) (inside : Set ℕ) (i : ℕ) : Prop :=
  ∃ m, b.members[i]? = some m ∧ m.name ∉ taken ∧
    (m.usedOnlyBy? = none ∨ ∃ names, m.usedOnlyBy? = some names ∧
      ∃ j ∈ inside, ∃ m', b.members[j]? = some m' ∧ m'.name ∈ names)

/-- The handles `inside`, in order, are the least set that the rule allows. -/
structure Gives (b : DonorBank) (taken : Set String) (inside : List ℕ) : Prop where
  increasing : inside.Pairwise (· < ·)
  mem_iff : ∀ i, i ∈ inside ↔ b.Qualifies taken {j | j ∈ inside} i
  least : ∀ I : Set ℕ, (∀ i, b.Qualifies taken I i → i ∈ I) → ∀ i ∈ inside, i ∈ I

/-- A bank that was made from a declaration with distinct member names. -/
def IsOfDecl (b : DonorBank) : Prop :=
  ∃ (settings : Settings) (plan : TypeDecl),
    plan.memberNames.Nodup ∧ b = (ofDecl settings plan).1

variable {b : DonorBank}

theorem IsOfDecl.nodup (h : b.IsOfDecl) : (b.members.map (·.name)).Nodup := by
  obtain ⟨settings, plan, hplan, rfl⟩ := h
  rw [members_ofDecl]
  exact nodup_donatedNames hplan

/-- With the demands of a declaration, the rule on handles is the rule on names. -/
theorem IsOfDecl.qualifies_iff (h : b.IsOfDecl) {r : NameRegistry} {inside : Set ℕ} {i : ℕ} :
    b.Qualifies {name | name ∈ r.names} inside i ↔ b.Admits r.contains inside i := by
  obtain ⟨settings, plan, hplan, rfl⟩ := h
  constructor
  · rintro ⟨m, hm, hfree, huse⟩
    refine ⟨⟨m, hm, NameRegistry.contains_eq_false_iff.mpr hfree⟩, ?_⟩
    obtain hnone | ⟨names, hnames, j, hj, m', hm', hname⟩ := huse
    · exact .inl ((demand_ofDecl_eq_none_iff hm).mpr hnone)
    · obtain ⟨demanded, hd⟩ : ∃ demanded, (ofDecl settings plan).1.demand i = some demanded :=
        Option.ne_none_iff_exists'.mp fun hnone => by
          simp [(demand_ofDecl_eq_none_iff hm).mp hnone] at hnames
      refine .inr ⟨demanded, hd, j, ?_, hj⟩
      exact (mem_demand_ofDecl_iff hplan hm hd).mpr ⟨m', hm', by simpa [hnames] using hname⟩
  · rintro ⟨⟨m, hm, hfree⟩, huse⟩
    refine ⟨m, hm, NameRegistry.contains_eq_false_iff.mp hfree, ?_⟩
    obtain hnone | ⟨demanded, hd, j, hmem, hj⟩ := huse
    · exact .inl ((demand_ofDecl_eq_none_iff hm).mp hnone)
    · obtain ⟨names, hnames⟩ : ∃ names, m.usedOnlyBy? = some names :=
        Option.ne_none_iff_exists'.mp fun hnone => by
          simp [(demand_ofDecl_eq_none_iff hm).mpr hnone] at hd
      obtain ⟨m', hm', hname⟩ := (mem_demand_ofDecl_iff hplan hm hd).mp hmem
      exact .inr ⟨names, hnames, j, hj, m', hm', by simpa [hnames] using hname⟩

/-- What is included against a registry is what the donor gives. -/
theorem gives_included (h : b.IsOfDecl) (r : NameRegistry) :
    b.Gives {name | name ∈ r.names} (b.included r.contains) where
  increasing := pairwise_included b r.contains
  mem_iff _ := mem_included_iff_admits.trans h.qualifies_iff.symm
  least _ hI _ hi := mem_of_mem_included (fun k hk => hI k (h.qualifies_iff.mpr hk)) hi

/-- The members with some handles, each with its handle. -/
def entries (b : DonorBank) (is : List ℕ) : List (ℕ × Member) :=
  is.filterMap fun i => b.members[i]?.map (i, ·)

theorem mem_entries {is : List ℕ} {i : ℕ} {m : Member} :
    (i, m) ∈ b.entries is ↔ i ∈ is ∧ b.members[i]? = some m := by
  simp only [entries, List.mem_filterMap, Option.map_eq_some_iff, Prod.mk.injEq]
  constructor
  · rintro ⟨j, hj, m', hm', rfl, rfl⟩
    exact ⟨hj, hm'⟩
  · rintro ⟨hi, hm⟩
    exact ⟨i, hi, m, hm, rfl, rfl⟩

theorem entries_cons {is : List ℕ} {i : ℕ} {m : Member} (hm : b.members[i]? = some m) :
    b.entries (i :: is) = (i, m) :: b.entries is := by
  simp [entries, hm]

theorem nodup_entryNames (hnames : (b.members.map (·.name)).Nodup) {is : List ℕ}
    (his : is.Nodup) : ((b.entries is).map (·.2.name)).Nodup := by
  induction is with
  | nil => exact List.nodup_nil
  | cons i is ih =>
    obtain ⟨hi, his⟩ := List.nodup_cons.mp his
    cases hm : b.members[i]? with
    | none => simpa [entries, hm] using ih his
    | some m =>
      rw [entries_cons hm, List.map_cons, List.nodup_cons]
      refine ⟨fun hmem => ?_, ih his⟩
      obtain ⟨⟨j, m'⟩, he, hname⟩ := List.mem_map.mp hmem
      obtain ⟨hj, hm'⟩ := mem_entries.mp he
      exact hi (handle_unique hnames hm' hm hname ▸ hj)

end DonorBank

/-! ### Copying -/

namespace Donor

variable {d : Donor} {target : TypeDecl} {registry : NameRegistry}

/-- The members of a donor with some handles. -/
def given (d : Donor) (inside : List ℕ) : List Member :=
  (d.bank.entries inside).map (·.2)

theorem given_subset (d : Donor) (inside : List ℕ) : d.given inside ⊆ d.bank.members := by
  intro m hm
  obtain ⟨e, he, rfl⟩ := List.mem_map.mp hm
  exact List.mem_of_getElem? (DonorBank.mem_entries.mp he).2

/-- Handles in order give members in order. -/
theorem given_sublist {is : List ℕ} (h : is.Sublist d.bank.handles) :
    (d.given is).Sublist d.bank.members := by
  have hentries : d.bank.entries d.bank.handles =
      (List.finRange d.bank.members.length).map fun i : Fin _ =>
        ((i : ℕ), d.bank.members[i]) := by
    rw [DonorBank.entries, DonorBank.handles, ← List.map_coe_finRange_eq_range,
      List.filterMap_map, ← List.filterMap_eq_map]
    refine List.filterMap_congr fun i _ => ?_
    change d.bank.members[(i : ℕ)]?.map _ = some _
    rw [List.getElem?_eq_getElem i.isLt]
    rfl
  have hall : d.given d.bank.handles = d.bank.members := by
    rw [given, hentries, List.map_map]
    exact List.map_getElem_finRange _
  rw [← hall]
  exact (h.filterMap _).map _

/-- Copying takes some of the members with the given handles, and holds back the initializers of
the fields among these. -/
theorem exists_given_splice {is : List ℕ} {copied : Spliced}
    (h : d.splice target registry is = .ok copied) :
    ∃ given : List Member, given.Sublist (d.given is) ∧
      copied.members.map (·.member) = given.map (d.copy target) ∧
      copied.inits = given.filterMap (d.initOf target) := by
  induction is generalizing registry copied with
  | nil =>
    obtain rfl := Except.ok.inj h
    exact ⟨[], List.nil_sublist _, rfl, rfl⟩
  | cons i is ih =>
    rw [splice] at h
    split at h
    · exact absurd h (by simp)
    · rename_i m hm
      have hcons : d.given (i :: is) = m :: d.given is := by
        rw [given, DonorBank.entries_cons hm]
        rfl
      rw [hcons]
      split at h
      · obtain ⟨given, hsub, hmembers, hinits⟩ := ih h
        exact ⟨given, hsub.cons m, hmembers, hinits⟩
      · obtain ⟨rest, hrest, h⟩ := Outcome.bind_eq_ok.mp h
        obtain rfl := Except.ok.inj h
        obtain ⟨given, hsub, hmembers, hinits⟩ := ih hrest
        refine ⟨m :: given, hsub.cons_cons m, ?_, ?_⟩
        · rw [List.map_cons, List.map_cons, hmembers]
        · rw [hinits]
          cases hinit : d.initOf target m with
          | none => rw [List.filterMap_cons_none hinit]; rfl
          | some init => rw [List.filterMap_cons_some hinit]; rfl

/-- **Copying** some distinct handles of a donor takes exactly those whose names are free, in
order: no member of the donor takes the name of another. -/
theorem splice_eq (d : Donor) (target : TypeDecl) (registry : NameRegistry)
    (hnames : (d.bank.members.map (·.name)).Nodup) {is : List ℕ} (his : is.Nodup)
    (hlt : ∀ i ∈ is, i < d.bank.members.length) :
    let picked := (d.bank.entries is).filter fun e => !registry.contains e.2.name
    d.splice target registry is = .ok
      ⟨picked.map fun e => ⟨d.copy target e.2, d.bank.requirements e.1, d.bank.name⟩,
        picked.filterMap fun e => d.initOf target e.2,
        { registry with names := (picked.map (·.2.name)).reverse ++ registry.names }⟩ := by
  induction is generalizing registry with
  | nil => rfl
  | cons i is ih =>
    obtain ⟨hi, his⟩ := List.nodup_cons.mp his
    obtain ⟨hltI, hlt⟩ := List.forall_mem_cons.mp hlt
    obtain ⟨m, hm⟩ : ∃ m, d.bank.members[i]? = some m := ⟨_, List.getElem?_eq_getElem hltI⟩
    dsimp only
    rw [splice, hm, DonorBank.entries_cons hm]
    by_cases hfree : m.name ∈ registry.names
    · have hskip := NameRegistry.contains_iff_mem.mpr hfree
      simp only [NameRegistry.claim?_eq_none_iff.mpr hfree]
      rw [ih registry his hlt]
      simp [hskip]
    · -- Other handles have other names, so this claim changes nothing for them.
      have hsame : (d.bank.entries is).filter (fun e =>
            !NameRegistry.contains { registry with names := m.name :: registry.names } e.2.name) =
          (d.bank.entries is).filter fun e => !registry.contains e.2.name := by
        refine List.filter_congr fun ⟨j, m'⟩ he => ?_
        obtain ⟨hj, hm'⟩ := DonorBank.mem_entries.mp he
        have hne : m'.name ≠ m.name := fun hname =>
          hi (DonorBank.handle_unique hnames hm' hm hname ▸ hj)
        simp [NameRegistry.contains, hne]
      have htake := NameRegistry.contains_eq_false_iff.mpr hfree
      simp only [NameRegistry.claim?_eq_some hfree]
      rw [ih _ his hlt, hsame]
      cases hinit : d.initOf target m <;> simp [htake, hinit, pure, Except.pure, bind, Except.bind]

@[simp] theorem name_copy (d : Donor) (target : TypeDecl) (m : Member) :
    (d.copy target m).name = m.name := rfl

/-- A copied field leaves its initializer behind. -/
theorem body_copy_of_isField {m : Member} (h : (d.copy target m).isField) :
    (d.copy target m).body = none := by
  have hm : m.isField = true := h
  simp [copy, Member.publish, hm]

theorem field_initOf {m : Member} {init : DefaultInit} (h : d.initOf target m = some init) :
    init.field = m.name := by
  rw [initOf] at h
  split at h
  · obtain ⟨body, -, rfl⟩ := Option.map_eq_some_iff.mp h
    rfl
  · exact absurd h (by simp)

theorem isSome_initOf (d : Donor) (target : TypeDecl) (m : Member) :
    (d.initOf target m).isSome = (m.isField && m.body.isSome) := by
  rw [initOf]
  split <;> simp [*]

/-- The initializers that some fields leave, by the names of the fields. -/
theorem map_field_filterMap_initOf (ms : List Member) :
    (ms.filterMap (d.initOf target)).map (·.field) =
      (ms.filter fun m => m.isField && m.body.isSome).map (·.name) := by
  induction ms with
  | nil => rfl
  | cons m ms ih =>
    cases hinit : d.initOf target m with
    | none =>
      have hno : (m.isField && m.body.isSome) = false := by
        rw [← isSome_initOf d target, hinit]
        rfl
      rw [List.filterMap_cons_none hinit, ih, List.filter_cons_of_neg (by simp [hno])]
    | some init =>
      have hyes : (m.isField && m.body.isSome) = true := by
        rw [← isSome_initOf d target, hinit]
        rfl
      rw [List.filterMap_cons_some hinit, List.filter_cons_of_pos (by exact hyes),
        List.map_cons, List.map_cons, ih, field_initOf hinit]

end Donor

/-! ### Names that donors claim -/

/-- Whatever the handles, each copy has claimed its name. -/
theorem Donor.claims_splice {d : Donor} {target : TypeDecl} {registry : NameRegistry}
    {is : List ℕ} {s : Spliced} (h : d.splice target registry is = .ok s) :
    registry.Claims (s.members.map (·.member)) s.registry := by
  induction is generalizing registry s with
  | nil =>
    obtain rfl := Except.ok.inj h
    exact .refl registry
  | cons i is ih =>
    rw [Donor.splice] at h
    split at h
    · exact absurd h (by simp)
    · rename_i m hm
      split at h
      · exact ih h
      · rename_i r hclaim
        obtain ⟨rest, hrest, h⟩ := Outcome.bind_eq_ok.mp h
        obtain rfl := Except.ok.inj h
        have hcopy : registry.Claims [d.copy target m] r :=
          (NameRegistry.Claims.of_claim? hclaim).of_names_eq rfl
        exact hcopy.append (ih hrest)

namespace Weave

variable {target : TypeDecl} {registry : NameRegistry}

/-- The steps of a donor's weave come in turn, so that only copying can fail. -/
theorem ofDonor_eq (target : TypeDecl) (registry : NameRegistry) (d : Donor) :
    ofDonor target registry d = d.splice target registry (d.includedIn registry) := by
  simp only [ofDonor, DonorWeave.computeClosure, DonorWeave.splice, DonorWeave.finalize, bind,
    Except.bind, pure, Except.pure]
  cases d.splice target registry (d.includedIn registry) <;> rfl

/-- A chain of donors, by induction. -/
theorem claims_spliceAll {chain : List Donor} {s : Spliced}
    (h : spliceAll target registry chain = .ok s) :
    registry.Claims (s.members.map (·.member)) s.registry := by
  induction chain generalizing registry s with
  | nil =>
    obtain rfl := Except.ok.inj h
    exact .refl registry
  | cons d chain ih =>
    obtain ⟨first, hfirst, h⟩ := Outcome.bind_eq_ok.mp h
    obtain ⟨others, hothers, h⟩ := Outcome.bind_eq_ok.mp h
    obtain rfl := Except.ok.inj h
    rw [List.map_append]
    exact (Donor.claims_splice (ofDonor_eq .. ▸ hfirst)).append (ih hothers)

theorem claims_ofTarget (settings : Settings) (donors : DonorRegistry) (declared : List String)
    (target : TypeDecl) (capabilities : CapabilitySet) (registry : NameRegistry) :
    registry.Claims
      (ofTarget settings donors declared target capabilities registry).1.members
      (ofTarget settings donors declared target capabilities registry).2 := by
  rw [ofTarget]
  split
  · rename_i result h
    obtain ⟨s, hs, h⟩ := Outcome.bind_eq_ok.mp h
    obtain rfl := Except.ok.inj h
    exact claims_spliceAll hs
  · exact .refl registry

end Weave

/-! ### Spans -/

namespace Form

mutual

/-- A form with its spans replaced has one span at every node. -/
theorem span_of_mem_nodesAt_respan (s : Span) :
    ∀ (f : Form) (depth : ℕ), ∀ node ∈ nodesAt depth (f.respan s), node.2.span = s
  | .atom a _, depth, node, h => by
    rw [respan, nodesAt, List.mem_singleton] at h
    rw [h]
    rfl
  | .seq b items _, depth, node, h => by
    rw [respan, nodesAt] at h
    rcases List.mem_cons.mp h with rfl | h
    · rfl
    · exact span_of_mem_nodesOfAll_respanAll s items (depth + 1) node h

theorem span_of_mem_nodesOfAll_respanAll (s : Span) :
    ∀ (fs : List Form) (depth : ℕ), ∀ node ∈ nodesOfAll depth (respanAll s fs), node.2.span = s
  | [], depth, node, h => by
    rw [respanAll, nodesOfAll] at h
    exact absurd h List.not_mem_nil
  | f :: fs, depth, node, h => by
    rw [respanAll, nodesOfAll] at h
    rcases List.mem_append.mp h with h | h
    · exact span_of_mem_nodesAt_respan s f depth node h
    · exact span_of_mem_nodesOfAll_respanAll s fs depth node h

end

end Form

namespace Donor

variable {d : Donor} {target : TypeDecl}

theorem span_of_mem_nodes_copy {m : Member} {body : Form}
    (h : (d.copy target m).body = some body) :
    ∀ node ∈ body.nodes, node.2.span = target.span := by
  have hbody : (if m.isField then none
      else m.body.map fun body => (body.substituteTypes d.bindings).respan target.span) =
      some body := h
  split at hbody
  · exact absurd hbody (by simp)
  · obtain ⟨f, -, rfl⟩ := Option.map_eq_some_iff.mp hbody
    exact Form.span_of_mem_nodesAt_respan target.span _ 0

theorem span_of_mem_nodes_initOf {m : Member} {init : DefaultInit}
    (h : d.initOf target m = some init) :
    ∀ node ∈ init.init.nodes, node.2.span = target.span := by
  rw [initOf] at h
  split at h
  · obtain ⟨f, -, rfl⟩ := Option.map_eq_some_iff.mp h
    exact Form.span_of_mem_nodesAt_respan target.span _ 0
  · exact absurd h (by simp)

end Donor

/-! ### Chains -/

namespace DonorRegistry

/-- A registry that was filled by registering declarations with distinct member names. -/
inductive Built : DonorRegistry → Prop
  | empty : Built {}
  | register {r : DonorRegistry} (settings : Settings) (plan : TypeDecl) :
      Built r → plan.memberNames.Nodup → Built (r.register settings plan).1

theorem Built.isOfDecl {r : DonorRegistry} (h : r.Built) : ∀ bank ∈ r.banks, bank.IsOfDecl := by
  induction h with
  | empty => simp
  | register settings plan _ hplan ih =>
    intro bank hbank
    rcases List.mem_append.mp hbank with hbank | hbank
    · exact ih bank (List.mem_filter.mp hbank).1
    · exact ⟨settings, plan, hplan, List.mem_singleton.mp hbank⟩

/-- What a donor of a chain is found under. -/
theorem exists_find?_of_mem_chainFrom {r : DonorRegistry} {visited : List String}
    {refs : List TypeRef} {d : Donor} (h : d ∈ r.chainFrom visited refs) :
    ∃ name, r.find? name = some d.bank := by
  fun_induction chainFrom r visited refs with
  | case1 => exact absurd h List.not_mem_nil
  | case2 visited ref rest hv ih => exact ih h
  | case3 visited ref rest hv hnone ih => exact ih h
  | case4 visited ref rest hv bank hfind bindings parents ih =>
    rcases List.mem_append.mp h with h | h
    · split at h
      · exact absurd h List.not_mem_nil
      · obtain rfl := List.mem_singleton.mp h
        exact ⟨ref.name, hfind⟩
    · exact ih h

/-- The donors of a chain are registered. -/
theorem bank_mem_of_mem_chainFrom {r : DonorRegistry} {visited : List String}
    {refs : List TypeRef} {d : Donor} (h : d ∈ r.chainFrom visited refs) : d.bank ∈ r.banks := by
  obtain ⟨name, hfind⟩ := exists_find?_of_mem_chainFrom h
  exact List.mem_of_find?_eq_some hfind

theorem Built.isOfDecl_of_mem_chain {r : DonorRegistry} (h : r.Built) (refs : List TypeRef) :
    ∀ d ∈ r.chain refs, d.bank.IsOfDecl :=
  fun _ hd => h.isOfDecl _ (bank_mem_of_mem_chainFrom hd)

end DonorRegistry

/-! ### The weave of a target -/

namespace Weave

/-- Each donor gives against the names there were and those that the donors before it gave. -/
def Gifts (taken : Set String) : List (Donor × List ℕ) → Prop
  | [] => True
  | (d, inside) :: rest =>
    d.bank.Gives taken inside ∧ Gifts (taken ∪ {name | name ∈ (d.given inside).map (·.name)}) rest

variable {target : TypeDecl} {registry : NameRegistry}

/-- **One donor**: no step fails, and every included member is copied. -/
theorem exists_ofDonor (target : TypeDecl) (registry : NameRegistry) {d : Donor}
    (h : d.bank.IsOfDecl) :
    ∃ first : Spliced, ofDonor target registry d = .ok first ∧
      first.members.map (·.member) = (d.given (d.includedIn registry)).map (d.copy target) ∧
      first.inits = (d.given (d.includedIn registry)).filterMap (d.initOf target) ∧
      registry.Claims (d.given (d.includedIn registry)) first.registry := by
  have hgives := d.bank.gives_included h registry
  have hfree : ∀ e ∈ d.bank.entries (d.includedIn registry), e.2.name ∉ registry.names := by
    intro e he
    obtain ⟨hi, hm⟩ := DonorBank.mem_entries.mp he
    obtain ⟨m, hm', hname, -⟩ := (hgives.mem_iff e.1).mp hi
    obtain rfl : e.2 = m := Option.some.inj (hm.symm.trans hm')
    exact hname
  have hall : (d.bank.entries (d.includedIn registry)).filter
      (fun e => !registry.contains e.2.name) = d.bank.entries (d.includedIn registry) := by
    refine List.filter_eq_self.mpr fun e he => ?_
    rw [NameRegistry.contains_eq_false_iff.mpr (hfree e he)]
    rfl
  have hnodup : (d.includedIn registry).Nodup := hgives.increasing.imp fun hlt => hlt.ne
  have hlt : ∀ i ∈ d.includedIn registry, i < d.bank.members.length := by
    intro i hi
    obtain ⟨m, hm, -⟩ := (hgives.mem_iff i).mp hi
    exact (List.getElem?_eq_some_iff.mp hm).1
  have hsplice := d.splice_eq target registry h.nodup hnodup hlt
  dsimp only at hsplice
  rw [hall] at hsplice
  refine ⟨_, (ofDonor_eq target registry d).trans hsplice, ?_, ?_, ⟨rfl, ?_, ?_, ?_⟩⟩
  · rw [Donor.given, List.map_map, List.map_map]
    rfl
  · rw [Donor.given, List.filterMap_map]
    rfl
  · rw [Donor.given, List.map_map]
    rfl
  · intro m hm
    obtain ⟨e, he, rfl⟩ := List.mem_map.mp hm
    exact hfree e he
  · rw [Donor.given, List.map_map]
    exact DonorBank.nodup_entryNames h.nodup hnodup

/-- **A chain of donors**, by induction on the chain: the names that one donor gave are known to
the next. -/
theorem exists_spliceAll (target : TypeDecl) (registry : NameRegistry) {chain : List Donor}
    (h : ∀ d ∈ chain, d.bank.IsOfDecl) :
    ∃ (gifts : List (Donor × List ℕ)) (spliced : Spliced),
      spliceAll target registry chain = .ok spliced ∧
      gifts.map Prod.fst = chain ∧
      Gifts {name | name ∈ registry.names} gifts ∧
      spliced.members.map (·.member) =
        gifts.flatMap (fun g => (g.1.given g.2).map (g.1.copy target)) ∧
      spliced.inits = gifts.flatMap (fun g => (g.1.given g.2).filterMap (g.1.initOf target)) ∧
      registry.Claims (gifts.flatMap fun g => g.1.given g.2) spliced.registry := by
  induction chain generalizing registry with
  | nil => exact ⟨[], ⟨[], [], registry⟩, rfl, rfl, trivial, rfl, rfl, .refl registry⟩
  | cons d chain ih =>
    obtain ⟨hd, hchain⟩ := List.forall_mem_cons.mp h
    obtain ⟨first, hfirst, hmembers, hinits, hclaims⟩ :=
      exists_ofDonor target registry hd
    obtain ⟨gifts, rest, hrest, hfst, hgifts, hmembers', hinits', hclaims'⟩ :=
      ih first.registry hchain
    refine ⟨(d, d.includedIn registry) :: gifts,
      ⟨first.members ++ rest.members, first.inits ++ rest.inits, rest.registry⟩,
      ?_, ?_, ⟨d.bank.gives_included hd registry, ?_⟩, ?_, ?_, hclaims.append hclaims'⟩
    · simp only [spliceAll, hfirst, bind, Except.bind, hrest, pure, Except.pure]
    · rw [List.map_cons, hfst]
    · convert hgifts using 1
      ext name
      exact hclaims.mem_names_iff.symm
    · rw [List.map_append, hmembers, hmembers', List.flatMap_cons]
    · rw [hinits, hinits', List.flatMap_cons]

/-- **What a weave splices.** With donors made from declarations with distinct member names, the
weave of a target succeeds. The donors of its chain give in turn, each the least set of members
that its tags allow against the names there were and those given before. The copies stand in the
order of the chain and, for each donor, in the order declared, and their names are what the
registry gains. Copied fields have no initializer: those that had one leave it, in the same order,
to the constructor. Everything stands at the target's place. -/
theorem exists_perform {donors : DonorRegistry} (h : donors.Built) (settings : Settings)
    (declared : List String) (target : TypeDecl) (capabilities : CapabilitySet)
    (registry : NameRegistry) :
    ∃ (w : Weave) (after : NameRegistry) (gifts : List (Donor × List ℕ)),
      perform settings donors declared target capabilities registry = .ok (w, after) ∧
      gifts.map Prod.fst = donors.chain target.interfaces ∧
      Gifts {name | name ∈ registry.names} gifts ∧
      w.members = gifts.flatMap (fun g => (g.1.given g.2).map (g.1.copy target)) ∧
      after.target = registry.target ∧
      (∀ name, name ∈ after.names ↔ name ∈ registry.names ∨ name ∈ w.members.map (·.name)) ∧
      (∀ m ∈ w.members, m.isField → m.body = none) ∧
      w.defaultInits.map (·.field) =
        ((gifts.flatMap fun g => g.1.given g.2).filter fun m => m.isField && m.body.isSome).map
          (·.name) ∧
      (∀ m ∈ w.members, m.span = target.span ∧
        ∀ body, m.body = some body → ∀ node ∈ body.nodes, node.2.span = target.span) ∧
      ∀ init ∈ w.defaultInits, ∀ node ∈ init.init.nodes, node.2.span = target.span := by
  obtain ⟨gifts, spliced, hspliced, hfst, hgifts, hmembers, hinits, hclaims⟩ :=
    exists_spliceAll target registry (h.isOfDecl_of_mem_chain target.interfaces)
  -- Every copy is the copy of a member that some donor gives.
  have hcopy : ∀ m ∈ spliced.members.map (·.member),
      ∃ (d : Donor) (source : Member), d.copy target source = m := by
    intro m hm
    rw [hmembers] at hm
    obtain ⟨g, -, hm⟩ := List.mem_flatMap.mp hm
    obtain ⟨source, -, hm⟩ := List.mem_map.mp hm
    exact ⟨g.1, source, hm⟩
  have hnames : (spliced.members.map (·.member)).map (·.name) =
      (gifts.flatMap fun g => g.1.given g.2).map (·.name) := by
    rw [hmembers]
    simp [List.map_flatMap, Function.comp_def]
  obtain ⟨faults, hperform⟩ : ∃ faults,
      perform settings donors declared target capabilities registry =
        .ok (⟨spliced.members.map (·.member), spliced.inits, faults⟩, spliced.registry) :=
    ⟨_, by rw [perform, hspliced]; rfl⟩
  refine ⟨_, _, gifts, hperform, hfst, hgifts, hmembers, hclaims.target_eq, ?_, ?_, ?_, ?_, ?_⟩
  · intro name
    rw [hnames]
    exact hclaims.mem_names_iff
  · intro m hm hfield
    obtain ⟨d, source, rfl⟩ := hcopy m hm
    exact d.body_copy_of_isField hfield
  · rw [hinits, List.map_flatMap, List.filter_flatMap, List.map_flatMap]
    exact List.flatMap_congr fun g _ => g.1.map_field_filterMap_initOf (g.1.given g.2)
  · intro m hm
    obtain ⟨d, source, rfl⟩ := hcopy m hm
    exact ⟨rfl, fun body hbody => d.span_of_mem_nodes_copy hbody⟩
  · intro init hinit
    rw [hinits] at hinit
    obtain ⟨g, -, hinit⟩ := List.mem_flatMap.mp hinit
    obtain ⟨source, -, hinit⟩ := List.mem_filterMap.mp hinit
    exact g.1.span_of_mem_nodes_initOf hinit

/-- A donor of a generic field and a plain one, and a donor in front of it that gives a field of
the same name first, with a helper that only this field uses. -/
def overlappingDonors : DonorRegistry :=
  let base : TypeDecl :=
    { name := "Base"
      kind := .interfaceType
      typeParams := ["T"]
      members :=
        [{ Member.bareField "cache" {} with body := some (.sym "T" {}) },
          Member.bareField "size" {}] }
  let front : TypeDecl :=
    { name := "Front"
      kind := .interfaceType
      interfaces := [⟨"Base", [.named "Int"]⟩]
      members :=
        [{ Member.bareField "cache" {} with body := some (.nil {}) },
          { Member.bareField "stamp" {} with directives := [.usedOnlyBy ["cache"]] }] }
  ((({} : DonorRegistry).register {} base).1.register {} front).1

/-- Behind a donor of the same name, a field is not given again, and neither is its
initializer. -/
theorem exists_perform_overlapping :
    overlappingDonors.Built ∧ ∃ w after,
      perform {} overlappingDonors []
        { name := "Host", kind := .classType, interfaces := [.named "Front", .named "Base"] }
        .empty ⟨"Host", []⟩ = .ok (w, after) ∧
      w.members.map (·.name) = ["cache", "stamp", "size"] ∧
      w.defaultInits.map (·.field) = ["cache"] := by
  have hbuilt : overlappingDonors.Built :=
    .register _ _ (.register _ _ .empty (by decide)) (by decide)
  obtain ⟨w, after, -, hperform, -⟩ := exists_perform hbuilt {} []
    { name := "Host", kind := .classType, interfaces := [.named "Front", .named "Base"] }
    .empty ⟨"Host", []⟩
  have hmembers : (ofTarget {} overlappingDonors []
      { name := "Host", kind := .classType, interfaces := [.named "Front", .named "Base"] }
      .empty ⟨"Host", []⟩).1.members.map (·.name) = ["cache", "stamp", "size"] := by cbv
  have hinits : (ofTarget {} overlappingDonors []
      { name := "Host", kind := .classType, interfaces := [.named "Front", .named "Base"] }
      .empty ⟨"Host", []⟩).1.defaultInits.map (·.field) = ["cache"] := by cbv
  rw [ofTarget, hperform] at hmembers hinits
  exact ⟨hbuilt, w, after, hperform, hmembers, hinits⟩

end Weave

end DeclWeave
