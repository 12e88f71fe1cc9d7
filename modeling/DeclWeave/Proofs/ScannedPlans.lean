import DeclWeave.Proofs.ExpansionPass
import DeclWeave.Proofs.LinesOfDescent
import DeclWeave.Proofs.ScannedMembers

/-!
# Scanned Plans

What donors contribute is scanned, since a copy has the parts of the member that it is a copy of,
with type parameters replaced; a constructor is given parameters and statements of the same kind.
So from scanned declarations come scanned plans, by an induction over the types in the order in
which they are expanded: what a type can see when it is its turn is scanned, and its plan and its
donor join what the next one can see.

## Main results

* `Weave.isScanned_ofTarget`: what donors contribute.
* `Synthesis.isScanned_ofDecl`: the plan of a scanned declaration, in scanned surroundings.
* `Expansion.isScanned_of_mem_plans`: all plans of a unit of scanned declarations.
-/

namespace DeclWeave

open Outcome (bind_eq_ok)

/-! ### Donors -/

/-- The initializer of a spliced field is scanned. -/
structure DefaultInit.IsScanned (i : DefaultInit) : Prop where
  field : IsName i.field
  init : i.init.IsScanned

/-- The copies and the initializers held back are scanned. -/
structure Spliced.IsScanned (s : Spliced) : Prop where
  members : ∀ copy ∈ s.members, copy.member.IsScanned
  inits : ∀ i ∈ s.inits, i.IsScanned

/-- A bank whose members, and the references behind it, are scanned. -/
structure DonorBank.IsScanned (b : DonorBank) : Prop where
  members : ∀ m ∈ b.members, m.IsScanned
  interfaces : ∀ r ∈ b.interfaces, r.IsScanned

theorem DonorBank.isScanned_ofDecl {plan : TypeDecl} (h : plan.IsScanned) (settings : Settings) :
    (ofDecl settings plan).1.IsScanned := by
  have hmembers : ∀ m ∈ plan.members.filter isDonated, m.IsScanned :=
    fun m hm => h.members m (List.mem_filter.mp hm).1
  rw [ofDecl]
  dsimp only
  split
  · exact ⟨hmembers, h.interfaces⟩
  · split <;> exact ⟨hmembers, h.interfaces⟩

namespace Donor

/-- A donor with a scanned bank and scanned arguments. -/
structure IsScanned (d : Donor) : Prop where
  bank : d.bank.IsScanned
  bindings : d.bindings.IsScanned

variable {d : Donor} {target : TypeDecl} {m : Member}

theorem isScanned_copiedBody (h : d.IsScanned) {body : Form} (hbody : body.IsScanned) :
    ((body.substituteTypes d.bindings).respan target.span).IsScanned :=
  (Form.isScanned_respan _ _).mpr (Form.isScanned_substituteTypes h.bindings hbody)

/-- **A copy** of a scanned member is scanned. -/
theorem isScanned_copy (h : d.IsScanned) (hm : m.IsScanned) : (d.copy target m).IsScanned := by
  obtain ⟨hparams, htype⟩ := Signature.isScanned_substitute h.bindings hm.params hm.type
  refine Member.isScanned_publish ⟨hm.name, hparams, htype, ?_, by simp⟩
  dsimp only
  split
  · simp
  · intro f hf
    obtain ⟨body, hbody, rfl⟩ := Option.map_eq_some_iff.mp hf
    exact isScanned_copiedBody h (hm.body body hbody)

theorem isScanned_initOf (h : d.IsScanned) (hm : m.IsScanned) :
    ∀ i ∈ d.initOf target m, i.IsScanned := by
  intro i hi
  rw [initOf] at hi
  split at hi
  · obtain ⟨body, hbody, rfl⟩ := Option.map_eq_some_iff.mp hi
    exact ⟨hm.name, isScanned_copiedBody h (hm.body body hbody)⟩
  · exact absurd hi (by simp)

theorem isScanned_splice (h : d.IsScanned) {registry : NameRegistry} {is : List ℕ} {s : Spliced}
    (hs : d.splice target registry is = .ok s) : s.IsScanned := by
  induction is generalizing registry s with
  | nil =>
    obtain rfl := Except.ok.inj hs
    exact ⟨by simp, by simp⟩
  | cons i is ih =>
    rw [splice] at hs
    split at hs
    · exact absurd hs (by simp)
    · rename_i m hfound
      have hm := h.bank.members m (List.mem_of_getElem? hfound)
      split at hs
      · exact ih hs
      · obtain ⟨rest, hrest, hs⟩ := bind_eq_ok.mp hs
        obtain rfl := Except.ok.inj hs
        obtain ⟨hmembers, hinits⟩ := ih hrest
        refine ⟨List.forall_mem_cons.mpr ⟨isScanned_copy h hm, hmembers⟩,
          List.forall_mem_append.mpr ⟨fun i hi => ?_, hinits⟩⟩
        exact isScanned_initOf h hm i (Option.mem_toList.mp hi)

end Donor

namespace DonorRegistry

/-- All donors that are known are scanned. -/
def IsScanned (r : DonorRegistry) : Prop :=
  ∀ bank ∈ r.banks, bank.IsScanned

variable {r : DonorRegistry}

theorem isScanned_of_mem_chainFrom (h : r.IsScanned) {visited : List String}
    {refs : List TypeRef} (hrefs : ∀ ref ∈ refs, ref.IsScanned) {d : Donor}
    (hd : d ∈ r.chainFrom visited refs) : d.IsScanned := by
  fun_induction chainFrom r visited refs with
  | case1 => exact absurd hd List.not_mem_nil
  | case2 visited ref rest hv ih => exact ih (List.forall_mem_cons.mp hrefs).2 hd
  | case3 visited ref rest hv hnone ih => exact ih (List.forall_mem_cons.mp hrefs).2 hd
  | case4 visited ref rest hv bank hfind bindings parents ih =>
    obtain ⟨href, hrest⟩ := List.forall_mem_cons.mp hrefs
    have hbank := h bank (List.mem_of_find?_eq_some hfind)
    have hbindings : bindings.IsScanned := by
      obtain ⟨name, args⟩ := ref
      exact Bindings.isScanned_ofParams _ (TypeRef.isScanned_mk.mp href).2
    rcases List.mem_append.mp hd with hd | hd
    · split at hd
      · exact absurd hd List.not_mem_nil
      · obtain rfl := List.mem_singleton.mp hd
        exact ⟨hbank, hbindings⟩
    · refine ih (List.forall_mem_append.mpr ⟨List.forall_mem_map.mpr fun parent hparent => ?_,
        hrest⟩) hd
      exact TypeRef.isScanned_substitute hbindings (hbank.interfaces parent hparent)

theorem isScanned_insert (h : r.IsScanned) {bank : DonorBank} (hbank : bank.IsScanned) :
    (r.insert bank).IsScanned :=
  List.forall_mem_append.mpr ⟨fun other hother => h other (List.mem_filter.mp hother).1,
    List.forall_mem_singleton.mpr hbank⟩

end DonorRegistry

namespace Weave

variable {target : TypeDecl}

theorem isScanned_spliceAll {chain : List Donor} (hchain : ∀ d ∈ chain, d.IsScanned)
    {registry : NameRegistry} {s : Spliced} (h : spliceAll target registry chain = .ok s) :
    s.IsScanned := by
  induction chain generalizing registry s with
  | nil =>
    obtain rfl := Except.ok.inj h
    exact ⟨by simp, by simp⟩
  | cons d chain ih =>
    obtain ⟨hd, hchain⟩ := List.forall_mem_cons.mp hchain
    obtain ⟨first, hfirst, h⟩ := bind_eq_ok.mp h
    obtain ⟨others, hothers, h⟩ := bind_eq_ok.mp h
    obtain rfl := Except.ok.inj h
    rw [ofDonor_eq] at hfirst
    have hgiven := Donor.isScanned_splice hd hfirst
    have hrest := ih hchain hothers
    exact ⟨List.forall_mem_append.mpr ⟨hgiven.members, hrest.members⟩,
      List.forall_mem_append.mpr ⟨hgiven.inits, hrest.inits⟩⟩

/-- **What donors contribute** is scanned. -/
theorem isScanned_ofTarget {donors : DonorRegistry} (hdonors : donors.IsScanned)
    (htarget : ∀ r ∈ target.interfaces, r.IsScanned) (settings : Settings)
    (declared : List String) (capabilities : CapabilitySet) (registry : NameRegistry) :
    (∀ m ∈ (ofTarget settings donors declared target capabilities registry).1.members,
      m.IsScanned) ∧
    ∀ i ∈ (ofTarget settings donors declared target capabilities registry).1.defaultInits,
      i.IsScanned := by
  rw [ofTarget]
  split
  · rename_i result hperform
    obtain ⟨s, hs, hresult⟩ := bind_eq_ok.mp hperform
    obtain rfl := Except.ok.inj hresult
    have hscanned := isScanned_spliceAll (fun d hd =>
      DonorRegistry.isScanned_of_mem_chainFrom hdonors htarget hd) hs
    exact ⟨List.forall_mem_map.mpr hscanned.members, hscanned.inits⟩
  · exact ⟨by simp, by simp⟩

end Weave

/-! ### Constructors -/

namespace Member

variable {m : Member} {direct : List DirectInit} {defaults : List DefaultInit}

theorem splitSuper_append (statements : List Form) :
    (splitSuper statements).1 ++ (splitSuper statements).2 = statements := by
  rw [splitSuper.eq_def]
  split
  · split <;> rfl
  · rfl

theorem isScanned_statements (h : m.IsScanned) : ∀ f ∈ m.statements, f.IsScanned := by
  rw [statements]
  split
  · rename_i hbody
    exact (List.forall_mem_cons.mp (Form.isScanned_seq.mp (h.body _ hbody))).2
  · rename_i hbody
    exact List.forall_mem_singleton.mpr (h.body _ hbody)
  · simp

theorem isScanned_addParams {params : List Param} (hparams : ∀ p ∈ params, p.IsScanned)
    (hdirect : ∀ i ∈ direct, i.IsScanned) : ∀ p ∈ addParams params direct, p.IsScanned := by
  rw [addParams]
  induction direct generalizing params with
  | nil => exact hparams
  | cons i direct ih =>
    obtain ⟨hi, hdirect⟩ := List.forall_mem_cons.mp hdirect
    refine ih ?_ hdirect
    dsimp only
    split
    · exact hparams
    · exact List.forall_mem_append.mpr ⟨hparams, List.forall_mem_singleton.mpr ⟨hi.1, hi.2⟩⟩

/-- **A constructor** with statements put at its start. -/
theorem isScanned_withInits (h : m.IsScanned) (hdirect : ∀ i ∈ direct, i.IsScanned)
    (hdefaults : ∀ i ∈ defaults, i.IsScanned) : (m.withInits direct defaults).IsScanned := by
  have hstatements := isScanned_statements h
  rw [← splitSuper_append m.statements, List.forall_mem_append] at hstatements
  have hinits : ∀ f ∈ direct.map (·.statement m.span) ++ defaults.map (·.statement m.span),
      f.IsScanned := by
    refine List.forall_mem_append.mpr ⟨List.forall_mem_map.mpr fun i hi => ?_,
      List.forall_mem_map.mpr fun i hi => ?_⟩
    · have hvalue : (Form.sym i.field m.span).IsScanned := (hdirect i hi).field
      exact Form.isScanned_assign (Form.isScanned_getOfThis (hdirect i hi).field _) hvalue _
    · exact Form.isScanned_assign (Form.isScanned_getOfThis (hdefaults i hi).field _)
        (hdefaults i hi).init _
  refine { h with params := isScanned_addParams h.params hdirect, body := ?_ }
  have hdo : IsName "do" := by decide
  have hblock := Form.isScanned_call (s := m.span) hdo (List.forall_mem_append.mpr
    ⟨List.forall_mem_append.mpr ⟨hstatements.1, hinits⟩, hstatements.2⟩)
  simpa [withInits] using hblock

/-- A constructor that passes parameters on. -/
theorem isScanned_derivedConstructor {inherited : Option Member}
    (h : ∀ m ∈ inherited, m.IsScanned) (s : Span) :
    (derivedConstructor s inherited).IsScanned := by
  have hparams : ∀ p ∈ (inherited.map (·.signature.params)).getD [], p.IsScanned := by
    cases inherited with
    | none => simp
    | some m => exact (h m rfl).params
  have hname : IsName constructorName := by decide
  refine ⟨hname, hparams, by simp [derivedConstructor, bareMethod, type], ?_,
    by simp [derivedConstructor, bareMethod]⟩
  simp only [derivedConstructor, Option.mem_some_iff, forall_eq']
  refine Form.isScanned_call (by decide) ?_
  split
  · simp
  · refine List.forall_mem_singleton.mpr (Form.isScanned_call (by decide) ?_)
    exact List.forall_mem_map.mpr fun p hp => (hparams p hp).name

end Member

theorem TypeDecl.isScanned_finishConstructor {d : TypeDecl} (h : d.IsScanned)
    {direct : List DirectInit} {defaults : List DefaultInit} {inherited : Option Member}
    (hdirect : ∀ i ∈ direct, i.IsScanned) (hdefaults : ∀ i ∈ defaults, i.IsScanned)
    (hinherited : ∀ m ∈ inherited, m.IsScanned) :
    (d.finishConstructor direct defaults inherited).1.IsScanned := by
  obtain ⟨kept, extra, hplan, hkept, hextra⟩ :=
    d.exists_members_finishConstructor direct defaults inherited
  rw [hplan]
  refine { h with members := List.forall_mem_append.mpr ⟨fun m hm => ?_, fun m hm => ?_⟩ }
  · obtain ⟨old, hold, rfl | ⟨-, rfl⟩⟩ := exists_of_mem_forall₂ hkept hm
    · exact h.members _ hold
    · exact Member.isScanned_withInits (h.members old hold) hdirect hdefaults
  · obtain rfl | ⟨-, -, rfl⟩ := hextra
    · exact absurd hm List.not_mem_nil
    · rw [List.mem_singleton.mp hm]
      exact Member.isScanned_publish (Member.isScanned_withInits
        (Member.isScanned_derivedConstructor hinherited d.span) hdirect hdefaults)

/-! ### Plans -/

/-- All that synthesis can look at is scanned. -/
structure Context.IsScanned (c : Context) : Prop where
  types : ∀ d ∈ c.types, d.IsScanned
  finished : ∀ d ∈ c.finished, d.IsScanned
  donors : c.donors.IsScanned

theorem Context.IsScanned.scope {c : Context} (h : c.IsScanned) : ∀ d ∈ c.scope, d.IsScanned :=
  List.forall_mem_append.mpr ⟨h.finished, h.types⟩

theorem Ancestry.isScanned_constructor? {scope : TypeScope} (h : ∀ d ∈ scope, d.IsScanned)
    (d : TypeDecl) : ∀ m ∈ (Ancestry.of scope d).constructor?, m.IsScanned := by
  intro m hm
  obtain ⟨above, habove, hconstructor⟩ := List.exists_of_findSome?_eq_some hm
  obtain ⟨x, hx, rfl⟩ := List.mem_map.mp habove
  have hfind := (TypeScope.extends_of_mem_lineage hx).1
  exact (h _ (List.mem_of_find?_eq_some hfind)).members m (List.mem_of_find?_eq_some hconstructor)

namespace Synthesis

variable {c : Context} {d : TypeDecl}

theorem isScanned_contributed (hc : c.IsScanned) (hd : d.IsScanned) (found : Diagnostics) :
    (∀ m ∈ (contributed c d found).members, m.IsScanned) ∧
      ∀ i ∈ (contributed c d found).defaultInits, i.IsScanned := by
  rw [contributed, woven]
  split
  · exact ⟨by simp, by simp⟩
  · let target : TypeDecl := { d with members := (planned c d found).1 }
    have htarget : ∀ r ∈ target.interfaces, r.IsScanned := hd.interfaces
    exact Weave.isScanned_ofTarget hc.donors htarget _ _ _ _

/-- **The plan of a scanned declaration** is scanned. -/
theorem isScanned_ofDecl (hc : c.IsScanned) (hd : d.IsScanned) : (ofDecl c d).1.IsScanned := by
  rw [ofDecl]
  split
  · obtain ⟨hplanned, hdirect⟩ := isScanned_planned hc.scope hd (preliminary c d)
    obtain ⟨hgiven, hinits⟩ := isScanned_contributed hc hd (preliminary c d)
    have hplan : TypeDecl.IsScanned { d with members := (planned c d (preliminary c d)).1 ++
        (contributed c d (preliminary c d)).members } :=
      { hd with members := List.forall_mem_append.mpr ⟨hplanned, hgiven⟩ }
    rw [expanded_eq]
    dsimp only
    split
    · exact hplan
    · exact TypeDecl.isScanned_finishConstructor hplan hdirect hinits
        (Ancestry.isScanned_constructor? hc.scope d)
  · exact hd

end Synthesis

/-- **Emission** keeps a plan scanned. -/
theorem TypeDecl.isScanned_emit {d : TypeDecl} (h : d.IsScanned) : d.emit.IsScanned := by
  refine { h with members := List.forall_mem_map.mpr fun m hm => ?_ }
  have hm := h.members m (List.mem_filter.mp hm).1
  refine { hm with body := fun f hf => ?_, accessor := by simp [Member.emit] }
  rw [Member.emit] at hf
  dsimp only at hf
  split at hf
  · exact absurd hf (by simp)
  · obtain ⟨body, hbody, rfl⟩ := Option.map_eq_some_iff.mp hf
    exact Form.isScanned_stripShields (hm.body body hbody)

namespace Expansion

namespace Pass

variable {p : Pass} {d : TypeDecl}

/-- **One step** keeps what the next can see scanned. -/
theorem isScanned_expandType (h : p.context.IsScanned) (hd : d.IsScanned) :
    (p.expandType d).context.IsScanned := by
  have hplan := Synthesis.isScanned_ofDecl h hd
  rw [expandType_eq]
  refine { h with
    finished := List.forall_mem_append.mpr ⟨h.finished,
      List.forall_mem_singleton.mpr (TypeDecl.isScanned_emit hplan)⟩
    donors := ?_ }
  dsimp only
  rw [donorsAfter]
  split
  · exact DonorRegistry.isScanned_insert h.donors (DonorBank.isScanned_ofDecl hplan _)
  · exact h.donors

theorem isScanned_foldl (h : p.context.IsScanned) {l : List TypeDecl}
    (hl : ∀ d ∈ l, d.IsScanned) : (l.foldl expandType p).context.IsScanned := by
  induction l generalizing p with
  | nil => exact h
  | cons d l ih =>
    obtain ⟨hd, hl⟩ := List.forall_mem_cons.mp hl
    exact ih (isScanned_expandType h hd) hl

end Pass

open Pass (context_start run_eq mem_of_mem_queue)

/-- **The plans of a unit** of scanned declarations are scanned. -/
theorem isScanned_of_mem_plans {u : SourceUnit} (h : ∀ d ∈ u.types, d.IsScanned)
    {settings : Settings} {plan : MemberPlan} (hplan : plan ∈ (expand settings u).plans) :
    plan.decl.IsScanned := by
  rcases mem_finished_or_of_mem_plans hplan with hfinished | ⟨d, hd, heq⟩
  · have hrun : (Pass.run settings (markFirst [] u.types)).context.IsScanned := by
      rw [run_eq]
      refine Pass.isScanned_foldl ?_ fun d hd => h d (mem_of_mem_firsts (mem_of_mem_queue hd))
      rw [context_start]
      exact ⟨fun d hd => h d (mem_of_mem_firsts hd), by simp, by simp [DonorRegistry.IsScanned]⟩
    exact hrun.finished _ hfinished
  · rw [heq]
    exact TypeDecl.isScanned_emit (h d hd)

end Expansion

end DeclWeave
