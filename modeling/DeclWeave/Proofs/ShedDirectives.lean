import DeclWeave.Proofs.FinishedTypes
import DeclWeave.Proofs.KeptDirectives
import DeclWeave.Proofs.PlanMembers

/-!
# Shedding Directives

A type that opts out, or fails to opt in where that is asked for, has its directives ignored, and
so has a member that opts out. `Settings.shed` removes from a declaration the directives that are
ignored, but for some that are to be kept.

The synthesis of a type is followed in two contexts, of which the second one has shed directives.
The two runs go side by side, member by member and rule by rule. They differ in warnings, for what
is not there is not said to be ignored, and the members in their plans in directives that are not
kept; what a forwarding member finds in its delegate, what donors give and what is inherited is the
same, if templates and the tags of donors are kept.

## Main results

* `Layer.forall₂_candidates_shed`: what may be forwarded to.
* `Synthesis.planned_shed`, `Synthesis.contributed_shed`: the members planned, and those donated.
* `Synthesis.ofDecl_shed`: the plan of a declaration.
-/

namespace DeclWeave

/-! ### What is ignored -/

namespace Settings

/-- Whether the directives of a member are ignored: those of its declaration are not carried out,
or the member opts out. -/
def ignores (settings : Settings) (d : TypeDecl) (m : Member) : Bool :=
  !settings.carriesOut d || m.sugar.optOut

/-- The directives that are read although they are ignored: emission looks for templates, and a
donor for its tags. -/
def stillReads (settings : Settings) (d : TypeDecl) (x : Directive) : Bool :=
  x.isTemplate || (x.isTag && d.isInterface && settings.carriesOut d)

variable (settings : Settings) (kept : TypeDecl → Directive → Bool)

/-- A member of a declaration; if its directives are ignored, with only those to be kept. -/
def shedMember (d : TypeDecl) (m : Member) : Member :=
  m.keeping fun x => !settings.ignores d m || kept d x

/-- A declaration without the directives that are ignored and not to be kept. -/
def shed (d : TypeDecl) : TypeDecl :=
  { d with members := d.members.map (settings.shedMember kept d) }

variable {settings kept} {d : TypeDecl} {m : Member}

theorem shedMember_of_not_ignored (h : settings.ignores d m = false) :
    settings.shedMember kept d m = m := by
  rw [shedMember, h, Member.keeping]
  simp

/-- What is to be kept is kept. -/
theorem keeping_shedMember {kept' : Directive → Bool} (h : ∀ x, kept' x → kept d x) (m : Member) :
    (settings.shedMember kept d m).keeping kept' = m.keeping kept' :=
  Member.keeping_keeping (fun x hx => Bool.or_eq_true_iff.mpr (.inr (h x hx))) m

theorem keeping_shed (d : TypeDecl) :
    (settings.shed kept d).keeping (kept d) = d.keeping (kept d) := by
  rw [shed, TypeDecl.keeping, TypeDecl.keeping]
  dsimp only
  rw [List.map_map]
  exact congrArg (fun ms => { d with members := ms })
    (List.map_congr_left fun m _ => keeping_shedMember (fun _ hx => hx) m)

/-- A declaration without directives has none to shed. -/
theorem shed_of_directives_eq_nil (h : ∀ m ∈ d.members, m.directives = []) :
    settings.shed kept d = d := by
  have hmember : ∀ m ∈ d.members, settings.shedMember kept d m = m :=
    fun m hm => Member.keeping_of_directives_eq_nil (h m hm)
  rw [shed, List.map_congr_left hmember, List.map_id']

theorem map_name_shed (types : List TypeDecl) :
    (types.map (settings.shed kept)).map (·.name) = types.map (·.name) := by
  rw [List.map_map]
  rfl

theorem member?_shed (d : TypeDecl) (name : String) :
    (settings.shed kept d).member? name = (d.member? name).map (settings.shedMember kept d) := by
  rw [TypeDecl.member?, TypeDecl.member?, shed]
  dsimp only
  rw [List.find?_map]
  rfl

end Settings

/-! ### Findings -/

namespace Diagnostics

@[simp] theorem hasErrors_error (ds : Diagnostics) (f : Fault) : (ds.error f).hasErrors = true := by
  simp [hasErrors, Diagnostic.isError]

@[simp] theorem hasErrors_warning (ds : Diagnostics) (f : Fault) :
    (ds.warning f).hasErrors = ds.hasErrors := by
  simp [hasErrors, Diagnostic.isError]

@[simp] theorem hasErrors_append (ds es : Diagnostics) :
    (ds ++ es).hasErrors = (ds.hasErrors || es.hasErrors) := by
  simp [hasErrors]

theorem hasErrors_foldl_error_eq {ds ds' : Diagnostics} (h : ds'.hasErrors = ds.hasErrors)
    (fs : List Fault) : (fs.foldl error ds').hasErrors = (fs.foldl error ds).hasErrors := by
  induction fs generalizing ds ds' with
  | nil => exact h
  | cons f fs ih => exact ih (by simp)

end Diagnostics

/-- Two stages of the work on a type that differ in warnings only. -/
structure Progress.Agrees (p p' : Progress) : Prop where
  registry_eq : p'.registry = p.registry
  direct_eq : p'.direct = p.direct
  hasErrors_eq : p'.found.hasErrors = p.found.hasErrors

namespace Progress.Agrees

variable {p p' p'' : Progress}

theorem symm (h : p.Agrees p') : p'.Agrees p :=
  ⟨h.registry_eq.symm, h.direct_eq.symm, h.hasErrors_eq.symm⟩

theorem trans (h : p.Agrees p') (h' : p'.Agrees p'') : p.Agrees p'' :=
  ⟨h'.registry_eq.trans h.registry_eq, h'.direct_eq.trans h.direct_eq,
    h'.hasErrors_eq.trans h.hasErrors_eq⟩

end Progress.Agrees

namespace Synthesis

variable {d : TypeDecl} {m : Member} {p p' : Progress}

theorem propertyOf_agrees (h : p.Agrees p') (d : TypeDecl) (m : Member) :
    (propertyOf d m p').1 = (propertyOf d m p).1 ∧
      (propertyOf d m p').2.1 = (propertyOf d m p).2.1 ∧
      (propertyOf d m p).2.2.Agrees (propertyOf d m p').2.2 := by
  rw [propertyOf, propertyOf, h.registry_eq]
  dsimp only
  split
  · exact ⟨rfl, rfl, rfl, h.direct_eq, h.hasErrors_eq⟩
  · exact ⟨rfl, rfl, rfl, h.direct_eq, by simp⟩

theorem directInit_agrees (h : p.Agrees p') (d : TypeDecl) (m : Member) :
    (directInit d m p').1 = (directInit d m p).1 ∧
      (directInit d m p).2.Agrees (directInit d m p').2 := by
  rw [directInit, directInit]
  split
  · exact ⟨rfl, h⟩
  · split
    · exact ⟨rfl, h.registry_eq, h.direct_eq, by simp [h.hasErrors_eq]⟩
    · refine ⟨rfl, h.registry_eq, by simp [h.direct_eq], ?_⟩
      cases m.body.isSome <;> simp [h.hasErrors_eq]

/-- **What becomes of a member** does not depend on warnings given before. -/
theorem member_agrees (h : p.Agrees p') (d : TypeDecl) (m : Member) :
    (member d m p').1 = (member d m p).1 ∧ (member d m p).2.Agrees (member d m p').2 := by
  rw [member, member]
  dsimp only
  split
  · exact ⟨rfl, h⟩
  · split
    · refine ⟨rfl, h.registry_eq, h.direct_eq, ?_⟩
      dsimp only
      split <;> simp [h.hasErrors_eq]
    · obtain ⟨hfield, hadded, hp⟩ :=
        propertyOf_agrees h d { m.publish with sugar := d.sugar.nested m.sugar }
      rw [hfield, hadded]
      obtain ⟨hkept, hp'⟩ := directInit_agrees hp d _
      rw [hkept]
      exact ⟨rfl, hp'⟩

end Synthesis

/-! ### Contexts -/

/-- Two contexts that differ in what is shed: the types of the second one have shed it, donors keep
their tags, and finished plans are the same. -/
structure Context.Sheds (kept : TypeDecl → Directive → Bool) (c c' : Context) : Prop where
  settings_eq : c'.settings = c.settings
  types_eq : c'.types = c.types.map (c.settings.shed kept)
  finished_eq : c'.finished = c.finished
  directives_eq : ∀ plan ∈ c.finished, ∀ m ∈ plan.members, m.directives = []
  donors_eq : ∀ name, (c'.donors.find? name).map (·.keeping Directive.isTag) =
    (c.donors.find? name).map (·.keeping Directive.isTag)

namespace Context.Sheds

variable {kept : TypeDecl → Directive → Bool} {c c' : Context} {d : TypeDecl}

/-- Finished plans have nothing to shed. -/
theorem scope_eq (h : c.Sheds kept c') : c'.scope = c.scope.map (c.settings.shed kept) := by
  have hfinished : c.finished.map (c.settings.shed kept) = c.finished := by
    have hplan : ∀ plan ∈ c.finished, c.settings.shed kept plan = plan := fun plan hplan =>
      Settings.shed_of_directives_eq_nil (h.directives_eq plan hplan)
    rw [List.map_congr_left hplan, List.map_id']
  rw [scope, scope, h.types_eq, h.finished_eq, List.map_append, hfinished]

theorem declared_eq (h : c.Sheds kept c') : c'.declared = c.declared := by
  rw [declared, declared, h.types_eq, List.map_map]
  rfl

theorem isFinished_eq (h : c.Sheds kept c') (name : String) :
    c'.isFinished name = c.isFinished name := by
  rw [isFinished, isFinished, h.finished_eq]

theorem sugarEnabled_eq (h : c.Sheds kept c') (d : TypeDecl) :
    c'.sugarEnabled d = c.sugarEnabled d := by
  rw [sugarEnabled, sugarEnabled, h.settings_eq]

theorem preliminary_eq (h : c.Sheds kept c') (d : TypeDecl) :
    Synthesis.preliminary c' (c.settings.shed kept d) = Synthesis.preliminary c d := by
  rw [Synthesis.preliminary, Synthesis.preliminary, Synthesis.unknownReferences,
    Synthesis.unknownReferences, h.declared_eq, h.settings_eq]
  rfl

theorem superclasses_eq (h : c.Sheds kept c') (d : TypeDecl) :
    Ancestry.superclasses c'.scope (c.settings.shed kept d) =
      (Ancestry.superclasses c.scope d).map (c.settings.shed kept) := by
  rw [Ancestry.superclasses, Ancestry.superclasses, h.scope_eq,
    TypeScope.lineage_map (c.settings.shed kept) (fun _ => rfl) (fun _ _ => rfl), List.map_map,
    List.map_map]
  rfl

/-- What is inherited has the same names and capabilities, and the same constructor but for its
directives. -/
theorem ancestry_eq (h : c.Sheds kept c') (d : TypeDecl) :
    let ancestry := Ancestry.of c.scope d
    let ancestry' := Ancestry.of c'.scope (c.settings.shed kept d)
    ancestry'.names = ancestry.names ∧ ancestry'.capabilities = ancestry.capabilities ∧
      ancestry'.constructor?.map (·.signature) = ancestry.constructor?.map (·.signature) := by
  rw [Ancestry.of, Ancestry.of, h.superclasses_eq]
  refine ⟨?_, ?_, ?_⟩
  · rw [List.flatMap_map]
    refine List.flatMap_congr fun e _ => ?_
    rw [Settings.shed]
    dsimp only
    rw [List.filter_map, List.map_map]
    rfl
  · have hcapabilities : ∀ e, Ancestry.capabilitiesOf (c.settings.shed kept e) =
        Ancestry.capabilitiesOf e := by
      intro e
      rw [Ancestry.capabilitiesOf, Ancestry.capabilitiesOf, CapabilitySet.infer,
        CapabilitySet.infer, Settings.shed]
      dsimp only
      rw [List.filterMap_map]
      rfl
    rw [List.foldl_map]
    simp only [hcapabilities]
  · dsimp only
    rw [List.findSome?_map, List.map_findSome?, List.map_findSome?]
    congr 1
    funext e
    rw [Function.comp_apply, Function.comp_apply, Function.comp_apply, TypeDecl.constructor?,
      Settings.member?_shed, Option.map_map]
    rfl

end Context.Sheds

/-! ### Forwarding -/

section Forwarding

variable {settings : Settings} {kept : TypeDecl → Directive → Bool}

/-- The candidates of a declaration that sheds directives cannot be told apart from those it had,
since a field that is judged by its directives does not ignore them. -/
theorem Layer.forall₂_candidates_shed (settings : Settings)
    (htemplate : ∀ d, kept d .template = true) {l : Layer}
    (hpending : l.pending → settings.carriesOut l.decl) :
    List.Forall₂ Candidate.Alike l.candidates
      ({ l with decl := settings.shed kept l.decl } : Layer).candidates := by
  rw [candidates, candidates, Settings.shed]
  dsimp only
  rw [List.map_map, List.forall₂_map_left_iff, List.forall₂_map_right_iff, List.forall₂_same]
  intro m hm
  refine ⟨Settings.keeping_shedMember (fun x hx => ?_) m, rfl, rfl, ?_⟩
  · cases x with
    | template => exact htemplate l.decl
    | _ => exact absurd hx Bool.false_ne_true
  · cases hignores : settings.ignores l.decl m with
    | false =>
      rw [Function.comp_apply, Settings.shedMember_of_not_ignored hignores]
    | true =>
      have hjudged : (!l.pending || m.sugar.optOut) = true := by
        cases hp : l.pending with
        | false => rfl
        | true => simpa [Settings.ignores, hpending hp] using hignores
      have hout : (settings.shedMember kept l.decl m).sugar.optOut = m.sugar.optOut := rfl
      rw [Candidate.isWritable, Candidate.isWritable, Function.comp_apply]
      dsimp only
      rw [hout, hjudged]
      rfl

theorem Delegate.resolve?_shed (scope : TypeScope) (r : TypeRef) :
    resolve? (scope.map (settings.shed kept)) r =
      (resolve? scope r).map fun delegate =>
        ⟨delegate.layers.map fun l => { l with decl := settings.shed kept l.decl }⟩ := by
  rw [resolve?, resolve?,
    TypeScope.lineage_map (settings.shed kept) (fun _ => rfl) (fun _ _ => rfl)]
  cases scope.lineage superclassThrough [] (some r) with
  | nil => rfl
  | cons entry line =>
    refine congrArg (fun layers => some (Delegate.mk layers)) ?_
    rw [List.map_map, List.map_map]
    rfl

end Forwarding

/-! ### Synthesis -/

namespace Synthesis

variable {kept : TypeDecl → Directive → Bool} {c c' : Context} {d : TypeDecl} {p p' : Progress}

/-- A forwarding member finds the same candidates. -/
theorem forward_shed (h : c.Sheds kept c') (htemplate : ∀ d, kept d .template = true)
    (d : TypeDecl) (source : Member) (request : ForwardRequest) (registry : NameRegistry) :
    forward c' (c.settings.shed kept d) source request registry =
      forward c d source request registry := by
  rw [forward, forward, h.scope_eq]
  refine congrArg _ (funext fun type => ?_)
  rw [Delegate.resolve?_shed]
  cases Delegate.resolve? c.scope type with
  | none => rfl
  | some delegate =>
    refine Forward.synthesize_congr (Settings.keeping_shed d) request
      (Delegate.forall₂_candidates ?_) registry
    rw [Delegate.markPending, Delegate.markPending]
    dsimp only
    rw [List.map_map, List.forall₂_map_left_iff, List.forall₂_map_right_iff, List.forall₂_same]
    intro l hl
    have hpending : (!c'.isFinished l.decl.name && c'.sugarEnabled (c.settings.shed kept l.decl)) =
        (!c.isFinished l.decl.name && c.sugarEnabled l.decl) := by
      rw [h.isFinished_eq, h.sugarEnabled_eq]
      rfl
    have hlayer := Layer.forall₂_candidates_shed c.settings htemplate
      (l := { l with pending := !c.isFinished l.decl.name && c.sugarEnabled l.decl })
      fun hp => (Bool.and_eq_true_iff.mp hp).2
    dsimp only [Function.comp_apply]
    have hname : (c.settings.shed kept l.decl).name = l.decl.name := rfl
    rw [hname, hpending]
    exact hlayer

/-- A member that opts out forwards nothing. -/
theorem forwardOf_of_optOut {m : Member} (h : m.sugar.optOut = true) (p : Progress) :
    forwardOf c d m p = ([], p) := by
  rw [forwardOf, h]
  cases m.forwardRequest? <;> rfl

theorem forwardOf_shed (h : c.Sheds kept c') (htemplate : ∀ d, kept d .template = true)
    (hout : c.settings.carriesOut d = true) (hp : p.Agrees p') (m : Member) :
    (forwardOf c' (c.settings.shed kept d) (c.settings.shedMember kept d m) p').1 =
        (forwardOf c d m p).1 ∧
      (forwardOf c d m p).2.Agrees
        (forwardOf c' (c.settings.shed kept d) (c.settings.shedMember kept d m) p').2 := by
  cases hignores : c.settings.ignores d m with
  | true =>
    have hopt : m.sugar.optOut = true := by simpa [Settings.ignores, hout] using hignores
    have hopt' : (c.settings.shedMember kept d m).sugar.optOut = true := hopt
    rw [forwardOf_of_optOut hopt, forwardOf_of_optOut hopt']
    exact ⟨rfl, hp⟩
  | false =>
    rw [Settings.shedMember_of_not_ignored hignores, forwardOf, forwardOf]
    split
    · exact ⟨rfl, hp⟩
    · rw [forward_shed h htemplate, hp.registry_eq]
      split
      · exact ⟨rfl, hp⟩
      · split
        · exact ⟨rfl, rfl, hp.direct_eq, hp.hasErrors_eq⟩
        · exact ⟨rfl, rfl, hp.direct_eq, by simp⟩

/-- A member and the group made of it, before and after shedding. -/
def Follows (settings : Settings) (kept : TypeDecl → Directive → Bool) (d : TypeDecl)
    (pair pair' : Member × List Member) : Prop :=
  pair'.1 = settings.shedMember kept d pair.1 ∧
    pair'.2.map (·.keeping (kept d)) = pair.2.map (·.keeping (kept d))

/-- A member that opts out is taken up as it is. -/
theorem member_of_optOut {m : Member} (h : m.sugar.optOut = true) (d : TypeDecl) (p : Progress) :
    (member d m p).1 = [takenUp d m] ∧ p.Agrees (member d m p).2 := by
  have hopt : (d.sugar.nested m.sugar).optOut = true := by
    rw [SugarFlags.nested, h, Bool.or_true]
  rw [member]
  dsimp only
  rw [hopt]
  split
  · exact ⟨rfl, rfl, rfl, rfl⟩
  · refine ⟨rfl, rfl, rfl, ?_⟩
    change Diagnostics.hasErrors (if _ then _ else _) = _
    split <;> simp

theorem member_shed (kept : TypeDecl → Directive → Bool) {settings : Settings}
    (hout : settings.carriesOut d = true) (hp : p.Agrees p') (m : Member) :
    (member (settings.shed kept d) (settings.shedMember kept d m) p').1.map (·.keeping (kept d)) =
        (member d m p).1.map (·.keeping (kept d)) ∧
      (member d m p).2.Agrees
        (member (settings.shed kept d) (settings.shedMember kept d m) p').2 := by
  have hheader : member (settings.shed kept d) = member d := rfl
  rw [hheader]
  cases hignores : settings.ignores d m with
  | false =>
    rw [Settings.shedMember_of_not_ignored hignores]
    obtain ⟨hgroup, hagrees⟩ := member_agrees hp d m
    exact ⟨by rw [hgroup], hagrees⟩
  | true =>
    have hopt : m.sugar.optOut = true := by simpa [Settings.ignores, hout] using hignores
    have hopt' : (settings.shedMember kept d m).sugar.optOut = true := hopt
    obtain ⟨hgroup, hagrees⟩ := member_of_optOut hopt d p
    obtain ⟨hgroup', hagrees'⟩ := member_of_optOut hopt' d p'
    rw [hgroup, hgroup']
    refine ⟨?_, (hagrees.symm.trans hp).trans hagrees'⟩
    exact congrArg (fun m => [takenUp d m]) (Settings.keeping_shedMember (fun _ hx => hx) m)

/-- **Members in turn**, by induction: each is taken up as before, but for warnings. -/
theorem members_shed (kept : TypeDecl → Directive → Bool) {settings : Settings}
    (hout : settings.carriesOut d = true) (hp : p.Agrees p') (ms : List Member) :
    List.Forall₂ (Follows settings kept d) (ms.zip (members d p ms).1)
        ((ms.map (settings.shedMember kept d)).zip
          (members (settings.shed kept d) p' (ms.map (settings.shedMember kept d))).1) ∧
      (members d p ms).2.Agrees
        (members (settings.shed kept d) p' (ms.map (settings.shedMember kept d))).2 := by
  induction ms generalizing p p' with
  | nil => exact ⟨.nil, hp⟩
  | cons m ms ih =>
    obtain ⟨hgroup, hagrees⟩ := member_shed kept hout hp m
    obtain ⟨hgroups, hagrees'⟩ := ih hagrees
    rw [List.map_cons, members, members]
    exact ⟨.cons ⟨rfl, hgroup⟩ hgroups, hagrees'⟩

theorem forwards_shed (h : c.Sheds kept c') (htemplate : ∀ d, kept d .template = true)
    (hout : c.settings.carriesOut d = true) (hp : p.Agrees p')
    {pairs pairs' : List (Member × List Member)}
    (hpairs : List.Forall₂ (Follows c.settings kept d) pairs pairs') :
    (forwards c' (c.settings.shed kept d) p' pairs').1.map (·.keeping (kept d)) =
        (forwards c d p pairs).1.map (·.keeping (kept d)) ∧
      (forwards c d p pairs).2.Agrees (forwards c' (c.settings.shed kept d) p' pairs').2 := by
  induction hpairs generalizing p p' with
  | nil => exact ⟨rfl, hp⟩
  | @cons pair pair' pairs pairs' hpair _ ih =>
    obtain ⟨m, group⟩ := pair
    obtain ⟨m', group'⟩ := pair'
    obtain ⟨rfl, hgroup⟩ := hpair
    obtain ⟨hmade, hagrees⟩ := forwardOf_shed h htemplate hout hp m
    obtain ⟨hothers, hagrees'⟩ := ih hagrees
    rw [forwards, forwards]
    refine ⟨?_, hagrees'⟩
    dsimp only at hgroup ⊢
    rw [List.map_append, List.map_append, List.map_append, List.map_append, hgroup, hmade, hothers]

theorem planned_shed (h : c.Sheds kept c') (htemplate : ∀ d, kept d .template = true)
    (hout : c.settings.carriesOut d = true) {found found' : Diagnostics}
    (hfound : found'.hasErrors = found.hasErrors) :
    (planned c' (c.settings.shed kept d) found').1.map (·.keeping (kept d)) =
        (planned c d found).1.map (·.keeping (kept d)) ∧
      (planned c d found).2.Agrees (planned c' (c.settings.shed kept d) found').2 := by
  have hregistry : NameRegistry.ofDecl (c.settings.shed kept d)
      (Ancestry.of c'.scope (c.settings.shed kept d)).names =
        .ofDecl d (Ancestry.of c.scope d).names := by
    have hnames : (c.settings.shed kept d).memberNames = d.memberNames := by
      rw [TypeDecl.memberNames, TypeDecl.memberNames, Settings.shed]
      dsimp only
      rw [List.map_map]
      rfl
    rw [NameRegistry.ofDecl, NameRegistry.ofDecl, (h.ancestry_eq d).1, hnames]
    rfl
  rw [planned, planned, hregistry]
  have hp : Progress.Agrees { registry := .ofDecl d (Ancestry.of c.scope d).names, found }
      { registry := .ofDecl d (Ancestry.of c.scope d).names, found := found' } :=
    ⟨rfl, rfl, hfound⟩
  obtain ⟨hpairs, hagrees⟩ := members_shed kept hout hp d.members
  exact forwards_shed h htemplate hout hagrees hpairs

theorem contributed_shed (h : c.Sheds kept c') (htemplate : ∀ d, kept d .template = true)
    (hout : c.settings.carriesOut d = true) {found found' : Diagnostics}
    (hfound : found'.hasErrors = found.hasErrors) :
    contributed c' (c.settings.shed kept d) found' = contributed c d found := by
  obtain ⟨hplanned, hagrees⟩ := planned_shed h htemplate hout hfound
  obtain ⟨-, hcapabilities, -⟩ := h.ancestry_eq d
  let plan : TypeDecl := { d with members := (planned c d found).1 }
  let plan' : TypeDecl :=
    { c.settings.shed kept d with members := (planned c' (c.settings.shed kept d) found').1 }
  have hplan : plan'.keeping (kept d) = plan.keeping (kept d) :=
    congrArg (fun ms => { d with members := ms }) hplanned
  have htarget : ∀ capabilities registry,
      Weave.ofTarget c.settings c'.donors c.declared plan' capabilities registry =
        Weave.ofTarget c.settings c.donors c.declared plan capabilities registry := by
    intro capabilities registry
    have hchain := DonorRegistry.map_keeping_chain h.donors_eq plan.interfaces
    have hsame : (c'.donors.chain plan'.interfaces).map (·.keeping Directive.isTag) =
        (c'.donors.chain plan'.interfaces).map (·.keeping Directive.isTag) := rfl
    rw [← Weave.ofTarget_congr_keeping (fun _ hx => hx) (kept d) c.settings c.declared hsame, hplan]
    exact Weave.ofTarget_congr_keeping (fun _ hx => hx) (kept d) c.settings c.declared hchain _ _
  rw [contributed, contributed, woven, woven, hcapabilities, h.settings_eq, h.declared_eq,
    hagrees.registry_eq]
  exact congrArg (fun weave : Weave => if d.isInterface then {} else weave)
    (congrArg Prod.fst (htarget _ _))

theorem expanded_shed (h : c.Sheds kept c') (htemplate : ∀ d, kept d .template = true)
    (hout : c.settings.carriesOut d = true) {found found' : Diagnostics}
    (hfound : found'.hasErrors = found.hasErrors) :
    (expanded c' (c.settings.shed kept d) found').1.keeping (kept d) =
        (expanded c d found).1.keeping (kept d) ∧
      (expanded c' (c.settings.shed kept d) found').2.hasErrors =
        (expanded c d found).2.hasErrors := by
  obtain ⟨hplanned, hagrees⟩ := planned_shed h htemplate hout hfound
  have hcontributed := contributed_shed h htemplate hout hfound
  constructor
  · let plan : TypeDecl :=
      { d with members := (planned c d found).1 ++ (contributed c d found).members }
    let plan' : TypeDecl :=
      { c.settings.shed kept d with
        members := (planned c' (c.settings.shed kept d) found').1 ++
          (contributed c d found).members }
    have hplan : plan'.keeping (kept d) = plan.keeping (kept d) := by
      refine congrArg (fun ms => { d with members := ms }) ?_
      rw [List.map_append, List.map_append, hplanned]
    have hinterface : (c.settings.shed kept d).isInterface = d.isInterface := rfl
    rw [expanded_eq, expanded_eq, hinterface, hagrees.direct_eq, hcontributed]
    dsimp only
    split
    · exact hplan
    · obtain ⟨-, -, hconstructor⟩ := h.ancestry_eq d
      rw [← TypeDecl.finishConstructor_keeping (kept d) plan _ _ hconstructor, ← hplan]
      exact (TypeDecl.finishConstructor_keeping (kept d) plan' _ _ rfl).symm
  · have hfaults : ∀ (c : Context) (d : TypeDecl) (found : Diagnostics), (expanded c d found).2 =
        (contributed c d found).faults.foldl .error (planned c d found).2.found := by
      intro c d found
      unfold expanded
      dsimp only
      split <;> rfl
    rw [hfaults, hfaults, hcontributed]
    exact Diagnostics.hasErrors_foldl_error_eq hagrees.hasErrors_eq _

/-- **The plan of a declaration** that sheds directives is the same but for these, and fails where
it did. -/
theorem ofDecl_shed (h : c.Sheds kept c') (htemplate : ∀ d, kept d .template = true)
    (d : TypeDecl) :
    (ofDecl c' (c.settings.shed kept d)).1.keeping (kept d) = (ofDecl c d).1.keeping (kept d) ∧
      (ofDecl c' (c.settings.shed kept d)).2.hasErrors = (ofDecl c d).2.hasErrors := by
  have hsugar : c'.sugarEnabled (c.settings.shed kept d) = c.sugarEnabled d :=
    h.sugarEnabled_eq _
  rw [ofDecl, ofDecl, hsugar, h.preliminary_eq]
  split
  · rename_i hout
    exact expanded_shed h htemplate hout rfl
  · have hwarnings : ∀ d : TypeDecl, (ignoredDirectives d).hasErrors = false := by
      intro d
      rw [ignoredDirectives]
      split
      · rw [Diagnostics.hasErrors_warning]
        rfl
      · rfl
    refine ⟨Settings.keeping_shed d, ?_⟩
    rw [Diagnostics.hasErrors_append, Diagnostics.hasErrors_append, hwarnings, hwarnings]

end Synthesis

end DeclWeave
