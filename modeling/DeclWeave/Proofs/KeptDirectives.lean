import DeclWeave.Proofs.Marks
import DeclWeave.Proofs.WeaveContents

/-!
# What Is Read of Directives

Synthesis carries out the directives of a member at its turn. Apart from that they are read in few
places: emission asks whether a member is a template, a donor what the tags of its members say, and
forwarding whether a field can be written. `keeping` leaves out of the directives of members those
that are not to be kept, and nothing else. What does not read these directives does not notice.

## Main results

* `TypeDecl.emit_keeping`: the finished form of a plan.
* `DonorBank.ofDecl_keeping`: the donor that an interface becomes.
* `Weave.ofTarget_congr_keeping`: what donors contribute to a target.
* `TypeDecl.finishConstructor_keeping`: the constructor of a class.
* `Forward.counterparts_congr`: what a forwarding member gives its host.
-/

namespace DeclWeave

namespace Directive

/-- The directive of a method that serves only as a template. -/
def isTemplate : Directive → Bool
  | .template => true
  | _ => false

/-- The directives that say how a donor gives a member. -/
def isTag : Directive → Bool
  | .usedOnlyBy _ | .requires _ => true
  | _ => false

end Directive

/-- Leaving out what a search would pass over does not change what it finds. -/
theorem findSome?_filter_eq {α β : Type} {kept : α → Bool} {f : α → Option β}
    (h : ∀ a, (f a).isSome → kept a) (l : List α) :
    (l.filter kept).findSome? f = l.findSome? f := by
  induction l with
  | nil => rfl
  | cons a l ih =>
    rw [List.filter_cons, List.findSome?_cons]
    split
    · rw [List.findSome?_cons, ih]
    · rename_i hkept
      have hnone : f a = none := Option.not_isSome_iff_eq_none.mp fun hsome => hkept (h a hsome)
      rw [hnone, ih]

variable {kept kept' : Directive → Bool}

/-! ### Members -/

namespace Member

/-- A member with only those of its directives that are to be kept. -/
def keeping (kept : Directive → Bool) (m : Member) : Member :=
  { m with directives := m.directives.filter kept }

theorem keeping_keeping (h : ∀ x, kept x → kept' x) (m : Member) :
    (m.keeping kept').keeping kept = m.keeping kept := by
  rw [keeping, keeping, keeping]
  dsimp only
  rw [List.filter_filter]
  congr 1
  refine List.filter_congr fun x _ => ?_
  cases hx : kept x with
  | false => rfl
  | true => rw [h x hx, Bool.and_self]

theorem isTemplate_keeping (h : kept .template = true) (m : Member) :
    (m.keeping kept).isTemplate = m.isTemplate := by
  rw [isTemplate, isTemplate, keeping]
  dsimp only
  rw [List.any_filter]
  congr 1
  funext x
  cases x <;> simp [h]

theorem usedOnlyBy?_keeping (h : ∀ x : Directive, x.isTag → kept x) (m : Member) :
    (m.keeping kept).usedOnlyBy? = m.usedOnlyBy? := by
  refine findSome?_filter_eq (fun x hx => ?_) m.directives
  cases x with
  | usedOnlyBy names => exact h _ rfl
  | _ => exact absurd hx Bool.false_ne_true

theorem requirements_keeping (h : ∀ x : Directive, x.isTag → kept x) (m : Member) :
    (m.keeping kept).requirements = m.requirements := by
  refine congrArg (fun tags : Option (List String) => tags.getD [])
    (findSome?_filter_eq (fun x hx => ?_) m.directives)
  cases x with
  | requires tags => exact h _ rfl
  | _ => exact absurd hx Bool.false_ne_true

/-- Without directives there are none to leave out. -/
theorem keeping_of_directives_eq_nil {m : Member} (h : m.directives = []) :
    m.keeping kept = m := by
  rw [keeping, h, List.filter_nil, ← h]

end Member

/-! ### Declarations -/

namespace TypeDecl

/-- A declaration with only those directives of its members that are to be kept. -/
def keeping (kept : Directive → Bool) (d : TypeDecl) : TypeDecl :=
  { d with members := d.members.map (·.keeping kept) }

theorem keeping_keeping (h : ∀ x, kept x → kept' x) (d : TypeDecl) :
    (d.keeping kept').keeping kept = d.keeping kept := by
  rw [keeping, keeping, keeping]
  dsimp only
  rw [List.map_map]
  exact congrArg (fun ms => { d with members := ms })
    (List.map_congr_left fun m _ => Member.keeping_keeping h m)

/-- Declarations that agree on more directives agree on fewer. -/
theorem keeping_mono (h : ∀ x, kept x → kept' x) {d d' : TypeDecl}
    (hsame : d'.keeping kept' = d.keeping kept') : d'.keeping kept = d.keeping kept := by
  rw [← keeping_keeping h d', hsame, keeping_keeping h]

theorem member?_keeping (d : TypeDecl) (name : String) :
    (d.keeping kept).member? name = (d.member? name).map (·.keeping kept) := by
  rw [member?, member?, keeping]
  dsimp only
  rw [List.find?_map]
  rfl

/-- **What is emitted** is settled without the directives, but for templates. -/
theorem emit_keeping (h : kept .template = true) (d : TypeDecl) :
    (d.keeping kept).emit = d.emit := by
  have hkeeps : (d.keeping kept).keeps ∘ Member.keeping kept = d.keeps := by
    funext m
    rw [Function.comp_apply, keeps, keeps, Member.isTemplate_keeping h]
    rfl
  rw [emit, emit, keeping]
  dsimp only
  rw [List.filter_map, List.map_map]
  exact congrArg (fun ms => { d with members := ms })
    (congrArg (List.map (Member.emit d.isInterface)) (congrArg (d.members.filter ·) hkeeps))

/-! ### Constructors -/

theorem modifyMember_keeping {f : Member → Member}
    (hf : ∀ m, f (m.keeping kept) = (f m).keeping kept) (d : TypeDecl) (name : String) :
    (d.keeping kept).modifyMember name f = (d.modifyMember name f).keeping kept := by
  have hgo : ∀ ms : List Member, modifyMember.go name f (ms.map (·.keeping kept)) =
      (modifyMember.go name f ms).map (·.keeping kept) := by
    intro ms
    induction ms with
    | nil => rfl
    | cons m ms ih =>
      rw [List.map_cons, modifyMember.go, modifyMember.go]
      have hname : (m.keeping kept).name = m.name := rfl
      rw [hname]
      split
      · rw [hf, List.map_cons]
      · rw [ih, List.map_cons]
  exact congrArg (fun ms => { d with members := ms }) (hgo d.members)

/-- **Finishing a constructor** leaves the directives alone, and asks of the inherited one no more
than its signature. -/
theorem finishConstructor_keeping (kept : Directive → Bool) (d : TypeDecl)
    (direct : List DirectInit) (defaults : List DefaultInit) {inherited inherited' : Option Member}
    (h : inherited'.map (·.signature) = inherited.map (·.signature)) :
    ((d.keeping kept).finishConstructor direct defaults inherited').1 =
      (d.finishConstructor direct defaults inherited).1.keeping kept := by
  have hderived : Member.derivedConstructor d.span inherited' =
      Member.derivedConstructor d.span inherited := by
    have hparams : inherited'.map (·.signature.params) = inherited.map (·.signature.params) := by
      have hmap := congrArg (Option.map (·.params)) h
      rwa [Option.map_map, Option.map_map] at hmap
    rw [Member.derivedConstructor, Member.derivedConstructor, hparams]
  rw [finishConstructor, finishConstructor, constructor?, member?_keeping, constructor?]
  split
  · rfl
  · cases hconstructor : d.member? constructorName with
    | some m =>
      exact modifyMember_keeping (f := (·.withInits direct defaults)) (fun _ => rfl) d _
    | none =>
      dsimp only [Option.map_none]
      rw [keeping, keeping, hderived]
      dsimp only
      rw [List.map_append]
      rfl

end TypeDecl

/-! ### Donors -/

namespace DonorBank

/-- A bank with only those directives of its members that are to be kept. -/
def keeping (kept : Directive → Bool) (b : DonorBank) : DonorBank :=
  { b with members := b.members.map (·.keeping kept) }

theorem handle?_keeping (ms : List Member) (name : String) :
    handle? (ms.map (·.keeping kept)) name = handle? ms name := by
  rw [handle?, handle?, List.zipIdx_map, ← List.map_reverse, List.find?_map, Option.map_map]
  rfl

theorem handles_keeping (b : DonorBank) : (b.keeping kept).handles = b.handles := by
  rw [handles, handles, keeping, List.length_map]

theorem findCycle_keeping (b : DonorBank) : (b.keeping kept).findCycle = b.findCycle := by
  rw [findCycle, findCycle, handles_keeping]
  rfl

/-- The bank of an interface, before a circle of demands is looked for. -/
def unchecked (plan : TypeDecl) : DonorBank :=
  let members := plan.members.filter isDonated
  { name := plan.name
    typeParams := plan.typeParams
    interfaces := plan.interfaces
    span := plan.span
    members
    demands := members.map (demandOf members)
    rejected := false }

/-- The findings about tags of donated members that name nothing. -/
def loose (plan : TypeDecl) (ms : List Member) : List Fault :=
  (ms.flatMap fun m => (CapabilitySet.unknownTags m.requirements).map (plan.fault · plan.span)) ++
    ms.flatMap (danglingDemands plan ms)

/-- Looks for a circle of demands, and handles it as the settings say. -/
def judge (settings : Settings) (plan : TypeDecl) (b : DonorBank) (found : Diagnostics) :
    DonorBank × Diagnostics :=
  match b.findCycle with
  | none => (b, found)
  | some cycle =>
    let names := cycle.filterMap fun i => b.members[i]?.map (·.name)
    let fault := plan.fault (.cyclicDemand plan.name names) plan.span
    match settings.cyclePolicy with
    | .reject => ({ b with rejected := true }, found.error fault)
    | .leastFixpoint => (b, found.warning fault)

theorem ofDecl_eq (settings : Settings) (plan : TypeDecl) :
    ofDecl settings plan = judge settings plan (unchecked plan)
      ((loose plan (unchecked plan).members).foldl .warning {}) := rfl

theorem judge_keeping (settings : Settings) (plan : TypeDecl) (b : DonorBank)
    (found : Diagnostics) : judge settings (plan.keeping kept) (b.keeping kept) found =
      ((judge settings plan b found).1.keeping kept, (judge settings plan b found).2) := by
  have hnames : ∀ i : ℕ, (b.keeping kept).members[i]?.map (·.name) =
      b.members[i]?.map (·.name) := by
    intro i
    rw [keeping, List.getElem?_map, Option.map_map]
    rfl
  rw [judge, judge, findCycle_keeping]
  cases b.findCycle with
  | none => rfl
  | some cycle =>
    dsimp only
    simp only [hnames]
    cases settings.cyclePolicy <;> rfl

section Tags

variable (htags : ∀ x : Directive, x.isTag → kept x)

include htags

theorem demandOf_keeping (ms : List Member) (m : Member) :
    demandOf (ms.map (·.keeping kept)) (m.keeping kept) = demandOf ms m := by
  rw [demandOf, demandOf, Member.usedOnlyBy?_keeping htags]
  congr 1
  funext names
  exact List.filterMap_congr fun name _ => handle?_keeping ms name

theorem danglingDemands_keeping (plan : TypeDecl) (ms : List Member) (m : Member) :
    danglingDemands (plan.keeping kept) (ms.map (·.keeping kept)) (m.keeping kept) =
      danglingDemands plan ms m := by
  rw [danglingDemands, danglingDemands, Member.usedOnlyBy?_keeping htags]
  simp only [handle?_keeping, TypeDecl.member?_keeping, Option.isSome_map]
  rfl

theorem unchecked_keeping (plan : TypeDecl) :
    unchecked (plan.keeping kept) = (unchecked plan).keeping kept := by
  have hmembers : (plan.keeping kept).members.filter isDonated =
      (plan.members.filter isDonated).map (·.keeping kept) := by
    rw [TypeDecl.keeping, List.filter_map]
    rfl
  have hdemands : ((plan.members.filter isDonated).map (·.keeping kept)).map
      (demandOf ((plan.members.filter isDonated).map (·.keeping kept))) =
        (plan.members.filter isDonated).map (demandOf (plan.members.filter isDonated)) := by
    rw [List.map_map]
    exact List.map_congr_left fun m _ => demandOf_keeping htags _ m
  rw [unchecked, hmembers, hdemands]
  rfl

theorem loose_keeping (plan : TypeDecl) (ms : List Member) :
    loose (plan.keeping kept) (ms.map (·.keeping kept)) = loose plan ms := by
  rw [loose, loose, List.flatMap_map, List.flatMap_map]
  congr 1
  · refine List.flatMap_congr fun m _ => ?_
    rw [Member.requirements_keeping htags]
    rfl
  · exact List.flatMap_congr fun m _ => danglingDemands_keeping htags plan ms m

/-- **The donor that an interface becomes** is settled without the directives, but for tags. -/
theorem ofDecl_keeping (settings : Settings) (plan : TypeDecl) :
    ofDecl settings (plan.keeping kept) =
      ((ofDecl settings plan).1.keeping kept, (ofDecl settings plan).2) := by
  have hloose : loose (plan.keeping kept) ((unchecked plan).keeping kept).members =
      loose plan (unchecked plan).members := loose_keeping htags plan _
  rw [ofDecl_eq, ofDecl_eq, unchecked_keeping htags, hloose]
  exact judge_keeping settings plan (unchecked plan) _

theorem requirements_keeping (b : DonorBank) (i : ℕ) :
    (b.keeping kept).requirements i = b.requirements i := by
  rw [requirements, requirements, keeping]
  dsimp only
  rw [List.getElem?_map]
  cases b.members[i]? with
  | none => rfl
  | some m => exact congrArg CapabilitySet.declared (Member.requirements_keeping htags m)

end Tags

theorem dependents_keeping (b : DonorBank) : (b.keeping kept).dependents = b.dependents := by
  funext i
  rw [dependents, dependents, keeping, List.length_map]
  rfl

theorem close_keeping (b : DonorBank) (absent inside work : List ℕ) :
    (b.keeping kept).close absent inside work = b.close absent inside work := by
  fun_induction close b absent inside work with
  | case1 inside => rw [close]
  | case2 inside i work state ih =>
    rw [close, dependents_keeping]
    exact ih

theorem included_keeping (b : DonorBank) (present : String → Bool) :
    (b.keeping kept).included present = b.included present := by
  have habsent : (b.keeping kept).absent present = b.absent present := by
    rw [absent, absent, handles_keeping]
    refine List.filter_congr fun i _ => ?_
    rw [keeping, List.getElem?_map, Option.any_map]
    rfl
  rw [included, included, habsent, close_keeping, handles_keeping]
  rfl

end DonorBank

/-- A donor with only those directives of its members that are to be kept. -/
def Donor.keeping (kept : Directive → Bool) (d : Donor) : Donor :=
  { d with bank := d.bank.keeping kept }

theorem DonorRegistry.map_keeping_chain {r r' : DonorRegistry}
    (h : ∀ name, (r.find? name).map (·.keeping kept) = (r'.find? name).map (·.keeping kept))
    (interfaces : List TypeRef) :
    (r.chain interfaces).map (·.keeping kept) = (r'.chain interfaces).map (·.keeping kept) :=
  map_chainFrom_congr (·.keeping kept) (fun _ => rfl) (fun _ => rfl) (fun _ => rfl) h

section Tags

variable (htags : ∀ x : Directive, x.isTag → kept x)

include htags

/-- What is copied has no directives, so that it does not matter which its donor keeps. -/
theorem Donor.splice_keeping (kept' : Directive → Bool) (d : Donor) (target : TypeDecl)
    (registry : NameRegistry) (is : List ℕ) :
    (d.keeping kept).splice (target.keeping kept') registry is = d.splice target registry is := by
  induction is generalizing registry with
  | nil => rfl
  | cons i is ih =>
    have hmember : (d.keeping kept).bank.members[i]? = d.bank.members[i]?.map (·.keeping kept) :=
      List.getElem?_map
    rw [splice, splice, hmember]
    cases d.bank.members[i]? with
    | none => rfl
    | some m =>
      have hrequires : (d.keeping kept).bank.requirements i = d.bank.requirements i :=
        d.bank.requirements_keeping htags i
      have hname : (m.keeping kept).name = m.name := rfl
      dsimp only [Option.map_some]
      rw [hname]
      cases registry.claim? m.name with
      | none => exact ih registry
      | some registry =>
        dsimp only
        rw [ih, hrequires]
        rfl

namespace Weave

theorem ofDonor_keeping (kept' : Directive → Bool) (target : TypeDecl) (registry : NameRegistry)
    (d : Donor) :
    ofDonor (target.keeping kept') registry (d.keeping kept) = ofDonor target registry d := by
  have hincluded : (d.keeping kept).includedIn registry = d.includedIn registry :=
    d.bank.included_keeping registry.contains
  rw [ofDonor_eq, ofDonor_eq, hincluded, Donor.splice_keeping htags]

theorem spliceAll_keeping (kept' : Directive → Bool) (target : TypeDecl) (registry : NameRegistry)
    (chain : List Donor) :
    spliceAll (target.keeping kept') registry (chain.map (·.keeping kept)) =
      spliceAll target registry chain := by
  induction chain generalizing registry with
  | nil => rfl
  | cons d chain ih =>
    rw [List.map_cons, spliceAll, spliceAll, ofDonor_keeping htags]
    simp only [ih]

/-- **What donors contribute** is settled without the directives of the target, and without those
of the donors but for tags. -/
theorem ofTarget_congr_keeping (kept' : Directive → Bool) (settings : Settings)
    {donors donors' : DonorRegistry} (declared : List String) {target : TypeDecl}
    (hchain : (donors'.chain target.interfaces).map (·.keeping kept) =
      (donors.chain target.interfaces).map (·.keeping kept))
    (capabilities : CapabilitySet) (registry : NameRegistry) :
    ofTarget settings donors' declared (target.keeping kept') capabilities registry =
      ofTarget settings donors declared target capabilities registry := by
  have hspliced : spliceAll (target.keeping kept') registry (donors'.chain target.interfaces) =
      spliceAll target registry (donors.chain target.interfaces) := by
    -- The chains agree only once the directives are left out, and leaving out twice is the same.
    have hsame : (target.keeping kept').keeping kept' = target.keeping kept' :=
      TypeDecl.keeping_keeping (fun _ h => h) target
    have htarget := spliceAll_keeping htags kept' (target.keeping kept') registry
      (donors'.chain target.interfaces)
    rw [← htarget, hsame, hchain, spliceAll_keeping htags]
  have hvisible : ∀ registry, isVisible settings declared (donors'.chain target.interfaces)
      (target.keeping kept') registry =
        isVisible settings declared (donors.chain target.interfaces) target registry := by
    intro registry
    funext name
    have hunbound : ∀ chain : List Donor, chain.any (·.unboundParams.contains name) =
        (chain.map (·.keeping kept)).any (·.unboundParams.contains name) := by
      intro chain
      rw [List.any_map]
      rfl
    rw [isVisible, isVisible, hunbound, hunbound (donors.chain target.interfaces), hchain]
    rfl
  have hinfer : ∀ copies : List Member,
      CapabilitySet.infer ((target.keeping kept').members ++ copies) =
        CapabilitySet.infer (target.members ++ copies) := by
    intro copies
    rw [CapabilitySet.infer, CapabilitySet.infer, TypeDecl.keeping, List.filterMap_append,
      List.filterMap_append, List.filterMap_map]
    rfl
  have hperform : perform settings donors' declared (target.keeping kept') capabilities registry =
      perform settings donors declared target capabilities registry := by
    have hinterfaces : (target.keeping kept').interfaces = target.interfaces := rfl
    rw [perform, perform, hinterfaces, hspliced]
    simp only [hvisible, hinfer]
    rfl
  rw [ofTarget, ofTarget, hperform]
  rfl

end Weave

end Tags

/-! ### Forwarding -/

/-- Candidates that a forwarding member cannot tell apart. -/
structure Candidate.Alike (c c' : Candidate) : Prop where
  member_eq : c'.member.keeping Directive.isTemplate = c.member.keeping Directive.isTemplate
  origin_eq : c'.origin = c.origin
  bindings_eq : c'.bindings = c.bindings
  isWritable_eq : c'.isWritable = c.isWritable

namespace Candidate.Alike

variable {c c' : Candidate}

theorem name_eq (h : c.Alike c') : c'.member.name = c.member.name :=
  congrArg (·.name) h.member_eq

theorem isField_eq (h : c.Alike c') : c'.member.isField = c.member.isField :=
  congrArg (·.isField) h.member_eq

theorem signature_eq (h : c.Alike c') : c'.member.signature = c.member.signature :=
  congrArg (·.signature) h.member_eq

theorem fieldType_eq (h : c.Alike c') : c'.fieldType = c.fieldType := by
  have htype : c'.member.inferredType = c.member.inferredType :=
    congrArg (·.inferredType) h.member_eq
  rw [fieldType, fieldType, htype, h.bindings_eq]

theorem isForwardable_eq (h : c.Alike c') :
    Delegate.isForwardable c'.member = Delegate.isForwardable c.member := by
  have hkeeping : ∀ m : Member, Delegate.isForwardable (m.keeping Directive.isTemplate) =
      Delegate.isForwardable m := by
    intro m
    rw [Delegate.isForwardable, Delegate.isForwardable, Member.isTemplate_keeping rfl]
    rfl
  rw [← hkeeping, h.member_eq, hkeeping]

end Candidate.Alike

/-- The members of one declaration of a delegate. -/
def Layer.candidates (l : Layer) : List Candidate :=
  l.decl.members.map fun member =>
    { member, origin := l.decl.name, bindings := l.bindings, pending := l.pending }

namespace Delegate

theorem forall₂_visibleMembers {cs cs' : List Candidate} (h : List.Forall₂ Candidate.Alike cs cs')
    (seen : List String) :
    List.Forall₂ Candidate.Alike (visibleMembers seen cs) (visibleMembers seen cs') := by
  induction h generalizing seen with
  | nil => exact .nil
  | cons hc _ ih =>
    rw [visibleMembers, visibleMembers, hc.name_eq]
    split
    · exact ih seen
    · exact .cons hc (ih _)

/-- **Delegates** whose layers have candidates that cannot be told apart have such candidates. -/
theorem forall₂_candidates {delegate delegate' : Delegate}
    (h : List.Forall₂ (fun l l' => List.Forall₂ Candidate.Alike l.candidates l'.candidates)
      delegate.layers delegate'.layers) :
    List.Forall₂ Candidate.Alike delegate.candidates delegate'.candidates := by
  have hall : List.Forall₂ Candidate.Alike (delegate.layers.flatMap (·.candidates))
      (delegate'.layers.flatMap (·.candidates)) := List.rel_flatMap h fun _ _ hl => hl
  refine List.rel_filter (fun c c' hc => ?_) (forall₂_visibleMembers hall [])
  dsimp only
  rw [hc.isForwardable_eq]

end Delegate

namespace Forward

variable {source : Member}

theorem field_congr {c c' : Candidate} (h : c.Alike c') (registry : NameRegistry) :
    field source c' registry = field source c registry := by
  rw [field, field, h.name_eq, h.isWritable_eq, h.fieldType_eq]

theorem method_congr {c c' : Candidate} (h : c.Alike c') (template : Option Form) :
    method source template c' = method source template c := by
  rw [method.eq_def, method.eq_def, h.name_eq, h.signature_eq, h.bindings_eq]

/-- **What a forwarding member gives** for candidates that cannot be told apart is the same. -/
theorem counterparts_congr {cs cs' : List Candidate} (h : List.Forall₂ Candidate.Alike cs cs')
    (template : Option Form) (registry : NameRegistry) :
    counterparts source template registry cs' = counterparts source template registry cs := by
  induction h generalizing registry with
  | nil => rfl
  | cons hc _ ih =>
    rw [counterparts, counterparts, hc.name_eq, hc.isField_eq, method_congr hc]
    simp only [field_congr hc, ih]

theorem templateBody_keeping (kept : Directive → Bool) (host : TypeDecl)
    (request : ForwardRequest) :
    templateBody (host.keeping kept) request = templateBody host request := by
  rw [templateBody, templateBody]
  cases request.via with
  | none => rfl
  | some name =>
    dsimp only
    rw [TypeDecl.member?_keeping]
    cases host.member? name with
    | none => rfl
    | some m =>
      have hmethod : (m.keeping kept).isMethod = m.isMethod := rfl
      rw [Option.map_some, Option.filter_some, Option.filter_some, hmethod]
      cases m.isMethod <;> rfl

theorem synthesize_congr {host host' : TypeDecl} (hhost : host'.keeping kept = host.keeping kept)
    (request : ForwardRequest) {delegate delegate' : Delegate}
    (h : List.Forall₂ Candidate.Alike delegate.candidates delegate'.candidates)
    (registry : NameRegistry) :
    synthesize host' source request delegate' registry =
      synthesize host source request delegate registry := by
  have htemplate : templateBody host' request = templateBody host request := by
    rw [← templateBody_keeping kept, hhost, templateBody_keeping]
  rw [synthesize, synthesize, htemplate]
  refine congrArg _ (funext fun filter => congrArg _ (funext fun template => ?_))
  refine congrArg _ (counterparts_congr (List.rel_filter (fun c c' hc => ?_) h) template registry)
  dsimp only
  rw [hc.name_eq, hc.origin_eq]

end Forward

end DeclWeave
