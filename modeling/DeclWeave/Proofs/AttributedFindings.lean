import DeclWeave.Expansion.Synthesis
import DeclWeave.Proofs.PlanMembers

/-!
# Findings and the Type They Are About

Everything that is found while a type is expanded is attributed to that type, and to a place in
its declaration: what its references, directives, forwards and donors give rise to, and, for an
interface, what there is to say about its members as a donor. So the findings about one type can
be read off those of a whole unit. That a type is declared twice or lies on a circle is no such
finding: this is said of the unit, before any of its types is expanded.

No step of a weave fails: the handles that a donor is copied by are those of its members. So the
faults that would say that a step came out of turn are never reported.

## Main results

* `Weave.exists_perform_eq_ok`: a weave is performed, for any donors.
* `DonorBank.within_ofDecl`: the findings about a donor.
* `Synthesis.within_ofDecl`: the findings about a type.
-/

namespace DeclWeave

/-- Whether a cause is about a unit as a whole, and not about the work on one of its types. -/
def Cause.isOfUnit : Cause → Bool
  | .inheritanceCycle _ | .duplicateType _ => true
  | _ => false

/-- Whether the work on a type can have a cause: it reads no text, skips what exists already
without a word, and takes its own steps in turn. -/
def Cause.isOfType : Cause → Bool
  | .malformed .. | .policyConflict .. | .io _ | .internal _ => false
  | cause => !cause.isOfUnit

/-- The places of a declaration at which there can be something to say: its own, those of its
members, and those where they ask to be forwarded. -/
def TypeDecl.places (d : TypeDecl) : List Span :=
  d.span :: d.members.flatMap fun m => m.span :: m.forwardRequest?.toList.map (·.span)

/-- A fault that the work on the type of a name can have. -/
structure Fault.IsAbout (f : Fault) (name : String) : Prop where
  source?_eq : f.source? = some name
  isOfUnit_eq : f.cause.isOfUnit = false

/-- A fault that the work on the type of a name can have, at one of some places. -/
structure Fault.IsWithin (f : Fault) (name : String) (places : List Span) : Prop where
  source?_eq : f.source? = some name
  exists_position? : ∃ s ∈ places, f.position? = some (s.line, s.column)
  isOfType_eq : f.cause.isOfType = true

namespace Fault.IsWithin

variable {f : Fault} {name : String} {places places' : List Span}

theorem isAbout (h : f.IsWithin name places) : f.IsAbout name := by
  refine ⟨h.source?_eq, ?_⟩
  have htype := h.isOfType_eq
  cases hcause : f.cause <;> simp_all [Cause.isOfType, Cause.isOfUnit]

theorem mono (h : f.IsWithin name places) (hplaces : places ⊆ places') :
    f.IsWithin name places' := by
  obtain ⟨s, hs, hposition⟩ := h.exists_position?
  exact ⟨h.source?_eq, ⟨s, hplaces hs, hposition⟩, h.isOfType_eq⟩

end Fault.IsWithin

namespace TypeDecl

theorem isWithin_fault {cause : Cause} (h : cause.isOfType = true) (d : TypeDecl) {s : Span}
    {places : List Span} (hs : s ∈ places) : (d.fault cause s).IsWithin d.name places :=
  ⟨rfl, ⟨s, hs, rfl⟩, h⟩

variable {d : TypeDecl} {m : Member}

theorem span_mem_places (d : TypeDecl) : d.span ∈ d.places :=
  List.mem_cons_self

theorem memberSpan_mem_places (hm : m ∈ d.members) : m.span ∈ d.places :=
  List.mem_cons_of_mem _ (List.mem_flatMap.mpr ⟨m, hm, List.mem_cons_self⟩)

theorem requestSpan_mem_places (hm : m ∈ d.members) {request : ForwardRequest}
    (hrequest : m.forwardRequest? = some request) : request.span ∈ d.places := by
  refine List.mem_cons_of_mem _ (List.mem_flatMap.mpr ⟨m, hm, List.mem_cons_of_mem _ ?_⟩)
  rw [hrequest]
  exact List.mem_singleton.mpr rfl

end TypeDecl

theorem CapabilitySet.isOfType_of_mem_unknownTags {tags : List String} {cause : Cause}
    (h : cause ∈ unknownTags tags) : cause.isOfType = true := by
  obtain ⟨tag, -, rfl⟩ := List.mem_map.mp h
  rfl

namespace Diagnostics

/-- All findings are such that the work on the type of a name can have them. -/
def About (ds : Diagnostics) (name : String) : Prop :=
  ∀ entry ∈ ds.entries, entry.fault.IsAbout name

/-- All findings are such that the work on the type of a name can have them, at some places. -/
def Within (ds : Diagnostics) (name : String) (places : List Span) : Prop :=
  ∀ entry ∈ ds.entries, entry.fault.IsWithin name places

variable {ds ds' : Diagnostics} {name : String} {places : List Span} {f : Fault}

theorem Within.about (h : ds.Within name places) : ds.About name :=
  fun entry hentry => (h entry hentry).isAbout

theorem within_empty (name : String) (places : List Span) :
    ({} : Diagnostics).Within name places := by
  simp [Within]

theorem Within.error (h : ds.Within name places) (hf : f.IsWithin name places) :
    (ds.error f).Within name places := by
  intro entry hentry
  rcases List.mem_append.mp hentry with hentry | hentry
  · exact h entry hentry
  · rwa [List.mem_singleton.mp hentry]

theorem Within.warning (h : ds.Within name places) (hf : f.IsWithin name places) :
    (ds.warning f).Within name places := by
  intro entry hentry
  rcases List.mem_append.mp hentry with hentry | hentry
  · exact h entry hentry
  · rwa [List.mem_singleton.mp hentry]

theorem Within.append (h : ds.Within name places) (h' : ds'.Within name places) :
    (ds ++ ds').Within name places := by
  intro entry hentry
  rcases List.mem_append.mp hentry with hentry | hentry
  · exact h entry hentry
  · exact h' entry hentry

theorem Within.mono {places' : List Span} (h : ds.Within name places)
    (hplaces : places ⊆ places') : ds.Within name places' :=
  fun entry hentry => (h entry hentry).mono hplaces

theorem Within.foldl_error {fs : List Fault} (h : ds.Within name places)
    (hfs : ∀ f ∈ fs, f.IsWithin name places) :
    (fs.foldl Diagnostics.error ds).Within name places := by
  induction fs generalizing ds with
  | nil => exact h
  | cons f fs ih =>
    obtain ⟨hf, hfs⟩ := List.forall_mem_cons.mp hfs
    exact ih (h.error hf) hfs

theorem Within.foldl_warning {fs : List Fault} (h : ds.Within name places)
    (hfs : ∀ f ∈ fs, f.IsWithin name places) :
    (fs.foldl Diagnostics.warning ds).Within name places := by
  induction fs generalizing ds with
  | nil => exact h
  | cons f fs ih =>
    obtain ⟨hf, hfs⟩ := List.forall_mem_cons.mp hfs
    exact ih (h.warning hf) hfs

end Diagnostics

/-- **A donor.** What there is to say about it is attributed to its interface as a whole. -/
theorem DonorBank.within_ofDecl (settings : Settings) (plan : TypeDecl) :
    (ofDecl settings plan).2.Within plan.name [plan.span] := by
  have hspan : plan.span ∈ [plan.span] := List.mem_singleton.mpr rfl
  have hfound : ∀ f ∈ ((plan.members.filter isDonated).flatMap fun m =>
        (CapabilitySet.unknownTags m.requirements).map (plan.fault · plan.span)) ++
      (plan.members.filter isDonated).flatMap
        (danglingDemands plan (plan.members.filter isDonated)),
      f.IsWithin plan.name [plan.span] := by
    intro f hf
    rcases List.mem_append.mp hf with hf | hf
    · obtain ⟨m, -, hf⟩ := List.mem_flatMap.mp hf
      obtain ⟨cause, hcause, rfl⟩ := List.mem_map.mp hf
      exact plan.isWithin_fault (CapabilitySet.isOfType_of_mem_unknownTags hcause) hspan
    · obtain ⟨m, -, hf⟩ := List.mem_flatMap.mp hf
      obtain ⟨name, -, rfl⟩ := List.mem_map.mp hf
      refine plan.isWithin_fault ?_ hspan
      split <;> rfl
  have hwarnings := (Diagnostics.within_empty plan.name [plan.span]).foldl_warning hfound
  rw [ofDecl]
  dsimp only
  split
  · exact hwarnings
  · split
    · exact hwarnings.error (plan.isWithin_fault rfl hspan)
    · exact hwarnings.warning (plan.isWithin_fault rfl hspan)

/-! ### Weaves are performed -/

/-- Copying fails only on a handle that no member has. -/
theorem Donor.exists_splice_eq_ok {d : Donor} {target : TypeDecl} {registry : NameRegistry}
    {is : List ℕ} (h : ∀ i ∈ is, i < d.bank.members.length) :
    ∃ s, d.splice target registry is = .ok s := by
  induction is generalizing registry with
  | nil => exact ⟨_, rfl⟩
  | cons i is ih =>
    obtain ⟨hi, his⟩ := List.forall_mem_cons.mp h
    rw [splice, List.getElem?_eq_getElem hi]
    dsimp only
    split
    · exact ih his
    · rename_i r hclaim
      obtain ⟨s, hs⟩ : ∃ s, d.splice target r is = .ok s := ih his
      exact ⟨_, Outcome.bind_eq_ok.mpr ⟨s, hs, rfl⟩⟩

namespace Weave

theorem exists_spliceAll_eq_ok (target : TypeDecl) (registry : NameRegistry)
    (chain : List Donor) : ∃ s, spliceAll target registry chain = .ok s := by
  induction chain generalizing registry with
  | nil => exact ⟨_, rfl⟩
  | cons d chain ih =>
    have hhandles : ∀ i ∈ d.includedIn registry, i < d.bank.members.length :=
      fun i hi => List.mem_range.mp (List.mem_filter.mp hi).1
    obtain ⟨first, hfirst⟩ : ∃ first, d.splice target registry (d.includedIn registry) =
      .ok first := Donor.exists_splice_eq_ok hhandles
    rw [← ofDonor_eq] at hfirst
    obtain ⟨others, hothers⟩ := ih first.registry
    exact ⟨_, Outcome.bind_eq_ok.mpr ⟨first, hfirst,
      Outcome.bind_eq_ok.mpr ⟨others, hothers, rfl⟩⟩⟩

/-- **A weave is performed**, whatever the donors: it has a result, and no step of it fails. -/
theorem exists_perform_eq_ok (settings : Settings) (donors : DonorRegistry)
    (declared : List String) (target : TypeDecl) (capabilities : CapabilitySet)
    (registry : NameRegistry) :
    ∃ result, perform settings donors declared target capabilities registry = .ok result := by
  obtain ⟨s, hs⟩ := exists_spliceAll_eq_ok target registry (donors.chain target.interfaces)
  exact ⟨_, Outcome.bind_eq_ok.mpr ⟨s, hs, rfl⟩⟩

/-- What does not fit into a target is attributed to it. -/
theorem isWithin_of_mem_check {settings : Settings} {target : TypeDecl}
    {available : CapabilitySet} {visible : String → Bool} {inits : List DefaultInit}
    {s : SplicedMember} : ∀ f ∈ check settings target available visible inits s,
      f.IsWithin target.name [target.span] := by
  have hfault : ∀ (fits : Bool) (member reason : String),
      ∀ f ∈ (if fits then [] else [mismatch target member reason]),
        f.IsWithin target.name [target.span] := by
    intro fits member reason f hf
    split at hf
    · exact absurd hf List.not_mem_nil
    · rw [List.mem_singleton.mp hf]
      exact target.isWithin_fault rfl (List.mem_singleton.mpr rfl)
  intro f hf
  rcases List.mem_append.mp hf with hf | hf
  · exact hfault _ _ _ f hf
  · exact hfault _ _ _ f hf

theorem isWithin_of_mem_faults {settings : Settings} {donors : DonorRegistry}
    {declared : List String} {target : TypeDecl} {capabilities : CapabilitySet}
    {registry : NameRegistry} :
    ∀ f ∈ (ofTarget settings donors declared target capabilities registry).1.faults,
      f.IsWithin target.name [target.span] := by
  intro f hf
  obtain ⟨result, hperform⟩ :=
    exists_perform_eq_ok settings donors declared target capabilities registry
  obtain ⟨spliced, -, hresult⟩ := Outcome.bind_eq_ok.mp hperform
  rw [ofTarget, hperform] at hf
  obtain rfl := Except.ok.inj hresult
  obtain ⟨copy, -, hf⟩ := List.mem_flatMap.mp hf
  exact isWithin_of_mem_check f hf

end Weave

/-! ### Forwards -/

namespace Forward

theorem isOfType_of_delegateType {source : Member} {cause : Cause}
    (h : delegateType source = .error cause) : cause.isOfType = true := by
  rw [delegateType] at h
  split at h
  · exact absurd h (by simp)
  · obtain rfl := Except.error.inj h
    rfl

theorem isOfType_of_templateBody {host : TypeDecl} {request : ForwardRequest} {cause : Cause}
    (h : templateBody host request = .error cause) : cause.isOfType = true := by
  rw [templateBody] at h
  split at h
  · exact absurd h (by simp)
  · split at h
    · exact absurd h (by simp)
    · obtain rfl := Except.error.inj h
      rfl

theorem isOfType_of_synthesize {host : TypeDecl} {source : Member} {request : ForwardRequest}
    {delegate : Delegate} {registry : NameRegistry} {cause : Cause}
    (h : synthesize host source request delegate registry = .error cause) :
    cause.isOfType = true := by
  rcases Outcome.bind_eq_error.mp h with h | ⟨filter, -, h⟩
  · obtain ⟨fault, rfl⟩ : ∃ fault : FilterFault, fault.toCause = cause := by
      cases hfilter : Filter.ofList request.filters with
      | ok filter => exact absurd h (by simp [hfilter, Except.mapError])
      | error fault =>
        rw [hfilter] at h
        exact ⟨fault, Except.error.inj h⟩
    rfl
  · rcases Outcome.bind_eq_error.mp h with h | ⟨template, -, h⟩
    · exact isOfType_of_templateBody h
    · exact absurd h (by simp [pure, Except.pure])

end Forward

namespace Synthesis

variable {d : TypeDecl} {p : Progress}

theorem within_preliminary (c : Context) (d : TypeDecl) :
    (preliminary c d).Within d.name d.places := by
  refine Diagnostics.Within.foldl_warning
    (.foldl_error (Diagnostics.within_empty d.name d.places) ?_) ?_
  · intro f hf
    obtain ⟨r, -, rfl⟩ := List.mem_map.mp hf
    exact d.isWithin_fault rfl d.span_mem_places
  · intro f hf
    obtain ⟨cause, hcause, rfl⟩ := List.mem_map.mp hf
    exact d.isWithin_fault (CapabilitySet.isOfType_of_mem_unknownTags hcause) d.span_mem_places

theorem within_ignoredDirectives (d : TypeDecl) :
    (ignoredDirectives d).Within d.name d.places := by
  rw [ignoredDirectives]
  split
  · exact (Diagnostics.within_empty d.name d.places).warning
      (d.isWithin_fault rfl d.span_mem_places)
  · exact Diagnostics.within_empty d.name d.places

section Members

variable {places : List Span} {m : Member}

theorem within_propertyOf (h : p.found.Within d.name places) (hm : m.span ∈ places) :
    (propertyOf d m p).2.2.found.Within d.name places := by
  rw [propertyOf]
  dsimp only
  split
  · exact h
  · refine h.error (d.isWithin_fault rfl ?_)
    split <;> exact hm

theorem within_directInit (h : p.found.Within d.name places) (hm : m.span ∈ places) :
    (directInit d m p).2.found.Within d.name places := by
  rw [directInit]
  split
  · exact h
  · split
    · exact h.warning (d.isWithin_fault rfl hm)
    · dsimp only
      split
      · exact h.warning (d.isWithin_fault rfl hm)
      · exact h

theorem within_member (h : p.found.Within d.name places) (hm : m.span ∈ places) :
    (member d m p).2.found.Within d.name places := by
  rw [member]
  dsimp only
  split
  · exact h
  · split
    · dsimp only
      split
      · exact h
      · exact h.warning (d.isWithin_fault rfl hm)
    · refine within_directInit (within_propertyOf h hm) ?_
      rwa [(reshapes_propertyOf _ _ _).span_eq]

theorem within_members {ms : List Member} (h : p.found.Within d.name places)
    (hms : ∀ m ∈ ms, m.span ∈ places) : (members d p ms).2.found.Within d.name places := by
  induction ms generalizing p with
  | nil => exact h
  | cons m ms ih =>
    obtain ⟨hm, hms⟩ := List.forall_mem_cons.mp hms
    exact ih (within_member h hm) hms

theorem isOfType_of_forward {c : Context} {host : TypeDecl} {source : Member}
    {request : ForwardRequest} {registry : NameRegistry} {cause : Cause}
    (h : forward c host source request registry = .error cause) : cause.isOfType = true := by
  rcases Outcome.bind_eq_error.mp h with h | ⟨type, -, h⟩
  · exact Forward.isOfType_of_delegateType h
  · split at h
    · obtain rfl := Except.error.inj h
      rfl
    · exact Forward.isOfType_of_synthesize h

theorem within_forwardOf (h : p.found.Within d.name places) (c : Context)
    (hm : ∀ request, m.forwardRequest? = some request → request.span ∈ places) :
    (forwardOf c d m p).2.found.Within d.name places := by
  rw [forwardOf]
  split
  · exact h
  · rename_i request hrequest
    split
    · exact h
    · split
      · exact h
      · exact h.error (d.isWithin_fault (isOfType_of_forward ‹_›) (hm request hrequest))

theorem within_forwards {pairs : List (Member × List Member)}
    (h : p.found.Within d.name places) (c : Context)
    (hpairs : ∀ pair ∈ pairs, ∀ request, pair.1.forwardRequest? = some request →
      request.span ∈ places) : (forwards c d p pairs).2.found.Within d.name places := by
  induction pairs generalizing p with
  | nil => exact h
  | cons pair pairs ih =>
    obtain ⟨hpair, hpairs⟩ := List.forall_mem_cons.mp hpairs
    exact ih (within_forwardOf h c hpair) hpairs

end Members

theorem isWithin_of_mem_woven {c : Context} {plan : TypeDecl} {ancestry : Ancestry} :
    ∀ f ∈ (woven c plan ancestry p).faults, f.IsWithin plan.name [plan.span] := by
  rw [woven]
  split
  · exact fun f hf => absurd hf List.not_mem_nil
  · exact Weave.isWithin_of_mem_faults

theorem within_expanded {found : Diagnostics} (h : found.Within d.name d.places) (c : Context) :
    (expanded c d found).2.Within d.name d.places := by
  let start : Progress := { registry := .ofDecl d (Ancestry.of c.scope d).names, found }
  have hmembers : (members d start d.members).2.found.Within d.name d.places :=
    within_members h fun m hm => TypeDecl.memberSpan_mem_places hm
  have hforwards : (planned c d found).2.found.Within d.name d.places :=
    within_forwards hmembers c fun pair hpair request hrequest =>
      TypeDecl.requestSpan_mem_places (List.of_mem_zip hpair).1 hrequest
  have hspan : [d.span] ⊆ d.places := List.cons_subset.mpr ⟨d.span_mem_places, by simp⟩
  unfold expanded
  dsimp only
  split
  · exact hforwards.foldl_error fun f hf => (isWithin_of_mem_woven f hf).mono hspan
  · exact hforwards.foldl_error fun f hf => (isWithin_of_mem_woven f hf).mono hspan

/-- **A type.** What is found when its plan is made is attributed to it, at a place in its
declaration. -/
theorem within_ofDecl (c : Context) (d : TypeDecl) :
    (ofDecl c d).2.Within d.name d.places := by
  unfold ofDecl
  dsimp only
  split
  · exact within_expanded (within_preliminary c d) c
  · exact (within_preliminary c d).append (within_ignoredDirectives d)

end Synthesis

end DeclWeave
