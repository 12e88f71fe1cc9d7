import DeclWeave.Proofs.ForwardedMembers
import DeclWeave.Proofs.KeptDirectives

/-!
# Refused Directives

Directives can be refused: accessor and signal options that do not go together, or that stand on a
method, and a forward whose filter, template or delegate is no good. Whether they are does not
depend on the names that are taken, and a refused directive takes none. So the synthesis of a type
can be followed side by side with that of the type without them: at each point the same names are
taken and the same fields are bound, and the plans differ in the refused directives only.

## Main results

* `Synthesis.member_drops`, `Synthesis.forwardOf_drops`: one member, with and without them.
* `Synthesis.planned_drops`: all members of a type.
* `Synthesis.ofDecl_drops`: the finished plan, and the donor.
-/

namespace DeclWeave

/-- A rule that is refused or carried out before any name is looked at. -/
def DecidesFirst {ε α : Type} (rule : NameRegistry → Except ε α) : Prop :=
  ∃ decided : Except ε (NameRegistry → α), ∀ registry, rule registry = decided.map (· registry)

/-- What is refused is so whatever names are taken. -/
theorem DecidesFirst.eq_error {ε α : Type} {rule : NameRegistry → Except ε α}
    (h : DecidesFirst rule) {registry : NameRegistry} {e : ε} (hrule : rule registry = .error e)
    (registry' : NameRegistry) : rule registry' = .error e := by
  obtain ⟨decided, hdecided⟩ := h
  rw [hdecided] at hrule ⊢
  cases decided with
  | error e' => exact hrule
  | ok made => exact absurd hrule (by simp [Except.map])

/-! ### Properties without other directives -/

namespace Directive

/-- The directives that ask for accessors or a signal. -/
def isProperty : Directive → Bool
  | .accessor _ | .signal _ => true
  | _ => false

/-- The directives that ask to forward. -/
def isForward : Directive → Bool
  | .forward _ => true
  | _ => false

end Directive

/-- Nothing is found among what was left out. -/
theorem filterMap_filter_eq_nil {α β : Type} {kept : α → Bool} {f : α → Option β}
    (h : ∀ a, (f a).isSome → kept a = false) (l : List α) : (l.filter kept).filterMap f = [] := by
  refine List.filterMap_eq_nil_iff.mpr fun a ha => ?_
  cases hfa : f a with
  | none => rfl
  | some b =>
    have hdropped := h a (by rw [hfa]; rfl)
    exact absurd (List.mem_filter.mp ha).2 (by simp [hdropped])

variable {kept : Directive → Bool}

namespace Member

theorem accessorRequest?_keeping (h : ∀ x : Directive, x.isProperty → kept x) (m : Member) :
    (m.keeping kept).accessorRequest? = m.accessorRequest? := by
  refine findSome?_filter_eq (fun x hx => ?_) m.directives
  cases x with
  | accessor request => exact h _ rfl
  | _ => exact absurd hx Bool.false_ne_true

theorem signalRequests_keeping (h : ∀ x : Directive, x.isProperty → kept x) (m : Member) :
    (m.keeping kept).signalRequests = m.signalRequests := by
  rw [signalRequests, signalRequests, keeping, List.filterMap_filter]
  refine List.filterMap_congr fun x _ => ?_
  cases x with
  | signal request => rw [if_pos (h _ rfl)]
  | _ => split <;> rfl

theorem forwardRequest?_keeping (h : ∀ x : Directive, x.isForward → kept x) (m : Member) :
    (m.keeping kept).forwardRequest? = m.forwardRequest? := by
  refine findSome?_filter_eq (fun x hx => ?_) m.directives
  cases x with
  | forward request => exact h _ rfl
  | _ => exact absurd hx Bool.false_ne_true

theorem isDirectInit_keeping (h : kept .directInit = true) (m : Member) :
    (m.keeping kept).isDirectInit = m.isDirectInit := by
  rw [isDirectInit, isDirectInit, keeping, List.any_filter]
  congr 1
  funext x
  cases x <;> simp [h]

end Member

theorem PropertySpec.apply_keeping (p : PropertySpec) (m : Member) (registry : NameRegistry) :
    p.apply (m.keeping kept) registry =
      { p.apply m registry with field := (p.apply m registry).field.keeping kept } := by
  obtain ⟨shape, inlined⟩ := p
  cases shape <;> rfl

theorem SignalRequest.apply_keeping (r : SignalRequest) (m : Member) (onInterface : Bool)
    (registry : NameRegistry) :
    r.apply (m.keeping kept) onInterface registry =
      { r.apply m onInterface registry with
        field := (r.apply m onInterface registry).field.keeping kept } := by
  have hbody : (m.keeping kept).body = m.body := rfl
  rw [apply, apply, hbody]
  cases m.body <;> rfl

namespace Synthesis

theorem property_keeping (h : ∀ x : Directive, x.isProperty → kept x) (onInterface : Bool)
    (m : Member) (registry : NameRegistry) :
    property onInterface (m.keeping kept) registry =
      (property onInterface m registry).map fun s => { s with field := s.field.keeping kept } := by
  have hfield : (m.keeping kept).isField = m.isField := rfl
  have hspec : PropertySpec.ofRequest (m.keeping kept) = PropertySpec.ofRequest m := rfl
  rw [property, property, Member.accessorRequest?_keeping h, Member.signalRequests_keeping h,
    hfield, hspec]
  cases m.accessorRequest? with
  | none =>
    rcases m.signalRequests with _ | ⟨signal, _ | ⟨other, others⟩⟩
    · rfl
    · cases m.isField with
      | false => rfl
      | true => exact congrArg Except.ok (signal.apply_keeping m onInterface registry)
    · cases m.isField <;> rfl
  | some request =>
    rcases m.signalRequests with _ | ⟨signal, others⟩
    · cases m.isField with
      | false => rfl
      | true =>
        dsimp only [Bool.not_true, Bool.false_eq_true, if_false]
        cases PropertySpec.ofRequest m request with
        | error conflict => rfl
        | ok spec => exact congrArg Except.ok (spec.apply_keeping m registry)
    · cases m.isField <;> rfl

theorem decidesFirst_property (onInterface : Bool) (m : Member) :
    DecidesFirst (property onInterface m) := by
  rw [DecidesFirst]
  simp only [property]
  cases m.accessorRequest? with
  | none =>
    rcases m.signalRequests with _ | ⟨signal, _ | ⟨other, others⟩⟩
    · exact ⟨.ok fun registry => ⟨m, [], registry⟩, fun _ => rfl⟩
    · cases m.isField with
      | false => exact ⟨.error .notAField, fun _ => rfl⟩
      | true => exact ⟨.ok (signal.apply m onInterface), fun _ => rfl⟩
    · cases m.isField with
      | false => exact ⟨.error .notAField, fun _ => rfl⟩
      | true => exact ⟨.error .signalAndFuture, fun _ => rfl⟩
  | some request =>
    rcases m.signalRequests with _ | ⟨signal, others⟩
    · cases m.isField with
      | false => exact ⟨.error .notAField, fun _ => rfl⟩
      | true =>
        dsimp only [Bool.not_true, Bool.false_eq_true, if_false]
        cases PropertySpec.ofRequest m request with
        | error conflict => exact ⟨.error conflict, fun _ => rfl⟩
        | ok spec => exact ⟨.ok (spec.apply m), fun _ => rfl⟩
    · cases m.isField with
      | false => exact ⟨.error .notAField, fun _ => rfl⟩
      | true => exact ⟨.error .signalProperty, fun _ => rfl⟩

/-- Without options nothing is asked for. -/
theorem property_keeping_of_dropped (h : ∀ x : Directive, x.isProperty → kept x = false)
    (onInterface : Bool) (m : Member) (registry : NameRegistry) :
    property onInterface (m.keeping kept) registry = .ok ⟨m.keeping kept, [], registry⟩ := by
  have haccessor : (m.keeping kept).accessorRequest? = none := by
    rw [Member.accessorRequest?, ← List.head?_filterMap]
    refine congrArg List.head? (filterMap_filter_eq_nil (fun x hx => ?_) m.directives)
    cases x with
    | accessor request => exact h _ rfl
    | _ => exact absurd hx Bool.false_ne_true
  have hsignals : (m.keeping kept).signalRequests = [] := by
    refine filterMap_filter_eq_nil (fun x hx => ?_) m.directives
    cases x with
    | signal request => exact h _ rfl
    | _ => exact absurd hx Bool.false_ne_true
  rw [property, haccessor, hsignals]

end Synthesis

/-! ### Refusal -/

/-- A declaration with other members. -/
def TypeDecl.withMembers (d : TypeDecl) (ms : List Member) : TypeDecl :=
  { d with members := ms }

theorem TypeDecl.keeping_withMembers (d : TypeDecl) (ms : List Member) :
    (d.withMembers ms).keeping kept = d.withMembers (ms.map (·.keeping kept)) := rfl

/-- A field whose type is inferred; any other member as it is. -/
def Member.typed (m : Member) : Member :=
  if m.isField then m.withType m.inferredType else m

theorem Member.typed_keeping (m : Member) : (m.keeping kept).typed = m.typed.keeping kept := by
  have hfield : (m.keeping kept).isField = m.isField := rfl
  rw [typed, typed, hfield]
  split <;> rfl

namespace Synthesis

/-- The accessor and signal directives of a declared member are refused. -/
def RefusesProperty (d : TypeDecl) (m : Member) : Prop :=
  ∃ conflict registry, property d.isInterface (takenUp d m).typed registry = .error conflict

/-- The forward directive of a declared member is refused. -/
def RefusesForward (c : Context) (d : TypeDecl) (m : Member) : Prop :=
  ∃ request cause registry, m.forwardRequest? = some request ∧
    forward c d m request registry = .error cause

/-- The directives that are left without refused ones. -/
def dropping (property forward : Bool) (x : Directive) : Bool :=
  !(property && x.isProperty) && !(forward && x.isForward)

/-- A declared member, without refused directives: accessors and signals, or a forward, or both, or
none of them. -/
def Drops (c : Context) (d : TypeDecl) (m m' : Member) : Prop :=
  ∃ property forward : Bool, (property = true → RefusesProperty d m) ∧
    (forward = true → RefusesForward c d m) ∧ m' = m.keeping (dropping property forward)

/-- A member in a plan, without directives that were refused where it was declared. -/
def Lacks (c : Context) (d : TypeDecl) (x x' : Member) : Prop :=
  x' = x ∨ ∃ m ∈ d.members, ∃ m', Drops c d m m' ∧ x.label = m.label ∧
    x.directives = m.directives ∧ x' = { x with directives := m'.directives }

end Synthesis

/-- Two stages of the work on a type at which the same names are taken and the same fields are
bound. -/
structure Progress.Parallel (p p' : Progress) : Prop where
  registry_eq : p'.registry = p.registry
  direct_eq : p'.direct = p.direct

namespace Synthesis

variable {c : Context} {d : TypeDecl} {m m' : Member} {p p' : Progress}

theorem propertyOf_eq (d : TypeDecl) (m : Member) (p : Progress) :
    propertyOf d m p =
      match property d.isInterface m.typed p.registry with
      | .ok s => (s.field, s.added, { p with registry := s.registry })
      | .error conflict =>
        (m.typed, [], { p with
          found := p.found.error
            (d.fault (.conflictingAccessor m.typed.name conflict.message) m.typed.span) }) := rfl

/-- **Accessors and signals**, with and without refused directives. -/
theorem propertyOf_keeping (hp : p.Parallel p')
    (h : (∀ x : Directive, x.isProperty → kept x) ∨
      (∃ conflict registry, property d.isInterface m.typed registry = .error conflict) ∧
        ∀ x : Directive, x.isProperty → kept x = false) :
    (propertyOf d (m.keeping kept) p').1 = (propertyOf d m p).1.keeping kept ∧
      (propertyOf d (m.keeping kept) p').2.1 = (propertyOf d m p).2.1 ∧
      (propertyOf d m p).2.2.Parallel (propertyOf d (m.keeping kept) p').2.2 := by
  rw [propertyOf_eq, propertyOf_eq, Member.typed_keeping, hp.registry_eq]
  obtain hkept | ⟨⟨conflict, registry, hrefused⟩, hdropped⟩ := h
  · rw [property_keeping hkept]
    cases property d.isInterface m.typed p.registry with
    | ok s => exact ⟨rfl, rfl, rfl, hp.direct_eq⟩
    | error conflict => exact ⟨rfl, rfl, rfl, hp.direct_eq⟩
  · rw [property_keeping_of_dropped hdropped, (decidesFirst_property _ _).eq_error hrefused]
    exact ⟨rfl, rfl, rfl, hp.direct_eq⟩

theorem directInit_keeping (hp : p.Parallel p') (h : kept .directInit = true) :
    (directInit d (m.keeping kept) p').1 = (directInit d m p).1.keeping kept ∧
      (directInit d m p).2.Parallel (directInit d (m.keeping kept) p').2 := by
  rw [directInit, directInit, Member.isDirectInit_keeping h]
  split
  · exact ⟨rfl, hp⟩
  · have hfield : (m.keeping kept).isField = m.isField := rfl
    rw [hfield]
    split
    · exact ⟨rfl, hp.registry_eq, hp.direct_eq⟩
    · exact ⟨rfl, hp.registry_eq, congrArg (· ++ _) hp.direct_eq⟩

/-- **The group of a declared member**, with and without refused directives: its head differs in
them, and what is added is the same. -/
theorem exists_member_eq_keeping (hp : p.Parallel p') (htemplate : kept .template = true)
    (hdirect : kept .directInit = true)
    (h : (∀ x : Directive, x.isProperty → kept x) ∨
      RefusesProperty d m ∧ ∀ x : Directive, x.isProperty → kept x = false) :
    ∃ head added, (member d m p).1 = head :: added ∧
      (member d (m.keeping kept) p').1 = head.keeping kept :: added ∧
      head.label = m.label ∧ head.directives = m.directives ∧
      (member d m p).2.Parallel (member d (m.keeping kept) p').2 := by
  have hsame : (m.keeping kept).isTemplate = m.isTemplate := Member.isTemplate_keeping htemplate m
  by_cases hleft : m.isTemplate = true ∨ (takenUp d m).sugar.optOut = true
  · have hleft' : (m.keeping kept).isTemplate = true ∨
        (takenUp d (m.keeping kept)).sugar.optOut = true := hleft.imp_left hsame.trans
    obtain ⟨found, hmember⟩ := exists_member_eq_takenUp hleft p
    obtain ⟨found', hmember'⟩ := exists_member_eq_takenUp hleft' p'
    rw [hmember, hmember']
    exact ⟨takenUp d m, [], rfl, rfl, rfl, rfl, hp.registry_eq, hp.direct_eq⟩
  · obtain ⟨hnot, hopt⟩ := not_or.mp hleft
    rw [Bool.not_eq_true] at hnot hopt
    obtain ⟨hkept, hadded, hprogress⟩ := propertyOf_keeping (m := takenUp d m) hp h
    obtain ⟨hhead, hprogress'⟩ := directInit_keeping (d := d)
      (m := (propertyOf d (takenUp d m) p).1) hprogress hdirect
    have hreshapes := (reshapes_propertyOf d (takenUp d m) p).trans (reshapes_directInit d _
      (propertyOf d (takenUp d m) p).2.2)
    have htaken : takenUp d (m.keeping kept) = (takenUp d m).keeping kept := rfl
    rw [member_eq_directInit hnot hopt, member_eq_directInit (hsame.trans hnot) hopt, htaken, hkept,
      hadded, hhead]
    exact ⟨_, _, rfl, rfl, hreshapes.label_eq, hreshapes.directives_eq, hprogress'⟩

end Synthesis

/-! ### Forwards -/

namespace Forward

/-- What is forwarded does not depend on the directives of the member that forwards. -/
theorem counterparts_keeping (source : Member) (template : Option Form) (registry : NameRegistry)
    (cs : List Candidate) : counterparts (source.keeping kept) template registry cs =
      counterparts source template registry cs := by
  induction cs generalizing registry with
  | nil => rfl
  | cons c cs ih =>
    have hfield : field (source.keeping kept) c = field source c := rfl
    have hmethod : method (source.keeping kept) template c = method source template c := rfl
    rw [counterparts, counterparts, hfield, hmethod]
    simp only [ih]

theorem synthesize_keeping {kept' : Directive → Bool} {host host' : TypeDecl}
    (hhost : host'.keeping kept' = host.keeping kept') (source : Member)
    (request : ForwardRequest) (delegate : Delegate) (registry : NameRegistry) :
    synthesize host' (source.keeping kept) request delegate registry =
      synthesize host source request delegate registry := by
  have htemplate : templateBody host' request = templateBody host request := by
    rw [← templateBody_keeping kept', hhost, templateBody_keeping]
  rw [synthesize, synthesize, htemplate]
  simp only [counterparts_keeping]

end Forward

namespace Synthesis

variable {c : Context} {d d' : TypeDecl} {m m' : Member} {p p' : Progress}

theorem decidesFirst_forward (c : Context) (d : TypeDecl) (m : Member) (request : ForwardRequest) :
    DecidesFirst (forward c d m request) := by
  rw [DecidesFirst]
  simp only [forward]
  cases Forward.delegateType m with
  | error cause => exact ⟨.error cause, fun _ => rfl⟩
  | ok type =>
    dsimp only [bind, Except.bind]
    cases Delegate.resolve? c.scope type with
    | none => exact ⟨.error (.unknownType type.name), fun _ => rfl⟩
    | some delegate =>
      obtain ⟨cause, herror⟩ | ⟨filter, template, -, -, hok⟩ := Forward.synthesize_cases d m request
        (delegate.markPending fun d => !c.isFinished d.name && c.sugarEnabled d)
      · exact ⟨.error cause, herror⟩
      · exact ⟨.ok fun registry => Forward.counterparts m template registry _, hok⟩

/-- The same declaration but for the directives of members forwards the same. -/
theorem forward_keeping {kept' : Directive → Bool} (hd : d'.keeping kept' = d.keeping kept')
    (m : Member) (request : ForwardRequest) (registry : NameRegistry) :
    forward c d' (m.keeping kept) request registry = forward c d m request registry := by
  have htype : Forward.delegateType (m.keeping kept) = Forward.delegateType m := rfl
  rw [forward, forward, htype]
  refine congrArg _ (funext fun type => ?_)
  cases Delegate.resolve? c.scope type with
  | none => rfl
  | some delegate => exact Forward.synthesize_keeping hd m request _ registry

/-- **A forwarding member**, with and without refused directives, gives the same. -/
theorem forwardOf_keeping {kept' : Directive → Bool} (hd : d'.keeping kept' = d.keeping kept')
    (hp : p.Parallel p') (htemplate : kept .template = true)
    (h : (∀ x : Directive, x.isForward → kept x) ∨
      RefusesForward c d m ∧ ∀ x : Directive, x.isForward → kept x = false) :
    (forwardOf c d' (m.keeping kept) p').1 = (forwardOf c d m p).1 ∧
      (forwardOf c d m p).2.Parallel (forwardOf c d' (m.keeping kept) p').2 := by
  have hskips : ((m.keeping kept).sugar.optOut || (m.keeping kept).isTemplate) =
      (m.sugar.optOut || m.isTemplate) := by
    rw [Member.isTemplate_keeping htemplate]
    rfl
  obtain hkept | ⟨⟨request, cause, registry, hrequest, hrefused⟩, hdropped⟩ := h
  · rw [forwardOf, forwardOf, Member.forwardRequest?_keeping hkept]
    cases m.forwardRequest? with
    | none => exact ⟨rfl, hp⟩
    | some request =>
      dsimp only
      rw [hskips, forward_keeping hd, hp.registry_eq]
      split
      · exact ⟨rfl, hp⟩
      · split
        · exact ⟨rfl, rfl, hp.direct_eq⟩
        · exact ⟨rfl, rfl, hp.direct_eq⟩
  · have hnone : (m.keeping kept).forwardRequest? = none := by
      rw [Member.forwardRequest?, ← List.head?_filterMap]
      refine congrArg List.head? (filterMap_filter_eq_nil (fun x hx => ?_) m.directives)
      cases x with
      | forward request => exact hdropped _ rfl
      | _ => exact absurd hx Bool.false_ne_true
    obtain ⟨found, hforwardOf⟩ := exists_forwardOf_eq_of_error hrequest
      ((decidesFirst_forward c d m request).eq_error hrefused p.registry)
    rw [hforwardOf, forwardOf, hnone]
    exact ⟨rfl, hp.registry_eq, hp.direct_eq⟩

/-! ### All members of a type -/

theorem dropping_of_isProperty {property forward : Bool} {x : Directive}
    (hx : x.isProperty = true) : dropping property forward x = !property := by
  cases x <;> simp_all [dropping, Directive.isProperty, Directive.isForward]

theorem dropping_of_isForward {property forward : Bool} {x : Directive}
    (hx : x.isForward = true) : dropping property forward x = !forward := by
  cases x <;> simp_all [dropping, Directive.isProperty, Directive.isForward]

/-- Directives of other kinds stay. -/
theorem dropping_eq_true {property forward : Bool} {x : Directive}
    (hproperty : x.isProperty = false) (hforward : x.isForward = false) :
    dropping property forward x = true := by
  rw [dropping, hproperty, hforward, Bool.and_false, Bool.and_false]
  rfl

/-- **One declared member**, with and without refused directives. -/
theorem member_drops (h : Drops c d m m') (hm : m ∈ d.members) (hp : p.Parallel p') :
    List.Forall₂ (Lacks c d) (member d m p).1 (member d m' p').1 ∧
      (member d m p).2.Parallel (member d m' p').2 := by
  have hdrops := h
  obtain ⟨property, forward, hproperty, -, rfl⟩ := h
  have hasks : (∀ x : Directive, x.isProperty → dropping property forward x) ∨
      RefusesProperty d m ∧
        ∀ x : Directive, x.isProperty → dropping property forward x = false := by
    cases property with
    | false => exact .inl fun x hx => dropping_of_isProperty hx
    | true => exact .inr ⟨hproperty rfl, fun x hx => dropping_of_isProperty hx⟩
  obtain ⟨head, added, hgroup, hgroup', hlabel, hdirectives, hprogress⟩ :=
    exists_member_eq_keeping hp (dropping_eq_true rfl rfl) (dropping_eq_true rfl rfl) hasks
  rw [hgroup, hgroup']
  refine ⟨.cons (.inr ⟨m, hm, _, hdrops, hlabel, hdirectives, ?_⟩)
    (List.forall₂_same.mpr fun x _ => .inl rfl), hprogress⟩
  rw [Member.keeping, hdirectives]
  rfl

/-- **One forwarding member**, with and without refused directives. -/
theorem forwardOf_drops (h : Drops c d m m') {kept' : Directive → Bool}
    (hd : d'.keeping kept' = d.keeping kept') (hp : p.Parallel p') :
    (forwardOf c d' m' p').1 = (forwardOf c d m p).1 ∧
      (forwardOf c d m p).2.Parallel (forwardOf c d' m' p').2 := by
  obtain ⟨property, forward, -, hforward, rfl⟩ := h
  refine forwardOf_keeping hd hp (dropping_eq_true rfl rfl) ?_
  cases forward with
  | false => exact .inl fun x hx => dropping_of_isForward hx
  | true => exact .inr ⟨hforward rfl, fun x hx => dropping_of_isForward hx⟩

/-- A declared member and the group made of it, with and without refused directives. -/
def Follows₂ (c : Context) (d : TypeDecl) (pair pair' : Member × List Member) : Prop :=
  Drops c d pair.1 pair'.1 ∧ List.Forall₂ (Lacks c d) pair.2 pair'.2

/-- Members in turn, by induction. -/
theorem members_drops {ms ms' : List Member} (h : List.Forall₂ (Drops c d) ms ms')
    (hms : ms ⊆ d.members) (others : List Member) (hp : p.Parallel p') :
    List.Forall₂ (Follows₂ c d) (ms.zip (members d p ms).1)
        (ms'.zip (members (d.withMembers others) p' ms').1) ∧
      (members d p ms).2.Parallel (members (d.withMembers others) p' ms').2 := by
  induction h generalizing p p' with
  | nil => exact ⟨.nil, hp⟩
  | cons hm _ ih =>
    obtain ⟨hmem, hms⟩ := List.cons_subset.mp hms
    obtain ⟨hgroup, hprogress⟩ := member_drops hm hmem hp
    obtain ⟨hgroups, hprogress'⟩ := ih hms hprogress
    exact ⟨.cons ⟨hm, hgroup⟩ hgroups, hprogress'⟩

/-- Forwarding members in turn, by induction. -/
theorem forwards_drops {pairs pairs' : List (Member × List Member)}
    (h : List.Forall₂ (Follows₂ c d) pairs pairs') {kept' : Directive → Bool}
    (hd : d'.keeping kept' = d.keeping kept') (hp : p.Parallel p') :
    List.Forall₂ (Lacks c d) (forwards c d p pairs).1 (forwards c d' p' pairs').1 ∧
      (forwards c d p pairs).2.Parallel (forwards c d' p' pairs').2 := by
  induction h generalizing p p' with
  | nil => exact ⟨.nil, hp⟩
  | cons hpair _ ih =>
    obtain ⟨hmade, hprogress⟩ := forwardOf_drops hpair.1 hd hp
    obtain ⟨hothers, hprogress'⟩ := ih hprogress
    rw [forwards, forwards]
    dsimp only
    rw [hmade]
    exact ⟨List.rel_append (List.rel_append hpair.2 (List.forall₂_same.mpr fun x _ => .inl rfl))
      hothers, hprogress'⟩

/-- What is not refused is the same. -/
theorem keeping_of_drops (h : Drops c d m m') :
    m'.keeping (dropping true true) = m.keeping (dropping true true) := by
  obtain ⟨property, forward, -, -, rfl⟩ := h
  refine Member.keeping_keeping (fun x hx => ?_) m
  rw [dropping, Bool.true_and, Bool.true_and, Bool.and_eq_true_iff, Bool.not_eq_true',
    Bool.not_eq_true'] at hx
  exact dropping_eq_true hx.1 hx.2

theorem keeping_of_lacks {x x' : Member} (h : Lacks c d x x') :
    x'.keeping (dropping true true) = x.keeping (dropping true true) := by
  obtain rfl | ⟨m, -, m', hdrops, -, hdirectives, rfl⟩ := h
  · rfl
  · have hsame : m'.directives.filter (dropping true true) =
        m.directives.filter (dropping true true) :=
      congrArg (·.directives) (keeping_of_drops hdrops)
    rw [Member.keeping, Member.keeping, hdirectives, ← hsame]

theorem map_keeping_of_forall₂ {R : Member → Member → Prop} {xs xs' : List Member}
    (h : List.Forall₂ R xs xs') (hR : ∀ x x', R x x' → x'.keeping kept = x.keeping kept) :
    xs'.map (·.keeping kept) = xs.map (·.keeping kept) := by
  rw [← List.forall₂_eq_eq_eq, List.forall₂_map_left_iff, List.forall₂_map_right_iff]
  exact (h.imp hR).flip

section Declaration

variable {ms : List Member} (hms : List.Forall₂ (Drops c d) d.members ms)

include hms

theorem keeping_withMembers_drops :
    (d.withMembers ms).keeping (dropping true true) = d.keeping (dropping true true) :=
  congrArg d.withMembers (map_keeping_of_forall₂ hms fun _ _ => keeping_of_drops)

/-- **The members planned** for a declaration, with and without refused directives. -/
theorem planned_drops (found found' : Diagnostics) :
    List.Forall₂ (Lacks c d) (planned c d found).1 (planned c (d.withMembers ms) found').1 ∧
      (planned c d found).2.Parallel (planned c (d.withMembers ms) found').2 := by
  have hnames : (d.withMembers ms).memberNames = d.memberNames := by
    have hsame := congrArg TypeDecl.memberNames (keeping_withMembers_drops hms)
    rwa [TypeDecl.keeping, TypeDecl.keeping, TypeDecl.memberNames, TypeDecl.memberNames,
      List.map_map, List.map_map] at hsame
  have hregistry : NameRegistry.ofDecl (d.withMembers ms)
      (Ancestry.of c.scope (d.withMembers ms)).names =
        .ofDecl d (Ancestry.of c.scope d).names := by
    rw [NameRegistry.ofDecl, NameRegistry.ofDecl, hnames]
    rfl
  have hp : Progress.Parallel { registry := .ofDecl d (Ancestry.of c.scope d).names, found }
      { registry := .ofDecl d (Ancestry.of c.scope d).names, found := found' } := ⟨rfl, rfl⟩
  rw [planned, planned, hregistry]
  obtain ⟨hgroups, hprogress⟩ := members_drops hms (List.Subset.refl _) ms hp
  exact forwards_drops hgroups (keeping_withMembers_drops hms) hprogress

theorem contributed_drops (found found' : Diagnostics) :
    contributed c (d.withMembers ms) found' = contributed c d found := by
  obtain ⟨hplanned, hprogress⟩ := planned_drops hms found found'
  have hplan : (d.withMembers (planned c (d.withMembers ms) found').1).keeping
      (dropping true true) = (d.withMembers (planned c d found).1).keeping (dropping true true) :=
    congrArg d.withMembers (map_keeping_of_forall₂ hplanned fun _ _ => keeping_of_lacks)
  have htarget : ∀ (plan : TypeDecl) (capabilities : CapabilitySet) (registry : NameRegistry),
      Weave.ofTarget c.settings c.donors c.declared (plan.keeping (dropping true true))
        capabilities registry =
          Weave.ofTarget c.settings c.donors c.declared plan capabilities registry :=
    fun plan capabilities registry => Weave.ofTarget_congr_keeping (fun _ hx => hx)
      (dropping true true) c.settings c.declared rfl capabilities registry
  rw [contributed, contributed, woven, woven, hprogress.registry_eq]
  refine congrArg (fun weave : Weave => if d.isInterface then {} else weave)
    (congrArg Prod.fst ?_)
  refine (htarget _ _ _).symm.trans (Eq.trans ?_ (htarget _ _ _))
  exact congrArg (Weave.ofTarget c.settings c.donors c.declared · _ _) hplan

/-- **The plan** of a declaration, with and without refused directives, is the same otherwise. -/
theorem ofDecl_keeping_drops (hd : c.sugarEnabled d = true) :
    (ofDecl c (d.withMembers ms)).1.keeping (dropping true true) =
      (ofDecl c d).1.keeping (dropping true true) := by
  have hd' : c.sugarEnabled (d.withMembers ms) = true := hd
  obtain ⟨hplanned, hprogress⟩ := planned_drops hms (preliminary c d)
    (preliminary c (d.withMembers ms))
  have hplan : (d.withMembers ((planned c (d.withMembers ms)
      (preliminary c (d.withMembers ms))).1 ++
        (contributed c d (preliminary c d)).members)).keeping (dropping true true) =
      (d.withMembers ((planned c d (preliminary c d)).1 ++
        (contributed c d (preliminary c d)).members)).keeping (dropping true true) := by
    rw [TypeDecl.keeping_withMembers, TypeDecl.keeping_withMembers, List.map_append,
      List.map_append, map_keeping_of_forall₂ hplanned fun _ _ => keeping_of_lacks]
  have hinterface : (d.withMembers ms).isInterface = d.isInterface := rfl
  rw [ofDecl, ofDecl, if_pos hd, if_pos hd', expanded_eq, expanded_eq, hinterface,
    hprogress.direct_eq, contributed_drops hms (preliminary c d)]
  dsimp only
  split
  · exact hplan
  · refine (TypeDecl.finishConstructor_keeping (dropping true true) _ _ _ rfl).symm.trans
      (Eq.trans ?_ (TypeDecl.finishConstructor_keeping (dropping true true) _ _ _ rfl))
    exact congrArg (fun plan : TypeDecl => (plan.finishConstructor _ _ _).1) hplan

/-- **The donor** that an interface becomes, with and without refused directives. -/
theorem donor_drops (hd : c.sugarEnabled d = true) (hinterface : d.isInterface = true) :
    let bank := DonorBank.ofDecl c.settings (ofDecl c d).1
    let bank' := DonorBank.ofDecl c.settings (ofDecl c (d.withMembers ms)).1
    bank'.2 = bank.2 ∧ { bank'.1 with members := bank.1.members } = bank.1 ∧
      List.Forall₂ (Lacks c d) bank.1.members bank'.1.members := by
  intro bank bank'
  have hd' : c.sugarEnabled (d.withMembers ms) = true := hd
  have hinterface' : (d.withMembers ms).isInterface = true := hinterface
  have htags : ∀ x : Directive, x.isTag → dropping true true x := by
    intro x hx
    cases x <;> first | exact dropping_eq_true rfl rfl | exact absurd hx Bool.false_ne_true
  have hsame : (bank'.1.keeping (dropping true true), bank'.2) =
      (bank.1.keeping (dropping true true), bank.2) := by
    rw [← DonorBank.ofDecl_keeping htags, ← DonorBank.ofDecl_keeping htags,
      ofDecl_keeping_drops hms hd]
  obtain ⟨hbank, hfound⟩ := Prod.mk.inj hsame
  refine ⟨hfound, congrArg (fun b : DonorBank => { b with members := bank.1.members }) hbank, ?_⟩
  have hplanned := (planned_drops hms (preliminary c d) (preliminary c (d.withMembers ms))).1
  have hplan : (ofDecl c d).1.members = (planned c d (preliminary c d)).1 := by
    rw [ofDecl, if_pos hd, members_expanded_of_interface hinterface]
  have hplan' : (ofDecl c (d.withMembers ms)).1.members =
      (planned c (d.withMembers ms) (preliminary c (d.withMembers ms))).1 := by
    rw [ofDecl, if_pos hd', members_expanded_of_interface hinterface']
  rw [DonorBank.members_ofDecl, DonorBank.members_ofDecl, hplan, hplan']
  refine List.rel_filter (fun x x' hx => ?_) hplanned
  obtain rfl | ⟨-, -, -, -, -, -, rfl⟩ := hx <;> rfl

end Declaration

/-- Nothing need be dropped. -/
theorem Drops.refl (c : Context) (d : TypeDecl) (m : Member) : Drops c d m m := by
  have hall : m.directives.filter (dropping false false) = m.directives :=
    List.filter_eq_self.mpr fun _ _ => rfl
  exact ⟨false, false, by simp, by simp, by rw [Member.keeping, hall]⟩

/-- **Refused directives are inert.** Take a declaration whose directives are carried out, and the
same declaration without directives of its members that are refused, as many of them as one likes.
In the same context both have the same finished plan. Of interfaces both become the same donor, but
for the directives left out, and the same is found about it. A member whose accessor and signal
directives are refused is left as it was taken up, with its type inferred; it is given nothing and
takes no name, and no more does a member whose forward is refused. -/
theorem ofDecl_drops {ms : List Member} (hd : c.sugarEnabled d = true)
    (hms : List.Forall₂ (Drops c d) d.members ms) :
    (ofDecl c (d.withMembers ms)).1.emit = (ofDecl c d).1.emit ∧
    (d.isInterface = true →
      let bank := DonorBank.ofDecl c.settings (ofDecl c d).1
      let bank' := DonorBank.ofDecl c.settings (ofDecl c (d.withMembers ms)).1
      bank'.2 = bank.2 ∧ { bank'.1 with members := bank.1.members } = bank.1 ∧
        List.Forall₂ (Lacks c d) bank.1.members bank'.1.members) ∧
    ∀ m ∈ d.members, ∀ p : Progress,
      (RefusesProperty d m → (propertyOf d (takenUp d m) p).1 = (takenUp d m).typed ∧
        (propertyOf d (takenUp d m) p).2.1 = [] ∧
        (propertyOf d (takenUp d m) p).2.2.registry = p.registry) ∧
      (RefusesForward c d m → (forwardOf c d m p).1 = [] ∧
        (forwardOf c d m p).2.registry = p.registry) := by
  refine ⟨?_, donor_drops hms hd, fun m hm p => ⟨?_, ?_⟩⟩
  · have htemplate : dropping true true .template = true := dropping_eq_true rfl rfl
    rw [← TypeDecl.emit_keeping htemplate, ofDecl_keeping_drops hms hd,
      TypeDecl.emit_keeping htemplate]
  · rintro ⟨conflict, registry, hrefused⟩
    rw [propertyOf_eq, (decidesFirst_property _ _).eq_error hrefused]
    exact ⟨rfl, rfl, rfl⟩
  · rintro ⟨request, cause, registry, hrequest, hrefused⟩
    obtain ⟨found, hforwardOf⟩ := exists_forwardOf_eq_of_error hrequest
      ((decidesFirst_forward c d m request).eq_error hrefused p.registry)
    rw [hforwardOf]
    exact ⟨rfl, rfl⟩

def clashingLevel : Member :=
  { name := "level"
    kind := .field
    directives := [.accessor { modes := [.readonly, .readwrite] }, .requires ["sized"]] }

def aimlessPump : Member :=
  { name := "pump"
    kind := .field
    signature := { type := some (.named "Pump") }
    directives := [.forward { filters := [], span := {} }] }

/-- An interface with a field that asks for two modes at once, one that forwards to an unknown type,
and a signal. -/
def tankInterface : TypeDecl :=
  { name := "Tank"
    kind := .interfaceType
    members := [clashingLevel, aimlessPump,
      { name := "alarm", kind := .field, directives := [.signal ⟨.signal, {}⟩] }] }

/-- Without the two requests that are refused, the tank has the same plan, and no errors. -/
theorem ofDecl_drops_tank :
    let c : Context := { settings := { requireOptIn := false }, types := [tankInterface] }
    let plain := tankInterface.withMembers
      [{ clashingLevel with directives := [.requires ["sized"]] },
        { aimlessPump with directives := [] },
        { name := "alarm", kind := .field, directives := [.signal ⟨.signal, {}⟩] }]
    (ofDecl c tankInterface).2.hasErrors = true ∧ (ofDecl c plain).2.hasErrors = false ∧
      (ofDecl c plain).1.emit = (ofDecl c tankInterface).1.emit ∧
      (DonorBank.ofDecl c.settings (ofDecl c plain).1).2 =
        (DonorBank.ofDecl c.settings (ofDecl c tankInterface).1).2 := by
  intro c plain
  have hlevel : RefusesProperty tankInterface clashingLevel :=
    ⟨.clashingModes .readonly .readwrite, ⟨"Tank", []⟩, rfl⟩
  have hpump : RefusesForward c tankInterface aimlessPump :=
    ⟨_, .unknownType "Pump", ⟨"Tank", []⟩, rfl, by cbv⟩
  have hdrops : List.Forall₂ (Drops c tankInterface) tankInterface.members plain.members :=
    .cons ⟨true, false, fun _ => hlevel, by simp, rfl⟩
      (.cons ⟨false, true, by simp, fun _ => hpump, rfl⟩
        (.cons (.refl c tankInterface _) .nil))
  obtain ⟨hemit, hdonor, -⟩ := ofDecl_drops (c := c) rfl hdrops
  exact ⟨by cbv, by cbv, hemit, (hdonor rfl).1⟩

end Synthesis

end DeclWeave
