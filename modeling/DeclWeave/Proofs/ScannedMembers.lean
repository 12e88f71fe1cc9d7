import DeclWeave.Proofs.PlanMembers
import DeclWeave.Proofs.ScannedBodies

/-!
# Scanned Members

What synthesis makes of the members of a declaration, and what forwarding adds to them, is scanned
if the declaration and those it can see are: the names that are made continue names that were
scanned, bodies that are made are calls under fixed names, and types are inferred from literals or
carried over with their parameters bound.

## Main results

* `PropertySpec.isScanned_of_mem_added`: the accessors of a property.
* `Forward.isScanned_of_mem_counterparts`: what a forwarding member gives its host.
* `Synthesis.isScanned_planned`: all that is planned before donors are woven in.
-/

namespace DeclWeave

open Outcome (bind_eq_ok)

/-! ### Calls and names that are made -/

namespace Form

variable {target value : Form} {name : String} {args : List Form}

theorem isScanned_get (htarget : target.IsScanned) (hname : IsName name) (s : Span) :
    (get target name s).IsScanned :=
  isScanned_call (by decide) (List.forall_mem_cons.mpr ⟨htarget,
    List.forall_mem_singleton.mpr hname⟩)

theorem isScanned_this (s : Span) : (sym "this" s).IsScanned := by
  have hthis : IsName "this" := by decide
  exact hthis

theorem isScanned_getOfThis (h : IsName name) (s : Span) : (getOfThis name s).IsScanned :=
  isScanned_get (isScanned_this s) h s

theorem isScanned_invoke (htarget : target.IsScanned) (hname : IsName name)
    (hargs : ∀ f ∈ args, f.IsScanned) (s : Span) : (invoke target name args s).IsScanned :=
  isScanned_call (by decide) (List.forall_mem_cons.mpr ⟨htarget,
    List.forall_mem_cons.mpr ⟨hname, hargs⟩⟩)

theorem isScanned_assign (htarget : target.IsScanned) (hvalue : value.IsScanned) (s : Span) :
    (assign target value s).IsScanned :=
  isScanned_call (by decide) (by simpa using ⟨htarget, hvalue⟩)

theorem isScanned_literalType? (f : Form) : ∀ t ∈ f.literalType?, t.IsScanned := by
  have hnames : ∀ name ∈ ["Int", "Float", "String", "Bool"], (TypeRef.named name).IsScanned := by
    have hall : ∀ name ∈ ["Int", "Float", "String", "Bool"], IsName name := by decide
    exact fun name hname => TypeRef.isScanned_named (hall name hname)
  rw [literalType?.eq_def]
  split <;> simp [hnames]

end Form

theorem isName_getterName {field : String} (h : IsName field) : IsName (getterName field) := by
  rw [getterName]
  exact h.prepend rfl ⟨by decide, by decide, List.all_eq_true.mp (by decide), by decide⟩
    (by decide) (by decide)

theorem isName_setterName {field : String} (h : IsName field) : IsName (setterName field) := by
  rw [setterName]
  exact h.prepend rfl ⟨by decide, by decide, List.all_eq_true.mp (by decide), by decide⟩
    (by decide) (by decide)

theorem isName_triggerName {field : String} (h : IsName field) : IsName (triggerName field) := by
  rw [triggerName]
  exact h.append (List.all_eq_true.mp (by decide)) (by decide) (by decide)

/-! ### Members that change -/

namespace Member

variable {m m' : Member}

theorem isScanned_inferredType (h : m.IsScanned) : ∀ t ∈ m.inferredType, t.IsScanned := by
  intro t ht
  rw [inferredType] at ht
  cases htype : m.type with
  | some t' =>
    rw [htype] at ht
    exact h.type t (htype.trans ht)
  | none =>
    rw [htype] at ht
    obtain ⟨body, -, ht⟩ := Option.bind_eq_some_iff.mp ht
    exact Form.isScanned_literalType? body t ht

/-- A member that keeps all but its type and perhaps its body. -/
theorem Reshapes.isScanned (h : m.Reshapes m') (hm : m.IsScanned)
    (htype : ∀ t ∈ m'.type, t.IsScanned) : m'.IsScanned := by
  obtain ⟨type, body, property, hbody, rfl⟩ := h
  refine ⟨hm.name, hm.params, htype, ?_, hm.accessor⟩
  rcases hbody with rfl | rfl
  · exact hm.body
  · simp

theorem isScanned_accessorRequest? (h : m.IsScanned) :
    ∀ r ∈ m.accessorRequest?, r.IsScanned := by
  intro r hr
  obtain ⟨d, hd, hsome⟩ := List.exists_of_findSome?_eq_some hr
  split at hsome
  · rw [← Option.some.inj hsome]
    exact h.accessor _ hd
  · exact absurd hsome (by simp)

theorem isScanned_typed (h : m.IsScanned) : (m.withType m.inferredType).IsScanned :=
  (m.reshapes_withType _).isScanned h (isScanned_inferredType h)

theorem isScanned_publish (h : m.IsScanned) : m.publish.IsScanned :=
  { h with }

end Member

/-! ### Accessors -/

namespace PropertySpec

/-- The accessor bodies that a property was given are scanned. -/
structure IsScanned (p : PropertySpec) : Prop where
  getter : ∀ f ∈ p.getter?, f.IsScanned
  setter : ∀ f ∈ p.setter?, f.IsScanned
  guard : ∀ f ∈ p.guard?, f.IsScanned

variable {p : PropertySpec} {field m : Member} {registry : NameRegistry}

/-- A property that is read through a given getter. -/
theorem isScanned_readonly {getter : Form} (h : getter.IsScanned) :
    (mk (.readonly (some getter)) false).IsScanned :=
  ⟨by simpa [getter?] using h, by simp [setter?], by simp [guard?]⟩

/-- A property that is read through a given getter and written through a given setter. -/
theorem isScanned_custom {getter setter : Form} (hgetter : getter.IsScanned)
    (hsetter : setter.IsScanned) :
    (mk (.readwrite (some getter) (.custom setter)) false).IsScanned :=
  ⟨by simpa [getter?] using hgetter, by simpa [setter?] using hsetter, by simp [guard?]⟩

theorem isScanned_ofRequest {a : AccessorRequest} (ha : a.IsScanned)
    (h : ofRequest field a = .ok p) : p.IsScanned := by
  obtain ⟨mode, -, h⟩ := bind_eq_ok.mp h
  cases mode with
  | calculated =>
    dsimp only at h
    split_ifs at h
    obtain rfl := Except.ok.inj h
    exact ⟨by simp [getter?], by simp [setter?], by simp [guard?]⟩
  | readonly =>
    dsimp only at h
    split_ifs at h
    obtain rfl := Except.ok.inj h
    exact ⟨ha.getter, by simp [setter?], by simp [guard?]⟩
  | readwrite =>
    dsimp only at h
    split at h
    · exact absurd h (by simp [throw, throwThe, MonadExceptOf.throw])
    · rename_i setter hsetter _
      obtain rfl := Except.ok.inj h
      exact ⟨ha.getter, by simpa [setter?] using ha.setter setter hsetter, by simp [guard?]⟩
    · rename_i guard _ hguard
      obtain rfl := Except.ok.inj h
      exact ⟨ha.getter, by simp [setter?], by simpa [guard?] using ha.guard guard hguard⟩
    · obtain rfl := Except.ok.inj h
      exact ⟨ha.getter, by simp [setter?], by simp [guard?]⟩

theorem isScanned_getterBody (hp : p.IsScanned) (hfield : field.IsScanned) :
    (p.getterBody field).IsScanned := by
  have hget := Form.isScanned_getOfThis hfield.name field.span
  rw [getterBody]
  cases hshape : p.shape with
  | calculated =>
    cases hbody : field.body with
    | none => trivial
    | some body => exact hfield.body body hbody
  | readonly getter =>
    cases getter with
    | none => exact hget
    | some getter => exact hp.getter getter (by rw [getter?, hshape]; rfl)
  | readwrite getter assignment =>
    cases getter with
    | none => exact hget
    | some getter => exact hp.getter getter (by rw [getter?, hshape]; rfl)

theorem isScanned_setterBody (hp : p.IsScanned) (hfield : field.IsScanned) {getter : Option Form}
    {assignment : Assignment} (hshape : p.shape = .readwrite getter assignment) :
    (setterBody field assignment).IsScanned := by
  have hstoring : ∀ value : Form, value.IsScanned → (storing field value).IsScanned := by
    intro value hvalue
    have hplace := Form.isScanned_getOfThis hfield.name field.span
    refine Form.isScanned_call (by decide) ?_
    simpa using ⟨Form.isScanned_assign hplace hvalue field.span,
      Form.isScanned_call (by decide) (by simpa using hplace)⟩
  cases assignment with
  | direct =>
    have hparam : IsName setterParam := by decide
    exact hstoring _ hparam
  | guarded value => exact hstoring _ (hp.guard value (by rw [guard?, hshape]; rfl))
  | custom body => exact hp.setter body (by rw [setter?, hshape]; rfl)

theorem isScanned_accessor (hfield : field.IsScanned) {name : String} (hname : IsName name)
    {params : List Param} (hparams : ∀ q ∈ params, q.IsScanned) {body : Form}
    (hbody : body.IsScanned) : (p.accessor field name params body).IsScanned :=
  ⟨hname, hparams, hfield.type, by simpa [accessor] using Form.isScanned_finish hbody _,
    by simp [accessor]⟩

/-- **The accessors of a property** are scanned. -/
theorem isScanned_of_mem_added (hp : p.IsScanned) (hfield : field.IsScanned)
    (h : m ∈ (p.apply field registry).added) : m.IsScanned := by
  have htyped := Member.isScanned_typed hfield
  rcases eq_of_mem_added_apply h with rfl | ⟨getter, assignment, hshape, rfl⟩
  · exact isScanned_accessor htyped (isName_getterName hfield.name) (by simp)
      (isScanned_getterBody hp htyped)
  · have hname : IsName setterParam := by decide
    have hparam : (Param.mk setterParam field.inferredType).IsScanned :=
      ⟨hname, Member.isScanned_inferredType hfield⟩
    exact isScanned_accessor htyped (isName_setterName hfield.name) (by simpa using hparam)
      (isScanned_setterBody hp htyped hshape)

/-- **The property** is scanned. -/
theorem isScanned_field (hfield : field.IsScanned) :
    (p.apply field registry).field.IsScanned := by
  have htype : (p.apply field registry).field.type = field.inferredType := by
    rw [apply]
    dsimp only
    split <;> rfl
  exact (p.reshapes_apply field registry).isScanned hfield
    (htype ▸ Member.isScanned_inferredType hfield)

end PropertySpec

/-! ### Signals -/

namespace SignalFlavor

variable (flavor : SignalFlavor)

theorem isName_types : IsName flavor.publishedType ∧ IsName flavor.triggerType ∧
    IsName flavor.conversion := by
  cases flavor <;> decide

theorem isScanned_payload {type : Option TypeRef} (h : ∀ t ∈ type, t.IsScanned) :
    (flavor.payload type).IsScanned := by
  have hnoise : (TypeRef.named "Noise").IsScanned := TypeRef.isScanned_named (by decide)
  cases type with
  | none => exact hnoise
  | some t =>
    have ht := h t rfl
    rw [payload]
    split
    · cases hhead : t.args.head? with
      | none => exact hnoise
      | some arg =>
        obtain ⟨name, args⟩ := t
        exact (TypeRef.isScanned_mk.mp ht).2 arg (List.mem_of_mem_head? hhead)
    · exact ht

end SignalFlavor

namespace SignalRequest

variable {r : SignalRequest} {field m : Member} {onInterface : Bool} {registry : NameRegistry}

theorem isScanned_published (h : field.IsScanned) : (r.published field).IsScanned := by
  have htype : TypeRef.IsScanned ⟨r.flavor.publishedType, [r.flavor.payload field.type]⟩ :=
    TypeRef.isScanned_mk.mpr ⟨r.flavor.isName_types.1,
      by simpa using r.flavor.isScanned_payload h.type⟩
  exact ⟨h.name, h.params, by simpa [published, Member.type] using htype, by simp [published],
    h.accessor⟩

theorem isScanned_trigger (h : field.IsScanned) (onInterface : Bool) :
    (r.trigger field onInterface).IsScanned := by
  obtain ⟨-, htrigger, -⟩ := r.flavor.isName_types
  have htype : TypeRef.IsScanned ⟨r.flavor.triggerType, [r.flavor.payload field.type]⟩ :=
    TypeRef.isScanned_mk.mpr ⟨htrigger, by simpa using r.flavor.isScanned_payload h.type⟩
  have hbody : (Form.call "new" [.sym r.flavor.triggerType field.span] field.span).IsScanned :=
    Form.isScanned_call (by decide) (List.forall_mem_singleton.mpr htrigger)
  refine ⟨isName_triggerName h.name, by simp [trigger], by simpa [trigger, Member.type] using htype,
    by simpa [trigger] using hbody, ?_⟩
  cases onInterface <;> simp [trigger]

theorem isScanned_converted (h : field.IsScanned) : (r.converted field).IsScanned :=
  Form.isScanned_invoke (Form.isScanned_getOfThis (isName_triggerName h.name) _)
    r.flavor.isName_types.2.2 (by simp) _

/-- **What is made for a signal** is scanned. -/
theorem isScanned_of_mem_added (h : field.IsScanned)
    (hm : m ∈ (r.apply field onInterface registry).added) : m.IsScanned := by
  obtain rfl | ⟨getter, registry', hgetter, hm⟩ := mem_added_apply hm
  · exact isScanned_trigger h onInterface
  · have hscanned : getter.IsScanned := by
      rcases hgetter with hbody | rfl
      · exact h.body getter hbody
      · exact isScanned_converted h
    exact PropertySpec.isScanned_of_mem_added (PropertySpec.isScanned_readonly hscanned)
      (isScanned_published h) hm

/-- **The signal** is scanned. -/
theorem isScanned_field (h : field.IsScanned) :
    (r.apply field onInterface registry).field.IsScanned := by
  obtain ⟨init, -, happly⟩ | ⟨s, hs, happly⟩ := r.apply_eq field onInterface registry
  · rw [happly]
    exact PropertySpec.isScanned_field (isScanned_published h)
  · rw [happly, hs]
    exact PropertySpec.isScanned_field (isScanned_published h)

end SignalRequest

/-! ### The members of a declaration -/

/-- A field bound from a constructor parameter is scanned. -/
structure DirectInit.IsScanned (d : DirectInit) : Prop where
  field : IsName d.field
  type : ∀ t ∈ d.type, t.IsScanned

namespace Synthesis

variable {c : Context} {d : TypeDecl} {m m' : Member} {p : Progress}

theorem isScanned_property {onInterface : Bool} {registry : NameRegistry} {s : Synthesized}
    (hm : m.IsScanned) (h : property onInterface m registry = .ok s) :
    s.field.IsScanned ∧ ∀ m' ∈ s.added, m'.IsScanned := by
  obtain rfl | ⟨-, ⟨request, spec, hrequest, hspec, rfl⟩ | ⟨signal, -, rfl⟩⟩ := property_cases h
  · exact ⟨hm, by simp⟩
  · have hscanned := Member.isScanned_accessorRequest? hm request hrequest
    exact ⟨PropertySpec.isScanned_field hm, fun m' => PropertySpec.isScanned_of_mem_added
      (PropertySpec.isScanned_ofRequest hscanned hspec) hm⟩
  · exact ⟨SignalRequest.isScanned_field hm, fun m' => SignalRequest.isScanned_of_mem_added hm⟩

theorem isScanned_propertyOf (hm : m.IsScanned) (d : TypeDecl) (p : Progress) :
    (propertyOf d m p).1.IsScanned ∧ ∀ m' ∈ (propertyOf d m p).2.1, m'.IsScanned := by
  have htyped : (if m.isField then m.withType m.inferredType else m).IsScanned := by
    split
    · exact Member.isScanned_typed hm
    · exact hm
  rw [propertyOf]
  dsimp only
  split
  · exact isScanned_property htyped ‹_›
  · exact ⟨htyped, by simp⟩

theorem direct_propertyOf (d : TypeDecl) (m : Member) (p : Progress) :
    (propertyOf d m p).2.2.direct = p.direct := by
  rw [propertyOf]
  dsimp only
  split <;> rfl

theorem isScanned_directInit (hm : m.IsScanned) (d : TypeDecl)
    (hp : ∀ i ∈ p.direct, i.IsScanned) :
    (directInit d m p).1.IsScanned ∧ ∀ i ∈ (directInit d m p).2.direct, i.IsScanned := by
  rw [directInit]
  split
  · exact ⟨hm, hp⟩
  · split
    · exact ⟨hm, hp⟩
    · refine ⟨{ hm with body := by simp }, List.forall_mem_append.mpr ⟨hp, ?_⟩⟩
      exact List.forall_mem_singleton.mpr ⟨hm.name, hm.type⟩

/-- **A declared member** stays scanned, and so is what is made from it. -/
theorem isScanned_member (hm : m.IsScanned) (d : TypeDecl) (hp : ∀ i ∈ p.direct, i.IsScanned) :
    (∀ m' ∈ (member d m p).1, m'.IsScanned) ∧ ∀ i ∈ (member d m p).2.direct, i.IsScanned := by
  have htaken : (takenUp d m).IsScanned := { hm with }
  rw [member, ← takenUp]
  dsimp only
  split
  · exact ⟨by simpa using htaken, hp⟩
  · split
    · exact ⟨by simpa using htaken, hp⟩
    · obtain ⟨hfield, hadded⟩ := isScanned_propertyOf htaken d p
      have hdirect : ∀ i ∈ (propertyOf d (takenUp d m) p).2.2.direct, i.IsScanned := by
        rwa [direct_propertyOf]
      obtain ⟨hkept, hinits⟩ := isScanned_directInit hfield d hdirect
      exact ⟨List.forall_mem_cons.mpr ⟨hkept, hadded⟩, hinits⟩

theorem isScanned_members {ms : List Member} (hms : ∀ m ∈ ms, m.IsScanned) (d : TypeDecl)
    (hp : ∀ i ∈ p.direct, i.IsScanned) :
    (∀ group ∈ (members d p ms).1, ∀ m ∈ group, m.IsScanned) ∧
      ∀ i ∈ (members d p ms).2.direct, i.IsScanned := by
  induction ms generalizing p with
  | nil => exact ⟨by simp [members], hp⟩
  | cons m ms ih =>
    obtain ⟨hm, hms⟩ := List.forall_mem_cons.mp hms
    obtain ⟨hgroup, hdirect⟩ := isScanned_member hm d hp
    obtain ⟨hgroups, hinits⟩ := ih hms hdirect
    exact ⟨List.forall_mem_cons.mpr ⟨hgroup, hgroups⟩, hinits⟩

end Synthesis

/-! ### Forwarding -/

namespace Candidate

/-- A candidate whose member and type arguments are scanned. -/
structure IsScanned (c : Candidate) : Prop where
  member : c.member.IsScanned
  bindings : c.bindings.IsScanned

variable {c : Candidate}

theorem isScanned_fieldType (h : c.IsScanned) : ∀ t ∈ c.fieldType, t.IsScanned := by
  intro t ht
  obtain ⟨t', ht', rfl⟩ := Option.map_eq_some_iff.mp ht
  exact TypeRef.isScanned_substitute h.bindings (Member.isScanned_inferredType h.member t' ht')

end Candidate

/-- Putting scanned arguments in the place of type parameters keeps a signature scanned. -/
theorem Signature.isScanned_substitute {b : Bindings} (hb : b.IsScanned) {s : Signature}
    (hparams : ∀ p ∈ s.params, p.IsScanned) (htype : ∀ t ∈ s.type, t.IsScanned) :
    (∀ p ∈ (s.substitute b).params, p.IsScanned) ∧ ∀ t ∈ (s.substitute b).type, t.IsScanned := by
  have hmap : ∀ type : Option TypeRef, (∀ t ∈ type, t.IsScanned) →
      ∀ t ∈ type.map (·.substitute b), t.IsScanned := by
    intro type h t ht
    obtain ⟨t', ht', rfl⟩ := Option.map_eq_some_iff.mp ht
    exact TypeRef.isScanned_substitute hb (h t' ht')
  refine ⟨List.forall_mem_map.mpr fun p hp => ?_, hmap s.type htype⟩
  exact ⟨(hparams p hp).name, hmap p.type (hparams p hp).type⟩

namespace Forward

variable {source m : Member} {template : Option Form} {cand : Candidate} {r : NameRegistry}

theorem isScanned_reach (h : source.IsScanned) : (reach source).IsScanned := by
  rw [reach]
  split
  · exact Form.isScanned_getOfThis h.name _
  · exact Form.isScanned_invoke (Form.isScanned_this _) h.name (by simp) _

/-- **The counterpart of a field** and its accessors are scanned. -/
theorem isScanned_of_mem_field (hsource : source.IsScanned) (h : cand.IsScanned)
    (hm : m ∈ (field source cand r).1) : m.IsScanned := by
  have htarget : (Form.get (reach source) cand.member.name source.span).IsScanned :=
    Form.isScanned_get (isScanned_reach hsource) h.member.name _
  have hparam : (Form.sym setterParam source.span).IsScanned := by
    have hname : IsName setterParam := by decide
    exact hname
  rw [field] at hm
  dsimp only at hm
  rcases List.mem_cons.mp hm with rfl | hm
  · refine Member.isScanned_publish (PropertySpec.isScanned_field ?_)
    exact ⟨h.member.name, by simp, Candidate.isScanned_fieldType h, by simp, by simp⟩
  · refine PropertySpec.isScanned_of_mem_added ?_ ?_ hm
    · split
      · exact PropertySpec.isScanned_custom htarget (Form.isScanned_assign htarget hparam _)
      · exact PropertySpec.isScanned_readonly htarget
    · exact ⟨h.member.name, by simp, Candidate.isScanned_fieldType h, by simp, by simp⟩

/-- **The counterpart of a method** is scanned. -/
theorem isScanned_method (hsource : source.IsScanned) (htemplate : ∀ f ∈ template, f.IsScanned)
    (h : cand.IsScanned) : (method source template cand).IsScanned := by
  obtain ⟨hparams, htype⟩ := Signature.isScanned_substitute h.bindings h.member.params
    h.member.type
  have hargs : ∀ f ∈ (cand.member.signature.substitute cand.bindings).params.map fun p =>
      Form.sym p.name source.span, f.IsScanned :=
    List.forall_mem_map.mpr fun p hp => (hparams p hp).name
  refine ⟨h.member.name, hparams, htype, ?_, by simp [method]⟩
  simp only [method, Option.mem_some_iff, forall_eq']
  refine Form.isScanned_finish ?_ _
  split
  · rename_i body
    exact Template.isScanned_fill ⟨isScanned_reach hsource, hargs⟩
      ((Form.isScanned_respan _ _).mpr (htemplate body rfl))
  · exact Form.isScanned_invoke (isScanned_reach hsource) h.member.name hargs _

/-- **What a forwarding member gives its host** is scanned. -/
theorem isScanned_of_mem_counterparts (hsource : source.IsScanned)
    (htemplate : ∀ f ∈ template, f.IsScanned) {cands : List Candidate}
    (hcands : ∀ cand ∈ cands, cand.IsScanned) {registry : NameRegistry}
    (hm : m ∈ (counterparts source template registry cands).1) : m.IsScanned := by
  obtain ⟨cand, hcand, ⟨rfl, -⟩ | ⟨-, r, hm, -⟩⟩ := Synthesis.exists_part_of_mem_counterparts hm
  · exact isScanned_method hsource htemplate (hcands cand hcand)
  · exact isScanned_of_mem_field hsource (hcands cand hcand) hm

end Forward

namespace TypeDecl

variable {d : TypeDecl} {r : TypeRef}

theorem isScanned_bindingsFor (d : TypeDecl) (hr : r.IsScanned) : (d.bindingsFor r).IsScanned := by
  obtain ⟨name, args⟩ := r
  exact Bindings.isScanned_ofParams _ (TypeRef.isScanned_mk.mp hr).2

end TypeDecl

namespace Delegate

variable {scope : TypeScope} {r : TypeRef} {delegate : Delegate}

/-- The declarations on a line of descent, and the references that lead to them. -/
theorem isScanned_of_mem_lineage (hscope : ∀ d ∈ scope, d.IsScanned) {seen : List String}
    {start : Option TypeRef} (hstart : ∀ r ∈ start, r.IsScanned) {x : TypeDecl × TypeRef}
    (hx : x ∈ scope.lineage superclassThrough seen start) : x.1.IsScanned ∧ x.2.IsScanned := by
  fun_induction TypeScope.lineage scope superclassThrough seen start with
  | case1 seen => exact absurd hx List.not_mem_nil
  | case2 seen r hnone => exact absurd hx List.not_mem_nil
  | case3 seen r d hfind hseen => exact absurd hx List.not_mem_nil
  | case4 seen r d hfind hseen ih =>
    have hd := hscope d (List.mem_of_find?_eq_some hfind)
    have hr := hstart r rfl
    rcases List.mem_cons.mp hx with rfl | hx
    · exact ⟨hd, hr⟩
    · refine ih (fun r' hr' => ?_) hx
      obtain ⟨above, habove, rfl⟩ := Option.map_eq_some_iff.mp hr'
      exact TypeRef.isScanned_substitute (d.isScanned_bindingsFor hr) (hd.superclass above habove)

theorem isScanned_of_mem_layers (hscope : ∀ d ∈ scope, d.IsScanned) (hr : r.IsScanned)
    (h : resolve? scope r = some delegate) {layer : Layer} (hlayer : layer ∈ delegate.layers) :
    layer.decl.IsScanned ∧ layer.bindings.IsScanned := by
  rw [resolve?] at h
  split at h
  · exact absurd h (by simp)
  · rw [← Option.some.inj h] at hlayer
    obtain ⟨⟨d, r'⟩, hmem, rfl⟩ := List.mem_map.mp hlayer
    obtain ⟨hd, hr'⟩ := isScanned_of_mem_lineage hscope (by simpa using hr) hmem
    exact ⟨hd, d.isScanned_bindingsFor hr'⟩

theorem visibleMembers_subset (seen : List String) (cands : List Candidate) :
    visibleMembers seen cands ⊆ cands := by
  induction cands generalizing seen with
  | nil => exact List.Subset.refl _
  | cons cand cands ih =>
    rw [visibleMembers]
    split
    · exact List.subset_cons_of_subset _ (ih seen)
    · exact List.cons_subset_cons _ (ih _)

/-- **The candidates of a delegate** are scanned. -/
theorem isScanned_of_mem_candidates (hscope : ∀ d ∈ scope, d.IsScanned) (hr : r.IsScanned)
    (h : resolve? scope r = some delegate) (isPending : TypeDecl → Bool) {cand : Candidate}
    (hcand : cand ∈ (delegate.markPending isPending).candidates) : cand.IsScanned := by
  obtain ⟨marked, hmarked, hcand⟩ := List.mem_flatMap.mp
    (visibleMembers_subset [] _ (List.mem_filter.mp hcand).1)
  obtain ⟨m, hm, rfl⟩ := List.mem_map.mp hcand
  obtain ⟨layer, hlayer, rfl⟩ := List.mem_map.mp hmarked
  obtain ⟨hdecl, hbindings⟩ := isScanned_of_mem_layers hscope hr h hlayer
  exact ⟨hdecl.members m hm, hbindings⟩

end Delegate

namespace Synthesis

variable {c : Context} {d : TypeDecl} {m : Member} {p : Progress} {found : Diagnostics}

theorem isScanned_templateBody (hd : d.IsScanned) {request : ForwardRequest}
    {template : Option Form} (h : Forward.templateBody d request = .ok template) :
    ∀ f ∈ template, f.IsScanned := by
  rw [Forward.templateBody] at h
  split at h
  · obtain rfl := Except.ok.inj h
    simp
  · split at h
    · rename_i body hbody
      obtain rfl := Except.ok.inj h
      obtain ⟨m, hm, hbody⟩ := Option.bind_eq_some_iff.mp hbody
      obtain ⟨hfind, -⟩ := Option.filter_eq_some_iff.mp hm
      simpa using (hd.members m (List.mem_of_find?_eq_some hfind)).body body hbody
    · exact absurd h (by simp)

theorem isScanned_of_mem_forwardOf (hscope : ∀ d ∈ c.scope, d.IsScanned) (hd : d.IsScanned)
    (hm : m.IsScanned) {m' : Member} (h : m' ∈ (forwardOf c d m p).1) : m'.IsScanned := by
  obtain hnone | ⟨request, type, delegate, template, isPending, selected, -, htype, hdelegate,
    htemplate, hselected, hmade⟩ := forwardOf_cases c d m p
  · rw [hnone] at h
    exact absurd h List.not_mem_nil
  · rw [hmade] at h
    exact Forward.isScanned_of_mem_counterparts hm (isScanned_templateBody hd htemplate)
      (fun cand hcand => Delegate.isScanned_of_mem_candidates hscope (hm.type type htype)
        hdelegate isPending (hselected hcand)) h

theorem direct_forwardOf (c : Context) (d : TypeDecl) (m : Member) (p : Progress) :
    (forwardOf c d m p).2.direct = p.direct := by
  rw [forwardOf]
  split
  · rfl
  · split
    · rfl
    · split <;> rfl

theorem isScanned_forwards (hscope : ∀ d ∈ c.scope, d.IsScanned) (hd : d.IsScanned)
    {pairs : List (Member × List Member)}
    (hpairs : ∀ pair ∈ pairs, pair.1.IsScanned ∧ ∀ m ∈ pair.2, m.IsScanned)
    (hp : ∀ i ∈ p.direct, i.IsScanned) :
    (∀ m ∈ (forwards c d p pairs).1, m.IsScanned) ∧
      ∀ i ∈ (forwards c d p pairs).2.direct, i.IsScanned := by
  induction pairs generalizing p with
  | nil => exact ⟨by simp [forwards], hp⟩
  | cons pair pairs ih =>
    obtain ⟨⟨hm, hgroup⟩, hpairs⟩ := List.forall_mem_cons.mp hpairs
    obtain ⟨hothers, hdirect⟩ := ih (p := (forwardOf c d pair.1 p).2) hpairs
      (by rwa [direct_forwardOf])
    refine ⟨List.forall_mem_append.mpr ⟨List.forall_mem_append.mpr ⟨hgroup, fun m' hm' => ?_⟩,
      hothers⟩, hdirect⟩
    exact isScanned_of_mem_forwardOf hscope hd hm hm'

/-- **What is planned** before donors are woven in. -/
theorem isScanned_planned (hscope : ∀ d ∈ c.scope, d.IsScanned) (hd : d.IsScanned)
    (found : Diagnostics) :
    (∀ m ∈ (planned c d found).1, m.IsScanned) ∧
      ∀ i ∈ (planned c d found).2.direct, i.IsScanned := by
  obtain ⟨hgroups, hdirect⟩ := isScanned_members hd.members d
    (p := { registry := .ofDecl d (Ancestry.of c.scope d).names, found }) (by simp)
  refine isScanned_forwards hscope hd (fun pair hpair => ?_) hdirect
  obtain ⟨hm, hgroup⟩ := List.of_mem_zip hpair
  exact ⟨hd.members _ hm, hgroups _ hgroup⟩

end Synthesis

end DeclWeave
