import DeclWeave.Proofs.SynthesizedNames

/-!
# The Members of a Plan

Every member that synthesis plans stands in a group: a declared member with what its directives
add, or what a forwarding member gives. Of a field that becomes a property, little changes, and
what is added are its accessors, and perhaps a trigger. A class then gets copies from its donors,
and its constructor is finished; nothing else happens to a member on its way into a plan.

## Main results

* `Synthesis.exists_group_of_mem_planned`: the group of a planned member.
-/

namespace DeclWeave

/-- What corresponds to a member of one list stands in the other. -/
theorem exists_of_mem_forall₂ {α β : Type} {R : α → β → Prop} {as : List α} {bs : List β} {b : β}
    (h : List.Forall₂ R as bs) (hb : b ∈ bs) : ∃ a ∈ as, R a b := by
  induction h with
  | nil => exact absurd hb List.not_mem_nil
  | cons hrel _ ih =>
    rcases List.mem_cons.mp hb with rfl | hb
    · exact ⟨_, List.mem_cons_self, hrel⟩
    · obtain ⟨a, ha, hrel⟩ := ih hb
      exact ⟨a, List.mem_cons_of_mem _ ha, hrel⟩

/-! ### Fields that become properties -/

namespace Member

/-- What carrying out the directives of a field leaves as it is: all but its type, its body, which
it may lose, and how it is reached. -/
def Reshapes (m m' : Member) : Prop :=
  ∃ type body property, (body = m.body ∨ body = none) ∧
    m' = { m with signature := { m.signature with type }, body, property }

variable {m m' m'' : Member}

theorem Reshapes.refl (m : Member) : m.Reshapes m :=
  ⟨m.type, m.body, m.property, .inl rfl, rfl⟩

theorem Reshapes.trans (h : m.Reshapes m') (h' : m'.Reshapes m'') : m.Reshapes m'' := by
  obtain ⟨type, body, property, hbody, rfl⟩ := h
  obtain ⟨type', body', property', hbody', rfl⟩ := h'
  refine ⟨type', body', property', ?_, rfl⟩
  rcases hbody' with rfl | rfl
  · exact hbody
  · exact .inr rfl

theorem reshapes_withType (m : Member) (type : Option TypeRef) : m.Reshapes (m.withType type) :=
  ⟨type, m.body, m.property, .inl rfl, rfl⟩

theorem Reshapes.span_eq (h : m.Reshapes m') : m'.span = m.span := by
  obtain ⟨type, body, property, -, rfl⟩ := h
  rfl

theorem Reshapes.visibility_eq (h : m.Reshapes m') : m'.visibility = m.visibility := by
  obtain ⟨type, body, property, -, rfl⟩ := h
  rfl

theorem Reshapes.label_eq (h : m.Reshapes m') : m'.label = m.label := by
  obtain ⟨type, body, property, -, rfl⟩ := h
  rfl

theorem Reshapes.directives_eq (h : m.Reshapes m') : m'.directives = m.directives := by
  obtain ⟨type, body, property, -, rfl⟩ := h
  rfl

theorem Reshapes.accessorFor_eq (h : m.Reshapes m') : m'.accessorFor = m.accessorFor := by
  obtain ⟨type, body, property, -, rfl⟩ := h
  rfl

/-- Publishing hides nothing. -/
theorem visibility_publish_ne_hidden (h : m.visibility ≠ some .hidden) :
    m.publish.visibility ≠ some .hidden := by
  change some (m.visibility.getD .exported) ≠ some .hidden
  cases hvisibility : m.visibility <;> simp_all

end Member

namespace PropertySpec

theorem reshapes_apply (p : PropertySpec) (field : Member) (registry : NameRegistry) :
    field.Reshapes (p.apply field registry).field := by
  have hproperty : ∀ m : Member, m.Reshapes (p.property m) := by
    intro m
    refine ⟨m.type, _, _, ?_, rfl⟩
    split
    · exact .inr rfl
    · exact .inl rfl
  have htyped := field.reshapes_withType field.inferredType
  rw [apply]
  dsimp only
  split <;> exact htyped.trans (hproperty _)

/-- What becomes of the field itself does not depend on the names that are taken. -/
theorem field_apply (p : PropertySpec) (field : Member) (registry : NameRegistry) :
    (p.apply field registry).field = p.property (field.withType field.inferredType) := by
  rw [apply]
  dsimp only
  split <;> rfl

/-- **The accessors of a property**: a getter, and a setter where the property can be written. -/
theorem eq_of_mem_added_apply {p : PropertySpec} {field m : Member} {registry : NameRegistry}
    (h : m ∈ (p.apply field registry).added) :
    m = p.accessor (field.withType field.inferredType) (getterName field.name) []
        (p.getterBody (field.withType field.inferredType)) ∨
      ∃ getter assignment, p.shape = .readwrite getter assignment ∧
        m = p.accessor (field.withType field.inferredType) (setterName field.name)
          [⟨setterParam, field.inferredType⟩]
          (setterBody (field.withType field.inferredType) assignment) := by
  have haccept : ∀ (r : NameRegistry) (m' : Member), m ∈ (r.accept m').1 → m = m' := by
    intro r m' hm
    rw [NameRegistry.accept] at hm
    split at hm
    · exact List.mem_singleton.mp hm
    · exact absurd hm List.not_mem_nil
  rw [apply] at h
  dsimp only at h
  split at h
  · rename_i getter assignment hshape
    rcases List.mem_append.mp h with h | h
    · exact .inl (haccept _ _ h)
    · exact .inr ⟨getter, assignment, hshape, haccept _ _ h⟩
  · exact .inl (haccept _ _ h)

/-- An accessor serves its field, and is made without directives. -/
theorem accessorFor_of_mem_added {p : PropertySpec} {field m : Member}
    {registry : NameRegistry} (h : m ∈ (p.apply field registry).added) :
    m.accessorFor = some field.name ∧ m.directives = [] ∧ m.origin = .synthesized := by
  rcases eq_of_mem_added_apply h with rfl | ⟨getter, assignment, -, rfl⟩ <;> exact ⟨rfl, rfl, rfl⟩

end PropertySpec

namespace SignalRequest

/-- The field that a signal or a future publishes. -/
def published (r : SignalRequest) (field : Member) : Member :=
  { field with
    signature :=
      { field.signature with
        type := some ⟨r.flavor.publishedType, [r.flavor.payload field.type]⟩ }
    body := none }

/-- **A signal** is a readonly property over its initializer, or over a trigger beside it. -/
theorem apply_eq (r : SignalRequest) (field : Member) (onInterface : Bool)
    (registry : NameRegistry) :
    (∃ init, field.body = some init ∧ r.apply field onInterface registry =
      (PropertySpec.mk (.readonly (some init)) false).apply (r.published field) registry) ∨
    ∃ s, s = (PropertySpec.mk (.readonly (some (r.converted field))) false).apply
        (r.published field) (registry.accept (r.trigger field onInterface)).2 ∧
      r.apply field onInterface registry =
        { s with added := (registry.accept (r.trigger field onInterface)).1 ++ s.added } := by
  rw [apply]
  dsimp only
  split
  · exact .inl ⟨_, ‹_›, rfl⟩
  · exact .inr ⟨_, rfl, rfl⟩

/-- The property that a signal makes of a field: it is read through its initializer, or through the
trigger beside it. -/
def spec (r : SignalRequest) (field : Member) : PropertySpec :=
  ⟨.readonly (some (field.body.getD (r.converted field))), false⟩

theorem field_apply (r : SignalRequest) (field : Member) (onInterface : Bool)
    (registry : NameRegistry) : (r.apply field onInterface registry).field =
      (r.spec field).property (r.published field) := by
  rw [apply, spec]
  cases field.body <;> exact PropertySpec.field_apply _ _ _

theorem reshapes_apply (r : SignalRequest) (field : Member) (onInterface : Bool)
    (registry : NameRegistry) : field.Reshapes (r.apply field onInterface registry).field := by
  have hpublished : field.Reshapes (r.published field) := ⟨_, none, field.property, .inr rfl, rfl⟩
  obtain ⟨init, -, happly⟩ | ⟨s, hs, happly⟩ := r.apply_eq field onInterface registry
  · rw [happly]
    exact hpublished.trans (PropertySpec.reshapes_apply _ _ _)
  · rw [happly, hs]
    exact hpublished.trans (PropertySpec.reshapes_apply _ _ _)

/-- What is made for a signal is a getter of it or its trigger. -/
theorem mem_added_apply {r : SignalRequest} {field m : Member} {onInterface : Bool}
    {registry : NameRegistry} (h : m ∈ (r.apply field onInterface registry).added) :
    m = r.trigger field onInterface ∨ ∃ getter registry',
      (field.body = some getter ∨ getter = r.converted field) ∧
        m ∈ ((PropertySpec.mk (.readonly (some getter)) false).apply (r.published field)
          registry').added := by
  obtain ⟨init, hinit, happly⟩ | ⟨s, hs, happly⟩ := r.apply_eq field onInterface registry
  · rw [happly] at h
    exact .inr ⟨init, registry, .inl hinit, h⟩
  · rw [happly] at h
    rcases List.mem_append.mp h with h | h
    · rw [NameRegistry.accept] at h
      split at h
      · exact .inl (List.mem_singleton.mp h)
      · exact absurd h List.not_mem_nil
    · rw [hs] at h
      exact .inr ⟨r.converted field, _, .inr rfl, h⟩

end SignalRequest

namespace Synthesis

/-- **What the directives of a member ask for**: nothing, a property, or a signal. -/
theorem property_cases {onInterface : Bool} {m : Member} {registry : NameRegistry}
    {s : Synthesized} (h : property onInterface m registry = .ok s) :
    s = ⟨m, [], registry⟩ ∨
    m.isField = true ∧
      ((∃ request spec, m.accessorRequest? = some request ∧
          PropertySpec.ofRequest m request = .ok spec ∧ s = spec.apply m registry) ∨
        ∃ signal ∈ m.signalRequests, s = signal.apply m onInterface registry) := by
  rw [property] at h
  split at h
  · exact .inl (Except.ok.inj h).symm
  · split at h
    · exact absurd h (by simp)
    · rename_i hfield
      refine .inr ⟨by simpa using hfield, ?_⟩
      split at h
      · rename_i request haccessor hsignals
        obtain ⟨spec, hspec, h⟩ := Outcome.bind_eq_ok.mp h
        exact .inl ⟨request, spec, haccessor, hspec, (Except.ok.inj h).symm⟩
      · rename_i signal haccessor hsignals
        exact .inr ⟨signal, by simp [hsignals], (Except.ok.inj h).symm⟩
      · exact absurd h (by simp)
      · exact absurd h (by simp)

theorem reshapes_property {onInterface : Bool} {m : Member} {registry : NameRegistry}
    {s : Synthesized} (h : property onInterface m registry = .ok s) : m.Reshapes s.field := by
  obtain rfl | ⟨-, ⟨request, spec, -, -, rfl⟩ | ⟨signal, -, rfl⟩⟩ := property_cases h
  · exact .refl m
  · exact spec.reshapes_apply m registry
  · exact signal.reshapes_apply m onInterface registry

/-- What is added to a member serves it, and the member is a field. -/
theorem accessorFor_of_mem_added {onInterface : Bool} {m m' : Member} {registry : NameRegistry}
    {s : Synthesized} (h : property onInterface m registry = .ok s) (hm' : m' ∈ s.added) :
    m.isField = true ∧ m'.isTemplate = false ∧ m'.origin = .synthesized ∧
      (m'.accessorFor = none ∨ m'.accessorFor = some m.name) := by
  obtain rfl | ⟨hfield, ⟨request, spec, -, -, rfl⟩ | ⟨signal, -, rfl⟩⟩ := property_cases h
  · exact absurd hm' List.not_mem_nil
  · obtain ⟨haccessor, hdirectives, horigin⟩ := PropertySpec.accessorFor_of_mem_added hm'
    exact ⟨hfield, by rw [Member.isTemplate, hdirectives]; rfl, horigin, .inr haccessor⟩
  · obtain rfl | ⟨getter, registry', -, hm'⟩ := SignalRequest.mem_added_apply hm'
    · refine ⟨hfield, ?_, rfl, .inl rfl⟩
      cases onInterface <;> rfl
    · obtain ⟨haccessor, hdirectives, horigin⟩ := PropertySpec.accessorFor_of_mem_added hm'
      exact ⟨hfield, by rw [Member.isTemplate, hdirectives]; rfl, horigin, .inr haccessor⟩

variable {c : Context} {d : TypeDecl} {m m' : Member} {p : Progress} {found : Diagnostics}

theorem reshapes_propertyOf (d : TypeDecl) (m : Member) (p : Progress) :
    m.Reshapes (propertyOf d m p).1 := by
  have htyped : m.Reshapes (if m.isField then m.withType m.inferredType else m) := by
    split
    · exact m.reshapes_withType _
    · exact .refl m
  rw [propertyOf]
  dsimp only
  split
  · exact htyped.trans (reshapes_property ‹_›)
  · exact htyped

/-- What carrying out directives adds to a member is made from it, with its type inferred. -/
theorem exists_property_of_mem_propertyOf (h : m' ∈ (propertyOf d m p).2.1) :
    ∃ s, property d.isInterface (if m.isField then m.withType m.inferredType else m) p.registry =
      .ok s ∧ m' ∈ s.added := by
  rw [propertyOf] at h
  dsimp only at h
  split at h
  · exact ⟨_, ‹_›, h⟩
  · exact absurd h List.not_mem_nil

theorem reshapes_directInit (d : TypeDecl) (m : Member) (p : Progress) :
    m.Reshapes (directInit d m p).1 := by
  rw [directInit]
  split
  · exact .refl m
  · split
    · exact .refl m
    · exact ⟨m.type, none, m.property, .inr rfl, rfl⟩

/-! ### Forwarding members -/

/-- **What a forwarding member gives**: nothing, or the counterparts of candidates of its
delegate. -/
theorem forwardOf_cases (c : Context) (d : TypeDecl) (m : Member) (p : Progress) :
    (forwardOf c d m p).1 = [] ∨ ∃ request type delegate template isPending selected,
      m.forwardRequest? = some request ∧ m.type = some type ∧
        Delegate.resolve? c.scope type = some delegate ∧
        Forward.templateBody d request = .ok template ∧
        selected ⊆ (delegate.markPending isPending).candidates ∧
        (forwardOf c d m p).1 = (Forward.counterparts m template p.registry selected).1 := by
  rw [forwardOf]
  split
  · exact .inl rfl
  · rename_i request hrequest
    split
    · exact .inl rfl
    · split
      · rename_i made r hforward
        obtain ⟨type, htype, hforward⟩ := Outcome.bind_eq_ok.mp hforward
        split at hforward
        · exact absurd hforward (by simp [throw, throwThe, MonadExceptOf.throw])
        · rename_i delegate hdelegate
          obtain ⟨filter, -, hforward⟩ := Outcome.bind_eq_ok.mp hforward
          obtain ⟨template, htemplate, hforward⟩ := Outcome.bind_eq_ok.mp hforward
          have hmade : _ = (made, r) := Except.ok.inj hforward
          have htype' : m.type = some type := by
            rw [Forward.delegateType] at htype
            split at htype
            · rw [← Except.ok.inj htype]
              assumption
            · exact absurd htype (by simp)
          exact .inr ⟨request, type, delegate, template, _, _, hrequest, htype', hdelegate,
            htemplate, List.filter_sublist.subset, (congrArg Prod.fst hmade).symm⟩
      · exact .inl rfl

/-- Each counterpart is a method, or stands with a field and what serves it. -/
theorem exists_part_of_mem_counterparts {source : Member} {template : Option Form}
    {registry : NameRegistry} {cs : List Candidate}
    (h : m ∈ (Forward.counterparts source template registry cs).1) :
    ∃ cand ∈ cs, m = Forward.method source template cand ∧ cand.member.isField = false ∨
      cand.member.isField = true ∧ ∃ r, m ∈ (Forward.field source cand r).1 ∧
        (Forward.field source cand r).1 ⊆
          (Forward.counterparts source template registry cs).1 := by
  induction cs generalizing registry with
  | nil => exact absurd h List.not_mem_nil
  | cons cand cs ih =>
    cases hclaim : registry.claim? cand.member.name with
    | none =>
      simp only [Forward.counterparts, hclaim] at h ⊢
      obtain ⟨cand', hcand', hpart⟩ := ih h
      exact ⟨cand', List.mem_cons_of_mem _ hcand', hpart⟩
    | some r =>
      simp only [Forward.counterparts, hclaim] at h ⊢
      rcases List.mem_append.mp h with h | h
      · refine ⟨cand, List.mem_cons_self, ?_⟩
        split at h
        · rename_i hfield
          refine .inr ⟨hfield, r, h, fun x hx => ?_⟩
          rw [if_pos hfield]
          exact List.mem_append_left _ hx
        · rename_i hfield
          exact .inl ⟨List.mem_singleton.mp h, by simpa using hfield⟩
      · obtain ⟨cand', hcand', hpart⟩ := ih h
        refine ⟨cand', List.mem_cons_of_mem _ hcand', ?_⟩
        rcases hpart with hpart | ⟨hfield, r', hm, hsubset⟩
        · exact .inl hpart
        · exact .inr ⟨hfield, r', hm, fun x hx => List.mem_append_right _ (hsubset hx)⟩

/-- A counterpart of a field stands with its accessors. -/
theorem exists_field_eq (source : Member) (cand : Candidate) (r : NameRegistry) :
    ∃ (spec : PropertySpec) (plain : Member),
      plain.label = (cand.member.name, .field, .synthesized) ∧ plain.directives = [] ∧
      plain.accessorFor = none ∧ (Forward.field source cand r).1 =
        (spec.apply plain r).field.publish :: (spec.apply plain r).added :=
  ⟨_, _, rfl, rfl, rfl, rfl⟩

/-- Whatever is forwarded is made, and no template. -/
theorem of_mem_forwardOf (h : m' ∈ (forwardOf c d m p).1) :
    m'.isTemplate = false ∧ m'.origin = .synthesized := by
  obtain hnone | ⟨-, -, -, template, -, selected, -, -, -, -, -, hmade⟩ := forwardOf_cases c d m p
  · rw [hnone] at h
    exact absurd h List.not_mem_nil
  · rw [hmade] at h
    obtain ⟨cand, -, ⟨rfl, -⟩ | ⟨-, r, h, -⟩⟩ := exists_part_of_mem_counterparts h
    · exact ⟨rfl, rfl⟩
    · obtain ⟨spec, plain, hlabel, hdirectives, -, hfield⟩ := exists_field_eq m cand r
      rw [hfield] at h
      have hreshapes := spec.reshapes_apply plain r
      rcases List.mem_cons.mp h with rfl | h
      · have horigin : (spec.apply plain r).field.origin = .synthesized :=
          congrArg (·.2.2) (hreshapes.label_eq.trans hlabel)
        have hnone : (spec.apply plain r).field.directives = [] :=
          hreshapes.directives_eq.trans hdirectives
        refine ⟨?_, horigin⟩
        show (spec.apply plain r).field.isTemplate = false
        rw [Member.isTemplate, hnone]
        rfl
      · obtain ⟨-, hnone, horigin⟩ := PropertySpec.accessorFor_of_mem_added h
        exact ⟨by rw [Member.isTemplate, hnone]; rfl, horigin⟩

/-! ### Groups -/

/-- A declared member as synthesis takes it up: its visibility settled, and with the marks of its
declaration. -/
def takenUp (d : TypeDecl) (m : Member) : Member :=
  { m.publish with sugar := d.sugar.nested m.sugar }

theorem optOut_takenUp (hsugar : d.sugar.optOut = false) :
    (takenUp d m).sugar.optOut = m.sugar.optOut := by
  change (d.sugar.optOut || m.sugar.optOut) = _
  rw [hsugar, Bool.false_or]

/-- A template stays as it is taken up, and so does a member that opts out. -/
theorem exists_member_eq_takenUp (h : m.isTemplate = true ∨ (takenUp d m).sugar.optOut = true)
    (p : Progress) : ∃ found, member d m p = ([takenUp d m], { p with found }) := by
  rw [member]
  dsimp only
  split
  · exact ⟨_, rfl⟩
  · rename_i htemplate
    exact ⟨_, if_pos (h.resolve_left htemplate)⟩

/-- The directives of any other member are carried out, as a property and then as an
initialization. -/
theorem member_eq_directInit (htemplate : m.isTemplate = false)
    (hopt : (takenUp d m).sugar.optOut = false) (p : Progress) :
    member d m p =
      ((directInit d (propertyOf d (takenUp d m) p).1 (propertyOf d (takenUp d m) p).2.2).1 ::
          (propertyOf d (takenUp d m) p).2.1,
        (directInit d (propertyOf d (takenUp d m) p).1 (propertyOf d (takenUp d m) p).2.2).2) := by
  have htemplate' : ¬(takenUp d m).isTemplate = true := Bool.eq_false_iff.mp htemplate
  rw [member]
  dsimp only
  exact (if_neg htemplate').trans (if_neg (Bool.eq_false_iff.mp hopt))

/-- **The group of a declared member**: the member alone, or what it becomes with what is added to
it; to a template nothing is added. -/
theorem member_cases (d : TypeDecl) (m : Member) (p : Progress) :
    (member d m p).1 = [takenUp d m] ∨
    m.isTemplate = false ∧ ∃ kept, (takenUp d m).Reshapes kept ∧
      (member d m p).1 = kept :: (propertyOf d (takenUp d m) p).2.1 := by
  by_cases hleft : m.isTemplate = true ∨ (takenUp d m).sugar.optOut = true
  · obtain ⟨found, hmember⟩ := exists_member_eq_takenUp hleft p
    exact .inl (congrArg Prod.fst hmember)
  · obtain ⟨htemplate, hopt⟩ := not_or.mp hleft
    rw [Bool.not_eq_true] at htemplate hopt
    exact .inr ⟨htemplate, _, (reshapes_propertyOf _ _ _).trans (reshapes_directInit _ _ _),
      congrArg Prod.fst (member_eq_directInit htemplate hopt p)⟩

/-- What a planned member is planned with. -/
def IsGroup (c : Context) (d : TypeDecl) (group : List Member) : Prop :=
  ∃ m ∈ d.members, ∃ p, group = (member d m p).1 ∨ group = (forwardOf c d m p).1

theorem isGroup_of_mem_members {ms : List Member} (hms : ms ⊆ d.members) {group : List Member}
    (h : group ∈ (members d p ms).1) : IsGroup c d group := by
  induction ms generalizing p with
  | nil => exact absurd h List.not_mem_nil
  | cons m ms ih =>
    obtain ⟨hm, hms⟩ := List.cons_subset.mp hms
    rcases List.mem_cons.mp h with rfl | h
    · exact ⟨m, hm, p, .inl rfl⟩
    · exact ih hms h

theorem exists_group_of_mem_forwards {pairs : List (Member × List Member)}
    (hpairs : ∀ pair ∈ pairs, pair.1 ∈ d.members ∧ IsGroup c d pair.2)
    (h : m ∈ (forwards c d p pairs).1) :
    ∃ group, IsGroup c d group ∧ m ∈ group ∧ group ⊆ (forwards c d p pairs).1 := by
  induction pairs generalizing p with
  | nil => exact absurd h List.not_mem_nil
  | cons pair pairs ih =>
    obtain ⟨⟨hpair, hgroup⟩, hpairs⟩ := List.forall_mem_cons.mp hpairs
    rcases List.mem_append.mp h with hfirst | hrest
    · rcases List.mem_append.mp hfirst with hkept | hmade
      · exact ⟨pair.2, hgroup, hkept, fun x hx =>
          List.mem_append_left _ (List.mem_append_left _ hx)⟩
      · exact ⟨_, ⟨pair.1, hpair, p, .inr rfl⟩, hmade, fun x hx =>
          List.mem_append_left _ (List.mem_append_right _ hx)⟩
    · obtain ⟨group, hgroup, hm, hsubset⟩ := ih hpairs hrest
      exact ⟨group, hgroup, hm, fun x hx => List.mem_append_right _ (hsubset hx)⟩

/-- **Each planned member** stands in a group that is planned as a whole. -/
theorem exists_group_of_mem_planned (h : m ∈ (planned c d found).1) :
    ∃ group, IsGroup c d group ∧ m ∈ group ∧ group ⊆ (planned c d found).1 := by
  refine exists_group_of_mem_forwards (fun pair hpair => ?_) h
  obtain ⟨hm, hgroup⟩ := List.of_mem_zip hpair
  exact ⟨hm, isGroup_of_mem_members (List.Subset.refl _) hgroup⟩

/-- What synthesis makes is no template, and is marked as made. -/
theorem of_mem_planned (h : m ∈ (planned c d found).1) :
    (∃ source ∈ d.members, m.label = source.label ∧ m.directives = source.directives) ∨
      m.isTemplate = false ∧ m.origin = .synthesized := by
  obtain ⟨group, ⟨source, hsource, p, rfl | rfl⟩, hm, -⟩ := exists_group_of_mem_planned h
  · obtain hgroup | ⟨-, kept, hkept, hgroup⟩ := member_cases d source p
    · rw [hgroup, List.mem_singleton] at hm
      subst hm
      exact .inl ⟨source, hsource, rfl, rfl⟩
    · rw [hgroup] at hm
      rcases List.mem_cons.mp hm with rfl | hm
      · exact .inl ⟨source, hsource, hkept.label_eq, hkept.directives_eq⟩
      · obtain ⟨s, hs, hm⟩ := exists_property_of_mem_propertyOf hm
        obtain ⟨-, htemplate, horigin, -⟩ := accessorFor_of_mem_added hs hm
        exact .inr ⟨htemplate, horigin⟩
  · exact .inr (of_mem_forwardOf hm)

/-! ### Copies from donors -/

/-- **What the donors of a class contribute**, as long as each was made from a declaration with
distinct member names: they give in turn, what they give is copied, and each copy is checked. -/
theorem exists_woven_eq (c : Context) {plan : TypeDecl} (hclass : plan.isInterface = false)
    (hdonors : ∀ donor ∈ c.donors.chain plan.interfaces, donor.bank.IsOfDecl)
    (ancestry : Ancestry) (p : Progress) :
    ∃ (gifts : List (Donor × List ℕ)) (spliced : Spliced) (available : CapabilitySet),
      gifts.map Prod.fst = c.donors.chain plan.interfaces ∧
      Weave.Gifts {name | name ∈ p.registry.names} gifts ∧
      spliced.members.map (·.member) =
        gifts.flatMap (fun g => (g.1.given g.2).map (g.1.copy plan)) ∧
      spliced.inits = gifts.flatMap (fun g => (g.1.given g.2).filterMap (g.1.initOf plan)) ∧
      p.registry.Claims (gifts.flatMap fun g => g.1.given g.2) spliced.registry ∧
      woven c plan ancestry p =
        { members := spliced.members.map (·.member)
          defaultInits := spliced.inits
          faults := spliced.members.flatMap (Weave.check c.settings plan available
            (Weave.isVisible c.settings c.declared (c.donors.chain plan.interfaces) plan
              spliced.registry) spliced.inits) } := by
  obtain ⟨gifts, spliced, hspliced, hfst, hgifts, hmembers, hinits, hclaims⟩ :=
    Weave.exists_spliceAll plan p.registry hdonors
  refine ⟨gifts, spliced, (ancestry.capabilities.union (.declared plan.capabilities)).union
    (.infer (plan.members ++ spliced.members.map (·.member))), hfst, hgifts, hmembers, hinits,
    hclaims, ?_⟩
  have hinterface : ¬plan.isInterface = true := by simp [hclass]
  rw [woven, if_neg hinterface]
  dsimp only
  rw [Weave.ofTarget, Weave.perform, hspliced]
  rfl

theorem kind_expanded : (expanded c d found).1.isInterface = d.isInterface := by
  obtain ⟨-, ms, -, hplan, -⟩ := exists_grows_expanded c d found
  rw [hplan]
  rfl

theorem contributed_of_interface (hinterface : d.isInterface = true) :
    contributed c d found = {} :=
  if_pos hinterface

theorem members_expanded_of_interface (hinterface : d.isInterface = true) :
    (expanded c d found).1.members = (planned c d found).1 := by
  rw [expanded_eq, if_pos hinterface, contributed_of_interface hinterface]
  exact List.append_nil _

/-! ### The plan of a class -/

/-- All that a class has before its constructor is finished. -/
def assembled (c : Context) (d : TypeDecl) (found : Diagnostics) : List Member :=
  (planned c d found).1 ++ (contributed c d found).members

/-- The statements that the constructor of a class begins with. -/
def initialized (c : Context) (d : TypeDecl) (found : Diagnostics) (m : Member) : Member :=
  m.withInits (planned c d found).2.direct (contributed c d found).defaultInits

/-- **A member of the finished plan** of a class stands there as it was assembled, a constructor
apart: it may have been given statements to begin with, or have been made for them. -/
theorem exists_of_mem_emit_expanded (hclass : d.isInterface = false)
    (h : m ∈ (expanded c d found).1.emit.members) :
    ∃ m', m'.isTemplate = false ∧ m = m'.emit false ∧
      (m' ∈ assembled c d found ∨
        (∃ old ∈ assembled c d found, old.name = constructorName ∧
          m' = initialized c d found old) ∨
        m' = (initialized c d found (Member.derivedConstructor d.span
          (Ancestry.of c.scope d).constructor?)).publish) := by
  obtain ⟨kept, extra, hplan, hkept, hextra⟩ := TypeDecl.exists_members_finishConstructor
    { d with members := assembled c d found } (planned c d found).2.direct
    (contributed c d found).defaultInits (Ancestry.of c.scope d).constructor?
  have hinterface : ¬d.isInterface = true := by simp [hclass]
  rw [expanded_eq] at h
  dsimp only at h
  rw [if_neg hinterface, ← assembled, hplan] at h
  obtain ⟨m', hm', rfl⟩ := List.mem_map.mp h
  obtain ⟨hm', hkeeps⟩ := List.mem_filter.mp hm'
  have htemplate : m'.isTemplate = false := by
    simpa using (Bool.and_eq_true_iff.mp hkeeps).1
  refine ⟨m', htemplate, congrArg (Member.emit · m') hclass, ?_⟩
  rcases List.mem_append.mp hm' with hm' | hm'
  · obtain ⟨old, hold, rfl | ⟨hname, rfl⟩⟩ := exists_of_mem_forall₂ hkept hm'
    · exact .inl hold
    · exact .inr (.inl ⟨old, hold, hname, rfl⟩)
  · obtain rfl | ⟨-, -, rfl⟩ := hextra
    · exact absurd hm' List.not_mem_nil
    · exact .inr (.inr (List.mem_singleton.mp hm'))

/-- What is assembled for a class and no template stands in its finished plan. -/
theorem exists_mem_emit_expanded (hclass : d.isInterface = false)
    (h : m ∈ assembled c d found) (htemplate : m.isTemplate = false) :
    ∃ m' ∈ (expanded c d found).1.emit.members, m'.label = m.label := by
  obtain ⟨kept, extra, hplan, hkept, -⟩ := TypeDecl.exists_members_finishConstructor
    { d with members := assembled c d found } (planned c d found).2.direct
    (contributed c d found).defaultInits (Ancestry.of c.scope d).constructor?
  have hinterface : ¬d.isInterface = true := by simp [hclass]
  rw [expanded_eq]
  dsimp only
  rw [if_neg hinterface, ← assembled, hplan]
  obtain ⟨m', hm', hsame⟩ := exists_of_mem_forall₂ hkept.flip h
  have hsame' : m'.isTemplate = m.isTemplate ∧ m'.label = m.label := by
    obtain rfl | ⟨-, rfl⟩ := hsame <;> exact ⟨rfl, rfl⟩
  refine ⟨m'.emit d.isInterface, List.mem_map.mpr ⟨m', List.mem_filter.mpr
    ⟨List.mem_append_left _ hm', ?_⟩, rfl⟩, hsame'.2⟩
  have hkeeps : ∀ ms, { d with members := ms : TypeDecl }.keeps m' = true := by
    intro ms
    have hclass' : { d with members := ms : TypeDecl }.isInterface = false := hclass
    rw [TypeDecl.keeps, hclass', hsame'.1, htemplate]
    rfl
  exact hkeeps _

end Synthesis

end DeclWeave
