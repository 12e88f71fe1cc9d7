import DeclWeave.Proofs.ConstructorLayout
import DeclWeave.Proofs.ForwardedMembers
import DeclWeave.Proofs.SettledMembers

/-!
# Storage of Initialized Fields

The constructor of a class assigns the fields that are bound from its parameters, and those that
donors gave along with an initializer. A field that has an initializer keeps its storage, or hands
the initializer over to its getter; so each field that a donor leaves an initializer for has
storage. That a field is to be bound is not asked when its storage is decided. Where its accessors
compute its value, it is bound all the same, and the constructor assigns what nothing stores.

## Main results

* `Member.hasStorage_carriedOut`: which declared fields have storage.
* `Synthesis.hasStorage_of_mem_planned`: what is planned with an initializer has storage.
* `Expansion.expand_initializesFields`: what the constructor of a class assigns.
-/

namespace DeclWeave

/-- With distinct names, a member is found by its name. -/
theorem TypeDecl.member?_name_eq_some {d : TypeDecl} {m : Member} (hnames : d.memberNames.Nodup)
    (hm : m ∈ d.members) : d.member? m.name = some m := by
  obtain ⟨m', hm'⟩ : ∃ m', d.member? m.name = some m' :=
    Option.isSome_iff_exists.mp (List.find?_isSome.mpr ⟨m, hm, beq_self_eq_true _⟩)
  rw [member?] at hm' ⊢
  have hname : m'.name = m.name := by simpa using List.find?_some hm'
  rw [hm', List.inj_on_of_nodup_map hnames (List.mem_of_find?_eq_some hm') hm hname]

/-! ### Fields without storage -/

namespace Member

/-- Whether a field has a place to store its value in: it is plain, or a property with storage. -/
def hasStorage (m : Member) : Bool :=
  match m.property with
  | some p => p.storage != .none
  | none => true

theorem hasStorage_of_property_eq_none {m : Member} (h : m.property = none) :
    m.hasStorage = true := by
  rw [hasStorage, h]

end Member

namespace PropertySpec

variable {p : PropertySpec} {field : Member}

/-- Whether the accessors of a property compute its value: it is calculated, or it has no accessor
but given ones, which do not mention the field, and no initializer. -/
def computes (p : PropertySpec) (field : Member) : Bool :=
  match p.customBodies? with
  | some bodies => field.body.isNone && bodies.all fun body => !body.mentions field.name
  | none => p.mode == .calculated

theorem mode_ne_calculated {bodies : List Form} (h : p.customBodies? = some bodies) :
    p.mode ≠ .calculated := by
  obtain ⟨shape, inlined⟩ := p
  cases shape <;> simp_all [customBodies?, mode]

/-- **A property has storage** unless its accessors compute its value. -/
theorem hasStorage_property (p : PropertySpec) (field : Member) :
    (p.property field).hasStorage = !p.computes field := by
  change (p.storage field != .none) = !p.computes field
  rw [storage, computes]
  cases hbodies : p.customBodies? with
  | none => cases p.mode <;> rfl
  | some bodies =>
    rw [if_neg (mode_ne_calculated hbodies)]
    dsimp only
    have hmentions : (bodies.all fun body => !body.mentions field.name) =
        !bodies.any (·.mentions field.name) := by
      rw [List.not_any_eq_all_not]
    rw [hmentions]
    cases bodies.any (·.mentions field.name) <;> cases field.body <;> rfl

/-- An accessor is no property. -/
theorem property_of_mem_added {m : Member} {registry : NameRegistry}
    (h : m ∈ (p.apply field registry).added) : m.property = none := by
  obtain rfl | ⟨_, _, -, rfl⟩ := eq_of_mem_added_apply h <;> rfl

/-- A property that keeps its initializer has storage for it. -/
theorem hasStorage_of_body_property (h : (p.property field).body ≠ none) :
    (p.property field).hasStorage = true := by
  rw [hasStorage_property, computes]
  by_cases hmode : p.mode = .calculated
  · exact absurd (if_pos hmode) h
  · have hkept : (p.property field).body = field.body := if_neg hmode
    rw [hkept, ← Option.isSome_iff_ne_none] at h
    cases p.customBodies? with
    | none => simpa using hmode
    | some bodies => simp [h]

end PropertySpec

namespace Member

variable {m : Member}

theorem of_isBound (h : m.isBound = true) : m.isField = true ∧ m.isDirectInit = true ∧
    m.sugar.optOut = false ∧ m.isTemplate = false := by
  simpa [isBound, and_assoc] using h

/-- Whether the accessors of a declared field compute its value. -/
def isComputed (m : Member) : Bool :=
  match m.grantedSpec?, m.grantedSignal? with
  | some spec, _ => spec.computes m
  | none, some signal => !(m.body.getD (signal.converted m)).mentions m.name
  | none, none => false

/-- **A declared field has storage** unless its accessors compute its value. -/
theorem hasStorage_carriedOut (hproperty : m.property = none) :
    m.carriedOut.hasStorage = !m.isComputed := by
  rw [carriedOut, isComputed, grantedSpec?_withType, grantedSignal?_withType]
  cases m.grantedSpec? with
  | some spec => exact spec.hasStorage_property _
  | none =>
    cases m.grantedSignal? with
    | some signal =>
      exact (PropertySpec.hasStorage_property _ _).trans (congrArg not (Bool.and_true _))
    | none => exact hasStorage_of_property_eq_none hproperty

/-- A declared field that keeps its initializer has storage for it. -/
theorem hasStorage_of_body_carriedOut (hproperty : m.property = none)
    (hbody : m.carriedOut.body ≠ none) : m.carriedOut.hasStorage = true := by
  rw [carriedOut, grantedSpec?_withType, grantedSignal?_withType] at hbody ⊢
  cases hspec : m.grantedSpec? with
  | some spec =>
    rw [hspec] at hbody
    exact PropertySpec.hasStorage_of_body_property hbody
  | none =>
    cases hsignal : m.grantedSignal? with
    | some signal =>
      rw [hspec, hsignal] at hbody
      exact PropertySpec.hasStorage_of_body_property hbody
    | none => exact hasStorage_of_property_eq_none hproperty

end Member

/-! ### What is planned -/

namespace Synthesis

variable {c : Context} {d : TypeDecl} {m m' : Member} {p : Progress} {found : Diagnostics}

/-- What carrying out directives adds to a member is no property. -/
theorem property_of_mem_added {onInterface : Bool} {registry : NameRegistry} {s : Synthesized}
    (h : property onInterface m registry = .ok s) (hm' : m' ∈ s.added) : m'.property = none := by
  obtain rfl | ⟨-, ⟨request, spec, -, -, rfl⟩ | ⟨signal, -, rfl⟩⟩ := property_cases h
  · exact absurd hm' List.not_mem_nil
  · exact PropertySpec.property_of_mem_added hm'
  · obtain rfl | ⟨getter, registry', -, hm'⟩ := SignalRequest.mem_added_apply hm'
    · rfl
    · exact PropertySpec.property_of_mem_added hm'

/-- A declared member that is left an initializer has storage for it. -/
theorem hasStorage_settled_of_body (hproperty : m.property = none)
    (hbody : (settled d m).body ≠ none) : (settled d m).hasStorage = true := by
  have hproperty' : (takenUp d m).property = none := hproperty
  rw [settled] at hbody ⊢
  dsimp only at hbody ⊢
  split
  · exact Member.hasStorage_of_property_eq_none hproperty'
  · rename_i hcarried
    rw [if_neg hcarried] at hbody
    split
    · rename_i hbound
      rw [if_pos hbound] at hbody
      exact absurd rfl hbody
    · rename_i hbound
      rw [if_neg hbound] at hbody
      exact Member.hasStorage_of_body_carriedOut hproperty' hbody

theorem hasStorage_member_of_body (hproperty : m.property = none) (hm' : m' ∈ (member d m p).1)
    (hbody : m'.body ≠ none) : m'.hasStorage = true := by
  obtain ⟨added, hgroup, hsubset⟩ := exists_member_eq_settled d m p
  rw [hgroup] at hm'
  rcases List.mem_cons.mp hm' with rfl | hadded
  · exact hasStorage_settled_of_body hproperty hbody
  · obtain ⟨s, hs, hadded⟩ := exists_property_of_mem_propertyOf (hsubset hadded)
    exact Member.hasStorage_of_property_eq_none (property_of_mem_added hs hadded)

/-- What is forwarded has no initializer, or is no property. -/
theorem hasStorage_forwardOf_of_body (hm' : m' ∈ (forwardOf c d m p).1) (hbody : m'.body ≠ none) :
    m'.hasStorage = true := by
  obtain hnone | ⟨-, -, -, template, -, selected, -, -, -, -, -, hmade⟩ := forwardOf_cases c d m p
  · rw [hnone] at hm'
    exact absurd hm' List.not_mem_nil
  · rw [hmade] at hm'
    obtain ⟨cand, -, ⟨rfl, -⟩ | ⟨-, r, hm', -⟩⟩ := exists_part_of_mem_counterparts hm'
    · rfl
    · rw [Forward.field_eq, PropertySpec.field_apply] at hm'
      rcases List.mem_cons.mp hm' with rfl | hadded
      · exact PropertySpec.hasStorage_of_body_property hbody
      · exact Member.hasStorage_of_property_eq_none (PropertySpec.property_of_mem_added hadded)

/-- **What is planned with an initializer** has storage for it. -/
theorem hasStorage_of_mem_planned (hd : ∀ m ∈ d.members, m.property = none)
    (hm : m ∈ (planned c d found).1) (hbody : m.body ≠ none) : m.hasStorage = true := by
  obtain ⟨group, ⟨source, hsource, p, rfl | rfl⟩, hmem, -⟩ := exists_group_of_mem_planned hm
  · exact hasStorage_member_of_body (hd source hsource) hmem hbody
  · exact hasStorage_forwardOf_of_body hmem hbody

/-! ### What is assigned -/

/-- **What the constructor of a class assigns.** The plan is the assembly of the class, its
constructor finished with assignments to the fields that the class binds and to those that donors
left an initializer for. All of these are fields of the plan. Those with an initializer have
storage; a bound one has storage unless its accessors compute its value. -/
structure InitializesFields (c : Context) (d : TypeDecl) (found : Diagnostics) (plan : TypeDecl) :
    Prop where
  plan_eq : plan = ((assembly c d found).finishConstructor (planned c d found).2.direct
    (contributed c d found).defaultInits (Ancestry.of c.scope d).constructor?).1.emit
  bound_eq : (planned c d found).2.direct.map (·.field) = d.boundNames
  bound : ∀ w ∈ d.members, w.isBound = true →
    ∃ f, plan.member? w.name = some f ∧ f.isField = true ∧ f.hasStorage = !w.isComputed
  given : ∀ i ∈ (contributed c d found).defaultInits,
    ∃ f, plan.member? i.field = some f ∧ f.isField = true ∧ f.hasStorage = true

/-- What is assembled for a class stands in its plan under its name, and has storage just as it
had. -/
theorem exists_member?_emit (hclass : d.isInterface = false)
    (hnodup : (expanded c d found).1.emit.memberNames.Nodup) (hm : m ∈ assembled c d found)
    (htemplate : m.isTemplate = false) (hfield : m.isField = true) :
    ∃ f, (expanded c d found).1.emit.member? m.name = some f ∧ f.isField = true ∧
      f.hasStorage = m.hasStorage := by
  obtain ⟨f, hf, hsame⟩ := exists_mem_emit_of_mem_assembled hm htemplate (by simp [hclass])
  obtain ⟨hlabel, hstorage⟩ : f.label = m.label ∧ f.hasStorage = m.hasStorage := by
    obtain rfl | ⟨-, rfl⟩ := hsame <;> exact ⟨rfl, rfl⟩
  refine ⟨f, ?_, (Member.isField_eq_of_label hlabel).trans hfield, hstorage⟩
  rw [← Member.name_eq_of_label hlabel]
  exact TypeDecl.member?_name_eq_some hnodup hf

/-- **A bound field**, settled, has storage unless its accessors compute its value. -/
theorem hasStorage_settled_of_isBound (hproperty : m.property = none) (hbound : m.isBound = true)
    (hclass : d.isInterface = false) (hsugar : d.sugar.optOut = false) :
    (settled d m).hasStorage = !m.isComputed := by
  obtain ⟨hfield, hasks, hopt, htemplate⟩ := Member.of_isBound hbound
  have hasks' : (m.isDirectInit && !d.isInterface) = true := by rw [hasks, hclass]; rfl
  rw [settled_eq hfield htemplate hsugar, if_neg (by simp [hopt]), if_pos hasks']
  exact Member.hasStorage_carriedOut (m := takenUp d m) hproperty

/-- **The plan of a class** initializes fields of its own, if its donors have storage for their
initializers. -/
theorem initializesFields_emit (hclass : d.isInterface = false) (hsugar : d.sugar.optOut = false)
    (hd : ∀ m ∈ d.members, m.property = none)
    (hnodup : (expanded c d found).1.emit.memberNames.Nodup)
    (hdonors : ∀ donor ∈ c.donors.chain d.interfaces,
      ∀ m ∈ donor.bank.members, m.body ≠ none → m.hasStorage = true) :
    InitializesFields c d found (expanded c d found).1.emit where
  plan_eq := by
    rw [expanded_eq, if_neg (by simp [hclass])]
    rfl
  bound_eq := map_field_planned hclass hsugar
  bound w hw hbound := by
    obtain ⟨hfield, -, -, htemplate⟩ := Member.of_isBound hbound
    have hlabel : (settled d w).label = w.label := (reshapes_settled d w).label_eq
    rw [← Member.name_eq_of_label hlabel,
      ← hasStorage_settled_of_isBound (hd w hw) hbound hclass hsugar]
    exact exists_member?_emit hclass hnodup (List.mem_append_left _ (settled_mem_planned hw))
      (isTemplate_settled.trans htemplate) ((Member.isField_eq_of_label hlabel).trans hfield)
  given i hi := by
    obtain ⟨gifts, hgifts, hcopies, hinits⟩ := exists_gifts_contributed c found hclass
    rw [hinits] at hi
    obtain ⟨g, hg, hinit⟩ := List.mem_filterMap.mp hi
    have hcopy : g.1.copy d g.2 ∈ assembled c d found := by
      refine List.mem_append_right _ ?_
      rw [hcopies]
      exact List.mem_map_of_mem hg
    rw [Donor.initOf] at hinit
    split at hinit
    · rename_i hfield
      obtain ⟨init, hbody, rfl⟩ := Option.map_eq_some_iff.mp hinit
      have hstorage : (g.1.copy d g.2).hasStorage = true :=
        hdonors g.1 (hgifts g hg).1 g.2 (hgifts g hg).2 (by simp [hbody])
      obtain ⟨f, hfind, hfield', hsame⟩ := exists_member?_emit hclass hnodup hcopy rfl hfield
      exact ⟨f, hfind, hfield', hsame.trans hstorage⟩
    · exact absurd hinit (by simp)

end Synthesis

namespace Expansion

open Pass

variable {settings : Settings} {u : SourceUnit} {d : TypeDecl}

/-- A donor of a class has storage for its initializers. -/
theorem hasStorage_of_mem_donorsOf (hread : u.IsRead) (hnames : (u.types.map (·.name)).Nodup)
    (hd : d ∈ u.types) (hclass : d.isInterface = false) {donor : Donor}
    (h : donor ∈ donorsOf settings u (planOf settings u.types d).emit) :
    ∀ m ∈ donor.bank.members, m.body ≠ none → m.hasStorage = true := by
  obtain ⟨e, he, hinterface, hsugar, hbank⟩ := exists_of_mem_donorsOf hnames hd hclass h
  rw [← sugarEnabled_turn settings u.types e.name e] at hsugar
  rw [hbank, DonorBank.members_ofDecl, planOf_eq_expanded hsugar,
    Synthesis.members_expanded_of_interface hinterface]
  intro m hm
  exact Synthesis.hasStorage_of_mem_planned
    (hread.property he) (List.mem_filter.mp hm).1

/-- **Initialized fields.** In an expansion without errors, a class has a plan, and its constructor
assigns fields of that plan. All of them have storage but those bound fields whose accessors compute
the value. A class whose directives are not carried out is given no assignments. -/
theorem expand_initializesFields (hread : u.IsRead) (hok : (expand settings u).isOk = true)
    (hd : d ∈ u.types) (hclass : d.isInterface = false) :
    ∃ plan, (expand settings u).plan? d.name = some plan ∧
      (settings.carriesOut d = false → plan.decl = d.emit) ∧
      (settings.carriesOut d = true →
        Synthesis.InitializesFields (turn settings u.types d.name) d
          (Synthesis.preliminary (turn settings u.types d.name) d) plan.decl) := by
  obtain ⟨hnames, hcyclic⟩ := nodup_of_isOk hok
  have hfind : u.find? d.name = some d := TypeDecl.find?_name_eq_some hnames hd
  refine ⟨_, by rw [plan?_expand settings hnames hcyclic, hfind]; rfl, fun hsugar => ?_,
    fun hsugar => ?_⟩
  · rw [← sugarEnabled_turn settings u.types d.name d] at hsugar
    have hwritten : planOf settings u.types d = d := by
      rw [planOf, Synthesis.ofDecl, if_neg (by simp [hsugar])]
    exact congrArg TypeDecl.emit hwritten
  · have hnodup : (planOf settings u.types d).emit.memberNames.Nodup :=
      TypeDecl.nodup_memberNames_emit (Synthesis.nodup_memberNames_ofDecl (hread.nodup hd))
    have hplan := planOf_eq_expanded ((sugarEnabled_turn settings u.types d.name d).trans hsugar)
    change Synthesis.InitializesFields _ _ _ (planOf settings u.types d).emit
    rw [hplan] at hnodup ⊢
    refine Synthesis.initializesFields_emit hclass ?_ (hread.property hd) hnodup
      fun donor hdonor => ?_
    · simpa using (Bool.and_eq_true_iff.mp hsugar).2
    · rw [chain_turn_eq hnames hd hclass] at hdonor
      exact hasStorage_of_mem_donorsOf hread hnames hd hclass hdonor

/-- A class with two bound fields, of which one is computed, and a donor of a field with an
initializer. -/
def meterForms : List Form :=
  let bound : List Form := [.keyword "direct-init" {}, .bool true {}]
  [.list [.sym "interface:" {}, .sym "Tally" {},
      .list [.sym "field:" {}, .sym "total" {}, .atom (.int 0) {}] {}] {},
    .list [.sym "class:" {}, .sym "Meter" {},
      .keyword "implements" {}, .vector [.sym "Tally" {}] {},
      .list ([.sym "field:" {}, .sym "label" {}] ++ bound) {},
      .list ([.sym "field:" {}, .sym "level" {}, .keyword "readonly" {}, .bool true {},
        .keyword "getter" {}, .atom (.int 5) {}] ++ bound) {}] {}]

def labelField : Member :=
  { Member.bareField "label" {} with directives := [.directInit] }

def levelField : Member :=
  { Member.bareField "level" {} with
    directives :=
      [.directInit, .accessor { modes := [.readonly], getter := some (.atom (.int 5) {}) }] }

def meterClass : TypeDecl :=
  { name := "Meter"
    kind := .classType
    interfaces := [.named "Tally"]
    members := [labelField, levelField] }

def meterUnit : SourceUnit :=
  ⟨[{ name := "Tally"
      kind := .interfaceType
      members := [{ Member.bareField "total" {} with body := some (.atom (.int 0) {}) }] },
    meterClass]⟩

/-- What is assigned to the plain field and to the given one is stored. -/
theorem expand_initializesFields_meter :
    SourceUnit.ofForms meterForms = .ok meterUnit ∧
    (expand { requireOptIn := false } meterUnit).isOk = true ∧
    ∃ plan label total, (expand { requireOptIn := false } meterUnit).plan? "Meter" = some plan ∧
      plan.decl.member? "label" = some label ∧ label.hasStorage = true ∧
      plan.decl.member? "total" = some total ∧ total.hasStorage = true := by
  have hread : SourceUnit.ofForms meterForms = .ok meterUnit := by cbv
  have hok : (expand { requireOptIn := false } meterUnit).isOk = true := by cbv
  have hd : meterClass ∈ meterUnit.types := by simp [meterUnit]
  obtain ⟨plan, hplan, -, hinitializes⟩ :=
    expand_initializesFields (SourceUnit.isRead_of_ofForms hread) hok hd rfl
  obtain ⟨-, -, hbound, hgiven⟩ := hinitializes rfl
  obtain ⟨label, hlabel, -, hstorage⟩ := hbound labelField List.mem_cons_self (by cbv)
  have hinits : (Synthesis.contributed (turn { requireOptIn := false } meterUnit.types "Meter")
      meterClass (Synthesis.preliminary (turn { requireOptIn := false } meterUnit.types "Meter")
        meterClass)).defaultInits = [⟨"total", .atom (.int 0) {}⟩] := by cbv
  obtain ⟨total, htotal, -, hstorage'⟩ :=
    hgiven ⟨"total", .atom (.int 0) {}⟩ (hinits ▸ List.mem_singleton_self _)
  exact ⟨hread, hok, plan, label, total, hplan, hlabel, hstorage.trans (by cbv), htotal, hstorage'⟩

/-- **Assignments that nothing stores.** The constructor assigns the computed field as well, and no
error is reported. -/
theorem expand_initializesComputed :
    SourceUnit.ofForms meterForms = .ok meterUnit ∧
    (expand { requireOptIn := false } meterUnit).isOk = true ∧
    ((expand { requireOptIn := false } meterUnit).plan? "Meter").map (fun plan =>
        ((plan.decl.member? "level").map fun m => (m.isField, m.hasStorage),
          plan.decl.constructor?.map fun m => m.body.map (·.text))) =
      some (some (true, false), some (some ("(do (set! (get this label) label) " ++
        "(set! (get this level) level) (set! (get this total) 0))"))) := by
  refine ⟨?_, ?_, ?_⟩ <;> cbv

end Expansion

end DeclWeave
