import DeclWeave.Proofs.ForwardedMembers
import DeclWeave.Proofs.SettledMembers
import DeclWeave.Proofs.ShieldedScopes

/-!
# Types of Forwarded Fields

What is made for a forwarded field has the type of the candidate, with the type parameters of the
delegate bound. A candidate has the type that it declares, or else the one that a literal gives it.
Where the delegate is finished, that is read off the plan; where it is pending, off the declaration,
although the plan will have another type in two cases. A signal publishes a type of its own, and a
field that opts out is left without the type that its literal would give it. A finished delegate in
turn is asked for the type of a literal once more, after its shields are off.

## Main results

* `Synthesis.type_settled`: the type of a field in a plan.
* `Forward.forall_isTyped_iff`: the type of what is made for a forwarded field.
* `Synthesis.exists_forwardsType_iff`: when that is the type in the plan.
-/

namespace DeclWeave

/-! ### The type of a field in a plan -/

theorem SignalFlavor.payload_publishedType (flavor : SignalFlavor) (t : TypeRef) :
    flavor.payload (some ⟨flavor.publishedType, [t]⟩) = t :=
  if_pos rfl

namespace Member

/-- The type that the plan has for a field as declared. -/
def plannedType (m : Member) : Option TypeRef :=
  if m.sugar.optOut then m.type
  else
    match m.grantedSignal? with
    | some signal => some ⟨signal.flavor.publishedType, [signal.flavor.payload m.inferredType]⟩
    | none => m.inferredType

theorem type_carriedOut (m : Member) :
    m.carriedOut.type =
      match m.grantedSignal? with
      | some signal => some ⟨signal.flavor.publishedType, [signal.flavor.payload m.inferredType]⟩
      | none => m.inferredType := by
  rw [carriedOut, grantedSpec?_withType, grantedSignal?_withType]
  cases hspec : m.grantedSpec? with
  | some spec =>
    rw [grantedSignal?_eq_none hspec]
    rfl
  | none => cases m.grantedSignal? <;> rfl

/-- A declared field shows the type that the plan will have for it: it does not leave to a literal
what the plan leaves open, and is declared with the type that its signal publishes. -/
def ShowsPlannedType (m : Member) : Prop :=
  if m.sugar.optOut then m.type = none → m.inferredType = none
  else ∀ signal, m.grantedSignal? = some signal →
    ∃ payload, m.inferredType = some ⟨signal.flavor.publishedType, [payload]⟩

theorem showsPlannedType_iff {m : Member} :
    m.ShowsPlannedType ↔ m.inferredType = m.plannedType := by
  rw [ShowsPlannedType, plannedType]
  split
  · rw [inferredType]
    cases m.type <;> simp
  · cases m.grantedSignal? with
    | none => simp
    | some signal =>
      constructor
      · intro h
        obtain ⟨payload, hpayload⟩ := h signal rfl
        rw [hpayload]
        dsimp only
        rw [SignalFlavor.payload_publishedType]
      · intro h other hother
        obtain rfl := Option.some.inj hother
        exact ⟨_, h⟩

end Member

/-- A block of statements is no literal. -/
theorem Form.literalType?_stripShields_do (fs : List Form) (s : Span) :
    (Form.call "do" fs s).stripShields.literalType? = none := by
  have hshield : isShield (.seq .round (.sym "do" s :: fs) s) = false := by
    rcases fs with _ | ⟨f, _ | ⟨g, gs⟩⟩ <;> simp [isShield, sym]
  change (Form.seq .round (.sym "do" s :: fs) s).stripShields.literalType? = none
  rw [stripShields_seq hshield]
  rfl

/-! ### The type of what is forwarded -/

namespace Forward

/-- What is made for a forwarded field has a type: the field, what its getter returns, and what its
setter takes and returns. -/
def IsTyped (made : List Member) (type : Option TypeRef) : Prop :=
  ∀ m ∈ made, m.type = type ∧ ∀ p ∈ m.signature.params, p.type = type

theorem inferredType_plain (source : Member) (cand : Candidate) :
    (plain source cand).inferredType = cand.fieldType := by
  rw [Member.inferredType]
  change (cand.fieldType <|> none) = cand.fieldType
  cases cand.fieldType <;> rfl

theorem isTyped_field (source : Member) (cand : Candidate) (registry : NameRegistry) :
    IsTyped (field source cand registry).1 cand.fieldType := by
  rw [field_eq]
  intro m hm
  rcases List.mem_cons.mp hm with rfl | hm
  · rw [PropertySpec.field_apply, inferredType_plain]
    exact ⟨rfl, fun p hp => absurd hp List.not_mem_nil⟩
  · obtain rfl | ⟨getter, assignment, -, rfl⟩ := PropertySpec.eq_of_mem_added_apply hm
    · rw [inferredType_plain]
      exact ⟨rfl, fun p hp => absurd hp List.not_mem_nil⟩
    · rw [inferredType_plain]
      exact ⟨rfl, fun p hp => by rw [List.mem_singleton.mp hp]⟩

/-- **What is made for a forwarded field** has a type, whatever the type parameters of the delegate
are bound to, if that is the type of the candidate. -/
theorem forall_isTyped_iff {m : Member} {origin : String} {pending : Bool} {type : Option TypeRef} :
    (∀ b source registry, IsTyped (field source ⟨m, origin, b, pending⟩ registry).1
      (type.map (·.substitute b))) ↔ m.inferredType = type := by
  constructor
  · intro h
    have hempty := (h {} default default _ List.mem_cons_self).1
    have hown := (isTyped_field default ⟨m, origin, {}, pending⟩ default _ List.mem_cons_self).1
    have hid : ∀ t : Option TypeRef, t.map (·.substitute {}) = t := by
      intro t
      simp [TypeRef.substitute_empty]
    rw [hid] at hempty
    rw [← hempty, hown]
    exact (hid _).symm
  · rintro rfl b source registry
    exact isTyped_field source ⟨m, origin, b, pending⟩ registry

end Forward

namespace Synthesis

variable {c : Context} {u : SourceUnit} {d : TypeDecl} {m : Member}

/-- **The type of a field in a plan.** -/
theorem type_settled (hfield : m.isField = true) (htemplate : m.isTemplate = false)
    (hsugar : d.sugar.optOut = false) : (settled d m).type = m.plannedType := by
  rw [settled_eq hfield htemplate hsugar, Member.plannedType]
  split
  · rfl
  · refine Eq.trans ?_ (takenUp d m).type_carriedOut
    split <;> rfl

/-- **What a finished delegate shows of a field** is its type in the plan, unless the plan leaves
the type open although the field has a literal. -/
theorem inferredType_eq_type_iff (m : Member) :
    m.inferredType = m.type ↔ (m.type = none → m.inferredType = none) := by
  rw [Member.inferredType]
  cases m.type <;> simp

/-- A plan that leaves the type of a field open leaves it no literal either, if the field does not
opt out and no shield hides its literal from synthesis. -/
theorem inferredType_eq_none_of_emit {m' : Member} (hopt : m.sugar.optOut = false)
    (hshields : ∀ body, m.body = some body → body.stripShields = body)
    (hm' : m' = (settled d m).emit d.isInterface ∨
      ∃ direct defaults, m' = ((settled d m).withInits direct defaults).emit d.isInterface)
    (htype : m'.type = none) (hplanned : m'.type = m.plannedType) : m'.inferredType = none := by
  have hinferred : m.inferredType = none := by
    rw [Member.plannedType, hopt, htype] at hplanned
    cases hsignal : m.grantedSignal? with
    | none => simpa [hsignal] using hplanned.symm
    | some signal => simp [hsignal] at hplanned
  have hliteral : m.body.bind (·.literalType?) = none := by
    rw [Member.inferredType] at hinferred
    cases htype : m.type <;> simp_all
  have hbody : m'.body.bind (·.literalType?) = none := by
    obtain rfl | ⟨direct, defaults, rfl⟩ := hm'
    · obtain ⟨type, body, property, hbody, hsettled⟩ := reshapes_settled d m
      rw [hsettled, Member.emit]
      dsimp only
      split
      · rfl
      · obtain rfl | rfl := hbody
        · change (m.body.map (·.stripShields)).bind _ = none
          cases hbody : m.body with
          | none => rfl
          | some body => rw [Option.map_some, hshields body hbody, ← hbody, hliteral]
        · rfl
    · rw [Member.emit, Member.withInits]
      dsimp only
      split
      · rfl
      · rw [Option.map_some, Option.bind_some, Form.literalType?_stripShields_do]
  rw [Member.inferredType, htype, hbody]
  rfl

/-- **A field in the finished plan** is known by its name, can be forwarded to, and has the type
that is known from the declaration. -/
theorem exists_field_emit (hu : u.IsRead) (hdu : d ∈ u.types) (hd : c.sugarEnabled d = true)
    (hm : m ∈ d.members) (hfield : m.isField = true) (hvisible : m.visibility ≠ some .hidden)
    (htemplate : m.isTemplate = false) :
    ∃ m' ∈ (ofDecl c d).1.emit.members, m'.name = m.name ∧ m'.isField = true ∧
      m'.type = m.plannedType ∧ Delegate.isForwardable m' = true ∧
      (m' = (settled d m).emit d.isInterface ∨
        ∃ direct defaults, m' = ((settled d m).withInits direct defaults).emit d.isInterface) := by
  have hsugar : d.sugar.optOut = false := by simpa using (Bool.and_eq_true_iff.mp hd).2
  obtain ⟨m', hm', hplan⟩ := exists_settled_emit hd hm htemplate fun _ => hvisible
  have hreshapes := reshapes_settled d m
  obtain ⟨hlabel, htype, hvisibility, haccessor, hdirectives⟩ :
      m'.label = (settled d m).label ∧ m'.type = (settled d m).type ∧
        m'.visibility = some ((settled d m).visibility.getD .exported) ∧
        m'.accessorFor = (settled d m).accessorFor ∧ m'.directives = [] := by
    obtain rfl | ⟨-, rfl⟩ := hplan <;> exact ⟨rfl, rfl, rfl, rfl, rfl⟩
  have hlabel : m'.label = m.label := hlabel.trans hreshapes.label_eq
  have hfield' : m'.isField = true := (Member.isField_eq_of_label hlabel).trans hfield
  refine ⟨m', hm', Member.name_eq_of_label hlabel, hfield',
    htype.trans (type_settled hfield htemplate hsugar),
    Delegate.isForwardable_of_field hfield' ?_ ?_ ?_, hplan.imp_right fun h => ⟨_, _, h.2⟩⟩
  · rw [hvisibility]
    exact Member.visibility_publish_ne_hidden (visibility_settled_ne_hidden hvisible)
  · rw [haccessor, hreshapes.accessorFor_eq]
    exact hu.accessorFor hdu m hm
  · rw [Member.isTemplate, hdirectives]
    rfl

/-- **Types of forwarded fields.** Take a declaration that was read, whose directives are carried
out, and a field of it, neither hidden nor a template. The finished plan has the field, and its type
there is known from the declaration. A delegate that has the field from the declaration, or from the
plan, has one candidate of its name. What is made for a pending field has the type in the plan,
whatever the type parameters are bound to, just if the declaration shows that type; and what is made
for a finished one has it just if the plan does not leave the type of a literal open, which it can
only do if the field opts out or shields its literal. -/
theorem exists_forwardsType_iff (hu : u.IsRead) (hdu : d ∈ u.types)
    (hd : c.sugarEnabled d = true) (hm : m ∈ d.members) (hfield : m.isField = true)
    (hvisible : m.visibility ≠ some .hidden) (htemplate : m.isTemplate = false) :
    ∃ m' ∈ (ofDecl c d).1.emit.members, m'.name = m.name ∧ m'.isField = true ∧
      m'.type = m.plannedType ∧
      (∀ (delegate : Delegate) (b : Bindings), delegate.declaring? m.name = some ⟨d, b, true⟩ →
        delegate.candidates.filter (·.member.name == m.name) = [⟨m, d.name, b, true⟩]) ∧
      (∀ (delegate : Delegate) (b : Bindings),
        delegate.declaring? m.name = some ⟨(ofDecl c d).1.emit, b, false⟩ →
          delegate.candidates.filter (·.member.name == m.name) = [⟨m', d.name, b, false⟩]) ∧
      ((∀ b source registry, Forward.IsTyped
          (Forward.field source ⟨m, d.name, b, true⟩ registry).1 (m'.type.map (·.substitute b))) ↔
        m.ShowsPlannedType) ∧
      ((∀ b source registry, Forward.IsTyped
          (Forward.field source ⟨m', d.name, b, false⟩ registry).1 (m'.type.map (·.substitute b))) ↔
        (m'.type = none → m'.inferredType = none)) ∧
      (m.sugar.optOut = false → (∀ body, m.body = some body → body.stripShields = body) →
        m'.type = none → m'.inferredType = none) := by
  obtain ⟨m', hm', hname, hfield', hplanned, hforwardable', hplan⟩ :=
    exists_field_emit hu hdu hd hm hfield hvisible htemplate
  have hnodup : (ofDecl c d).1.emit.memberNames.Nodup :=
    TypeDecl.nodup_memberNames_emit (nodup_memberNames_ofDecl (hu.nodup hdu))
  have hforwardable : Delegate.isForwardable m = true :=
    Delegate.isForwardable_of_field hfield hvisible (hu.accessorFor hdu m hm) htemplate
  refine ⟨m', hm', hname, hfield', hplanned, fun delegate b hdelegate => ?_,
    fun delegate b hdelegate => ?_, ?_, ?_, fun hopt hshields htype => ?_⟩
  · exact Delegate.filter_candidates hdelegate (hu.nodup hdu) hm hforwardable
  · rw [← hname] at hdelegate ⊢
    refine (Delegate.filter_candidates hdelegate hnodup hm' hforwardable').trans ?_
    rw [TypeDecl.name_emit, name_ofDecl]
  · rw [Forward.forall_isTyped_iff, Member.showsPlannedType_iff, hplanned]
  · rw [Forward.forall_isTyped_iff]
    exact inferredType_eq_type_iff m'
  · exact inferredType_eq_none_of_emit hopt hshields hplan htype hplanned

/-- A class with a future. -/
def jobForms : List Form :=
  [.list [.sym "class:" {}, .sym "Job" {}, .list [.sym "field:" {}, .sym "done" {},
    .keyword "future" {}, .bool true {}] {}] {}]

def doneField : Member :=
  { name := "done", kind := .field, directives := [.signal ⟨.future, {}⟩] }

def jobClass : TypeDecl :=
  { name := "Job", kind := .classType, members := [doneField] }

/-- While its class is pending, the future is forwarded without the type that it publishes; from the
finished plan, it is forwarded with it. -/
theorem exists_forwardsType_future :
    let c : Context := { settings := { requireOptIn := false }, types := [jobClass] }
    SourceUnit.ofForms jobForms = .ok ⟨[jobClass]⟩ ∧
    ∃ m' ∈ (ofDecl c jobClass).1.emit.members, m'.name = "done" ∧
      m'.type = some ⟨"Future", [.named "Noise"]⟩ ∧
      (¬∀ b source registry, Forward.IsTyped
        (Forward.field source ⟨doneField, "Job", b, true⟩ registry).1
          (m'.type.map (·.substitute b))) ∧
      ∀ b source registry, Forward.IsTyped
        (Forward.field source ⟨m', "Job", b, false⟩ registry).1 (m'.type.map (·.substitute b)) := by
  intro c
  have hread : SourceUnit.ofForms jobForms = .ok ⟨[jobClass]⟩ := by cbv
  have hvisible : doneField.visibility ≠ some .hidden := by simp [doneField]
  obtain ⟨m', hm', hname, -, htype, -, -, hpending, hfinished, -⟩ :=
    exists_forwardsType_iff (c := c) (SourceUnit.isRead_of_ofForms hread) List.mem_cons_self
      (by cbv) (m := doneField) List.mem_cons_self rfl hvisible rfl
  have hplanned : m'.type = some ⟨"Future", [.named "Noise"]⟩ := htype
  have hshows : ¬doneField.ShowsPlannedType := by
    rw [Member.showsPlannedType_iff]
    have hinferred : doneField.inferredType = none := rfl
    rw [hinferred, ← htype, hplanned]
    simp
  exact ⟨hread, m', hm', hname, hplanned, fun h => hshows (hpending.mp h),
    hfinished.mpr fun hnone => absurd (hplanned.symm.trans hnone) (by simp)⟩

end Synthesis

/-! ### Types that differ -/

namespace Expansion

/-- The type of a member in a plan. -/
def typeIn (e : Expansion) (plan member : String) : Option (Option String) :=
  ((e.plan? plan).bind (·.decl.member? member)).map fun m => m.type.map (·.display)

/-- What the types of members in the plans of a source are, and whether no error is reported. -/
def typesIn (source : String) (places : List (String × String)) :
    Except Fault (Bool × List (Option (Option String))) :=
  (SourceUnit.ofSource source).map fun u =>
    let e := expand { requireOptIn := false } u
    (e.isOk, places.map fun place => e.typeIn place.1 place.2)

/-- **Forwarded fields of another type.** A future of a pending class is forwarded without a type,
and so is its getter; and where the finished plan has no type for a field, because the field opts
out or shields its literal, the field is forwarded as an integer. -/
theorem expand_forwardsOtherTypes :
    typesIn ("(class: Job (field: pool :type Pool :forward true) (field: done :future true)) " ++
        "(class: Pool (field: job :type Job :forward [done]))")
      [("Job", "done"), ("Pool", "done"), ("Job", "get_done"), ("Pool", "get_done")] =
        .ok (true,
          [some (some "Future<Noise>"), some none, some (some "Future<Noise>"), some none]) ∧
    typesIn ("(class: Dial (field: gauge :type Gauge :forward true)) " ++
        "(class: Gauge (field: low :no-sugar true 5) (field: high (no-sugar 5)))")
      [("Gauge", "low"), ("Dial", "low"), ("Gauge", "high"), ("Dial", "high")] =
        .ok (true, [some none, some (some "Int"), some none, some (some "Int")]) := by
  constructor <;> cbv

end Expansion

end DeclWeave
