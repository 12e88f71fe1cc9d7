import DeclWeave.Proofs.ExpansionPass
import DeclWeave.Proofs.PlanMembers
import DeclWeave.Proofs.ReadDeclarations

/-!
# Write Access

A field can be forwarded to before its type is finished, and then its directives decide whether it
can be written; later its property does. Both say the same, whatever the directives are: those that
do not go together leave a plain field, and so do those of a member that opts out.

A delegate has one candidate of a name, from the lowest layer that declares it. So it is enough to
follow one field from its declaration into the plan of its type.

## Main results

* `Delegate.filter_candidates`: the candidate of a name.
* `Synthesis.exists_kept_of_field`: what a field becomes can be written if its directives say so.
* `Synthesis.exists_candidates_of_field`: pending and finished delegates agree.
-/

namespace DeclWeave

/-! ### Candidates of a name -/

namespace Delegate

/-- A field can be forwarded to if it is seen and was not made. -/
theorem isForwardable_of_field {m : Member} (hfield : m.isField = true)
    (hvisible : m.visibility ≠ some .hidden) (haccessor : m.accessorFor = none)
    (htemplate : m.isTemplate = false) : isForwardable m = true := by
  have hkind : m.kind = .field := by simpa [Member.isField] using hfield
  simp [isForwardable, Member.isConstructor, Member.isMethod, hkind, hvisible, haccessor, htemplate]

/-- Of the members of a name the first is visible, and none if the name has been seen. -/
theorem filter_visibleMembers (seen : List String) (cs : List Candidate) (name : String) :
    (visibleMembers seen cs).filter (·.member.name == name) =
      if name ∈ seen then [] else (cs.filter (·.member.name == name)).take 1 := by
  induction cs generalizing seen with
  | nil => simp [visibleMembers]
  | cons c cs ih =>
    rw [visibleMembers]
    by_cases hname : c.member.name = name
    · by_cases hseen : name ∈ seen
      · simp [hname, hseen, ih]
      · simp [hname, hseen, ih]
    · by_cases hc : c.member.name ∈ seen
      · simp [hname, hc, ih]
      · simp [hname, hc, ih, Ne.symm hname]

/-- The lowest layer of a delegate that declares a name. -/
def declaring? (d : Delegate) (name : String) : Option Layer :=
  d.layers.find? (·.decl.memberNames.contains name)

end Delegate

namespace Layer

variable {l : Layer}

/-- The members of a layer, before it is asked which of them can be forwarded to. -/
def offers (l : Layer) : List Candidate :=
  l.decl.members.map fun member =>
    { member, origin := l.decl.name, bindings := l.bindings, pending := l.pending }

theorem filter_offers_of_not_mem {name : String} (h : name ∉ l.decl.memberNames) :
    l.offers.filter (·.member.name == name) = [] := by
  refine List.filter_eq_nil_iff.mpr fun c hc hname => h ?_
  obtain ⟨m, hm, rfl⟩ := List.mem_map.mp hc
  exact beq_iff_eq.mp hname ▸ List.mem_map_of_mem hm

/-- Where names are distinct, one member is offered of each. -/
theorem take_filter_offers (hnodup : l.decl.memberNames.Nodup) {m : Member}
    (hm : m ∈ l.decl.members) (more : List Candidate) :
    (l.offers.filter (·.member.name == m.name) ++ more).take 1 =
      [⟨m, l.decl.name, l.bindings, l.pending⟩] := by
  obtain ⟨before, after, hmembers⟩ := List.append_of_mem hm
  rw [TypeDecl.memberNames, hmembers, List.map_append, List.map_cons] at hnodup
  have hnone : (before.map fun m' => Candidate.mk m' l.decl.name l.bindings l.pending).filter
      (·.member.name == m.name) = [] := by
    refine List.filter_eq_nil_iff.mpr fun c hc hname => ?_
    obtain ⟨m', hm', rfl⟩ := List.mem_map.mp hc
    exact List.disjoint_of_nodup_append hnodup (List.mem_map_of_mem hm')
      (beq_iff_eq.mp hname ▸ List.mem_cons_self)
  rw [offers, hmembers, List.map_append, List.filter_append, hnone, List.map_cons,
    List.filter_cons_of_pos (by simp)]
  rfl

end Layer

namespace Delegate

/-- **The candidate of a name** is the member that its layer declares, if that can be forwarded
to. -/
theorem filter_candidates {d : Delegate} {layer : Layer} {m : Member}
    (h : d.declaring? m.name = some layer) (hnodup : layer.decl.memberNames.Nodup)
    (hm : m ∈ layer.decl.members) (hforwardable : isForwardable m = true) :
    d.candidates.filter (·.member.name == m.name) =
      [⟨m, layer.decl.name, layer.bindings, layer.pending⟩] := by
  obtain ⟨-, below, above, hlayers, hbelow⟩ := List.find?_eq_some_iff_append.mp h
  have hnone : (below.flatMap Layer.offers).filter (·.member.name == m.name) = [] := by
    refine List.filter_eq_nil_iff.mpr fun c hc hname => ?_
    obtain ⟨l, hl, hc⟩ := List.mem_flatMap.mp hc
    have hnot : m.name ∉ l.decl.memberNames := by simpa using hbelow l hl
    exact List.not_mem_nil (Layer.filter_offers_of_not_mem hnot ▸ List.mem_filter.mpr ⟨hc, hname⟩)
  have hvisible := filter_visibleMembers [] (d.layers.flatMap Layer.offers) m.name
  rw [if_neg List.not_mem_nil, hlayers, List.flatMap_append, List.flatMap_cons, List.filter_append,
    hnone, List.nil_append, List.filter_append, Layer.take_filter_offers hnodup hm] at hvisible
  change ((visibleMembers [] (d.layers.flatMap Layer.offers)).filter _).filter _ = _
  rw [List.filter_comm, hlayers, List.flatMap_append, List.flatMap_cons, hvisible]
  exact List.filter_cons_of_pos hforwardable

end Delegate

/-! ### What a property allows -/

/-- Whether a field of a finished plan can be assigned: it is plain, or its property is written. -/
def Member.isAssignable (m : Member) : Bool :=
  match m.property with
  | some p => p.write != .never
  | none => true

theorem PropertySpec.property_apply (p : PropertySpec) (field : Member) (registry : NameRegistry) :
    ∃ storage, (p.apply field registry).field.property =
      some ⟨.accessor, if p.mode = .readwrite then .accessor else .never, storage⟩ := by
  rw [apply]
  dsimp only
  split <;> exact ⟨_, rfl⟩

theorem PropertySpec.isAssignable_apply (p : PropertySpec) (field : Member)
    (registry : NameRegistry) :
    (p.apply field registry).field.isAssignable = (p.mode == .readwrite) := by
  obtain ⟨storage, hproperty⟩ := p.property_apply field registry
  rw [Member.isAssignable, hproperty]
  cases p.mode <;> rfl

theorem SignalRequest.isAssignable_apply (r : SignalRequest) (field : Member) (onInterface : Bool)
    (registry : NameRegistry) :
    (r.apply field onInterface registry).field.isAssignable = false := by
  obtain ⟨init, -, happly⟩ | ⟨s, rfl, happly⟩ := r.apply_eq field onInterface registry
  · rw [happly, PropertySpec.isAssignable_apply]
    rfl
  · rw [happly]
    exact PropertySpec.isAssignable_apply _ _ _

namespace Synthesis

variable {c : Context} {d : TypeDecl} {m : Member} {found : Diagnostics}

/-- **The directives of a field**, once they are carried out or refused, leave it writable just if
it was when they were pending. -/
theorem isAssignable_propertyOf (hfield : m.isField = true) (hproperty : m.property = none)
    (hsugar : m.sugar.optOut = false) (p : Progress) (origin : String) (b : Bindings) :
    (propertyOf d m p).1.isAssignable = (Candidate.mk m origin b true).isWritable := by
  have hplain : (m.withType m.inferredType).isAssignable = true := by
    have hnone : (m.withType m.inferredType).property = none := hproperty
    rw [Member.isAssignable, hnone]
  have hfield' : (m.withType m.inferredType).isField = true := hfield
  have haccessor' : (m.withType m.inferredType).accessorRequest? = m.accessorRequest? := rfl
  have hsignals' : (m.withType m.inferredType).signalRequests = m.signalRequests := rfl
  have hspec : PropertySpec.ofRequest (m.withType m.inferredType) = PropertySpec.ofRequest m := rfl
  rw [propertyOf, if_pos hfield, Candidate.isWritable, if_neg (by simp [hsugar])]
  dsimp only
  rw [property, haccessor', hsignals', hspec, hfield']
  cases m.accessorRequest? with
  | none =>
    rcases m.signalRequests with _ | ⟨signal, _ | ⟨other, others⟩⟩
    · exact hplain
    · exact SignalRequest.isAssignable_apply _ _ _ _
    · exact hplain
  | some request =>
    rcases m.signalRequests with _ | ⟨signal, others⟩
    · simp only [Bool.not_true, Bool.false_eq_true, if_false, List.length_nil]
      cases PropertySpec.ofRequest m request with
      | ok spec => exact spec.isAssignable_apply _ _
      | error conflict => exact hplain
    · exact hplain

theorem isAssignable_directInit (d : TypeDecl) (m : Member) (p : Progress) :
    (directInit d m p).1.isAssignable = m.isAssignable := by
  rw [directInit]
  split
  · rfl
  · split <;> rfl

/-- **What becomes of a field**: it is reshaped, and can be written as its directives say. -/
theorem exists_kept_of_field (hfield : m.isField = true) (hproperty : m.property = none)
    (htemplate : m.isTemplate = false) (hsugar : d.sugar.optOut = false) (p : Progress)
    (origin : String) (b : Bindings) :
    ∃ kept added, (member d m p).1 = kept :: added ∧ (takenUp d m).Reshapes kept ∧
      kept.isAssignable = (Candidate.mk m origin b true).isWritable := by
  have hplain : (takenUp d m).isAssignable = true := by
    have hnone : (takenUp d m).property = none := hproperty
    rw [Member.isAssignable, hnone]
  have hout := optOut_takenUp (m := m) hsugar
  cases hopt : m.sugar.optOut with
  | true =>
    obtain ⟨found, hmember⟩ := exists_member_eq_takenUp (.inr (hout.trans hopt)) p
    refine ⟨_, [], congrArg Prod.fst hmember, .refl _, hplain.trans ?_⟩
    rw [Candidate.isWritable, if_pos (by simp [hopt]), hproperty]
  | false =>
    have hmember := member_eq_directInit htemplate (hout.trans hopt) p
    refine ⟨_, _, congrArg Prod.fst hmember,
      (reshapes_propertyOf _ _ _).trans (reshapes_directInit _ _ _), ?_⟩
    have htaken : (Candidate.mk (takenUp d m) origin b true).isWritable =
        (Candidate.mk m origin b true).isWritable := by
      rw [Candidate.isWritable, Candidate.isWritable, if_neg (by simp [hout, hopt]),
        if_neg (by simp [hopt])]
      rfl
    rw [isAssignable_directInit, ← htaken]
    exact isAssignable_propertyOf (m := takenUp d m) hfield hproperty (hout.trans hopt) p origin b

/-! ### The plan of a field's type -/

theorem exists_member_mem_members {ms : List Member} (hm : m ∈ ms) (p : Progress) :
    ∃ p', (member d m p').1 ∈ (members d p ms).1 := by
  induction ms generalizing p with
  | nil => exact absurd hm List.not_mem_nil
  | cons m' ms ih =>
    rcases List.mem_cons.mp hm with rfl | hm
    · exact ⟨p, List.mem_cons_self⟩
    · obtain ⟨p', hp'⟩ := ih hm _
      exact ⟨p', List.mem_cons_of_mem _ hp'⟩

theorem subset_forwards {pairs : List (Member × List Member)} {pair : Member × List Member}
    (h : pair ∈ pairs) (p : Progress) : pair.2 ⊆ (forwards c d p pairs).1 := by
  induction pairs generalizing p with
  | nil => exact absurd h List.not_mem_nil
  | cons pair' pairs ih =>
    intro x hx
    rcases List.mem_cons.mp h with rfl | h
    · exact List.mem_append_left _ (List.mem_append_left _ hx)
    · exact List.mem_append_right _ (ih h _ hx)

/-- **Each declared member** is planned with its group. -/
theorem exists_member_subset_planned (hm : m ∈ d.members) :
    ∃ p, (member d m p).1 ⊆ (planned c d found).1 := by
  let start : Progress := { registry := .ofDecl d (Ancestry.of c.scope d).names, found }
  obtain ⟨p, hp⟩ := exists_member_mem_members (d := d) hm start
  rw [← List.map_snd_zip (length_members d d.members start).le] at hp
  obtain ⟨pair, hpair, hgroup⟩ := List.mem_map.mp hp
  exact ⟨p, hgroup ▸ subset_forwards hpair _⟩

/-- Whatever is assembled for a type stands in its plan, a constructor with other statements. -/
theorem exists_mem_expanded (hm : m ∈ assembled c d found) :
    ∃ m' ∈ (expanded c d found).1.members,
      m' = m ∨ m.name = constructorName ∧ m' = initialized c d found m := by
  rw [expanded_eq]
  dsimp only
  split
  · exact ⟨m, hm, .inl rfl⟩
  · obtain ⟨kept, extra, hplan, hkept, -⟩ := TypeDecl.exists_members_finishConstructor
      { d with members := assembled c d found } (planned c d found).2.direct
      (contributed c d found).defaultInits (Ancestry.of c.scope d).constructor?
    rw [← assembled, hplan]
    obtain ⟨m', hm', hsame⟩ := exists_of_mem_forall₂ hkept.flip hm
    exact ⟨m', List.mem_append_left _ hm', hsame⟩

/-- **A field in the plan** of its type differs from what was declared in its type, its body and its
property, and can be written as its directives say. -/
theorem exists_field_expanded (hm : m ∈ d.members) (hfield : m.isField = true)
    (hproperty : m.property = none) (htemplate : m.isTemplate = false)
    (hsugar : d.sugar.optOut = false) (origin : String) (b : Bindings) :
    ∃ m' ∈ (expanded c d found).1.members,
      (∃ signature body property, m' = { takenUp d m with signature, body, property }) ∧
        m'.isAssignable = (Candidate.mk m origin b true).isWritable := by
  obtain ⟨p, hplanned⟩ : ∃ p, (member d m p).1 ⊆ (planned c d found).1 :=
    exists_member_subset_planned hm
  obtain ⟨kept, added, hgroup, ⟨type, body, property, -, rfl⟩, hassignable⟩ :=
    exists_kept_of_field hfield hproperty htemplate hsugar p origin b
  obtain ⟨m', hm', hsame⟩ := exists_mem_expanded
    (List.mem_append_left (contributed c d found).members (hplanned (hgroup ▸ List.mem_cons_self)))
  -- A field of the constructor's name is given statements, which change its body at most.
  obtain rfl | ⟨-, rfl⟩ := hsame
  · exact ⟨_, hm', ⟨_, _, _, rfl⟩, hassignable⟩
  · exact ⟨_, hm', ⟨_, _, _, rfl⟩, hassignable⟩

/-- **A field in the finished plan** of its type can be forwarded to, and can be written as its
directives say. -/
theorem exists_field_emit_ofDecl (hd : c.sugarEnabled d = true) (hm : m ∈ d.members)
    (hmaking : m.making = Member.written) (hfield : m.isField = true)
    (hvisible : m.visibility ≠ some .hidden) (htemplate : m.isTemplate = false) (origin : String)
    (b : Bindings) :
    ∃ m' ∈ (ofDecl c d).1.emit.members, m'.name = m.name ∧ m'.isField = true ∧
      Delegate.isForwardable m' = true ∧
      m'.isAssignable = (Candidate.mk m origin b true).isWritable := by
  have hsugar : d.sugar.optOut = false := by
    simpa using (Bool.and_eq_true_iff.mp hd).2
  have haccessor : m.accessorFor = none := congrArg (·.2.1) hmaking
  have hplan : (ofDecl c d).1 = (expanded c d (preliminary c d)).1 := by
    rw [ofDecl, if_pos hd]
  obtain ⟨m', hm', ⟨signature, body, property, rfl⟩, hassignable⟩ := exists_field_expanded hm hfield
    (congrArg (·.2.2.1) hmaking) htemplate hsugar origin b
  rw [← hplan] at hm'
  have hpublished : m.publish.visibility ≠ some .hidden :=
    Member.visibility_publish_ne_hidden hvisible
  have hkeeps : (ofDecl c d).1.keeps { takenUp d m with signature, body, property } = true := by
    have htemplate' : { takenUp d m with signature, body, property }.isTemplate = false := htemplate
    have hvisible' : (takenUp d m).visibility ≠ some .hidden := hpublished
    simp [TypeDecl.keeps, htemplate', hvisible']
  exact ⟨_, List.mem_map_of_mem (List.mem_filter.mpr ⟨hm', hkeeps⟩), rfl, hfield,
    Delegate.isForwardable_of_field hfield hpublished haccessor rfl, hassignable⟩

end Synthesis

/-! ### Forwarded fields -/

namespace Forward

/-- What is made for a forwarded field begins with a property that is read and written. -/
def IsReadWrite (made : List Member) : Prop :=
  ∃ field added storage, made = field :: added ∧
    field.property = some ⟨.accessor, .accessor, storage⟩

/-- **A forwarded field** can be written if the field of the delegate can. -/
theorem isReadWrite_field_iff (source : Member) (cand : Candidate) (registry : NameRegistry) :
    IsReadWrite (field source cand registry).1 ↔ cand.isWritable = true := by
  obtain ⟨spec, plain, hmode, hmade⟩ : ∃ (spec : PropertySpec) (plain : Member),
      (spec.mode = .readwrite ↔ cand.isWritable = true) ∧ (field source cand registry).1 =
        (spec.apply plain registry).field.publish :: (spec.apply plain registry).added := by
    refine ⟨_, _, ?_, rfl⟩
    cases cand.isWritable <;> simp [PropertySpec.mode]
  obtain ⟨storage, hproperty⟩ := spec.property_apply plain registry
  rw [← hmode, hmade]
  constructor
  · rintro ⟨_, _, storage', hcons, hwritten⟩
    obtain ⟨rfl, -⟩ := List.cons.inj hcons
    by_contra hspec
    rw [if_neg hspec] at hproperty
    exact absurd (hproperty.symm.trans hwritten) (by simp)
  · intro hspec
    rw [if_pos hspec] at hproperty
    exact ⟨_, _, storage, rfl, hproperty⟩

end Forward

namespace Synthesis

variable {c : Context} {u : SourceUnit} {d : TypeDecl} {m : Member}

/-- **Pending and finished delegates agree on write access.** Take a declaration that was read,
whose directives are carried out, and a field of it, neither hidden nor a template. A delegate that
has the field from this declaration has one candidate of its name, the field as declared, and
a delegate that has it from the finished plan has one candidate of that name, a field. What either
gives for it is a property that is read and written just if what the other gives is. -/
theorem exists_candidates_of_field (hu : u.IsRead) (hdu : d ∈ u.types)
    (hd : c.sugarEnabled d = true) (hm : m ∈ d.members) (hfield : m.isField = true)
    (hvisible : m.visibility ≠ some .hidden) (htemplate : m.isTemplate = false)
    {pending finished : Delegate} {b b' : Bindings}
    (hpending : pending.declaring? m.name = some ⟨d, b, true⟩)
    (hfinished : finished.declaring? m.name = some ⟨(ofDecl c d).1.emit, b', false⟩) :
    ∃ cand cand', pending.candidates.filter (·.member.name == m.name) = [cand] ∧
      finished.candidates.filter (·.member.name == m.name) = [cand'] ∧
      cand.member = m ∧ cand'.member.isField = true ∧
      ∀ source registry registry', Forward.IsReadWrite (Forward.field source cand registry).1 ↔
        Forward.IsReadWrite (Forward.field source cand' registry').1 := by
  have hmaking := hu.making hdu m hm
  have hnodup : (ofDecl c d).1.emit.memberNames.Nodup :=
    TypeDecl.nodup_memberNames_emit (nodup_memberNames_ofDecl (hu.nodup hdu))
  have hforwardable : Delegate.isForwardable m = true :=
    Delegate.isForwardable_of_field hfield hvisible (hu.accessorFor hdu m hm) htemplate
  obtain ⟨m', hm', hname, hfield', hforwardable', hassignable⟩ :=
    exists_field_emit_ofDecl hd hm hmaking hfield hvisible htemplate d.name b
  have hfinished' := Delegate.filter_candidates (hname ▸ hfinished) hnodup hm' hforwardable'
  refine ⟨_, _, Delegate.filter_candidates hpending (hu.nodup hdu) hm hforwardable,
    hname ▸ hfinished', rfl, hfield', fun source registry registry' => ?_⟩
  rw [Forward.isReadWrite_field_iff, Forward.isReadWrite_field_iff, ← hassignable]
  rfl

/-- A class whose field asks for two modes at once. -/
def clashingForms : List Form :=
  [.list [.sym "class:" {}, .sym "Tank" {}, .list [.sym "field:" {}, .sym "level" {},
    .keyword "readonly" {}, .bool true {}, .keyword "property" {}, .bool true {}] {}] {}]

def clashingField : Member :=
  { name := "level"
    kind := .field
    directives := [.accessor { modes := [.readonly, .readwrite] }] }

def clashingClass : TypeDecl :=
  { name := "Tank", kind := .classType, members := [clashingField] }

/-- The request is refused, and before that it is no obstacle either. -/
theorem exists_candidates_of_clashing :
    let c : Context := { settings := { requireOptIn := false }, types := [clashingClass] }
    let pending : Delegate := ⟨[⟨clashingClass, {}, true⟩]⟩
    let finished : Delegate := ⟨[⟨(ofDecl c clashingClass).1.emit, {}, false⟩]⟩
    SourceUnit.ofForms clashingForms = .ok ⟨[clashingClass]⟩ ∧
    (ofDecl c clashingClass).2.hasErrors = true ∧
    ∃ cand cand', pending.candidates.filter (·.member.name == "level") = [cand] ∧
      finished.candidates.filter (·.member.name == "level") = [cand'] ∧
      cand.member = clashingField ∧ cand'.member.isField = true ∧
      ∀ source registry registry', Forward.IsReadWrite (Forward.field source cand registry).1 ↔
        Forward.IsReadWrite (Forward.field source cand' registry').1 := by
  intro c pending finished
  have hread : SourceUnit.ofForms clashingForms = .ok ⟨[clashingClass]⟩ := by cbv
  have hfinished : ((ofDecl c clashingClass).1.emit.memberNames.contains "level") = true := by cbv
  have hvisible : clashingField.visibility ≠ some .hidden := by simp [clashingField]
  exact ⟨hread, by cbv, exists_candidates_of_field (SourceUnit.isRead_of_ofForms hread)
    List.mem_cons_self (by cbv) (m := clashingField) List.mem_cons_self rfl hvisible rfl rfl
    (List.find?_cons_of_pos hfinished)⟩

end Synthesis

end DeclWeave
