import DeclWeave.Proofs.WriteAccess

/-!
# What Becomes of a Declared Member

The names that are taken decide which accessors a field is given. They do not decide what becomes of
the field itself: `Synthesis.settled` says that from the declaration alone. Options that do not go
together leave a plain field. Accessors that are granted make it a property; so does a signal, which
also changes the type and hands the initializer over to the getter. A field that is bound from a
constructor parameter then loses the initializer it has left.

## Main results

* `Synthesis.exists_member_eq_settled`: a group begins with its declared member, settled.
* `Synthesis.exists_mem_emit_of_mem_assembled`: what is assembled for a type, in its finished plan.
* `Synthesis.exists_settled_emit`: what is left of a declared member in the finished plan.
-/

namespace DeclWeave

/-! ### Directives that are carried out -/

namespace Member

/-- The property that a member is granted: its accessor options go together, and it asks for no
signal besides. -/
def grantedSpec? (m : Member) : Option PropertySpec :=
  match m.accessorRequest?, m.signalRequests with
  | some request, [] => (PropertySpec.ofRequest m request).toOption
  | _, _ => none

/-- The signal that a member is granted: the only one, without accessor options besides. -/
def grantedSignal? (m : Member) : Option SignalRequest :=
  match m.accessorRequest?, m.signalRequests with
  | none, [signal] => some signal
  | _, _ => none

/-- A member that is granted a property is granted no signal. -/
theorem grantedSignal?_eq_none {m : Member} {spec : PropertySpec} (h : m.grantedSpec? = some spec) :
    m.grantedSignal? = none := by
  rw [grantedSpec?] at h
  rw [grantedSignal?]
  cases haccessor : m.accessorRequest? with
  | some request => rfl
  | none =>
    rw [haccessor] at h
    exact absurd h (by simp)

/-- What is granted does not depend on the type of the member. -/
theorem grantedSpec?_withType (m : Member) (type : Option TypeRef) :
    (m.withType type).grantedSpec? = m.grantedSpec? := rfl

theorem grantedSignal?_withType (m : Member) (type : Option TypeRef) :
    (m.withType type).grantedSignal? = m.grantedSignal? := rfl

/-- The field that the accessor and signal directives make of a field. -/
def carriedOut (m : Member) : Member :=
  let m := m.withType m.inferredType
  match m.grantedSpec?, m.grantedSignal? with
  | some spec, _ => spec.property m
  | none, some signal => (signal.spec m).property (signal.published m)
  | none, none => m

theorem inferredType_withType (m : Member) :
    (m.withType m.inferredType).inferredType = m.inferredType := by
  change (m.inferredType <|> m.body.bind (·.literalType?)) = m.inferredType
  rw [inferredType]
  cases m.type <;> cases m.body.bind (·.literalType?) <;> rfl

end Member

namespace Synthesis

variable {c : Context} {d : TypeDecl} {m : Member} {found : Diagnostics}

/-- **Carrying out the directives of a member** makes a field what it is to be, whatever names are
taken, and nothing of a method. -/
theorem propertyOf_fst (d : TypeDecl) (m : Member) (p : Progress) :
    (propertyOf d m p).1 = if m.isField then m.carriedOut else m := by
  rw [propertyOf]
  dsimp only
  by_cases hfield : m.isField = true
  · have hfield' : (m.withType m.inferredType).isField = true := hfield
    have hinferred : (m.withType m.inferredType).inferredType = m.inferredType :=
      m.inferredType_withType
    rw [if_pos hfield, if_pos hfield, Member.carriedOut, property, hfield', Member.grantedSpec?,
      Member.grantedSignal?]
    cases (m.withType m.inferredType).accessorRequest? with
    | none =>
      rcases (m.withType m.inferredType).signalRequests with _ | ⟨signal, _ | ⟨other, others⟩⟩
      · rfl
      · exact signal.field_apply _ _ _
      · rfl
    | some request =>
      rcases (m.withType m.inferredType).signalRequests with _ | ⟨signal, others⟩
      · dsimp only
        cases PropertySpec.ofRequest (m.withType m.inferredType) request with
        | error conflict => rfl
        | ok spec =>
          refine (spec.field_apply _ _).trans ?_
          rw [hinferred]
          rfl
      · rfl
  · have hfield' : m.isField = false := Bool.eq_false_iff.mpr hfield
    rw [if_neg hfield, if_neg hfield, property, hfield']
    rcases m.accessorRequest? with _ | request <;>
      rcases m.signalRequests with _ | ⟨signal, others⟩ <;> rfl

theorem directInit_fst (d : TypeDecl) (m : Member) (p : Progress) :
    (directInit d m p).1 =
      if m.isDirectInit && !d.isInterface && m.isField then { m with body := none } else m := by
  rw [directInit]
  cases m.isDirectInit <;> cases d.isInterface <;> cases m.isField <;> rfl

/-- What becomes of a declared member. -/
def settled (d : TypeDecl) (m : Member) : Member :=
  let taken := takenUp d m
  if taken.isTemplate || taken.sugar.optOut || !taken.isField then taken
  else if taken.isDirectInit && !d.isInterface then { taken.carriedOut with body := none }
  else taken.carriedOut

/-- What becomes of a declared field, if the directives of its declaration are carried out. -/
theorem settled_eq (hfield : m.isField = true) (htemplate : m.isTemplate = false)
    (hsugar : d.sugar.optOut = false) :
    settled d m =
      if m.sugar.optOut then takenUp d m
      else if m.isDirectInit && !d.isInterface then { (takenUp d m).carriedOut with body := none }
      else (takenUp d m).carriedOut := by
  have hfield' : (takenUp d m).isField = true := hfield
  have htemplate' : (takenUp d m).isTemplate = false := htemplate
  have hasks : (takenUp d m).isDirectInit = m.isDirectInit := rfl
  rw [settled, hfield', htemplate', optOut_takenUp hsugar, hasks]
  cases m.sugar.optOut <;> rfl

/-- **A group begins with its declared member, settled.** What stands behind it are accessors and
triggers. -/
theorem exists_member_eq_settled (d : TypeDecl) (m : Member) (p : Progress) :
    ∃ added, (member d m p).1 = settled d m :: added ∧
      added ⊆ (propertyOf d (takenUp d m) p).2.1 := by
  by_cases hleft : m.isTemplate = true ∨ (takenUp d m).sugar.optOut = true
  · obtain ⟨found, hmember⟩ := exists_member_eq_takenUp hleft p
    have hsettled : settled d m = takenUp d m := by
      have htemplate : (takenUp d m).isTemplate = m.isTemplate := rfl
      rw [settled, htemplate]
      obtain h | h := hleft <;> simp [h]
    exact ⟨[], by rw [hmember, hsettled], List.nil_subset _⟩
  · obtain ⟨htemplate, hopt⟩ := not_or.mp hleft
    rw [Bool.not_eq_true] at htemplate hopt
    have htemplate' : (takenUp d m).isTemplate = false := htemplate
    have hreshapes := reshapes_propertyOf d (takenUp d m) p
    have hasks : (propertyOf d (takenUp d m) p).1.isDirectInit = (takenUp d m).isDirectInit := by
      rw [Member.isDirectInit, hreshapes.directives_eq]
      rfl
    have hfield : (propertyOf d (takenUp d m) p).1.isField = (takenUp d m).isField :=
      Member.isField_eq_of_label hreshapes.label_eq
    have hsettled : (directInit d (propertyOf d (takenUp d m) p).1
        (propertyOf d (takenUp d m) p).2.2).1 = settled d m := by
      rw [directInit_fst, hasks, hfield, propertyOf_fst, settled, htemplate', hopt]
      cases (takenUp d m).isField <;> simp
    exact ⟨_, by rw [member_eq_directInit htemplate hopt, hsettled], List.Subset.refl _⟩

theorem reshapes_settled (d : TypeDecl) (m : Member) : (takenUp d m).Reshapes (settled d m) := by
  obtain ⟨added, hsettled, -⟩ := exists_member_eq_settled d m default
  obtain hgroup | ⟨-, kept, hkept, hgroup⟩ := member_cases d m default
  · rw [hgroup] at hsettled
    exact (List.cons.inj hsettled).1 ▸ .refl _
  · rw [hgroup] at hsettled
    exact (List.cons.inj hsettled).1 ▸ hkept

theorem isTemplate_settled : (settled d m).isTemplate = m.isTemplate := by
  rw [Member.isTemplate, (reshapes_settled d m).directives_eq]
  rfl

theorem visibility_settled_ne_hidden (h : m.visibility ≠ some .hidden) :
    (settled d m).visibility ≠ some .hidden := by
  rw [(reshapes_settled d m).visibility_eq]
  exact Member.visibility_publish_ne_hidden h

/-- Each declared member is planned, settled. -/
theorem settled_mem_planned (hm : m ∈ d.members) : settled d m ∈ (planned c d found).1 := by
  obtain ⟨p, hplanned⟩ : ∃ p, (member d m p).1 ⊆ (planned c d found).1 :=
    exists_member_subset_planned hm
  obtain ⟨added, hgroup, -⟩ := exists_member_eq_settled d m p
  exact hplanned (hgroup ▸ List.mem_cons_self)

/-! ### In the finished plan -/

/-- **What is assembled** for a type stands in its finished plan, if emission keeps it. A member of
the constructor's name may have been given statements to begin with. -/
theorem exists_mem_emit_of_mem_assembled (hm : m ∈ assembled c d found)
    (htemplate : m.isTemplate = false)
    (hvisible : d.isInterface = true → m.visibility ≠ some .hidden) :
    ∃ m' ∈ (expanded c d found).1.emit.members, m' = m.emit d.isInterface ∨
      m.name = constructorName ∧ m' = (initialized c d found m).emit d.isInterface := by
  obtain ⟨m', hm', hsame⟩ := exists_mem_expanded hm
  have hkept : m'.isTemplate = m.isTemplate ∧ m'.visibility = m.visibility := by
    obtain rfl | ⟨-, rfl⟩ := hsame <;> exact ⟨rfl, rfl⟩
  have hkeeps : (expanded c d found).1.keeps m' = true := by
    rw [TypeDecl.keeps, kind_expanded, hkept.1, hkept.2, htemplate]
    cases hinterface : d.isInterface with
    | true => simpa using hvisible hinterface
    | false => rfl
  refine ⟨_, List.mem_map_of_mem (List.mem_filter.mpr ⟨hm', hkeeps⟩), ?_⟩
  rw [kind_expanded]
  obtain rfl | ⟨hname, rfl⟩ := hsame
  · exact .inl rfl
  · exact .inr ⟨hname, rfl⟩

/-- **What is left of a declared member** in the finished plan. -/
theorem exists_settled_emit (hd : c.sugarEnabled d = true) (hm : m ∈ d.members)
    (htemplate : m.isTemplate = false)
    (hvisible : d.isInterface = true → m.visibility ≠ some .hidden) :
    ∃ m' ∈ (ofDecl c d).1.emit.members, m' = (settled d m).emit d.isInterface ∨
      m.name = constructorName ∧
        m' = (initialized c d (preliminary c d) (settled d m)).emit d.isInterface := by
  have hname : (settled d m).name = m.name :=
    Member.name_eq_of_label (reshapes_settled d m).label_eq
  rw [ofDecl, if_pos hd, ← hname]
  exact exists_mem_emit_of_mem_assembled (List.mem_append_left _ (settled_mem_planned hm))
    (isTemplate_settled.trans htemplate)
    fun hinterface => visibility_settled_ne_hidden (hvisible hinterface)

end Synthesis

end DeclWeave
