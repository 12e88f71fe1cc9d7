import DeclWeave.Proofs.ExpansionPass

/-!
# Accounts of Failures

A type fails exactly when an error is reported against it, whatever the unit: a name may be
declared twice, and a type may lie on a circle. Each step of the work on a unit keeps both books
together. A report of a fault of the whole unit marks the type as failed and adds the error; the
expansion of a type marks it if an error is among the findings of its turn, and these are all
attributed to it.

## Main results

* `Pass.accounted_run`: the failed names are those that an error is attributed to, and whatever is
  found is placed in a declaration.
* `expand_accountsForFailures`: the same of the plans and findings of an expansion.
-/

namespace DeclWeave

/-- A fault that is reported about a declaration: attributed to its name, at one of its places, and
not a step that the expansion takes in silence or never. -/
structure Fault.IsOn (f : Fault) (d : TypeDecl) : Prop where
  source?_eq : f.source? = some d.name
  exists_position? : ∃ s ∈ d.places, f.position? = some (s.line, s.column)
  isPolicyConflict_eq : f.cause.isPolicyConflict = false
  ne_internal : ∀ message, f.cause ≠ .internal message

theorem Fault.IsWithin.isOn {f : Fault} {d : TypeDecl} (h : f.IsWithin d.name d.places) :
    f.IsOn d := by
  have htype := h.isOfType_eq
  refine ⟨h.source?_eq, h.exists_position?, ?_, fun message hcause => ?_⟩
  · cases hcause : f.cause <;> simp_all [Cause.isOfType, Cause.isPolicyConflict]
  · rw [hcause] at htype
    exact absurd htype (by simp [Cause.isOfType])

/-- What is said of a unit as a whole is said of a declaration at its own place. -/
theorem TypeDecl.isOn_fault {cause : Cause} (d : TypeDecl) (h : cause.isOfUnit = true) :
    (d.fault cause d.span).IsOn d := by
  refine ⟨rfl, ⟨d.span, d.span_mem_places, rfl⟩, ?_, fun message hcause => ?_⟩
  · cases cause <;> simp_all [Cause.isOfUnit, Cause.isPolicyConflict, TypeDecl.fault]
  · obtain rfl : cause = .internal message := hcause
    exact absurd h (by simp [Cause.isOfUnit])

namespace Diagnostics

/-- Whether an error is attributed to a name. -/
def Blames (ds : Diagnostics) (name : String) : Prop :=
  ∃ entry ∈ ds.entries, entry.severity = .error ∧ entry.fault.source? = some name

variable {ds more : Diagnostics} {name other : String} {f : Fault}

@[simp] theorem not_blames_empty (name : String) : ¬({} : Diagnostics).Blames name := by
  simp [Blames]

theorem blames_append : (ds ++ more).Blames name ↔ ds.Blames name ∨ more.Blames name := by
  simp [Blames, or_and_right, exists_or]

theorem blames_error : (ds.error f).Blames name ↔ ds.Blames name ∨ f.source? = some name := by
  simp [Blames, or_and_right, exists_or]

/-- Where all findings are about one name, an error is attributed to that name or to none. -/
theorem About.blames_iff (h : ds.About name) :
    ds.Blames other ↔ name = other ∧ ds.hasErrors = true := by
  simp only [Blames, hasErrors, List.any_eq_true, Diagnostic.isError, beq_iff_eq]
  constructor
  · rintro ⟨entry, hentry, herror, hsource⟩
    rw [(h entry hentry).source?_eq] at hsource
    exact ⟨Option.some.inj hsource, entry, hentry, herror⟩
  · rintro ⟨rfl, entry, hentry, herror⟩
    exact ⟨entry, hentry, herror, (h entry hentry).source?_eq⟩

end Diagnostics

namespace Expansion

namespace Pass

/-- The work on some declarations keeps its accounts: a name has failed if an error is attributed
to it, and each finding is about one of the declarations. -/
structure Accounted (types : List TypeDecl) (p : Pass) : Prop where
  mem_failed_iff : ∀ name, name ∈ p.failed ↔ p.found.Blames name
  exists_isOn : ∀ entry ∈ p.found.entries, ∃ d ∈ types, entry.fault.IsOn d

variable {types : List TypeDecl} {p : Pass} {d : TypeDecl}

/-- A report of a fault of the unit. -/
theorem Accounted.report (h : p.Accounted types) (hd : d ∈ types) {cause : String → Cause}
    (hcause : (cause d.name).isOfUnit = true) : (p.report cause d).Accounted types where
  mem_failed_iff name := by
    have hsource : (d.fault (cause d.name) d.span).source? = some name ↔ name = d.name := by
      rw [(d.isOn_fault hcause).source?_eq, Option.some.injEq, eq_comm]
    simp only [Pass.report, List.mem_cons, Diagnostics.blames_error, h.mem_failed_iff, hsource,
      or_comm]
  exists_isOn entry hentry := by
    rcases List.mem_append.mp hentry with hentry | hentry
    · exact h.exists_isOn entry hentry
    · rw [List.mem_singleton.mp hentry]
      exact ⟨d, hd, d.isOn_fault hcause⟩

theorem Accounted.foldl_report (h : p.Accounted types) {ds : List TypeDecl} (hds : ds ⊆ types)
    {cause : String → Cause} (hcause : ∀ name, (cause name).isOfUnit = true) :
    (ds.foldl (Pass.report cause) p).Accounted types := by
  induction ds generalizing p with
  | nil => exact h
  | cons d ds ih =>
    obtain ⟨hd, hds⟩ := List.cons_subset.mp hds
    exact ih (h.report hd (hcause d.name)) hds

/-- **One step** keeps the accounts: what is found is about the type whose turn it is. -/
theorem Accounted.expandType (h : p.Accounted types) (hd : d ∈ types) :
    (p.expandType d).Accounted types where
  mem_failed_iff name := by
    rw [expandType_eq, Diagnostics.blames_append, (about_findings p.context d).blames_iff,
      ← h.mem_failed_iff name]
    dsimp only
    split
    · simp [*, or_comm, eq_comm]
    · simp [*]
  exists_isOn entry hentry := by
    rw [expandType_eq] at hentry
    rcases List.mem_append.mp hentry with hentry | hentry
    · exact h.exists_isOn entry hentry
    · exact ⟨d, hd, (within_findings p.context d entry hentry).isOn⟩

/-- **The queue**, by induction. -/
theorem Accounted.foldl_expandType (h : p.Accounted types) {l : List TypeDecl} (hl : l ⊆ types) :
    (l.foldl Pass.expandType p).Accounted types := by
  induction l generalizing p with
  | nil => exact h
  | cons d l ih =>
    obtain ⟨hd, hl⟩ := List.cons_subset.mp hl
    exact ih (h.expandType hd) hl

/-- The work on declarations, of which the first of each name are expanded. -/
theorem accounted_run (settings : Settings) {marked : List (TypeDecl × Bool)} :
    (run settings marked).Accounted (marked.map (·.1)) := by
  have hmarked : ∀ (keep : TypeDecl × Bool → Bool),
      (marked.filter keep).map (·.1) ⊆ marked.map (·.1) :=
    fun keep => List.map_subset _ (List.filter_sublist.subset)
  have hcyclic : Order.cyclic ((marked.filter (·.2)).map (·.1)) ⊆ marked.map (·.1) :=
    fun d hd => hmarked (·.2) (List.mem_filter.mp hd).1
  have hqueue : queue ((marked.filter (·.2)).map (·.1)) ⊆ marked.map (·.1) :=
    fun d hd => hmarked (·.2) (mem_of_mem_queue hd)
  rw [run_eq, start]
  refine Accounted.foldl_expandType (.foldl_report (.foldl_report ⟨?_, ?_⟩ ?_ ?_) ?_ ?_) hqueue
  · simp
  · simp
  · exact hmarked (!·.2)
  · exact fun _ => rfl
  · exact hcyclic
  · exact fun _ => rfl

end Pass

/-! ### Plans and findings -/

section Plans

variable (settings : Settings) (u : SourceUnit)

/-- The plans are those of the declarations: each is named after its declaration, and has failed
if that name has. -/
theorem exists_plans_eq : ∃ planOf : TypeDecl × Bool → MemberPlan,
    (expand settings u).plans = (markFirst [] u.types).map planOf ∧
      ∀ entry, (planOf entry).decl.name = entry.1.name ∧ (planOf entry).failed =
        (Pass.run settings (markFirst [] u.types)).failed.contains entry.1.name := by
  refine ⟨_, rfl, fun ⟨d, first⟩ => ⟨?_, rfl⟩⟩
  dsimp only
  split
  · cases hfind : (Pass.run settings (markFirst [] u.types)).context.finished.find?
        (·.name == d.name) with
    | none => rfl
    | some plan => exact TypeDecl.name_of_find? hfind
  · rfl

/-- A plan has failed just if an error is attributed to its type. -/
theorem failed_iff {plan : MemberPlan} (h : plan ∈ (expand settings u).plans) :
    plan.failed = true ↔ (expand settings u).diagnostics.Blames plan.decl.name := by
  obtain ⟨planOf, hplans, hplanOf⟩ := exists_plans_eq settings u
  rw [hplans] at h
  obtain ⟨entry, -, rfl⟩ := List.mem_map.mp h
  obtain ⟨hname, hfailed⟩ := hplanOf entry
  rw [hname, hfailed, List.contains_iff_mem]
  exact (Pass.accounted_run settings).mem_failed_iff entry.1.name

/-- Each declaration has a plan of its name. -/
theorem exists_plan_of_mem {d : TypeDecl} (hd : d ∈ u.types) :
    ∃ plan ∈ (expand settings u).plans, plan.decl.name = d.name := by
  obtain ⟨planOf, hplans, hplanOf⟩ := exists_plans_eq settings u
  rw [← map_fst_markFirst [] u.types] at hd
  obtain ⟨entry, hentry, rfl⟩ := List.mem_map.mp hd
  exact ⟨planOf entry, hplans ▸ List.mem_map_of_mem hentry, (hplanOf entry).1⟩

/-- Each finding is about a declaration of the unit. -/
theorem exists_isOn_of_mem {entry : Diagnostic}
    (h : entry ∈ (expand settings u).diagnostics.entries) : ∃ d ∈ u.types, entry.fault.IsOn d := by
  rw [← map_fst_markFirst [] u.types]
  exact (Pass.accounted_run settings).exists_isOn entry h

end Plans

/-- **Failures and findings agree**, for every unit: a plan has failed just if an error is
attributed to its type; each finding is attributed to a type that is declared, at the place of a
declaration of it, of a member or of a request to forward; the expansion is fine just if no plan
failed; and neither an existing member nor a step out of turn is ever reported. -/
theorem expand_accountsForFailures (settings : Settings) (u : SourceUnit) :
    let e := expand settings u
    (∀ plan ∈ e.plans, plan.failed = true ↔
      ∃ entry ∈ e.diagnostics.entries,
        entry.severity = .error ∧ entry.fault.source? = some plan.decl.name) ∧
    (∀ entry ∈ e.diagnostics.entries, ∃ d ∈ u.types,
      entry.fault.source? = some d.name ∧
        ∃ s ∈ d.places, entry.fault.position? = some (s.line, s.column)) ∧
    (e.isOk = true ↔ ∀ plan ∈ e.plans, plan.failed = false) ∧
    (∀ entry ∈ e.diagnostics.entries,
      entry.fault.cause.isPolicyConflict = false ∧
        ∀ message, entry.fault.cause ≠ .internal message) := by
  intro e
  refine ⟨fun plan hplan => failed_iff settings u hplan, fun entry hentry => ?_, ?_,
    fun entry hentry => ?_⟩
  · obtain ⟨d, hd, hfault⟩ := exists_isOn_of_mem settings u hentry
    exact ⟨d, hd, hfault.source?_eq, hfault.exists_position?⟩
  · rw [isOk, Bool.not_eq_true', Diagnostics.hasErrors, List.any_eq_false]
    constructor
    · intro hfine plan hplan
      rw [← Bool.not_eq_true, failed_iff settings u hplan]
      rintro ⟨entry, hentry, herror, -⟩
      exact hfine entry hentry (beq_iff_eq.mpr herror)
    · intro hfailed entry hentry herror
      obtain ⟨d, hd, hfault⟩ := exists_isOn_of_mem settings u hentry
      obtain ⟨plan, hplan, hname⟩ := exists_plan_of_mem settings u hd
      have hblames : e.diagnostics.Blames plan.decl.name :=
        ⟨entry, hentry, beq_iff_eq.mp herror, hname ▸ hfault.source?_eq⟩
      rw [← failed_iff settings u hplan, hfailed plan hplan] at hblames
      exact absurd hblames (by simp)
  · obtain ⟨d, -, hfault⟩ := exists_isOn_of_mem settings u hentry
    exact ⟨hfault.isPolicyConflict_eq, hfault.ne_internal⟩

end Expansion

end DeclWeave
