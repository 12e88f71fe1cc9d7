import DeclWeave.Expansion.Basic
import DeclWeave.Proofs.AttributedFindings
import DeclWeave.Proofs.ExpansionOrder
import DeclWeave.Proofs.SynthesizedNames

/-!
# The Work on a Unit

The types of a unit are expanded one after the other: a queue of all interfaces and then all
classes, both in dependency order. `Pass.expandType` is one step of this work, and
`Pass.expandType_eq` says everything that it does. What is found is only added to, and the plan of
a type is the one made at its turn, against what its forerunners in the queue left.

## Main results

* `Pass.run_eq`: the work on a unit is the queue, taken from a start.
* `Pass.find?_finished`, `Pass.find?_donors`: what a part of the queue leaves under the name of a
  type.
* `mem_before_iff`: which types have been expanded when it is the turn of one.
* `plan?_expand`, `about_expand`: the plan of a type and the findings about it are those of its
  turn.
-/

namespace DeclWeave

namespace TypeDecl

@[simp] theorem name_emit (d : TypeDecl) : d.emit.name = d.name := rfl

variable {d : TypeDecl} {m : Member}

/-- Emission leaves out members and keeps the labels of the others. -/
theorem exists_label_eq_of_mem_emit (h : m ∈ d.emit.members) :
    ∃ m' ∈ d.members, m'.label = m.label := by
  obtain ⟨m', hm', rfl⟩ := List.mem_map.mp h
  exact ⟨m', (List.mem_filter.mp hm').1, (m'.label_emit _).symm⟩

theorem nodup_memberNames_emit (h : d.memberNames.Nodup) : d.emit.memberNames.Nodup := by
  have hnames : d.emit.memberNames = (d.members.filter d.keeps).map (·.name) := by
    rw [memberNames, emit, List.map_map]
    rfl
  rw [hnames]
  exact h.sublist (List.filter_sublist.map _)

end TypeDecl

namespace DonorRegistry

/-- A bank that is added is the one found under its name. -/
theorem find?_insert (r : DonorRegistry) (bank : DonorBank) (name : String) :
    (r.insert bank).find? name = if bank.name = name then some bank else r.find? name := by
  rw [find?, insert, List.find?_append]
  by_cases h : bank.name = name
  · subst h
    have hnone : (r.banks.filter (·.name != bank.name)).find? (·.name == bank.name) = none := by
      refine List.find?_eq_none.mpr fun b hb => ?_
      simpa using (List.mem_filter.mp hb).2
    rw [hnone, if_pos rfl]
    simp
  · have hsame : (r.banks.filter (·.name != bank.name)).find? (·.name == name) =
        r.find? name := by
      rw [List.find?_filter, find?]
      congr 1
      funext b
      by_cases hb : b.name = name <;> simp [hb, Ne.symm h]
    rw [hsame, if_neg h]
    simp [h]

end DonorRegistry

namespace Expansion

/-! ### First declarations -/

theorem map_fst_markFirst (seen : List String) (ds : List TypeDecl) :
    (markFirst seen ds).map Prod.fst = ds := by
  induction ds generalizing seen with
  | nil => rfl
  | cons d ds ih => rw [markFirst, List.map_cons, ih]

/-- With distinct names, each declaration is the first of its name. -/
theorem markFirst_eq_of_nodup {seen : List String} {ds : List TypeDecl}
    (h : (ds.map (·.name)).Nodup) (hseen : ∀ d ∈ ds, d.name ∉ seen) :
    markFirst seen ds = ds.map (·, true) := by
  induction ds generalizing seen with
  | nil => rfl
  | cons d ds ih =>
    obtain ⟨hd, hds⟩ := List.nodup_cons.mp h
    obtain ⟨hnew, hseen⟩ := List.forall_mem_cons.mp hseen
    rw [markFirst, List.map_cons, ih hds fun e he => ?_]
    · simp [hnew]
    · rw [List.mem_cons, not_or]
      exact ⟨fun heq => hd (List.mem_map.mpr ⟨e, he, heq⟩), hseen e he⟩

/-- If each declaration is the first of its name, the names are distinct. -/
theorem nodup_of_markFirst (seen : List String) {ds : List TypeDecl}
    (h : ∀ entry ∈ markFirst seen ds, entry.2 = true) :
    (ds.map (·.name)).Nodup ∧ ∀ d ∈ ds, d.name ∉ seen := by
  induction ds generalizing seen with
  | nil => exact ⟨List.nodup_nil, by simp⟩
  | cons d ds ih =>
    rw [markFirst, List.forall_mem_cons] at h
    obtain ⟨hds, hnew⟩ := ih _ h.2
    refine ⟨List.nodup_cons.mpr ⟨fun hmem => ?_, hds⟩, List.forall_mem_cons.mpr ⟨?_, ?_⟩⟩
    · obtain ⟨e, he, hname⟩ := List.mem_map.mp hmem
      exact hnew e he (List.mem_cons.mpr (.inl hname))
    · simpa using h.1
    · exact fun e he hmem => hnew e he (List.mem_cons_of_mem _ hmem)

namespace Pass

/-! ### One step -/

/-- Expands a type. -/
def expandType (p : Pass) (d : TypeDecl) : Pass :=
  if d.isInterface then p.expandInterface d else p.expandClass d

/-- Whether a type becomes a donor when it is expanded. -/
def donates (c : Context) (d : TypeDecl) : Bool :=
  d.isInterface && c.sugarEnabled d

/-- What is found when a type is expanded. -/
def findings (c : Context) (d : TypeDecl) : Diagnostics :=
  let (plan, found) := Synthesis.ofDecl c d
  if donates c d then found ++ (DonorBank.ofDecl c.settings plan).2 else found

/-- **Whatever is found** when a type is expanded is attributed to it, at a place in its
declaration. -/
theorem within_findings (c : Context) (d : TypeDecl) :
    (findings c d).Within d.name d.places := by
  have hfound := Synthesis.within_ofDecl c d
  have hdonor := DonorBank.within_ofDecl c.settings (Synthesis.ofDecl c d).1
  rw [Synthesis.name_ofDecl, TypeDecl.span_eq_of_header (Synthesis.header_ofDecl c d)] at hdonor
  rw [findings]
  dsimp only
  split
  · exact hfound.append (hdonor.mono (List.cons_subset.mpr ⟨d.span_mem_places, by simp⟩))
  · exact hfound

theorem about_findings (c : Context) (d : TypeDecl) : (findings c d).About d.name :=
  (within_findings c d).about

/-- The donors known when a type has been expanded. -/
def donorsAfter (c : Context) (d : TypeDecl) : DonorRegistry :=
  if donates c d then c.donors.insert (DonorBank.ofDecl c.settings (Synthesis.ofDecl c d).1).1
  else c.donors

/-- **What a step does.** The plan is taken in at the end, an interface may become a donor, and the
type has failed if an error is among the findings. -/
theorem expandType_eq (p : Pass) (d : TypeDecl) :
    p.expandType d =
      { context :=
          { p.context with
            finished := p.context.finished ++ [(Synthesis.ofDecl p.context d).1.emit]
            donors := donorsAfter p.context d }
        failed := if (findings p.context d).hasErrors then d.name :: p.failed else p.failed
        found := p.found ++ findings p.context d } := by
  rw [expandType, findings, donorsAfter, donates]
  cases hinterface : d.isInterface with
  | false => simp [expandClass, finish]
  | true =>
    cases hsugar : p.context.sugarEnabled d with
    | false => simp [expandInterface, finish, hsugar]
    | true => simp [expandInterface, finish, hsugar, DonorRegistry.register]

/-! ### The queue -/

/-- The types in the order in which they are expanded. -/
def queue (types : List TypeDecl) : List TypeDecl :=
  (Order.sorted types).filter (·.isInterface) ++ (Order.sorted types).filter (!·.isInterface)

/-- The work before any type is expanded: what is wrong with the unit as a whole is reported. -/
def start (settings : Settings) (marked : List (TypeDecl × Bool)) : Pass :=
  let types := (marked.filter (·.2)).map (·.1)
  let repeated := (marked.filter (!·.2)).map (·.1)
  let p : Pass := { context := { settings, types }, failed := [], found := {} }
  (Order.cyclic types).foldl (report .inheritanceCycle)
    (repeated.foldl (report .duplicateType) p)

/-- **The work on a unit** takes its queue from a start. -/
theorem run_eq (settings : Settings) (marked : List (TypeDecl × Bool)) :
    run settings marked =
      (queue ((marked.filter (·.2)).map (·.1))).foldl expandType (start settings marked) := by
  have hinterfaces : ∀ (types : List TypeDecl) (p : Pass),
      (types.filter (·.isInterface)).foldl expandInterface p =
        (types.filter (·.isInterface)).foldl expandType p := by
    intro types p
    refine List.foldl_ext _ _ p fun p' d hd => ?_
    rw [expandType, if_pos (List.mem_filter.mp hd).2]
  have hclasses : ∀ (types : List TypeDecl) (p : Pass),
      (types.filter (!·.isInterface)).foldl expandClass p =
        (types.filter (!·.isInterface)).foldl expandType p := by
    intro types p
    refine List.foldl_ext _ _ p fun p' d hd => ?_
    have hclass : d.isInterface = false := by simpa using (List.mem_filter.mp hd).2
    simp [expandType, hclass]
  rw [queue, List.foldl_append, ← hinterfaces, ← hclasses]
  rfl

theorem mem_of_mem_queue {types : List TypeDecl} {d : TypeDecl} (h : d ∈ queue types) :
    d ∈ types := by
  rcases List.mem_append.mp h with h | h
  · exact Order.mem_of_mem_sorted (List.mem_filter.mp h).1
  · exact Order.mem_of_mem_sorted (List.mem_filter.mp h).1

theorem mem_queue {types : List TypeDecl} (hnames : (types.map (·.name)).Nodup) {d : TypeDecl} :
    d ∈ queue types ↔ d ∈ types := by
  rw [queue, List.mem_append, List.mem_filter, List.mem_filter, Order.mem_sorted hnames]
  cases d.isInterface <;> simp

theorem nodup_map_name_queue (types : List TypeDecl) : ((queue types).map (·.name)).Nodup := by
  have hperm : (queue types).Perm (Order.sorted types) :=
    List.filter_append_perm _ _
  exact (hperm.map _).nodup_iff.mpr (Order.nodup_map_name_sorted types)

/-- What comes before a class in dependency order is expanded before it. -/
theorem exists_queue_eq_of_class {types : List TypeDecl} {d : TypeDecl} {k₁ k₂ : List TypeDecl}
    (hsorted : Order.sorted types = k₁ ++ d :: k₂) (hd : d.isInterface = false) :
    ∃ l₁ l₂, queue types = l₁ ++ d :: l₂ ∧ k₁ ⊆ l₁ := by
  refine ⟨(Order.sorted types).filter (·.isInterface) ++ k₁.filter (!·.isInterface),
    k₂.filter (!·.isInterface), ?_, ?_⟩
  · rw [queue, List.append_assoc]
    congr 1
    rw [hsorted]
    simp [hd]
  · intro e he
    rw [List.mem_append, List.mem_filter, List.mem_filter, hsorted]
    cases e.isInterface <;> simp [he]

/-- Of what comes before an interface in dependency order, just the interfaces are expanded before
it. -/
theorem exists_queue_eq_of_interface {types : List TypeDecl} {d : TypeDecl}
    {k₁ k₂ : List TypeDecl} (hsorted : Order.sorted types = k₁ ++ d :: k₂)
    (hd : d.isInterface = true) :
    ∃ l₂, queue types = k₁.filter (·.isInterface) ++ d :: l₂ := by
  refine ⟨k₂.filter (·.isInterface) ++ (Order.sorted types).filter (!·.isInterface), ?_⟩
  rw [queue]
  nth_rewrite 1 [hsorted]
  simp [hd]

/-! ### What the queue leaves -/

section Queue

variable (p : Pass) (l : List TypeDecl)

@[simp] theorem settings_foldl : (l.foldl expandType p).context.settings = p.context.settings := by
  induction l generalizing p with
  | nil => rfl
  | cons d l ih => rw [List.foldl_cons, ih, expandType_eq]

@[simp] theorem types_foldl : (l.foldl expandType p).context.types = p.context.types := by
  induction l generalizing p with
  | nil => rfl
  | cons d l ih => rw [List.foldl_cons, ih, expandType_eq]

theorem map_name_finished_foldl :
    (l.foldl expandType p).context.finished.map (·.name) =
      p.context.finished.map (·.name) ++ l.map (·.name) := by
  induction l generalizing p with
  | nil => simp
  | cons d l ih =>
    rw [List.foldl_cons, ih, expandType_eq]
    simp

/-- Plans once taken in stay, in their order. -/
theorem exists_finished_eq : ∃ more,
    (l.foldl expandType p).context.finished = p.context.finished ++ more := by
  induction l generalizing p with
  | nil => exact ⟨[], by simp⟩
  | cons d l ih =>
    obtain ⟨more, hmore⟩ := ih (p.expandType d)
    refine ⟨(Synthesis.ofDecl p.context d).1.emit :: more, ?_⟩
    rw [List.foldl_cons, hmore, expandType_eq]
    simp

/-- **Findings** are never taken back, and none that is added is about the unit as a whole. -/
theorem exists_found_eq : ∃ more,
    (l.foldl expandType p).found.entries = p.found.entries ++ more ∧
      ∀ entry ∈ more, entry.fault.cause.isOfUnit = false := by
  induction l generalizing p with
  | nil => exact ⟨[], by simp⟩
  | cons d l ih =>
    obtain ⟨more, hmore, hcause⟩ := ih (p.expandType d)
    refine ⟨(findings p.context d).entries ++ more, ?_, fun entry hentry => ?_⟩
    · rw [List.foldl_cons, hmore, expandType_eq]
      simp
    · rcases List.mem_append.mp hentry with hentry | hentry
      · exact (about_findings p.context d entry hentry).isOfUnit_eq
      · exact hcause entry hentry

/-- A plan that is taken in is one that synthesis makes. -/
theorem exists_of_mem_finished {plan : TypeDecl}
    (h : plan ∈ (l.foldl expandType p).context.finished) :
    plan ∈ p.context.finished ∨ ∃ c, ∃ d ∈ l, plan = (Synthesis.ofDecl c d).1.emit := by
  induction l generalizing p with
  | nil => exact .inl h
  | cons d l ih =>
    rcases ih _ h with h | ⟨c, e, he, hplan⟩
    · rw [expandType_eq] at h
      rcases List.mem_append.mp h with h | h
      · exact .inl h
      · exact .inr ⟨p.context, d, List.mem_cons_self, List.mem_singleton.mp h⟩
    · exact .inr ⟨c, e, List.mem_cons_of_mem _ he, hplan⟩

end Queue

variable {p : Pass} {l l₁ l₂ : List TypeDecl} {d : TypeDecl}

theorem not_mem_of_nodup (hnames : ((l₁ ++ d :: l₂).map (·.name)).Nodup) :
    d.name ∉ l₁.map (·.name) ∧ d.name ∉ l₂.map (·.name) := by
  rw [List.map_append, List.map_cons, List.nodup_middle, List.nodup_cons, List.mem_append,
    not_or] at hnames
  exact hnames.1

/-- **The plan of a type** is the one made at its turn. -/
theorem find?_finished (hstart : p.context.finished = []) (hnames : (l.map (·.name)).Nodup)
    (hl : l = l₁ ++ d :: l₂) :
    (l.foldl expandType p).context.finished.find? (·.name == d.name) =
      some (Synthesis.ofDecl (l₁.foldl expandType p).context d).1.emit := by
  subst hl
  have hbefore : (l₁.foldl expandType p).context.finished.find? (·.name == d.name) = none := by
    rw [TypeDecl.find?_name_eq_none_iff, map_name_finished_foldl, hstart]
    exact (not_mem_of_nodup hnames).1
  rw [List.foldl_append, List.foldl_cons]
  obtain ⟨more, hmore⟩ := exists_finished_eq ((l₁.foldl expandType p).expandType d) l₂
  rw [hmore, expandType_eq, List.append_assoc, List.find?_append, hbefore]
  simp

/-- The turn of a type leaves the donors of other names. -/
theorem find?_donors_expandType {name : String} (h : d.name ≠ name) :
    (p.expandType d).context.donors.find? name = p.context.donors.find? name := by
  rw [expandType_eq]
  dsimp only [donorsAfter]
  split
  · have hbank := DonorBank.name_ofDecl p.context.settings (Synthesis.ofDecl p.context d).1
    rw [DonorRegistry.find?_insert, hbank, Synthesis.name_ofDecl, if_neg h]
  · rfl

/-- A name that is not in the queue keeps its donor. -/
theorem find?_donors_of_not_mem {name : String} (h : name ∉ l.map (·.name)) :
    (l.foldl expandType p).context.donors.find? name = p.context.donors.find? name := by
  refine List.foldlRecOn (motive := fun q : Pass =>
    q.context.donors.find? name = p.context.donors.find? name) l expandType rfl fun q hq d hd => ?_
  rw [find?_donors_expandType (ne_of_mem_of_not_mem (List.mem_map_of_mem hd) h), hq]

/-- **The donor of a type** is made from the plan of its turn. -/
theorem find?_donors (hnames : (l.map (·.name)).Nodup) (hl : l = l₁ ++ d :: l₂) :
    (l.foldl expandType p).context.donors.find? d.name =
      if donates (l₁.foldl expandType p).context d then
        some (DonorBank.ofDecl p.context.settings
          (Synthesis.ofDecl (l₁.foldl expandType p).context d).1).1
      else p.context.donors.find? d.name := by
  subst hl
  obtain ⟨hbefore, hafter⟩ := not_mem_of_nodup hnames
  rw [List.foldl_append, List.foldl_cons, find?_donors_of_not_mem hafter, expandType_eq]
  dsimp only [donorsAfter]
  split
  · have hbank := DonorBank.name_ofDecl (l₁.foldl expandType p).context.settings
      (Synthesis.ofDecl (l₁.foldl expandType p).context d).1
    rw [DonorRegistry.find?_insert, hbank, Synthesis.name_ofDecl, if_pos rfl, settings_foldl]
  · exact find?_donors_of_not_mem hbefore

/-- The turn of a type fails no other. -/
theorem mem_failed_expandType {name : String} (h : d.name ≠ name) :
    name ∈ (p.expandType d).failed ↔ name ∈ p.failed := by
  rw [expandType_eq]
  dsimp only
  split
  · rw [List.mem_cons, or_iff_right (Ne.symm h)]
  · rfl

theorem mem_failed_foldl_of_not_mem {name : String} (h : name ∉ l.map (·.name)) :
    name ∈ (l.foldl expandType p).failed ↔ name ∈ p.failed := by
  refine List.foldlRecOn (motive := fun q : Pass => name ∈ q.failed ↔ name ∈ p.failed) l expandType
    Iff.rfl fun q hq d hd => ?_
  rw [mem_failed_expandType (ne_of_mem_of_not_mem (List.mem_map_of_mem hd) h), hq]

/-- A type fails by what is found at its turn. -/
theorem mem_failed_foldl (hnames : (l.map (·.name)).Nodup) (hl : l = l₁ ++ d :: l₂) :
    d.name ∈ (l.foldl expandType p).failed ↔
      (findings (l₁.foldl expandType p).context d).hasErrors = true ∨ d.name ∈ p.failed := by
  subst hl
  obtain ⟨hbefore, hafter⟩ := not_mem_of_nodup hnames
  rw [List.foldl_append, List.foldl_cons, mem_failed_foldl_of_not_mem hafter, expandType_eq]
  dsimp only
  split
  · simp [*]
  · rw [mem_failed_foldl_of_not_mem hbefore]
    simp [*]

/-- The findings about the type of a name. -/
def about (name : String) (ds : Diagnostics) : List Diagnostic :=
  ds.entries.filter (·.fault.source? == some name)

theorem about_append_of_about {ds more : Diagnostics} {name : String} (h : more.About name)
    (other : String) : about other (ds ++ more) =
      about other ds ++ if name = other then more.entries else [] := by
  rw [about, about, Diagnostics.entries_append, List.filter_append]
  congr 1
  split
  · rename_i heq
    refine List.filter_eq_self.mpr fun entry hentry => ?_
    rw [(h entry hentry).source?_eq, heq, beq_self_eq_true]
  · rename_i hne
    refine List.filter_eq_nil_iff.mpr fun entry hentry => ?_
    simpa [(h entry hentry).source?_eq] using hne

theorem about_foldl_of_not_mem {name : String} (h : name ∉ l.map (·.name)) :
    about name (l.foldl expandType p).found = about name p.found := by
  induction l generalizing p with
  | nil => rfl
  | cons d l ih =>
    rw [List.map_cons, List.mem_cons, not_or] at h
    rw [List.foldl_cons, ih h.2, expandType_eq, about_append_of_about (about_findings _ _),
      if_neg (Ne.symm h.1), List.append_nil]

/-- The findings about a type are those of its turn. -/
theorem about_foldl (hnames : (l.map (·.name)).Nodup) (hl : l = l₁ ++ d :: l₂) :
    about d.name (l.foldl expandType p).found =
      about d.name p.found ++ (findings (l₁.foldl expandType p).context d).entries := by
  subst hl
  obtain ⟨hbefore, hafter⟩ := not_mem_of_nodup hnames
  rw [List.foldl_append, List.foldl_cons, about_foldl_of_not_mem hafter, expandType_eq,
    about_append_of_about (about_findings _ _), about_foldl_of_not_mem hbefore, if_pos rfl]

/-! ### The scope of a turn -/

/-- Finished plans have the headers of the types they stand for. -/
def Faithful (c : Context) : Prop :=
  ∀ plan ∈ c.finished,
    (c.types.find? (·.name == plan.name)).map (·.header) = some plan.header

theorem faithful_foldl (hstart : p.context.finished = [])
    (hnames : (p.context.types.map (·.name)).Nodup) (hl : l ⊆ p.context.types) :
    Faithful (l.foldl expandType p).context := by
  intro plan hplan
  rcases exists_of_mem_finished p l hplan with hplan | ⟨c, d, hd, rfl⟩
  · rw [hstart] at hplan
    exact absurd hplan List.not_mem_nil
  · rw [types_foldl, TypeDecl.name_emit, Synthesis.name_ofDecl,
      TypeDecl.find?_name_eq_some hnames (hl hd), TypeDecl.header_emit, Synthesis.header_ofDecl]
    rfl

/-- Whether a type is finished or not, what is found under its name has its header. -/
theorem header_find?_scope {c : Context} (h : Faithful c) (name : String) :
    (c.scope.find? name).map (·.header) =
      (c.types.find? (·.name == name)).map (·.header) := by
  rw [TypeScope.find?, Context.scope, List.find?_append]
  cases hfind : c.finished.find? (·.name == name) with
  | none => rfl
  | some plan =>
    have hplan := h plan (List.mem_of_find?_eq_some hfind)
    rw [TypeDecl.name_of_find? hfind] at hplan
    exact hplan.symm

/-! ### The start -/

theorem context_foldl_report (cause : String → Cause) (ds : List TypeDecl) (p : Pass) :
    (ds.foldl (report cause) p).context = p.context := by
  induction ds generalizing p with
  | nil => rfl
  | cons d ds ih => exact ih _

theorem entries_foldl_report (cause : String → Cause) (ds : List TypeDecl) (p : Pass) :
    (ds.foldl (report cause) p).found.entries =
      p.found.entries ++ ds.map fun d => ⟨.error, d.fault (cause d.name) d.span⟩ := by
  induction ds generalizing p with
  | nil => simp
  | cons d ds ih =>
    rw [List.foldl_cons, ih]
    simp [report]

@[simp] theorem context_start (settings : Settings) (marked : List (TypeDecl × Bool)) :
    (start settings marked).context =
      { settings, types := (marked.filter (·.2)).map (·.1) } := by
  rw [start, context_foldl_report, context_foldl_report]

theorem entries_start (settings : Settings) (marked : List (TypeDecl × Bool)) :
    (start settings marked).found.entries =
      (((marked.filter (!·.2)).map (·.1)).map fun d =>
        ⟨.error, d.fault (.duplicateType d.name) d.span⟩) ++
      (Order.cyclic ((marked.filter (·.2)).map (·.1))).map fun d =>
        ⟨.error, d.fault (.inheritanceCycle d.name) d.span⟩ := by
  rw [start, entries_foldl_report, entries_foldl_report]
  rfl

/-! ### Units with distinct names -/

/-- The work on types with distinct names when some of them have been expanded. -/
def after (settings : Settings) (types l : List TypeDecl) : Pass :=
  l.foldl expandType (start settings (types.map (·, true)))

section After

variable (settings : Settings) (types : List TypeDecl)

theorem firsts_eq : ((types.map (·, true)).filter (·.2)).map (·.1) = types := by
  rw [List.filter_eq_self.mpr (by simp), List.map_map]
  exact List.map_id _

@[simp] theorem settings_after (l : List TypeDecl) :
    (after settings types l).context.settings = settings := by
  rw [after, settings_foldl, context_start]

@[simp] theorem types_after (l : List TypeDecl) :
    (after settings types l).context.types = types := by
  rw [after, types_foldl, context_start, firsts_eq]

theorem faithful_after {l : List TypeDecl} (hnames : (types.map (·.name)).Nodup)
    (hl : l ⊆ types) : Faithful (after settings types l).context := by
  refine faithful_foldl ?_ ?_ ?_ <;> rw [context_start]
  · rwa [firsts_eq]
  · rwa [firsts_eq]

theorem run_eq_after :
    run settings (types.map (·, true)) = after settings types (queue types) := by
  rw [run_eq, firsts_eq, after]

end After

end Pass

open Pass

/-- The plan of a type in a queue is the one made at its turn. -/
theorem find?_finished_after (settings : Settings) {types : List TypeDecl} {d : TypeDecl}
    {l l₁ l₂ : List TypeDecl} (hnames : (l.map (·.name)).Nodup) (hl : l = l₁ ++ d :: l₂) :
    (after settings types l).context.finished.find? (·.name == d.name) =
      some (Synthesis.ofDecl (after settings types l₁).context d).1.emit :=
  find?_finished (by simp) hnames hl

/-- A type that has been expanded is looked up as its plan. -/
theorem find?_scope_after (settings : Settings) {types : List TypeDecl} {d : TypeDecl}
    {l l₁ l₂ : List TypeDecl} (hnames : (l.map (·.name)).Nodup) (hl : l = l₁ ++ d :: l₂) :
    (after settings types l).context.scope.find? d.name =
      some (Synthesis.ofDecl (after settings types l₁).context d).1.emit := by
  rw [TypeScope.find?, Context.scope, List.find?_append,
    find?_finished_after settings hnames hl, Option.some_or]

/-! ### Turns -/

/-- The types that are expanded before the type of a name. -/
def before (types : List TypeDecl) (name : String) : List TypeDecl :=
  (queue types).takeWhile (·.name ≠ name)

/-- What synthesis looks at when it is the turn of the type of a name. -/
def turn (settings : Settings) (types : List TypeDecl) (name : String) : Context :=
  (after settings types (before types name)).context

@[simp] theorem settings_turn (settings : Settings) (types : List TypeDecl) (name : String) :
    (turn settings types name).settings = settings :=
  settings_after settings types _

@[simp] theorem types_turn (settings : Settings) (types : List TypeDecl) (name : String) :
    (turn settings types name).types = types :=
  types_after settings types _

section Turns

variable {settings : Settings} {types : List TypeDecl} {d e : TypeDecl}

theorem before_eq {l₁ l₂ : List TypeDecl} (hqueue : queue types = l₁ ++ d :: l₂) :
    before types d.name = l₁ := by
  have hnames := nodup_map_name_queue types
  rw [hqueue] at hnames
  have hne : ∀ e ∈ l₁, e.name ≠ d.name := fun e he heq =>
    (not_mem_of_nodup hnames).1 (List.mem_map.mpr ⟨e, he, heq⟩)
  rw [before, hqueue, List.takeWhile_append_of_pos (by simpa using hne)]
  simp

theorem exists_queue_eq (hnames : (types.map (·.name)).Nodup) (hd : d ∈ types) :
    ∃ rest, queue types = before types d.name ++ d :: rest := by
  obtain ⟨l₁, l₂, hqueue⟩ := List.append_of_mem ((mem_queue hnames).mpr hd)
  exact ⟨l₂, by rw [before_eq hqueue, hqueue]⟩

/-- What is expanded before a type was itself preceded by what comes before it. -/
theorem exists_before_eq (hnames : (types.map (·.name)).Nodup) (hd : d ∈ types)
    (he : e ∈ before types d.name) :
    ∃ rest, before types d.name = before types e.name ++ e :: rest := by
  obtain ⟨rest, hqueue⟩ := exists_queue_eq hnames hd
  obtain ⟨l₁, l₂, hsplit⟩ := List.append_of_mem he
  rw [hsplit, List.append_assoc, List.cons_append] at hqueue
  exact ⟨l₂, by rw [before_eq hqueue, hsplit]⟩

theorem mem_of_mem_before {name : String} (h : e ∈ before types name) : e ∈ types :=
  mem_of_mem_queue ((List.takeWhile_sublist _).subset h)

theorem nodup_map_name_before (name : String) : ((before types name).map (·.name)).Nodup :=
  (nodup_map_name_queue types).sublist ((List.takeWhile_sublist _).map _)

theorem not_mem_map_name_before (name : String) : name ∉ (before types name).map (·.name) := by
  intro hmem
  obtain ⟨e, he, hname⟩ := List.mem_map.mp hmem
  simpa [hname] using List.all_eq_true.mp List.all_takeWhile e he

/-- **Who comes first.** Of what comes before a type in dependency order, all is expanded before a
class, and just the interfaces before an interface. -/
theorem mem_before_iff {k₁ k₂ : List TypeDecl} (hsorted : Order.sorted types = k₁ ++ d :: k₂)
    (he : e ∈ k₁) : e ∈ before types d.name ↔ (d.isInterface → e.isInterface) := by
  cases hd : d.isInterface with
  | false =>
    obtain ⟨l₁, l₂, hqueue, hsubset⟩ := exists_queue_eq_of_class hsorted hd
    rw [before_eq hqueue]
    simpa using hsubset he
  | true =>
    obtain ⟨l₂, hqueue⟩ := exists_queue_eq_of_interface hsorted hd
    rw [before_eq hqueue, List.mem_filter]
    simp [he]

end Turns

/-! ### What can be seen at a turn -/

section Seen

variable (settings : Settings) {types l : List TypeDecl} {d e : TypeDecl} {name : String}

theorem isFinished_after_iff :
    (after settings types l).context.isFinished name ↔ name ∈ l.map (·.name) := by
  have hfinished : (after settings types l).context.finished.map (·.name) = l.map (·.name) := by
    rw [after, map_name_finished_foldl, context_start]
    rfl
  rw [← hfinished, Context.isFinished, List.any_eq_true, List.mem_map]
  simp

theorem find?_scope_after_of_not_mem (h : name ∉ l.map (·.name)) :
    (after settings types l).context.scope.find? name = types.find? (·.name == name) := by
  have hnone : (after settings types l).context.finished.find? (·.name == name) = none := by
    rw [TypeDecl.find?_name_eq_none_iff, after, map_name_finished_foldl, context_start]
    exact h
  rw [TypeScope.find?, Context.scope, List.find?_append, hnone, Option.none_or, types_after]

theorem find?_donors_after_of_not_mem (h : name ∉ l.map (·.name)) :
    (after settings types l).context.donors.find? name = none := by
  rw [after, find?_donors_of_not_mem h, context_start]
  rfl

/-- **A type expanded before** is seen as the plan of its turn. -/
theorem find?_scope_turn (hnames : (types.map (·.name)).Nodup) (hd : d ∈ types)
    (he : e ∈ before types d.name) :
    (turn settings types d.name).scope.find? e.name =
      some (Synthesis.ofDecl (turn settings types e.name) e).1.emit := by
  obtain ⟨rest, hbefore⟩ := exists_before_eq hnames hd he
  rw [turn, find?_scope_after settings (nodup_map_name_before d.name) hbefore]
  rfl

/-- **A donor registered before** is seen as the bank of its plan. -/
theorem find?_donors_turn (hnames : (types.map (·.name)).Nodup) (hd : d ∈ types)
    (he : e ∈ before types d.name) :
    (turn settings types d.name).donors.find? e.name =
      if donates (turn settings types e.name) e then
        some (DonorBank.ofDecl settings (Synthesis.ofDecl (turn settings types e.name) e).1).1
      else none := by
  obtain ⟨rest, hbefore⟩ := exists_before_eq hnames hd he
  rw [turn, after, find?_donors (nodup_map_name_before d.name) hbefore, context_start]
  rfl

end Seen

/-- **The plans of a unit** with distinct names. -/
theorem plans_expand (settings : Settings) {u : SourceUnit}
    (hnames : (u.types.map (·.name)).Nodup) :
    (expand settings u).plans = u.types.map fun d =>
      ⟨(Synthesis.ofDecl (turn settings u.types d.name) d).1.emit,
        (after settings u.types (queue u.types)).failed.contains d.name⟩ := by
  rw [expand]
  dsimp only
  rw [markFirst_eq_of_nodup hnames (by simp), run_eq_after, List.map_map]
  refine List.map_congr_left fun d hd => ?_
  obtain ⟨rest, hqueue⟩ := exists_queue_eq hnames hd
  dsimp only [Function.comp_apply]
  rw [if_pos rfl, find?_finished_after settings (nodup_map_name_queue u.types) hqueue]
  rfl

theorem diagnostics_expand (settings : Settings) {u : SourceUnit}
    (hnames : (u.types.map (·.name)).Nodup) :
    (expand settings u).diagnostics = (after settings u.types (queue u.types)).found := by
  rw [expand]
  dsimp only
  rw [markFirst_eq_of_nodup hnames (by simp), run_eq_after]

section Plans

variable {settings : Settings} {u : SourceUnit} {d : TypeDecl} {plan : MemberPlan}

theorem mem_of_mem_firsts (h : d ∈ ((markFirst [] u.types).filter (·.2)).map (·.1)) :
    d ∈ u.types := by
  obtain ⟨entry, hentry, rfl⟩ := List.mem_map.mp h
  rw [← map_fst_markFirst [] u.types]
  exact List.mem_map_of_mem (List.mem_filter.mp hentry).1

/-- **A plan** is one that the pass has finished, or that of a type as it was declared. -/
theorem mem_finished_or_of_mem_plans (h : plan ∈ (expand settings u).plans) :
    plan.decl ∈ (run settings (markFirst [] u.types)).context.finished ∨
      ∃ d ∈ u.types, plan.decl = d.emit := by
  obtain ⟨⟨d, first⟩, hentry, rfl⟩ := List.mem_map.mp h
  have hd : d ∈ u.types := by
    rw [← map_fst_markFirst [] u.types]
    exact List.mem_map_of_mem hentry
  dsimp only
  cases hfind : (if first then
      (run settings (markFirst [] u.types)).context.finished.find? (·.name == d.name)
      else none) with
  | none => exact .inr ⟨d, hd, rfl⟩
  | some finished =>
    split at hfind
    · exact .inl (List.mem_of_find?_eq_some hfind)
    · exact absurd hfind (by simp)

/-- **A plan is emitted**: from a type as it was declared, or from what synthesis makes of one. -/
theorem exists_eq_emit_of_mem_plans (h : plan ∈ (expand settings u).plans) :
    ∃ e, plan.decl = e.emit ∧
      (e ∈ u.types ∨ ∃ c, ∃ d ∈ u.types, e = (Synthesis.ofDecl c d).1) := by
  rcases mem_finished_or_of_mem_plans h with hfinished | ⟨d, hd, hplan⟩
  · rw [run_eq] at hfinished
    rcases exists_of_mem_finished _ _ hfinished with hstart | ⟨c, d, hd, hplan⟩
    · rw [context_start] at hstart
      exact absurd hstart List.not_mem_nil
    · exact ⟨_, hplan, .inr ⟨c, d, mem_of_mem_firsts (mem_of_mem_queue hd), rfl⟩⟩
  · exact ⟨d, hplan, .inl hd⟩

end Plans

/-- **What is found in a unit** starts with what is found about it as a whole. -/
theorem exists_entries_expand_eq (settings : Settings) (u : SourceUnit) : ∃ more,
    (expand settings u).diagnostics.entries =
      (start settings (markFirst [] u.types)).found.entries ++ more ∧
        ∀ entry ∈ more, entry.fault.cause.isOfUnit = false := by
  obtain ⟨more, hmore, hcause⟩ := exists_found_eq (start settings (markFirst [] u.types))
    (queue (((markFirst [] u.types).filter (·.2)).map (·.1)))
  refine ⟨more, ?_, hcause⟩
  rw [← hmore, ← run_eq]
  rfl

/-! ### Units without circles -/

section Acyclic

variable (settings : Settings) {u : SourceUnit} {d : TypeDecl}

theorem start_eq {types : List TypeDecl} (hcyclic : Order.cyclic types = []) :
    start settings (types.map (·, true)) =
      { context := { settings, types }, failed := [], found := {} } := by
  have hrepeated : ((types.map (·, true)).filter (!·.2)).map (·.1) = [] := by
    rw [List.filter_eq_nil_iff.mpr (by simp), List.map_nil]
  rw [start, firsts_eq, hcyclic, hrepeated]
  rfl

/-- **The plan of a name** in a unit with distinct names and no circle reported. -/
theorem plan?_expand (hnames : (u.types.map (·.name)).Nodup) (hcyclic : Order.cyclic u.types = [])
    (name : String) : (expand settings u).plan? name = (u.find? name).map fun d =>
      ⟨(Synthesis.ofDecl (turn settings u.types d.name) d).1.emit,
        (findings (turn settings u.types d.name) d).hasErrors⟩ := by
  have hname : ((fun plan : MemberPlan => plan.decl.name == name) ∘ fun d =>
        ⟨(Synthesis.ofDecl (turn settings u.types d.name) d).1.emit,
          (after settings u.types (queue u.types)).failed.contains d.name⟩) =
      fun d : TypeDecl => d.name == name := by
    funext d
    rw [Function.comp_apply, TypeDecl.name_emit, Synthesis.name_ofDecl]
  rw [plan?, plans_expand settings hnames, List.find?_map, hname, SourceUnit.find?]
  cases hfind : u.types.find? (·.name == name) with
  | none => rfl
  | some d =>
    obtain ⟨rest, hqueue⟩ := exists_queue_eq hnames (List.mem_of_find?_eq_some hfind)
    have hfailed : d.name ∈ (after settings u.types (queue u.types)).failed ↔
        (findings (turn settings u.types d.name) d).hasErrors = true := by
      rw [after, mem_failed_foldl (nodup_map_name_queue u.types) hqueue, turn, after,
        start_eq settings hcyclic]
      simp
    rw [← List.contains_iff_mem, ← Bool.eq_iff_iff] at hfailed
    rw [Option.map_some, Option.map_some, hfailed]

/-- **The findings about a type** in such a unit. -/
theorem about_expand (hnames : (u.types.map (·.name)).Nodup) (hcyclic : Order.cyclic u.types = [])
    (hd : d ∈ u.types) : about d.name (expand settings u).diagnostics =
      (findings (turn settings u.types d.name) d).entries := by
  obtain ⟨rest, hqueue⟩ := exists_queue_eq hnames hd
  rw [diagnostics_expand settings hnames, after, about_foldl (nodup_map_name_queue u.types) hqueue,
    turn, after, start_eq settings hcyclic]
  rfl

end Acyclic

end Expansion

end DeclWeave
