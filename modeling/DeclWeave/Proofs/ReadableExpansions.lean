import DeclWeave.Proofs.LegibleMembers
import DeclWeave.Proofs.NoClobber
import DeclWeave.Proofs.ScannedPlans

/-!
# Readable Expansions

The plans of an expansion, printed without notes, are meant to read as a source: one that declares
types with the same text. Plans of sources have names that can be scanned and members of distinct
names, and every member of a plan has a visibility. So what decides is whether the members of the
plans are legible: the text reads back if all are, and if one is not, it does not.

Expansion makes illegible members of what it is given, and reports nothing. An accessor that is to
be inlined is marked so, and the mark is read as a directive. A shield around a keyword is stripped,
and the keyword is read as an option, as is one that begins a constructor written as a method. And
the initializer of a field named like a constructor is printed as the body of one.

## Main results

* `SourceUnit.reprint_textOf_iff`: the text of scanned declarations reads back exactly if they are
  legible.
* `Expansion.expand_reprints_iff`: the same of the plans of an expansion.
-/

namespace DeclWeave

/-! ### Text of declarations -/

/-- The text of some declarations, an empty line between each two. -/
def TypeDecl.textOf (layout : PrintLayout) (ds : List TypeDecl) : String :=
  "\n\n".intercalate (ds.map (·.print layout))

namespace SourceUnit

/-- The text of the declarations that are read from a source. -/
def reprint (layout : PrintLayout) (source : String) : Except Fault String := do
  return TypeDecl.textOf layout (← ofSource source).types

/-- A unit of declarations read from sources, be it one or several. -/
def IsOfSources (u : SourceUnit) : Prop :=
  ∀ d ∈ u.types, ∃ source v, ofSource source = .ok v ∧ d ∈ v.types

theorem IsOfSources.isRead {u : SourceUnit} (h : u.IsOfSources) : u.IsRead := by
  intro d hd
  obtain ⟨source, v, hread, hmem⟩ := h d hd
  exact isRead_of_ofSource hread d hmem

theorem IsOfSources.isScanned {u : SourceUnit} (h : u.IsOfSources) :
    ∀ d ∈ u.types, d.IsScanned := by
  intro d hd
  obtain ⟨source, v, hread, hmem⟩ := h d hd
  exact isScanned_of_ofSource hread d hmem

theorem isOfSources_of_ofSource {source : String} {u : SourceUnit} (h : ofSource source = .ok u) :
    u.IsOfSources :=
  fun _ hd => ⟨source, u, h, hd⟩

variable {layout : PrintLayout} {ds : List TypeDecl}

/-- **Declarations read from their own text** have members that were read from their own. -/
theorem rereads_of_ofSource (hlayout : layout.annotate = false) (hscanned : ∀ d ∈ ds, d.IsScanned)
    {v : SourceUnit} (hread : ofSource (TypeDecl.textOf layout ds) = .ok v)
    (hsame : TypeDecl.textOf layout v.types = TypeDecl.textOf layout ds) :
    List.Forall₂ (fun d e => List.Forall₂ Member.Rereads d.members e.members) ds v.types := by
  obtain ⟨gs, hgs, hforms⟩ := TypeDecl.exists_readAll_eq hlayout fun d hd =>
    TypeDecl.isScanned_toForm (hscanned d hd)
  obtain ⟨gs', hgs', hforms'⟩ := TypeDecl.exists_readAll_eq hlayout fun d hd =>
    TypeDecl.isScanned_toForm (isScanned_of_ofSource hread d hd)
  -- The two texts are one, so they are read as the same forms.
  obtain rfl : gs' = gs := by
    refine Except.ok.inj (hforms'.symm.trans (Eq.trans ?_ hforms))
    exact congrArg Form.readAll hsame
  obtain ⟨forms, hforms₁, hdecls⟩ := Outcome.bind_eq_ok.mp hread
  obtain rfl : gs' = forms := Except.ok.inj (hforms.symm.trans hforms₁)
  obtain ⟨es, hes, hv⟩ := Outcome.bind_eq_ok.mp hdecls
  obtain rfl := Except.ok.inj hv
  exact TypeDecl.rereads_of_mapM hgs hes (hgs'.symm.trans hgs)

theorem isLegible_of_reprint (hlayout : layout.annotate = false)
    (hscanned : ∀ d ∈ ds, d.IsScanned)
    (hvisibility : ∀ d ∈ ds, ∀ m ∈ d.members, m.visibility.isSome)
    (h : reprint layout (TypeDecl.textOf layout ds) = .ok (TypeDecl.textOf layout ds)) :
    ∀ d ∈ ds, ∀ m ∈ d.members, m.IsLegible := by
  obtain ⟨v, hread, hsame⟩ := Outcome.bind_eq_ok.mp h
  have hrereads := rereads_of_ofSource hlayout hscanned hread (Except.ok.inj hsame)
  intro d hd m hm
  obtain ⟨e, -, hmembers⟩ := exists_of_mem_forall₂ hrereads.flip hd
  obtain ⟨m', -, hm'⟩ := exists_of_mem_forall₂ hmembers.flip hm
  exact hm'.isLegible (hvisibility d hd m hm)

/-- **Text reads back exactly if it is legible**: for declarations whose names can be scanned, whose
members have distinct names, and a visibility each. -/
theorem reprint_textOf_iff (hlayout : layout.annotate = false)
    (hscanned : ∀ d ∈ ds, d.IsScanned)
    (hvisibility : ∀ d ∈ ds, ∀ m ∈ d.members, m.visibility.isSome)
    (hnames : ∀ d ∈ ds, d.memberNames.Nodup) :
    reprint layout (TypeDecl.textOf layout ds) = .ok (TypeDecl.textOf layout ds) ↔
      ∀ d ∈ ds, ∀ m ∈ d.members, m.IsLegible := by
  refine ⟨isLegible_of_reprint hlayout hscanned hvisibility, fun hlegible => ?_⟩
  obtain ⟨v, hread, hprint⟩ := ofSource_print hlayout
    (fun d hd => TypeDecl.isScanned_toForm (hscanned d hd))
    fun d hd => ⟨hlegible d hd, hnames d hd⟩
  refine Outcome.bind_eq_ok.mpr ⟨v, hread, ?_⟩
  rw [TypeDecl.textOf, hprint]
  rfl

end SourceUnit

/-! ### Text of an expansion -/

theorem TypeDecl.isSome_visibility_of_mem_emit {d : TypeDecl} {m : Member}
    (h : m ∈ d.emit.members) : m.visibility.isSome := by
  obtain ⟨m', -, rfl⟩ := List.mem_map.mp h
  rfl

namespace Expansion

/-- The plans of an expansion as declarations. -/
def decls (e : Expansion) : List TypeDecl :=
  e.plans.map (·.decl)

/-- **An expansion reads back exactly if its members are legible**: its text without notes is read
without an error, and printed as it was, just if no member of a plan is marked to be inlined, none
has a body that begins with a keyword, and no field is printed as more than its initializer. -/
theorem expand_reprints_iff {u : SourceUnit} (hread : u.IsOfSources) (settings : Settings)
    {layout : PrintLayout} (hlayout : layout.annotate = false) :
    SourceUnit.reprint layout (TypeDecl.textOf layout (expand settings u).decls) =
        .ok (TypeDecl.textOf layout (expand settings u).decls) ↔
      ∀ plan ∈ (expand settings u).plans, ∀ m ∈ plan.decl.members, m.IsLegible := by
  have hplans := @List.forall_mem_map MemberPlan TypeDecl (·.decl) (expand settings u).plans
  rw [decls, SourceUnit.reprint_textOf_iff hlayout, hplans]
  · exact hplans.mpr fun plan hplan => isScanned_of_mem_plans hread.isScanned hplan
  · refine hplans.mpr fun plan hplan m hm => ?_
    obtain ⟨e, heq, -⟩ := exists_eq_emit_of_mem_plans hplan
    rw [heq] at hm
    exact TypeDecl.isSome_visibility_of_mem_emit hm
  · exact hplans.mpr fun plan hplan => nodup_memberNames_of_mem_plans hread.isRead hplan

/-- An accessor of a field is a legible member. -/
theorem expand_reprints_readonly :
    let settings : Settings := { requireOptIn := false }
    let layout : PrintLayout := { annotate := false }
    ∃ u, SourceUnit.ofSource "(class: A (field: x :readonly true 1))" = .ok u ∧
      (expand settings u).isOk = true ∧
      (expand settings u).decls.map (·.memberNames) = [["x", "get_x"]] ∧
      SourceUnit.reprint layout (TypeDecl.textOf layout (expand settings u).decls) =
        .ok (TypeDecl.textOf layout (expand settings u).decls) := by
  intro settings layout
  have hexpansion : (SourceUnit.ofSource "(class: A (field: x :readonly true 1))" >>= fun u =>
      let e := expand settings u
      .ok (e.isOk, e.decls.map (·.memberNames),
        e.plans.all fun plan => plan.decl.members.all fun m => decide m.IsLegible)) =
        .ok (true, [["x", "get_x"]], true) := by cbv
  obtain ⟨u, hu, hresult⟩ := Outcome.bind_eq_ok.mp hexpansion
  simp only [Except.ok.injEq, Prod.mk.injEq, List.all_eq_true, decide_eq_true_eq] at hresult
  obtain ⟨hok, hnames, hlegible⟩ := hresult
  have hread := SourceUnit.isOfSources_of_ofSource hu
  exact ⟨u, hu, hok, hnames, (expand_reprints_iff hread settings rfl).mpr hlegible⟩

/-- The text of a source's expansion is read as declarations that have another text, and no error is
reported of either. -/
structure LosesText (source text text' : String) : Prop where
  expand_eq : (SourceUnit.ofSource source).map (fun u =>
    let e := expand { requireOptIn := false } u
    (e.isOk, TypeDecl.textOf { annotate := false } e.decls)) = .ok (true, text)
  reprint_eq : SourceUnit.reprint { annotate := false } text = .ok text'
  ne : text' ≠ text

/-- **Text is lost**: a mark to be inlined, an option in place of the first statements of a
constructor, and the block that initializes a field. -/
theorem expand_losesText :
    LosesText "(class: A (field: x :calculated true :inline true a))"
      "(class: A\n  (field: x :public true)\n  (method: get_x [] :public true :inline true (return a)))"
      "(class: A\n  (field: x :public true)\n  (method: get_x [] :public true (return a)))" ∧
    LosesText "(class: A (method: new [] (do :returns Int)))"
      "(class: A\n  (constructor: [] :public true :returns Int))"
      "(class: A\n  (constructor: [] :returns Int :public true))" ∧
    LosesText "(class: A (field: new (do (do a))))"
      "(class: A\n  (field: new :public true (do a)))"
      "(class: A\n  (field: new :public true a))" := by
  have hprint : TypeDecl.print { annotate := false } = _ := TypeDecl.print_eq rfl
  refine ⟨⟨?_, ?_, by decide⟩, ⟨?_, ?_, by decide⟩, ?_, ?_, by decide⟩
  · simp only [TypeDecl.textOf, hprint]
    cbv
  · cbv
  · cbv
  · cbv
  · cbv
  · cbv

end Expansion

end DeclWeave
