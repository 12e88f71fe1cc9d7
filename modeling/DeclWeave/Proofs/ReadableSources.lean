import DeclWeave.Proofs.ReadableExpansions

/-!
# Readable Sources

The declarations of a source, printed, are meant to read as a source again that declares the same
members and has the same text. What is read of a member ends where no keyword leads, so a body that
is printed as it was read is read as a body again. Only a member of the constructor's name is
printed in another way: if its body is a block, the statements of it. They are more than one form,
or begin with a keyword, or are a block themselves, when that was not how the member was written:
as a field, or as a method of that name.

So a source reads back exactly if each member of the constructor's name has the text of a legible
member.

## Main results

* `Member.isLegible_of_ofForm`: what is read of a member of any other name is legible.
* `Member.isLegible_of_reread`: what is read back as the same text is legible.
* `SourceUnit.print_readsBack_iff`: the text of a source.
-/

namespace DeclWeave

open Outcome (Ensures bind_eq_ok ensures_bind)

/-! ### Members that are read -/

namespace Member

variable {m m' read : Member} {body : List Form} {s : Span}

/-- A body prints as itself, if it is no block in a member of the constructor's name. -/
theorem bodyForms_eq_toList (h : m.name = constructorName → ∀ f ∈ m.body, f.head? ≠ some "do") :
    m.bodyForms = m.body.toList := by
  cases hbody : m.body with
  | none =>
    rw [bodyForms, hbody]
    rfl
  | some f => exact bodyForms_eq_singleton hbody fun hname => h hname f hbody

/-- **What is read** with forms for a body that no keyword leads is legible, if the body is no block
in a field of the constructor's name. -/
theorem isLegible_of_close (hclose : m.close read body s = .ok m')
    (hkeeps : (m.opened s).Keeps read) (hlead : ∀ f ∈ body.head?, f.keyword? = none)
    (hblock : m.isField = true → m.name = constructorName →
      ∀ f ∈ m'.body, f.head? ≠ some "do") : m'.IsLegible := by
  have hname : m'.name = m.name := by
    obtain ⟨b, rfl⟩ := exists_of_close hclose
    exact hkeeps.name
  have hkind : m'.kind = m.kind := by
    obtain ⟨b, rfl⟩ := exists_of_close hclose
    exact hkeeps.kind
  have hinlined : m'.inlined = false := by
    obtain ⟨b, rfl⟩ := exists_of_close hclose
    exact hkeeps.inlined
  by_cases hconstructor : m.isConstructor = true
  · -- A constructor is given a block and printed without it.
    obtain ⟨hmethod, hnew⟩ : m.kind = .method ∧ m.name = constructorName := by
      simpa [isConstructor, isMethod] using hconstructor
    have hfield : ¬ m'.isField = true := by simp [isField, hkind, hmethod]
    rw [close.eq_def, if_pos hconstructor] at hclose
    have hbody : m'.body = some (.call "do" body s) := by rw [← Except.ok.inj hclose]
    have hforms : m'.bodyForms = body := bodyForms_eq_statements (hname.trans hnew) hbody
    exact ⟨hinlined, hforms ▸ hlead, fun h => absurd h hfield, fun h => absurd h hfield⟩
  by_cases hfield : m.isField = true
  · have hforms : m'.bodyForms = m'.body.toList :=
      bodyForms_eq_toList fun hnew => hblock hfield (hname ▸ hnew)
    refine ⟨hinlined, fun f hf => ?_, fun _ => ?_, fun _ hnew f hf => ?_⟩
    · have hmem : f ∈ m'.body := by
        rw [hforms] at hf
        exact Option.mem_toList.mp (List.mem_of_mem_head? hf)
      rw [eq_singleton_of_close hclose hfield hkeeps.body hmem] at hlead
      exact hlead f rfl
    · rw [hforms]
      cases m'.body <;> simp
    · rw [hforms] at hf
      exact hblock hfield (hname ▸ hnew) f (Option.mem_toList.mp hf)
  · have hmethod : m.kind = .method := by
      cases hm : m.kind with
      | field => exact absurd (by simp [isField, hm]) hfield
      | method => rfl
    have hnew : m'.name ≠ constructorName := fun hnew =>
      hconstructor (by simp [isConstructor, isMethod, hmethod, ← hname, hnew])
    have hfield' : ¬ m'.isField = true := by simp [isField, hkind, hmethod]
    rw [close.eq_def, if_neg hconstructor, if_neg hfield] at hclose
    have hbody : m'.body = blockOf body s := by rw [← Except.ok.inj hclose]
    have hforms : m'.bodyForms = (blockOf body s).toList := by
      rw [bodyForms_eq_toList fun h => absurd h hnew, hbody]
    refine ⟨hinlined, fun f hf => ?_, fun h => absurd h hfield', fun h => absurd h hfield'⟩
    rw [hforms] at hf
    -- A body of one form is that form, a longer one the block of its forms.
    rcases body with _ | ⟨g, _ | ⟨g', rest⟩⟩
    · exact absurd hf (by simp [blockOf])
    · exact hlead f hf
    · obtain rfl := Option.some.inj hf
      rfl

/-- **A member that is read** is legible, if it has not the constructor's name. -/
theorem isLegible_of_ofForm (g : Form) :
    Ensures (ofForm g) fun m => m.name ≠ constructorName → m.IsLegible := by
  unfold ofForm
  split
  · rename_i s
    unfold readField
    refine ensures_bind fun (name, rest) => ?_
    refine (keeps_readOptions (bareField name s) rest).bind fun (read, body) hread m hm hnew => ?_
    obtain ⟨hkeeps, -, hlead⟩ := hread
    have hclose : (bareField name s).close read body s = .ok m := hm
    refine isLegible_of_close hclose hkeeps hlead fun _ hname => absurd ?_ hnew
    obtain ⟨b, rfl⟩ := exists_of_close hclose
    exact hkeeps.name.trans hname
  · rename_i s
    unfold readMethod
    refine ensures_bind fun (name, rest) => ?_
    dsimp only
    split
    · refine ensures_bind fun params => ?_
      refine (keeps_readOptions (bareMethod name params s) _).bind
        fun (read, body) hread m hm hnew => ?_
      obtain ⟨hkeeps, -, hlead⟩ := hread
      have hname : m.name = name := by
        rw [← Except.ok.inj hm]
        exact hkeeps.name
      have hplain : ¬ (bareMethod name params s).isConstructor = true := fun hconstructor =>
        hnew (hname.trans (name_eq_of_isConstructor hconstructor))
      have hclose : (bareMethod name params s).close read body s = .ok m := by
        rw [close.eq_def, if_neg hplain]
        exact hm
      exact isLegible_of_close hclose hkeeps hlead fun hfield => absurd hfield Bool.false_ne_true
    · exact ensures_reject _ _
  · unfold readConstructor
    split
    · refine ensures_bind fun params => ?_
      refine (keeps_readOptions (bareMethod constructorName params _) _).bind
        fun result hread m hm hnew => ?_
      obtain rfl := Except.ok.inj hm
      exact absurd hread.1.name hnew
    · exact ensures_reject _ _
  · exact ensures_reject _ _
  · exact ensures_reject _ _

/-! ### Members that are read back -/

/-- No list of a single form is among the heads and options of a member: a type that is written as a
list has arguments. -/
theorem list_singleton_notMem (m : Member) (f : Form) :
    Form.list [f] {} ∉ m.headForms ++ m.optionForms := by
  have htype : ∀ t : TypeRef, Form.list [f] {} ≠ t.toForm {} := by
    rintro ⟨name, args⟩ heq
    cases args <;> exact absurd heq (by simp [TypeRef.toForm, Form.list, Form.sym])
  intro hmem
  rw [headForms, optionForms] at hmem
  simp only [Form.list, Form.sym, Form.vector, Form.keyword, Form.bool] at hmem htype
  rcases List.mem_append.mp hmem with hmem | hmem
  · split at hmem
    · simp at hmem
    · split at hmem <;> simp at hmem
  · rcases List.mem_append.mp hmem with hmem | hmem
    · rcases List.mem_append.mp hmem with hmem | hmem
      · cases hm : m.type with
        | none => simp [hm] at hmem
        | some t => simp [hm, htype t] at hmem
      · cases hm : m.visibility with
        | none => simp [hm] at hmem
        | some v => cases v <;> simp [hm] at hmem
    · split at hmem <;> simp at hmem

/-- **What is read back** as the same text is legible, whatever the member that was printed. -/
theorem isLegible_of_reread {g : Form} (hg : g.respan {} = m.toForm.told)
    (hread : ofForm g = .ok m') (hsame : m'.toForm.told = m.toForm.told) : m'.IsLegible := by
  obtain ⟨rest, s, hrest, heq⟩ := ofForm_eq_bind hg
  rw [heq] at hread
  obtain ⟨⟨read, body⟩, hoptions, hclose⟩ := bind_eq_ok.mp hread
  obtain ⟨hkeeps, hsuffix, hlead⟩ := keeps_readOptions _ _ _ hoptions
  refine isLegible_of_close hclose hkeeps hlead fun hfield hnew f hf hdo => ?_
  have hname : m'.name = constructorName := by
    obtain ⟨b, rfl⟩ := exists_of_close hclose
    exact hkeeps.name.trans hnew
  obtain ⟨statements, s', t, rfl⟩ := Form.exists_of_head?_eq hdo
  dsimp only at hclose hsuffix
  rw [eq_singleton_of_close hclose hfield hkeeps.body hf] at hsuffix
  obtain ⟨front, rfl⟩ := hsuffix
  -- The block is the last form of the text, which ends with the statements of the block.
  have hforms : m.headForms ++ (m.optionForms ++ m.bodyForms.map Form.told) =
      m.headForms ++ ({ m with inlined := false }.optionForms ++ front.map (Form.respan {})) ++
        [(Form.list (.sym "do" s' :: statements) t).respan {}] := by
    rw [optionForms_eq m, List.append_assoc _ m.inlineForms, ← hrest, List.map_append]
    simp only [List.map_singleton, List.append_assoc]
  rw [told_toForm, told_toForm, bodyForms_eq_statements hname hf, hforms] at hsame
  have hitems := (Form.seq.inj hsame).2.1
  rcases List.eq_nil_or_concat' statements with rfl | ⟨others, last, rfl⟩
  · rw [List.map_nil, List.append_nil] at hitems
    refine m'.list_singleton_notMem (.sym "do" {}) (hitems ▸ ?_)
    exact List.mem_append_right _ List.mem_cons_self
  · rw [List.map_append, List.map_singleton, ← List.append_assoc, ← List.append_assoc] at hitems
    have hlast := congrArg Form.chars (List.cons.inj (List.append_inj' hitems rfl).2).1
    rw [Form.chars_told, Form.chars_respan] at hlast
    have hpart : last ∈ .sym "do" s' :: (others ++ [last]) := by simp
    exact Form.chars_ne_of_mem hpart .round t hlast

theorem Rereads.isLegible_reread (h : m.Rereads m') : m'.IsLegible := by
  obtain ⟨⟨g, hg, hread⟩, hsame⟩ := h
  exact isLegible_of_reread hg hread hsame

/-- The heads of a member tell its kind and its name. -/
theorem headForms_cases (m : Member) :
    (m.kind = .method ∧ m.name = constructorName ∧
        ∃ params, m.headForms = [.sym "constructor:" {}, params]) ∨
      (m.kind = .field ∧ m.headForms = [.sym "field:" {}, .sym m.name {}]) ∨
      (m.kind = .method ∧ ∃ params, m.headForms = [.sym "method:" {}, .sym m.name {}, params]) := by
  rw [headForms]
  split
  · rename_i hconstructor
    obtain ⟨hkind, hname⟩ : m.kind = .method ∧ m.name = constructorName := by
      simpa [isConstructor, isMethod] using hconstructor
    exact .inl ⟨hkind, hname, _, rfl⟩
  · split
    · rename_i hfield
      exact .inr (.inl ⟨by simpa [isField] using hfield, rfl⟩)
    · rename_i hfield
      refine .inr (.inr ⟨?_, _, rfl⟩)
      cases hkind : m.kind with
      | field => exact absurd (by simp [isField, hkind]) hfield
      | method => rfl

/-- Members of one text have one name, and are of one kind. -/
theorem name_eq_of_told (h : m'.toForm.told = m.toForm.told) :
    (m'.name, m'.kind) = (m.name, m.kind) := by
  rw [told_toForm, told_toForm] at h
  have hitems := (Form.seq.inj h).2.1
  obtain ⟨hkind, hname, ps, hheads⟩ | ⟨hkind, hheads⟩ | ⟨hkind, ps, hheads⟩ := m.headForms_cases <;>
    obtain ⟨hkind', hname', ps', hheads'⟩ | ⟨hkind', hheads'⟩ | ⟨hkind', ps', hheads'⟩ :=
      m'.headForms_cases <;>
    rw [hheads, hheads'] at hitems <;>
    simp_all [Form.sym]

theorem map_name_eq_of_told {ms ms' : List Member}
    (h : ms'.map (·.toForm.told) = ms.map (·.toForm.told)) :
    ms'.map (fun m => (m.name, m.kind)) = ms.map fun m => (m.name, m.kind) := by
  induction ms generalizing ms' with
  | nil =>
    obtain rfl := List.map_eq_nil_iff.mp h
    rfl
  | cons m ms ih =>
    obtain ⟨m', ms', rfl, hm, hms⟩ := List.map_eq_cons_iff.mp h
    rw [List.map_cons, List.map_cons, name_eq_of_told hm, ih hms]

/-- The text of a member is that of a legible one. -/
def IsReadable (m : Member) : Prop :=
  ∃ m' : Member, m'.IsLegible ∧ m'.toForm.told = m.toForm.told

theorem Rereads.isReadable (h : m.Rereads m') : m.IsReadable :=
  ⟨m', h.isLegible_reread, h.told_eq⟩

theorem map_told_eq_of_rereads {ms ms' : List Member} (h : List.Forall₂ Rereads ms ms') :
    ms'.map (·.toForm.told) = ms.map (·.toForm.told) := by
  induction h with
  | nil => rfl
  | cons hm _ ih => rw [List.map_cons, List.map_cons, hm.told_eq, ih]

theorem exists_legible {ms : List Member} (h : ∀ m ∈ ms, m.IsReadable) :
    ∃ ms' : List Member, (∀ m ∈ ms', m.IsLegible) ∧
      ms'.map (·.toForm.told) = ms.map (·.toForm.told) := by
  induction ms with
  | nil => exact ⟨[], by simp, rfl⟩
  | cons m ms ih =>
    obtain ⟨⟨m', hlegible, htold⟩, hms⟩ := List.forall_mem_cons.mp h
    obtain ⟨ms', hlegibles, htolds⟩ := ih hms
    exact ⟨m' :: ms', List.forall_mem_cons.mpr ⟨hlegible, hlegibles⟩,
      by rw [List.map_cons, List.map_cons, htold, htolds]⟩

end Member

/-! ### Declarations -/

namespace TypeDecl

variable {d : TypeDecl} {layout : PrintLayout}

/-- Without notes on members there is nothing to leave out. -/
theorem print_eq_of_note? (h : ∀ m ∈ d.members, m.note? = none) (layout : PrintLayout) :
    d.print layout = d.print { layout with annotate := false } := by
  have hlines : d.members.flatMap (memberLines layout) =
      d.members.flatMap (memberLines { layout with annotate := false }) := by
    refine List.flatMap_congr fun m hm => ?_
    rw [memberLines, memberLines, h m hm]
  rw [print, print, lines, lines, hlines]

/-- A declaration of readable members has the text of a legible one. -/
theorem exists_legible (hlayout : layout.annotate = false)
    (hreadable : ∀ m ∈ d.members, m.IsReadable) (hnames : d.memberNames.Nodup) :
    ∃ e : TypeDecl, e.IsLegible ∧ e.toForm.told = d.toForm.told ∧
      e.print layout = d.print layout := by
  obtain ⟨ms, hlegible, htold⟩ := Member.exists_legible hreadable
  have hsame : ms.map (·.name) = d.memberNames := by
    have hpairs := congrArg (List.map Prod.fst) (Member.map_name_eq_of_told htold)
    rwa [List.map_map, List.map_map] at hpairs
  refine ⟨{ d with members := ms }, ⟨hlegible, ?_⟩, ?_, ?_⟩
  · change (ms.map (·.name)).Nodup
    rwa [hsame]
  · rw [told_toForm, told_toForm]
    exact congrArg (fun items => Form.list (d.headForms ++ d.optionForms.flatten ++ items) {}) htold
  · refine print_eq_of_chars hlayout rfl rfl ?_
    have hmap := congrArg (List.map Form.chars) htold
    rw [List.map_map, List.map_map] at hmap
    simpa [Function.comp_def, Form.chars_told] using hmap

/-- Declarations of readable members, one by one. -/
theorem exists_legibles {ds : List TypeDecl} (hlayout : layout.annotate = false)
    (hreadable : ∀ d ∈ ds, ∀ m ∈ d.members, m.IsReadable)
    (hnames : ∀ d ∈ ds, d.memberNames.Nodup) :
    ∃ es : List TypeDecl, (∀ e ∈ es, e.IsLegible) ∧
      es.map (·.toForm.told) = ds.map (·.toForm.told) ∧
      es.map (·.print layout) = ds.map (·.print layout) := by
  induction ds with
  | nil => exact ⟨[], by simp, rfl, rfl⟩
  | cons d ds ih =>
    obtain ⟨hd, hds⟩ := List.forall_mem_cons.mp hreadable
    obtain ⟨hname, hnames⟩ := List.forall_mem_cons.mp hnames
    obtain ⟨e, hlegible, htold, hprint⟩ := exists_legible hlayout hd hname
    obtain ⟨es, hlegibles, htolds, hprints⟩ := ih hds hnames
    exact ⟨e :: es, List.forall_mem_cons.mpr ⟨hlegible, hlegibles⟩,
      by rw [List.map_cons, List.map_cons, htold, htolds],
      by rw [List.map_cons, List.map_cons, hprint, hprints]⟩

end TypeDecl

/-! ### Sources -/

namespace SourceUnit

variable {layout : PrintLayout} {ds : List TypeDecl} {source : String} {u : SourceUnit}

/-- **Declarations with readable members**, printed, are read as declarations that print the
same. -/
theorem exists_ofSource_textOf (hlayout : layout.annotate = false)
    (hscanned : ∀ d ∈ ds, d.IsScanned) (hnames : ∀ d ∈ ds, d.memberNames.Nodup)
    (hreadable : ∀ d ∈ ds, ∀ m ∈ d.members, m.IsReadable) :
    ∃ v, ofSource (TypeDecl.textOf layout ds) = .ok v ∧
      TypeDecl.textOf layout v.types = TypeDecl.textOf layout ds := by
  obtain ⟨gs, hgs, hforms⟩ := TypeDecl.exists_readAll_eq hlayout fun d hd =>
    TypeDecl.isScanned_toForm (hscanned d hd)
  obtain ⟨es, hlegible, htold, hprint⟩ := TypeDecl.exists_legibles hlayout hreadable hnames
  obtain ⟨vs, hvs, hprints⟩ :=
    TypeDecl.exists_mapM_readDecl_eq hlayout hlegible (hgs.trans htold.symm)
  refine ⟨⟨vs⟩, bind_eq_ok.mpr ⟨gs, hforms, bind_eq_ok.mpr ⟨vs, hvs, rfl⟩⟩, ?_⟩
  rw [TypeDecl.textOf, hprints, hprint]
  rfl

/-- A unit that was read has no notes to print. -/
theorem IsRead.print_eq (h : u.IsRead) :
    u.print = TypeDecl.textOf { annotate := false } u.types := by
  have hprint : ∀ d ∈ u.types, d.print {} = d.print { annotate := false } := fun d hd =>
    TypeDecl.print_eq_of_note? (fun m hm => by
      have hmaking := h.making hd m hm
      have horigin : m.origin = .explicit := congrArg Prod.fst hmaking
      have hproperty : m.property = none := congrArg (·.2.2.1) hmaking
      rw [Member.note?, horigin, hproperty]
      rfl) {}
  rw [print, TypeDecl.textOf, List.map_congr_left hprint]

/-- What is read of one text and printed as it is has the names of what was printed, and its
kinds. -/
theorem map_name_eq_of_rereads {es : List TypeDecl}
    (h : List.Forall₂ (fun d e => List.Forall₂ Member.Rereads d.members e.members) ds es) :
    es.map (fun d => d.members.map fun m => (m.name, m.kind)) =
      ds.map fun d => d.members.map fun m => (m.name, m.kind) := by
  induction h with
  | nil => rfl
  | cons hmembers _ ih =>
    rw [List.map_cons, List.map_cons, ih,
      Member.map_name_eq_of_told (Member.map_told_eq_of_rereads hmembers)]

/-- **A source reads back exactly if its constructors do**: its declarations, printed, are read as
declarations of the same members, by name and kind, that print the same, just if each member of the
constructor's name has the text of a legible member. -/
theorem print_readsBack_iff (h : ofSource source = .ok u) :
    (∃ v, ofSource u.print = .ok v ∧
        v.types.map (fun d => d.members.map fun m => (m.name, m.kind)) =
          u.types.map (fun d => d.members.map fun m => (m.name, m.kind)) ∧
        v.print = u.print) ↔
      ∀ d ∈ u.types, ∀ m ∈ d.members, m.name = constructorName → m.IsReadable := by
  have hread := isRead_of_ofSource h
  have hscanned := isScanned_of_ofSource h
  have hlayout : ({ annotate := false } : PrintLayout).annotate = false := rfl
  rw [hread.print_eq]
  constructor
  · rintro ⟨v, hv, -, hprint⟩ d hd m hm -
    rw [(isRead_of_ofSource hv).print_eq] at hprint
    have hrereads := rereads_of_ofSource hlayout hscanned hv hprint
    obtain ⟨e, -, hmembers⟩ := exists_of_mem_forall₂ hrereads.flip hd
    obtain ⟨m', -, hm'⟩ := exists_of_mem_forall₂ hmembers.flip hm
    exact hm'.isReadable
  · intro hconstructors
    have hreadable : ∀ d ∈ u.types, ∀ m ∈ d.members, m.IsReadable := by
      intro d hd m hm
      by_cases hname : m.name = constructorName
      · exact hconstructors d hd m hm hname
      · exact ⟨m, hread.forall_mem hd Member.isLegible_of_ofForm m hm hname, rfl⟩
    obtain ⟨v, hv, hprint⟩ := exists_ofSource_textOf hlayout hscanned
      (fun d hd => hread.nodup hd) hreadable
    refine ⟨v, hv, map_name_eq_of_rereads (rereads_of_ofSource hlayout hscanned hv hprint), ?_⟩
    rw [(isRead_of_ofSource hv).print_eq, hprint]

/-- A constructor beside a field: its statements are printed as they were written. -/
theorem print_readsBack_constructor :
    ∃ u v, ofSource "(class: A :params [T] (field: x :type (List T) 1) (constructor: [a] (b) c))" =
        .ok u ∧
      ofSource u.print = .ok v ∧
      v.types.map (fun d => d.members.map fun m => (m.name, m.kind)) =
        [[("x", .field), ("new", .method)]] ∧ v.print = u.print := by
  have hsource : (ofSource
      "(class: A :params [T] (field: x :type (List T) 1) (constructor: [a] (b) c))" >>= fun u =>
        .ok (u.types.map (fun d => d.members.map fun m => (m.name, m.kind)),
          u.types.all fun d => d.members.all fun m => decide m.IsLegible)) =
        .ok ([[("x", .field), ("new", .method)]], true) := by cbv
  obtain ⟨u, hu, hresult⟩ := bind_eq_ok.mp hsource
  simp only [Except.ok.injEq, Prod.mk.injEq, List.all_eq_true, decide_eq_true_eq] at hresult
  obtain ⟨hmembers, hlegible⟩ := hresult
  obtain ⟨v, hv, hsame, hprint⟩ := (print_readsBack_iff hu).mpr fun d hd m hm _ =>
    ⟨m, hlegible d hd m hm, rfl⟩
  exact ⟨u, v, hu, hv, hsame.trans hmembers, hprint⟩

/-- The declarations of a source have a text that is not read as declarations that have it. -/
def Breaks (source text : String) : Prop :=
  ∃ u, ofSource source = .ok u ∧ u.print = text ∧ ∀ v, ofSource text = .ok v → v.print ≠ text

theorem breaks_of_reprint {text : String} (again : Option String)
    (hsource : (reprint { annotate := false } source).toOption = some text)
    (hagain : (reprint { annotate := false } text).toOption = again) (hne : again ≠ some text) :
    Breaks source text := by
  have hprints : ∀ {source' text' : String},
      (reprint { annotate := false } source').toOption = some text' ↔
        ∃ u, ofSource source' = .ok u ∧ u.print = text' := by
    intro source' text'
    have hoption : (reprint { annotate := false } source').toOption = some text' ↔
        reprint { annotate := false } source' = .ok text' := by
      cases reprint { annotate := false } source' <;> simp [Except.toOption]
    rw [hoption, reprint, bind_eq_ok]
    refine exists_congr fun u => and_congr_right fun hu => ?_
    rw [(isRead_of_ofSource hu).print_eq]
    exact ⟨Except.ok.inj, congrArg _⟩
  obtain ⟨u, hu, hprint⟩ := hprints.mp hsource
  exact ⟨u, hu, hprint, fun v hv heq => hne (hagain.symm.trans (hprints.mpr ⟨v, hv, heq⟩))⟩

/-- **Constructors break their sources**: a field whose statements are printed as initializers, one
whose block is printed as another one, and a method whose statements are printed as options. -/
theorem print_breaks :
    Breaks "(class: A (field: new (do a b)))" "(class: A\n  (field: new a b))" ∧
    Breaks "(class: A (field: new (do (do a))))" "(class: A\n  (field: new (do a)))" ∧
    Breaks "(class: A (method: new [] (do :public true :returns Int)))"
      "(class: A\n  (constructor: [] :public true :returns Int))" := by
  refine ⟨breaks_of_reprint none ?_ ?_ (by decide),
    breaks_of_reprint (some "(class: A\n  (field: new a))") ?_ ?_ (by decide),
    breaks_of_reprint (some "(class: A\n  (constructor: [] :returns Int :public true))") ?_ ?_
      (by decide)⟩
  all_goals decide +kernel

end SourceUnit

end DeclWeave
