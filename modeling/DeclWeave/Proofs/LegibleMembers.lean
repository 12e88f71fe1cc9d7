import DeclWeave.Proofs.ReadDeclarations
import DeclWeave.Proofs.WrittenDeclarations

/-!
# Legible Members

A member whose text is read back as the same text is legible, if its visibility is written. Reading
takes in options for as long as keywords lead what is left, and it takes two forms for each. Type
and visibility are there to begin with, so nothing that is taken in after them leads to more text
in front; the text that is left for the body must then be all of the body that was printed. It is
shorter if something was taken from it. The one body that is longer when printed than it was when
read is a block in a field of the constructor's name, and a block is not among its own statements.

## Main results

* `Member.keeps_readOptions`: what options leave as it is.
* `Member.eq_of_close`: a body that prints as what was read had nothing taken from it.
* `Member.isLegible_of_told_toForm_eq`: a member that is read back as the same text.
-/

namespace DeclWeave

open Outcome (Ensures bind_eq_ok ensures_bind ensures_error ensures_ok ensures_pure)

/-! ### What options leave as it is -/

namespace Member

/-- One member has gone on from another by options. -/
structure Keeps (m m' : Member) : Prop where
  name : m'.name = m.name
  kind : m'.kind = m.kind
  params : m'.signature.params = m.signature.params
  body : m'.body = m.body
  inlined : m'.inlined = m.inlined
  type : m.type.isSome → m'.type.isSome
  visibility : m.visibility.isSome → m'.visibility.isSome

theorem Keeps.refl (m : Member) : m.Keeps m :=
  ⟨rfl, rfl, rfl, rfl, rfl, id, id⟩

theorem Keeps.trans {m₁ m₂ m₃ : Member} (h : m₁.Keeps m₂) (h' : m₂.Keeps m₃) : m₁.Keeps m₃ where
  name := h'.name.trans h.name
  kind := h'.kind.trans h.kind
  params := h'.params.trans h.params
  body := h'.body.trans h.body
  inlined := h'.inlined.trans h.inlined
  type := h'.type ∘ h.type
  visibility := h'.visibility ∘ h.visibility

namespace Options

theorem keeps_push (o : Options) (d : Directive) : o.member.Keeps (o.push d).member :=
  ⟨rfl, rfl, rfl, rfl, rfl, id, id⟩

theorem keeps_pushIf (o : Options) (d : Directive) (wanted : Bool) :
    o.member.Keeps (o.pushIf d wanted).member := by
  rw [pushIf]
  split
  · exact keeps_push o d
  · exact .refl _

theorem keeps_addMode (o : Options) (mode : PropertyMode) (s : Span) (wanted : Bool) :
    o.member.Keeps (o.addMode mode s wanted).member := by
  rw [addMode]
  split <;> exact .refl _

/-- **One option** keeps what there is. -/
theorem keeps_apply (o : Options) (key : String) (s : Span) (value : Form) :
    Ensures (o.apply key s value) fun o' => o.member.Keeps o'.member := by
  unfold apply
  split
  case h_1 | h_2 =>
    exact ensures_bind fun t => ensures_pure ⟨rfl, rfl, rfl, rfl, rfl, fun _ => rfl, id⟩
  case h_3 | h_4 =>
    refine ensures_bind fun wanted => ?_
    split
    · exact ensures_pure ⟨rfl, rfl, rfl, rfl, rfl, id, fun _ => rfl⟩
    · exact ensures_pure (.refl _)
  case h_5 | h_6 | h_7 => exact ensures_bind fun _ => ensures_pure (keeps_addMode ..)
  case h_8 | h_9 | h_10 => exact ensures_pure (.refl _)
  case h_12 | h_13 | h_18 | h_19 => exact ensures_bind fun _ => ensures_pure (keeps_pushIf ..)
  case h_11 | h_14 => exact ensures_bind fun _ => ensures_pure (.refl _)
  case h_15 =>
    split
    · exact ensures_pure (.refl _)
    · exact ensures_reject _ _
  case h_16 | h_17 => exact ensures_bind fun _ => ensures_pure (keeps_push ..)
  case h_20 => exact ensures_bind fun _ => ensures_pure ⟨rfl, rfl, rfl, rfl, rfl, id, id⟩
  case h_21 => exact ensures_reject _ _

theorem keeps_finish (o : Options) : Ensures o.finish fun m => o.member.Keeps m := by
  unfold finish
  extract_lets withAccessor
  have hlast : ∀ o' : Options, o.member.Keeps o'.member →
      Ensures (withAccessor o') fun m => o.member.Keeps m := by
    intro o' ho'
    dsimp only [withAccessor]
    split
    · exact ensures_pure (ho'.trans (keeps_push ..))
    · exact ensures_pure ho'
  split
  · exact hlast _ (keeps_push ..)
  · exact ensures_error _
  · exact hlast o (.refl _)

theorem keeps_read (o : Options) (forms : List Form) :
    Ensures (o.read forms) fun result => o.member.Keeps result.1.member := by
  fun_induction read o forms with
  | case1 o key s value rest ih =>
    exact (keeps_apply o key s value).bind fun o' ho' result hresult =>
      ho'.trans (ih o' result hresult)
  | case2 o key s => exact ensures_reject _ _
  | case3 o forms => exact ensures_ok (.refl _)

/-- **What is left** of some forms ends them, and no keyword leads it. -/
theorem suffix_read (o : Options) (forms : List Form) :
    Ensures (o.read forms) fun result =>
      result.2 <:+ forms ∧ ∀ f ∈ result.2.head?, f.keyword? = none := by
  fun_induction read o forms with
  | case1 o key s value rest ih =>
    refine (keeps_apply o key s value).bind fun o' _ result hresult => ?_
    obtain ⟨hsuffix, hlead⟩ := ih o' result hresult
    exact ⟨hsuffix.trans ⟨[.keyword key s, value], rfl⟩, hlead⟩
  | case2 o key s => exact ensures_reject _ _
  | case3 o forms hpair hlone =>
    refine ensures_ok ⟨List.suffix_rfl, fun f hf => ?_⟩
    cases forms with
    | nil => exact absurd hf (by simp)
    | cons f' rest =>
      obtain rfl := Option.some.inj hf
      rw [Form.keyword?.eq_def]
      split
      · cases rest with
        | nil => exact (hlone _ _ rfl).elim
        | cons value rest => exact (hpair _ _ value rest rfl).elim
      · rfl

end Options

/-- **The options of a member** keep what there is, and leave forms that end those that were read
and that no keyword leads. -/
theorem keeps_readOptions (m : Member) (forms : List Form) :
    Ensures (m.readOptions forms) fun result => m.Keeps result.1 ∧
      result.2 <:+ forms ∧ ∀ f ∈ result.2.head?, f.keyword? = none := by
  intro result h
  obtain ⟨taken, htaken, h⟩ := bind_eq_ok.mp h
  obtain ⟨m', hm', h⟩ := bind_eq_ok.mp h
  obtain rfl := Except.ok.inj h
  exact ⟨(Options.keeps_read _ forms taken htaken).trans (Options.keeps_finish taken.1 m' hm'),
    Options.suffix_read _ forms taken htaken⟩

end Member

/-! ### No form contains itself -/

namespace Form

variable {f : Form} {items : List Form}

theorem length_chars_le :
    ∀ {items : List Form}, f ∈ items → f.chars.length ≤ (charsOfAll items).length
  | [g], h => by rw [List.mem_singleton.mp h, charsOfAll]
  | g :: g' :: rest, h => by
    rw [charsOfAll, List.length_append, List.length_cons]
    rcases List.mem_cons.mp h with rfl | h
    · exact Nat.le_add_right _ _
    · have hle := length_chars_le h
      omega

/-- **No form contains itself**: its text is longer than that of any part. -/
theorem chars_ne_of_mem (h : f ∈ items) (b : Bracket) (s : Span) :
    f.chars ≠ (seq b items s).chars := by
  intro heq
  have hlength := congrArg List.length heq
  have hle := length_chars_le h
  rw [chars, List.length_cons, List.length_append] at hlength
  omega

theorem exists_of_head?_eq {name : String} (h : f.head? = some name) :
    ∃ rest s t, f = .list (.sym name s :: rest) t := by
  rw [head?.eq_def] at h
  split at h
  · obtain rfl := Option.some.inj h
    exact ⟨_, _, _, rfl⟩
  · exact absurd h (by simp)

end Form

/-! ### Bodies that print as what was read -/

namespace Member

variable {m m' read : Member} {rest body : List Form} {s : Span}

/-- The forms of a body change nothing else of a member. -/
theorem exists_of_close (hclose : m.close read body s = .ok m') :
    ∃ b, m' = { read with body := b } := by
  rw [close.eq_def] at hclose
  split at hclose
  · exact ⟨_, (Except.ok.inj hclose).symm⟩
  · split at hclose
    · split at hclose
      · exact ⟨_, (Except.ok.inj hclose).symm⟩
      · exact ⟨_, (Except.ok.inj hclose).symm⟩
      · exact absurd hclose (by simp [reject])
    · exact ⟨_, (Except.ok.inj hclose).symm⟩

/-- A block in a member of the constructor's name prints as its statements. -/
theorem bodyForms_eq_statements (hname : m.name = constructorName) {statements : List Form}
    {s t : Span} (hbody : m.body = some (.list (.sym "do" s :: statements) t)) :
    m.bodyForms = statements := by
  rw [bodyForms, hbody]
  exact if_pos (by simpa using hname)

/-- The initializer of a field is all that was left to read. -/
theorem eq_singleton_of_close (hclose : m.close read body s = .ok m') (hfield : m.isField = true)
    (hempty : read.body = none) {f : Form} (hf : m'.body = some f) : body = [f] := by
  have hconstructor : m.isConstructor = false := by
    have hkind : m.kind = .field := by simpa [isField] using hfield
    simp [isConstructor, isMethod, hkind]
  rw [close.eq_def, hconstructor, hfield] at hclose
  simp only [Bool.false_eq_true, if_false, if_true] at hclose
  split at hclose
  · obtain rfl := Except.ok.inj hclose
    exact absurd (hempty.symm.trans hf) (by simp)
  · obtain rfl := Except.ok.inj hclose
    rw [Option.some.inj hf]
  · exact absurd hclose (by simp [reject])

/-- A body prints as no more forms than it was read from, but for a block in a field. -/
theorem length_bodyForms_close (hclose : m.close read body s = .ok m') (hname : read.name = m.name)
    (hempty : read.body = none)
    (hblock : m.isField = true → m.name = constructorName →
      ∀ f, m'.body = some f → f.head? ≠ some "do") : m'.bodyForms.length ≤ body.length := by
  have hname' : m'.name = m.name := by
    obtain ⟨b, rfl⟩ := exists_of_close hclose
    exact hname
  by_cases hfield : m.isField = true
  · cases hbody : m'.body with
    | none =>
      rw [bodyForms, hbody]
      exact Nat.zero_le _
    | some f =>
      rw [eq_singleton_of_close hclose hfield hempty hbody,
        bodyForms_eq_singleton hbody fun hnew => hblock hfield (hname' ▸ hnew) f hbody]
  · by_cases hconstructor : m.isConstructor = true
    · have hnew : m.name = constructorName := by
        simpa using (Bool.and_eq_true_iff.mp hconstructor).2
      rw [close.eq_def, if_pos hconstructor] at hclose
      have hbody : m'.body = some (.call "do" body s) := by rw [← Except.ok.inj hclose]
      rw [bodyForms_eq_statements (hname'.trans hnew) hbody]
    · have hnew : m'.name ≠ constructorName := by
        rw [hname']
        intro hnew
        cases hkind : m.kind with
        | field => exact hfield (by simp [isField, hkind])
        | method => exact hconstructor (by simp [isConstructor, isMethod, hkind, hnew])
      rw [close.eq_def, if_neg hconstructor, if_neg hfield] at hclose
      cases body with
      | nil =>
        have hbody : m'.body = none := by rw [← Except.ok.inj hclose]; rfl
        rw [bodyForms, hbody]
      | cons f body => exact (length_bodyForms_le hnew).trans (by simp)

/-- **A body that prints as what was read** had nothing taken from it, and it is no block in a field
of the constructor's name. -/
theorem eq_of_close (hclose : m.close read body s = .ok m') (hname : read.name = m.name)
    (hempty : read.body = none) (hsuffix : body <:+ rest)
    (hprint : m'.bodyForms.map Form.told = rest.map (Form.respan {})) :
    body = rest ∧ (m.isField = true → m.name = constructorName →
      ∀ f, m'.body = some f → f.head? ≠ some "do") := by
  have hblock : m.isField = true → m.name = constructorName →
      ∀ f, m'.body = some f → f.head? ≠ some "do" := by
    intro hfield hnew f hf hdo
    have hname' : m'.name = constructorName := by
      obtain ⟨b, rfl⟩ := exists_of_close hclose
      exact hname.trans hnew
    have hmem : f ∈ rest := by
      refine hsuffix.subset ?_
      rw [eq_singleton_of_close hclose hfield hempty hf]
      exact List.mem_cons_self
    obtain ⟨statements, s', t, rfl⟩ := Form.exists_of_head?_eq hdo
    -- The block would be printed as its statements, and it was read from them: it is one of them.
    rw [bodyForms_eq_statements hname' hf] at hprint
    have htold := List.mem_map_of_mem (f := Form.respan {}) hmem
    rw [← hprint] at htold
    obtain ⟨statement, hstatement, htold⟩ := List.mem_map.mp htold
    have hpart : statement ∈ .sym "do" s' :: statements := List.mem_cons_of_mem _ hstatement
    refine Form.chars_ne_of_mem hpart .round t ?_
    rw [← Form.chars_told statement, htold, Form.chars_respan]
    rfl
  refine ⟨hsuffix.eq_of_length_le ?_, hblock⟩
  have hlength := congrArg List.length hprint
  rw [List.length_map, List.length_map] at hlength
  rw [← hlength]
  exact length_bodyForms_close hclose hname hempty hblock

/-! ### Members that are read back as the same text -/

theorem headForms_eq (hname : m'.name = m.name) (hkind : m'.kind = m.kind)
    (hparams : m.isField = false → m'.signature.params = m.signature.params) :
    m'.headForms = m.headForms := by
  cases hm : m.kind with
  | field => simp [headForms, isConstructor, isMethod, isField, hkind, hname, hm]
  | method =>
    simp [headForms, isConstructor, isMethod, isField, hkind, hname, hm,
      hparams (by simp [isField, hm])]

/-- **After the type and the visibility** the same text is left, if no type has been added in front
of it. -/
theorem eq_of_optionForms_append (hinlined : m'.inlined = false)
    (hinlined' : m.inlined = false) (htype : m.type.isSome → m'.type.isSome)
    (hvisibility : m.visibility.isSome) (hvisibility' : m'.visibility.isSome)
    {gs gs' : List Form} (h : m'.optionForms ++ gs' = m.optionForms ++ gs) : gs' = gs := by
  obtain ⟨v, hv⟩ := Option.isSome_iff_exists.mp hvisibility
  obtain ⟨v', hv'⟩ := Option.isSome_iff_exists.mp hvisibility'
  simp only [optionForms, hinlined, hinlined', hv, hv', Bool.false_eq_true, if_false,
    List.append_nil] at h
  cases hm : m.type with
  | some t =>
    obtain ⟨t', ht'⟩ := Option.isSome_iff_exists.mp (htype (by rw [hm]; rfl))
    rw [hm, ht'] at h
    cases v <;> cases v' <;> exact (List.append_inj h rfl).2
  | none =>
    cases hm' : m'.type with
    | none =>
      rw [hm, hm'] at h
      cases v <;> cases v' <;> exact (List.append_inj h rfl).2
    | some t' =>
      -- A type would stand where the visibility does.
      rw [hm, hm'] at h
      cases v <;> cases hfield : m'.isField <;> rw [hfield] at h <;>
        exact absurd (List.cons.inj h).1 (by simp [Form.keyword])

/-- **A member that is read back as the same text** is legible. -/
theorem isLegible_of_told_toForm_eq (hvisibility : m.visibility.isSome) {g : Form}
    (hg : g.respan {} = m.toForm.told) (hread : ofForm g = .ok m')
    (hsame : m'.toForm.told = m.toForm.told) : m.IsLegible := by
  obtain ⟨rest, s, hrest, heq⟩ := ofForm_eq_bind hg
  rw [heq] at hread
  obtain ⟨⟨read, body⟩, hoptions, hclose⟩ := bind_eq_ok.mp hread
  obtain ⟨hkeeps, hsuffix, hnext⟩ := keeps_readOptions _ _ _ hoptions
  dsimp only at hclose hsuffix hnext hkeeps
  have hprint : m'.bodyForms.map Form.told = m.inlineForms ++ m.bodyForms.map Form.told := by
    rw [told_toForm, told_toForm, optionForms_eq m, List.append_assoc] at hsame
    have hitems := (Form.seq.inj hsame).2.1
    obtain ⟨b, rfl⟩ := exists_of_close hclose
    have hheads : { read with body := b }.headForms = m.headForms :=
      headForms_eq hkeeps.name hkeeps.kind fun hfield =>
        hkeeps.params.trans (by simp [opened, hfield])
    rw [hheads, List.append_cancel_left_eq] at hitems
    exact eq_of_optionForms_append hkeeps.inlined rfl hkeeps.type hvisibility
      (hkeeps.visibility hvisibility) hitems
  obtain ⟨rfl, hblock⟩ :=
    eq_of_close hclose hkeeps.name hkeeps.body hsuffix (hprint.trans hrest.symm)
  have hinlined : m.inlined = false := by
    cases hinlined : m.inlined with
    | false => rfl
    | true =>
      have hmark : m.inlineForms = [.keyword "inline" {}, .bool true {}] := by
        simp [inlineForms, hinlined]
      rw [hmark, List.cons_append] at hrest
      obtain ⟨f, more, rfl, hf, -⟩ := List.map_eq_cons_iff.mp hrest
      have hlost := hnext f rfl
      rw [← Form.keyword?_respan {}, hf] at hlost
      exact absurd hlost (by simp [Form.keyword?])
  have hplain : m.inlineForms = [] := by simp [inlineForms, hinlined]
  rw [hplain, List.nil_append] at hrest hprint
  have hforms : m.isField = true → m'.bodyForms = m'.body.toList := by
    intro hfield
    have hname : m'.name = m.name := by
      obtain ⟨b, rfl⟩ := exists_of_close hclose
      exact hkeeps.name
    cases hf : m'.body with
    | none => rw [bodyForms, hf, Option.toList_none]
    | some f =>
      exact bodyForms_eq_singleton hf fun hnew => hblock hfield (hname ▸ hnew) f hf
  refine ⟨hinlined, fun f hf => ?_, fun hfield => ?_, fun hfield hname f hf hdo => ?_⟩
  · have hfirst := congrArg List.head? hrest
    rw [List.head?_map, List.head?_map, hf, Option.map_some] at hfirst
    obtain ⟨f', hf', htold⟩ := Option.map_eq_some_iff.mp hfirst
    rw [← Form.keyword?_told, ← htold, Form.keyword?_respan]
    exact hnext f' hf'
  · have hlength := congrArg List.length hprint
    rw [List.length_map, List.length_map, hforms hfield] at hlength
    rw [← hlength]
    cases m'.body <;> simp
  · have htold : f.told ∈ m'.bodyForms.map Form.told := hprint ▸ List.mem_map_of_mem hf
    rw [hforms hfield] at htold
    obtain ⟨f', hf', htold⟩ := List.mem_map.mp htold
    refine hblock hfield hname f' (Option.mem_toList.mp hf') (Form.head?_eq_do_of_told ?_)
    obtain ⟨statements, s', t, rfl⟩ := Form.exists_of_head?_eq hdo
    rw [htold]
    rfl

end Member

/-! ### Declarations that are read back as the same text -/

/-- A member whose form has been read, as one with the same text. -/
structure Member.Rereads (m m' : Member) : Prop where
  exists_ofForm_eq : ∃ g : Form, g.respan {} = m.toForm.told ∧ ofForm g = .ok m'
  told_eq : m'.toForm.told = m.toForm.told

theorem Member.Rereads.isLegible {m m' : Member} (h : m.Rereads m')
    (hvisibility : m.visibility.isSome) : m.IsLegible := by
  obtain ⟨⟨g, hg, hread⟩, hsame⟩ := h
  exact isLegible_of_told_toForm_eq hvisibility hg hread hsame

namespace TypeDecl

variable {gs : List Form}

/-- Members that are read back as the same text, one by one. -/
theorem rereads_of_readMembers {owner : String} {seen : List String} {ms ms' : List Member}
    (hgs : gs.map (Form.respan {}) = ms.map (·.toForm.told))
    (hread : readMembers owner seen gs = .ok ms')
    (hsame : ms'.map (·.toForm.told) = ms.map (·.toForm.told)) :
    List.Forall₂ Member.Rereads ms ms' := by
  induction ms generalizing seen gs ms' with
  | nil =>
    obtain rfl := List.map_eq_nil_iff.mp hsame
    exact .nil
  | cons m ms ih =>
    obtain ⟨g, gs, rfl, hg, hgs⟩ := List.map_eq_cons_iff.mp hgs
    obtain ⟨m', hm', hread⟩ := bind_eq_ok.mp hread
    split at hread
    · exact absurd hread (by simp [reject])
    · obtain ⟨others, hothers, hread⟩ := bind_eq_ok.mp hread
      obtain rfl := Except.ok.inj hread
      obtain ⟨hfirst, hrest⟩ := List.cons.inj hsame
      exact .cons ⟨⟨g, hg, hm'⟩, hfirst⟩ (ih hgs hothers hrest)

/-- **A declaration that is read back as the same text**: so are its members. -/
theorem rereads_of_readDecl {d e : TypeDecl} {g : Form} (hg : g.respan {} = d.toForm.told)
    (hread : SourceUnit.readDecl g = .ok e) (hsame : e.toForm.told = d.toForm.told) :
    List.Forall₂ Member.Rereads d.members e.members := by
  obtain ⟨gs, s, hgs, heq⟩ := readDecl_eq_bind hg
  rw [heq] at hread
  obtain ⟨ms, hms, hread⟩ := bind_eq_ok.mp hread
  obtain rfl := Except.ok.inj hread
  rw [told_toForm, told_toForm] at hsame
  have hitems := (Form.seq.inj hsame).2.1
  exact rereads_of_readMembers hgs hms (List.append_cancel_left hitems)

/-- Declarations that are read back as the same text, one by one. -/
theorem rereads_of_mapM {ds es : List TypeDecl}
    (hgs : gs.map (Form.respan {}) = ds.map (·.toForm.told))
    (hread : gs.mapM SourceUnit.readDecl = .ok es)
    (hsame : es.map (·.toForm.told) = ds.map (·.toForm.told)) :
    List.Forall₂ (fun d e => List.Forall₂ Member.Rereads d.members e.members) ds es := by
  induction ds generalizing gs es with
  | nil =>
    obtain rfl := List.map_eq_nil_iff.mp hsame
    exact .nil
  | cons d ds ih =>
    obtain ⟨g, gs, rfl, hg, hgs⟩ := List.map_eq_cons_iff.mp hgs
    rw [List.mapM_cons] at hread
    obtain ⟨e, he, hread⟩ := bind_eq_ok.mp hread
    obtain ⟨others, hothers, hread⟩ := bind_eq_ok.mp hread
    obtain rfl := Except.ok.inj hread
    obtain ⟨hfirst, hrest⟩ := List.cons.inj hsame
    exact .cons (rereads_of_readDecl hg he hfirst) (ih hgs hothers hrest)

end TypeDecl

end DeclWeave
