import DeclWeave.Decl.Reader
import DeclWeave.Proofs.WrittenLines

/-!
# Written Declarations

The text of declarations is read as their forms, and the reader of declarations then undoes
`toForm`, level by level. A member is the one that gets lost in three ways. Its mark to be inlined
is read as a directive, which does not print. A body that begins with a keyword is read as an
option. And a member of the constructor's name prints the statements of its body in place of the
block, which a field cannot take back. A member is *legible* if it is none of these.

## Main results

* `Member.ofForm_eq_bind`: what any printed member is read as.
* `Member.ofForm_eq`: a legible member, read back from its form.
* `TypeDecl.readDecl_eq_bind`, `TypeDecl.readDecl_eq`: the same of declarations.
* `SourceUnit.ofSource_print`: declarations with legible members read back and print the same.
-/

namespace DeclWeave

open Outcome (bind_eq_ok)

/-! ### Types and parameters -/

namespace TypeRef

open Form (exists_of_map_respan_eq_atom_cons exists_of_map_respan_eq_pair exists_of_respan_eq_atom
  exists_of_respan_eq_seq)

mutual

/-- A type reference is read from its form. -/
theorem ofForm_eq : ∀ (t : TypeRef) {g : Form}, g.respan {} = t.toForm {} → ofForm g = .ok t
  | ⟨name, []⟩, g, h => by
    obtain ⟨s, rfl⟩ := exists_of_respan_eq_atom h
    rfl
  | ⟨name, arg :: args⟩, g, h => by
    obtain ⟨items, s, rfl, hitems⟩ := exists_of_respan_eq_seq h
    obtain ⟨s', parts, rfl, hparts⟩ := exists_of_map_respan_eq_atom_cons hitems
    obtain ⟨first, rest, rfl, hfirst, hrest⟩ := List.map_eq_cons_iff.mp hparts
    rw [ofForm, ofForms, ofForm_eq arg hfirst, ofForms_eq args hrest]
    rfl

theorem ofForms_eq : ∀ (ts : List TypeRef) {gs : List Form},
    gs.map (Form.respan {}) = toForms {} ts → ofForms gs = .ok ts
  | [], gs, h => by
    obtain rfl := List.map_eq_nil_iff.mp h
    rfl
  | t :: ts, gs, h => by
    obtain ⟨g, gs, rfl, hg, hgs⟩ := List.map_eq_cons_iff.mp h
    rw [ofForms, ofForm_eq t hg, ofForms_eq ts hgs]
    rfl

end

mutual

theorem told_toForm : ∀ t : TypeRef, (t.toForm {}).told = t.toForm {}
  | ⟨name, []⟩ => rfl
  | ⟨name, arg :: args⟩ => by
    rw [toForm, Form.list, Form.told_seq, List.map_cons, List.map_cons, told_toForm arg,
      map_told_toForms args]
    rfl

theorem map_told_toForms : ∀ ts : List TypeRef, (toForms {} ts).map Form.told = toForms {} ts
  | [] => rfl
  | t :: ts => by rw [toForms, List.map_cons, told_toForm t, map_told_toForms ts]

end

end TypeRef

namespace Form

/-- Names are read from a vector of symbols. -/
theorem asNames_eq {g : Form} {names : List String}
    (h : g.respan {} = .vector (names.map (.sym · {})) {}) (what : String) :
    g.asNames what = .ok names := by
  obtain ⟨items, s, rfl, hitems⟩ := exists_of_respan_eq_seq h
  refine Outcome.mapM_eq_ok_of_map_eq (fun item name hitem => ?_) hitems
  obtain ⟨s, rfl⟩ := exists_of_respan_eq_atom hitem
  rfl

end Form

namespace Param

open Form (exists_of_map_respan_eq_atom_cons exists_of_map_respan_eq_pair exists_of_respan_eq_atom
  exists_of_respan_eq_seq)

/-- A parameter is read from its form. -/
theorem ofForm_eq (p : Param) {g : Form} (h : g.respan {} = p.toForm) : ofForm g = .ok p := by
  obtain ⟨name, type⟩ := p
  cases type with
  | none =>
    obtain ⟨s, rfl⟩ := exists_of_respan_eq_atom h
    rfl
  | some type =>
    obtain ⟨items, s, rfl, hitems⟩ := exists_of_respan_eq_seq h
    obtain ⟨s', second, rfl, hsecond⟩ := exists_of_map_respan_eq_pair hitems
    rw [ofForm, type.ofForm_eq hsecond]
    rfl

theorem listOfForm_eq {ps : List Param} {g : Form}
    (h : g.respan {} = .vector (ps.map (·.toForm)) {}) : listOfForm g = .ok ps := by
  obtain ⟨items, s, rfl, hitems⟩ := exists_of_respan_eq_seq h
  exact Outcome.mapM_eq_ok_of_map_eq (fun item p hitem => p.ofForm_eq hitem) hitems

theorem told_toForm (p : Param) : p.toForm.told = p.toForm := by
  obtain ⟨name, type⟩ := p
  cases type with
  | none => rfl
  | some type =>
    refine (Form.told_seq .square [.sym name {}, type.toForm {}] {}).trans ?_
    rw [List.map_cons, List.map_cons, type.told_toForm]
    rfl

end Param

/-! ### Members -/

namespace Member

open Form (exists_of_map_respan_eq_atom_cons exists_of_map_respan_eq_pair exists_of_respan_eq_atom
  exists_of_respan_eq_seq)

/-- A member that reads back from its text. -/
structure IsLegible (m : Member) : Prop where
  /-- A mark to be inlined would be read as a directive. -/
  inlined_eq : m.inlined = false
  /-- A keyword would be read as an option. -/
  keyword?_eq : ∀ f ∈ m.bodyForms.head?, f.keyword? = none
  /-- A field has at most one initializer. -/
  length_le : m.isField = true → m.bodyForms.length ≤ 1
  /-- A block would be read as its statements. -/
  head?_ne : m.isField = true → m.name = constructorName → ∀ f ∈ m.bodyForms, f.head? ≠ some "do"

instance : DecidablePred IsLegible := fun m =>
  decidable_of_iff
    (m.inlined = false ∧ (∀ f ∈ m.bodyForms.head?, f.keyword? = none) ∧
      (m.isField = true → m.bodyForms.length ≤ 1) ∧
      (m.isField = true → m.name = constructorName → ∀ f ∈ m.bodyForms, f.head? ≠ some "do"))
    ⟨fun ⟨h₁, h₂, h₃, h₄⟩ => ⟨h₁, h₂, h₃, h₄⟩, fun ⟨h₁, h₂, h₃, h₄⟩ => ⟨h₁, h₂, h₃, h₄⟩⟩

/-- A member as it is read back, with the forms of its body. -/
def reread (m : Member) (body : List Form) (s : Span) : Member :=
  { name := m.name
    kind := m.kind
    visibility := m.visibility
    signature := ⟨if m.isField then [] else m.signature.params, m.type⟩
    body := if m.isConstructor then some (.call "do" body s) else blockOf body s
    span := s }

namespace Options

/-- An option with its value is taken in. -/
theorem read_pair {o o' : Options} {key : String} {value : Form} {gs rest : List Form}
    (h : ∀ s g, g.respan {} = value → o.apply key s g = .ok o')
    (hgs : gs.map (Form.respan {}) = [.keyword key {}, value]) :
    read o (gs ++ rest) = read o' rest := by
  obtain ⟨s, second, rfl, hsecond⟩ := exists_of_map_respan_eq_pair hgs
  rw [List.cons_append, List.cons_append, read, h s second hsecond]
  rfl

theorem read_of_not_keyword (o : Options) {rest : List Form}
    (h : ∀ f ∈ rest.head?, f.keyword? = none) : read o rest = .ok (o, rest) := by
  unfold read
  split
  · exact absurd (h _ rfl) (by simp [Form.keyword?])
  · exact absurd (h _ rfl) (by simp [Form.keyword?])
  · rfl

theorem read_type {o : Options} (htype : o.member.type = none) {key : String}
    (hkey : key = "type" ∨ key = "returns") {type : Option TypeRef} {gs rest : List Form}
    (hgs : gs.map (Form.respan {}) = match type with
      | some t => [.keyword key {}, t.toForm {}]
      | none => []) :
    read o (gs ++ rest) = read { o with member := o.member.withType type } rest := by
  cases type with
  | none =>
    obtain rfl := List.map_eq_nil_iff.mp hgs
    rw [withType, ← htype]
    rfl
  | some t =>
    refine read_pair (fun s g hg => ?_) hgs
    rcases hkey with rfl | rfl
    · rw [apply, t.ofForm_eq hg]
      rfl
    · rw [apply, t.ofForm_eq hg]
      rfl

theorem read_visibility {o : Options} (hvisibility : o.member.visibility = none)
    {visibility : Option Visibility} {gs rest : List Form}
    (hgs : gs.map (Form.respan {}) = match visibility with
      | some .exported => [.keyword "public" {}, .bool true {}]
      | some .hidden => [.keyword "private" {}, .bool true {}]
      | none => []) :
    read o (gs ++ rest) = read { o with member := { o.member with visibility } } rest := by
  cases visibility with
  | none =>
    obtain rfl := List.map_eq_nil_iff.mp hgs
    rw [← hvisibility]
    rfl
  | some visibility =>
    cases visibility with
    | exported =>
      refine read_pair (fun s g hg => ?_) hgs
      obtain ⟨t, rfl⟩ := exists_of_respan_eq_atom hg
      rfl
    | hidden =>
      refine read_pair (fun s g hg => ?_) hgs
      obtain ⟨t, rfl⟩ := exists_of_respan_eq_atom hg
      rfl

end Options

/-- The mark to be inlined, as it is printed. -/
def inlineForms (m : Member) : List Form :=
  if m.inlined then [.keyword "inline" {}, .bool true {}] else []

theorem optionForms_eq (m : Member) :
    m.optionForms = { m with inlined := false }.optionForms ++ m.inlineForms := by
  simp only [optionForms, inlineForms, Bool.false_eq_true, if_false, List.append_nil]
  rfl

/-- **The type and the visibility** of a member are read from their forms. -/
theorem readOptions_append {m b : Member} (htype : b.type = none)
    (hvisibility : b.visibility = none) {gs rest : List Form}
    (hgs : gs.map (Form.respan {}) = { m with inlined := false }.optionForms) :
    b.readOptions (gs ++ rest) =
      { b.withType m.type with visibility := m.visibility }.readOptions rest := by
  rw [optionForms] at hgs
  obtain ⟨pairs, marks, rfl, hpairs, hmarks⟩ := List.map_eq_append_iff.mp hgs
  obtain ⟨types, visibilities, rfl, htypes, hvisibilities⟩ := List.map_eq_append_iff.mp hpairs
  obtain rfl := List.map_eq_nil_iff.mp hmarks
  have hkey : (if m.isField then "type" else "returns") = "type" ∨
      (if m.isField then "type" else "returns") = "returns" := by
    split
    · exact .inl rfl
    · exact .inr rfl
  rw [readOptions, List.append_nil, List.append_assoc,
    Options.read_type (o := { member := b }) htype hkey htypes,
    Options.read_visibility hvisibility hvisibilities]
  rfl

theorem readOptions_of_not_keyword (m : Member) {rest : List Form}
    (h : ∀ f ∈ rest.head?, f.keyword? = none) : m.readOptions rest = .ok (m, rest) := by
  rw [readOptions, Options.read_of_not_keyword _ h]
  rfl

theorem map_told_headForms (m : Member) : m.headForms.map Form.told = m.headForms := by
  have hparams : (Form.vector (m.signature.params.map (·.toForm)) {}).told =
      .vector (m.signature.params.map (·.toForm)) {} := by
    refine (Form.told_seq .square _ {}).trans ?_
    rw [List.map_map]
    exact congrArg (Form.seq .square · {}) (List.map_congr_left fun p _ => p.told_toForm)
  rw [headForms]
  split
  · rw [List.map_cons, List.map_cons, hparams]
    rfl
  · split
    · rfl
    · rw [List.map_cons, List.map_cons, List.map_cons, hparams]
      rfl

theorem map_told_optionForms (m : Member) : m.optionForms.map Form.told = m.optionForms := by
  rw [optionForms, List.map_append, List.map_append]
  congr 1
  · congr 1
    · cases m.type with
      | none => rfl
      | some t =>
        dsimp only
        rw [List.map_cons, List.map_cons, t.told_toForm]
        rfl
    · cases m.visibility with
      | none => rfl
      | some visibility => cases visibility <;> rfl
  · split <;> rfl

/-- What the text of a member tells. -/
theorem told_toForm (m : Member) :
    m.toForm.told = .list (m.headForms ++ (m.optionForms ++ m.bodyForms.map Form.told)) {} := by
  rw [toForm, Form.list, Form.told_seq, List.append_assoc, List.map_append, List.map_append,
    map_told_headForms, map_told_optionForms]
  rfl

variable {m : Member} {g : Form}

/-- The body of a legible member goes on with no option. -/
theorem IsLegible.keyword?_of_map_eq (h : m.IsLegible) {body : List Form}
    (hbody : body.map (Form.respan {}) = m.bodyForms.map Form.told) :
    ∀ f ∈ body.head?, f.keyword? = none := by
  intro f hf
  have hhead := congrArg List.head? hbody
  rw [List.head?_map, List.head?_map, hf, Option.map_some] at hhead
  obtain ⟨f', hf', htold⟩ := Option.map_eq_some_iff.mp hhead.symm
  rw [← Form.keyword?_respan {} f, ← htold, Form.keyword?_told]
  exact h.keyword?_eq f' hf'

/-- A member as it is read up to its visibility. -/
def opened (m : Member) (s : Span) : Member :=
  { name := m.name
    kind := m.kind
    visibility := m.visibility
    signature := ⟨if m.isField then [] else m.signature.params, m.type⟩
    span := s }

/-- The forms of the body of a member like `m` complete what was read of it. -/
def close (m read : Member) (body : List Form) (s : Span) : Except Fault Member :=
  if m.isConstructor then .ok { read with body := some (.call "do" body s) }
  else if m.isField then
    match body with
    | [] => .ok read
    | [init] => .ok { read with body := some init }
    | _ :: extra :: _ => reject .extraInitializer extra.span
  else .ok { read with body := blockOf body s }

theorem readConstructor_eq (hconstructor : m.isConstructor = true) {params : Form}
    {options rest : List Form}
    (hparams : params.respan {} = .vector (m.signature.params.map (·.toForm)) {})
    (hoptions : options.map (Form.respan {}) = { m with inlined := false }.optionForms) (s : Span) :
    readConstructor (params :: (options ++ rest)) s =
      (m.opened s).readOptions rest >>= fun result => m.close result.1 result.2 s := by
  obtain ⟨hkind, hname⟩ : m.kind = .method ∧ m.name = constructorName := by
    simpa [isConstructor, isMethod] using hconstructor
  have hopened : m.opened s = { (bareMethod constructorName m.signature.params s).withType m.type
      with visibility := m.visibility } := by
    simp [opened, isField, hkind, hname, bareMethod, withType]
  have hread :
      (bareMethod constructorName m.signature.params s).readOptions (options ++ rest) = _ :=
    readOptions_append rfl rfl hoptions
  rw [readConstructor, Param.listOfForm_eq hparams, hopened, ← hread]
  simp only [close, hconstructor, if_true]
  rfl

theorem readField_eq (hconstructor : m.isConstructor = false) (hfield : m.isField = true)
    {options rest : List Form}
    (hoptions : options.map (Form.respan {}) = { m with inlined := false }.optionForms)
    (s t : Span) :
    readField (.sym m.name t :: (options ++ rest)) s =
      (m.opened s).readOptions rest >>= fun result => m.close result.1 result.2 s := by
  have hkind : m.kind = .field := by simpa [isField] using hfield
  have hopened : m.opened s =
      { (bareField m.name s).withType m.type with visibility := m.visibility } := by
    simp [opened, isField, hkind, bareField, withType]
  have hread : (bareField m.name s).readOptions (options ++ rest) = _ :=
    readOptions_append rfl rfl hoptions
  rw [hopened, ← hread]
  simp only [close, hconstructor, hfield, Bool.false_eq_true, if_false, if_true]
  rfl

theorem readMethod_eq (hconstructor : m.isConstructor = false) (hfield : m.isField = false)
    {params : Form} {options rest : List Form}
    (hparams : params.respan {} = .vector (m.signature.params.map (·.toForm)) {})
    (hoptions : options.map (Form.respan {}) = { m with inlined := false }.optionForms)
    (s t : Span) :
    readMethod (.sym m.name t :: params :: (options ++ rest)) s =
      (m.opened s).readOptions rest >>= fun result => m.close result.1 result.2 s := by
  have hkind : m.kind = .method := by
    cases hkind : m.kind with
    | field => exact absurd hfield (by simp [isField, hkind])
    | method => rfl
  have hopened : m.opened s = { (bareMethod m.name m.signature.params s).withType m.type
      with visibility := m.visibility } := by
    simp [opened, isField, hkind, bareMethod, withType]
  have hread : (bareMethod m.name m.signature.params s).readOptions (options ++ rest) = _ :=
    readOptions_append rfl rfl hoptions
  rw [hopened, ← hread]
  simp only [close, hconstructor, hfield, Bool.false_eq_true, if_false]
  have hname : readMethod (.sym m.name t :: params :: (options ++ rest)) s =
      Param.listOfForm params >>= fun ps =>
        (bareMethod m.name ps s).readOptions (options ++ rest) >>= fun result =>
          .ok { result.1 with body := blockOf result.2 s } := rfl
  rw [hname, Param.listOfForm_eq hparams]
  rfl

/-- **A printed member** is read as its head, type and visibility say; what follows them, a mark to
be inlined and the body, is read as options for as long as keywords lead it. -/
theorem ofForm_eq_bind (hg : g.respan {} = m.toForm.told) :
    ∃ rest s, rest.map (Form.respan {}) = m.inlineForms ++ m.bodyForms.map Form.told ∧
      ofForm g = (m.opened s).readOptions rest >>= fun result => m.close result.1 result.2 s := by
  rw [told_toForm, optionForms_eq, List.append_assoc] at hg
  obtain ⟨items, s, rfl, hitems⟩ := exists_of_respan_eq_seq hg
  obtain ⟨heads, more, rfl, hheads, hmore⟩ := List.map_eq_append_iff.mp hitems
  obtain ⟨options, rest, rfl, hoptions, hrest⟩ := List.map_eq_append_iff.mp hmore
  refine ⟨rest, s, hrest, ?_⟩
  rw [headForms] at hheads
  split at hheads
  · rename_i hconstructor
    obtain ⟨s', params, rfl, hparams⟩ := exists_of_map_respan_eq_pair hheads
    exact readConstructor_eq hconstructor hparams hoptions s
  · rename_i hconstructor
    have hconstructor := Bool.eq_false_of_not_eq_true hconstructor
    split at hheads
    · rename_i hfield
      obtain ⟨s', name, rfl, hname⟩ := exists_of_map_respan_eq_pair hheads
      obtain ⟨t, rfl⟩ := exists_of_respan_eq_atom hname
      exact readField_eq hconstructor hfield hoptions s t
    · rename_i hfield
      obtain ⟨s', more, rfl, hmore⟩ := exists_of_map_respan_eq_atom_cons hheads
      obtain ⟨t, params, rfl, hparams⟩ := exists_of_map_respan_eq_pair hmore
      exact readMethod_eq hconstructor (Bool.eq_false_of_not_eq_true hfield) hparams hoptions s t

/-- **A legible member** is read back from its form. -/
theorem ofForm_eq (h : m.IsLegible) (hg : g.respan {} = m.toForm.told) :
    ∃ body s, ofForm g = .ok (m.reread body s) ∧
      body.map (Form.respan {}) = m.bodyForms.map Form.told := by
  obtain ⟨body, s, hbody, hread⟩ := ofForm_eq_bind hg
  have hplain : m.inlineForms = [] := by simp [inlineForms, h.inlined_eq]
  rw [hplain, List.nil_append] at hbody
  refine ⟨body, s, ?_, hbody⟩
  rw [hread, readOptions_of_not_keyword _ (h.keyword?_of_map_eq hbody)]
  change m.close (m.opened s) body s = _
  rw [close.eq_def]
  split
  · rename_i hconstructor
    simp [reread, opened, hconstructor]
  · rename_i hconstructor
    split
    · rename_i hfield
      have hlength : body.length ≤ 1 := by
        rw [← List.length_map (f := Form.respan {}), hbody, List.length_map]
        exact h.length_le hfield
      rw [reread, if_neg hconstructor]
      match body, hlength with
      | [], _ => rfl
      | [f], _ => rfl
    · rw [reread, if_neg hconstructor]
      rfl

/-- A body prints as itself, but for the block in a member of the constructor's name. -/
theorem bodyForms_eq_singleton {f : Form} (hbody : m.body = some f)
    (h : m.name = constructorName → f.head? ≠ some "do") : m.bodyForms = [f] := by
  rw [bodyForms, hbody]
  split
  · exact absurd ‹_› (by simp)
  · rename_i heq
    obtain rfl := Option.some.inj heq
    rw [if_neg fun hname => h (by simpa using hname) rfl]
    rfl
  · rename_i heq
    rw [Option.some.inj heq]

theorem length_bodyForms_le (h : m.name ≠ constructorName) : m.bodyForms.length ≤ 1 := by
  cases hbody : m.body with
  | none =>
    rw [bodyForms, hbody]
    exact Nat.zero_le 1
  | some f =>
    rw [bodyForms_eq_singleton hbody fun hname => absurd hname h]
    exact le_rfl

/-- The body of a member that was read back is written in the forms that were read. -/
theorem bodyForms_reread (h : m.IsLegible) {body : List Form} (s : Span)
    (hbody : body.map (Form.respan {}) = m.bodyForms.map Form.told) :
    (m.reread body s).bodyForms = body := by
  by_cases hconstructor : m.isConstructor = true
  · have hname : m.name = constructorName := by
      simpa using (Bool.and_eq_true_iff.mp hconstructor).2
    have hwritten : (m.reread body s).body = some (.call "do" body s) := if_pos hconstructor
    rw [bodyForms, hwritten]
    exact if_pos (by simpa [reread] using hname)
  · have hwritten : (m.reread body s).body = blockOf body s := if_neg hconstructor
    have hfield : m.name = constructorName → m.isField = true := fun hname => by
      cases hkind : m.kind with
      | field => simp [isField, hkind]
      | method => exact absurd (by simp [isConstructor, isMethod, hkind, hname]) hconstructor
    have hle : body.length ≤ 1 := by
      rw [← List.length_map (f := Form.respan {}), hbody, List.length_map]
      by_cases hname : m.name = constructorName
      · exact h.length_le (hfield hname)
      · exact length_bodyForms_le hname
    match body, hle with
    | [], _ =>
      rw [bodyForms, hwritten]
      rfl
    | [f], _ =>
      refine bodyForms_eq_singleton hwritten fun hname hdo => ?_
      obtain ⟨f', rest, hforms, htold, -⟩ := List.map_eq_cons_iff.mp hbody.symm
      refine h.head?_ne (hfield hname) hname f' (hforms ▸ List.mem_cons_self) ?_
      exact Form.head?_eq_do_of_told (by rw [htold, Form.head?_respan, hdo])

/-- A member that was read back prints the same. -/
theorem toForm_reread (h : m.IsLegible) {body : List Form} (s : Span)
    (hbody : body.map (Form.respan {}) = m.bodyForms.map Form.told) :
    (m.reread body s).toForm.respan {} = m.toForm.told := by
  have hheads : (m.reread body s).headForms = m.headForms := by
    cases hkind : m.kind with
    | field => simp [headForms, reread, isConstructor, isMethod, isField, hkind]
    | method => simp [headForms, reread, isConstructor, isMethod, isField, hkind]
  have hoptions : (m.reread body s).optionForms = m.optionForms := by
    rw [optionForms, optionForms, h.inlined_eq]
    rfl
  rw [told_toForm, toForm, hheads, hoptions, bodyForms_reread h s hbody, List.append_assoc,
    Form.list, Form.respan, Form.respanAll_eq_map, List.map_append, List.map_append, hbody,
    Form.map_respan_of_map_told m.map_told_headForms,
    Form.map_respan_of_map_told m.map_told_optionForms]
  rfl

end Member

/-! ### Declarations -/

namespace TypeDecl

open Form (exists_of_map_respan_eq_atom_cons exists_of_map_respan_eq_pair exists_of_respan_eq_atom
  exists_of_respan_eq_seq)

/-- A declaration as it is read back, with its members. -/
def reread (d : TypeDecl) (members : List Member) (s : Span) : TypeDecl :=
  { name := d.name
    kind := d.kind
    typeParams := d.typeParams
    superclass := d.superclass
    interfaces := d.interfaces
    members
    span := s }

/-- An option with its value is taken in. -/
theorem readOptions_pair {d d' : TypeDecl} {key : String} {value : Form} {gs rest : List Form}
    (h : ∀ g, g.respan {} = value → d.applyOption key g = .ok d')
    (hgs : gs.map (Form.respan {}) = [.keyword key {}, value]) :
    d.readOptions (gs ++ rest) = d'.readOptions rest := by
  obtain ⟨s, second, rfl, hsecond⟩ := exists_of_map_respan_eq_pair hgs
  rw [List.cons_append, List.cons_append, readOptions, h second hsecond]
  rfl

theorem readOptions_of_not_keyword (d : TypeDecl) {rest : List Form}
    (h : ∀ f ∈ rest.head?, f.keyword? = none) : d.readOptions rest = .ok (d, rest) := by
  unfold readOptions
  split
  · exact absurd (h _ rfl) (by simp [Form.keyword?])
  · exact absurd (h _ rfl) (by simp [Form.keyword?])
  · rfl

variable {e : TypeDecl} {gs rest : List Form}

theorem readOptions_params (he : e.typeParams = []) {names : List String}
    (hgs : gs.map (Form.respan {}) = List.flatten (if names.isEmpty then []
      else [[.keyword "params" {}, .vector (names.map (.sym · {})) {}]])) :
    e.readOptions (gs ++ rest) = readOptions { e with typeParams := names } rest := by
  split at hgs
  · rename_i hempty
    obtain rfl := List.map_eq_nil_iff.mp hgs
    rw [List.isEmpty_iff.mp hempty, ← he]
    rfl
  · refine readOptions_pair (fun g hg => ?_) hgs
    rw [applyOption, Form.asNames_eq hg]
    rfl

theorem readOptions_superclass (he : e.superclass = none) {superclass : Option TypeRef}
    (hgs : gs.map (Form.respan {}) = List.flatten (match superclass with
      | some r => [[.keyword "extends" {}, r.toForm {}]]
      | none => [])) :
    e.readOptions (gs ++ rest) = readOptions { e with superclass } rest := by
  cases superclass with
  | none =>
    obtain rfl := List.map_eq_nil_iff.mp hgs
    rw [← he]
    rfl
  | some r =>
    refine readOptions_pair (fun g hg => ?_) hgs
    rw [applyOption, r.ofForm_eq hg]
    rfl

theorem readOptions_interfaces (he : e.interfaces = []) {refs : List TypeRef}
    (hgs : gs.map (Form.respan {}) = List.flatten (if refs.isEmpty then []
      else [[.keyword "implements" {}, .vector (refs.map (·.toForm {})) {}]])) :
    e.readOptions (gs ++ rest) = readOptions { e with interfaces := refs } rest := by
  split at hgs
  · rename_i hempty
    obtain rfl := List.map_eq_nil_iff.mp hgs
    rw [List.isEmpty_iff.mp hempty, ← he]
    rfl
  · refine readOptions_pair (fun g hg => ?_) hgs
    obtain ⟨items, s, rfl, hitems⟩ := exists_of_respan_eq_seq hg
    rw [← TypeRef.toForms_eq_map] at hitems
    exact bind_eq_ok.mpr ⟨items, rfl, bind_eq_ok.mpr ⟨refs, TypeRef.ofForms_eq refs hitems, rfl⟩⟩

/-- **The options of a declaration** are read from their forms. -/
theorem readOptions_eq (d : TypeDecl) (s : Span)
    (hgs : gs.map (Form.respan {}) = d.optionForms.flatten)
    (hrest : ∀ f ∈ rest.head?, f.keyword? = none) :
    readOptions { name := d.name, kind := d.kind, span := s } (gs ++ rest) =
      .ok (d.reread [] s, rest) := by
  rw [optionForms, List.flatten_append, List.flatten_append] at hgs
  obtain ⟨pairs, interfaces, rfl, hpairs, hinterfaces⟩ := List.map_eq_append_iff.mp hgs
  obtain ⟨params, superclass, rfl, hparams, hsuperclass⟩ := List.map_eq_append_iff.mp hpairs
  rw [List.append_assoc, List.append_assoc, readOptions_params rfl hparams,
    readOptions_superclass rfl hsuperclass, readOptions_interfaces rfl hinterfaces,
    readOptions_of_not_keyword _ hrest]
  rfl

/-- **Members** with distinct names, all legible, are read back and print the same. -/
theorem readMembers_eq (owner : String) {seen : List String} {ms : List Member}
    (hlegible : ∀ m ∈ ms, m.IsLegible) (hnames : (ms.map (·.name)).Nodup)
    (hseen : ∀ m ∈ ms, m.name ∉ seen)
    (hgs : gs.map (Form.respan {}) = ms.map (·.toForm.told)) :
    ∃ ms', readMembers owner seen gs = .ok ms' ∧
      ms'.map (·.toForm.respan {}) = ms.map (·.toForm.told) := by
  induction ms generalizing seen gs with
  | nil =>
    obtain rfl := List.map_eq_nil_iff.mp hgs
    exact ⟨[], rfl, rfl⟩
  | cons m ms ih =>
    obtain ⟨hm, hms⟩ := List.forall_mem_cons.mp hlegible
    obtain ⟨hnew, hseen⟩ := List.forall_mem_cons.mp hseen
    obtain ⟨hfirst, hnames⟩ := List.nodup_cons.mp hnames
    obtain ⟨g, gs, rfl, hg, hgs⟩ := List.map_eq_cons_iff.mp hgs
    obtain ⟨body, s, hread, hbody⟩ := Member.ofForm_eq hm hg
    have hseen' : ∀ m' ∈ ms, m'.name ∉ m.name :: seen := by
      intro m' hm' hmem
      rcases List.mem_cons.mp hmem with heq | hmem
      · exact hfirst (List.mem_map.mpr ⟨m', hm', heq⟩)
      · exact hseen m' hm' hmem
    obtain ⟨ms', hreads, hprint⟩ := ih hms hnames hseen' hgs
    refine ⟨m.reread body s :: ms', ?_, ?_⟩
    · refine bind_eq_ok.mpr ⟨_, hread, ?_⟩
      have hname : seen.contains (m.reread body s).name = false := by
        simpa [Member.reread] using hnew
      rw [hname]
      exact bind_eq_ok.mpr ⟨ms', hreads, rfl⟩
    · rw [List.map_cons, List.map_cons, Member.toForm_reread hm s hbody, hprint]

/-- A declaration is legible if its members are, and their names are distinct. -/
structure IsLegible (d : TypeDecl) : Prop where
  members : ∀ m ∈ d.members, m.IsLegible
  nodup : d.memberNames.Nodup

theorem map_told_optionForms (d : TypeDecl) :
    d.optionForms.flatten.map Form.told = d.optionForms.flatten := by
  have hnames : (Form.vector (d.typeParams.map (.sym · {})) {}).told =
      .vector (d.typeParams.map (.sym · {})) {} := by
    refine (Form.told_seq .square _ {}).trans ?_
    rw [List.map_map]
    rfl
  have hrefs : (Form.vector (d.interfaces.map (·.toForm {})) {}).told =
      .vector (d.interfaces.map (·.toForm {})) {} := by
    rw [← TypeRef.toForms_eq_map]
    refine (Form.told_seq .square _ {}).trans ?_
    rw [TypeRef.map_told_toForms]
    rfl
  rw [optionForms, List.flatten_append, List.flatten_append, List.map_append, List.map_append]
  congr 1
  · congr 1
    · split
      · rfl
      · exact congrArg (fun g => [Form.keyword "params" {}, g]) hnames
    · cases d.superclass with
      | none => rfl
      | some r => exact congrArg (fun g => [Form.keyword "extends" {}, g]) r.told_toForm
  · split
    · rfl
    · exact congrArg (fun g => [Form.keyword "implements" {}, g]) hrefs

/-- What the text of a declaration tells. -/
theorem told_toForm (d : TypeDecl) :
    d.toForm.told =
      .list (d.headForms ++ d.optionForms.flatten ++ d.members.map (·.toForm.told)) {} := by
  rw [toForm, Form.list, Form.told_seq, List.map_append, List.map_append, map_told_optionForms,
    List.map_map]
  rfl

/-- **A printed declaration** is read as its head and its options say, with what its members are
read as. -/
theorem readDecl_eq_bind {d : TypeDecl} {g : Form} (hg : g.respan {} = d.toForm.told) :
    ∃ gs s, gs.map (Form.respan {}) = d.members.map (·.toForm.told) ∧
      SourceUnit.readDecl g =
        readMembers d.name [] gs >>= fun ms => .ok (d.reread ms s) := by
  rw [told_toForm] at hg
  obtain ⟨items, s, rfl, hitems⟩ := exists_of_respan_eq_seq hg
  obtain ⟨front, members, rfl, hfront, hmembers⟩ := List.map_eq_append_iff.mp hitems
  obtain ⟨heads, options, rfl, hheads, hoptions⟩ := List.map_eq_append_iff.mp hfront
  obtain ⟨s', name, rfl, hname⟩ := exists_of_map_respan_eq_pair hheads
  obtain ⟨s'', rfl⟩ := exists_of_respan_eq_atom hname
  refine ⟨members, s, hmembers, ?_⟩
  have hnext : ∀ f ∈ members.head?, f.keyword? = none := by
    intro f hf
    have hfirst := congrArg List.head? hmembers
    rw [List.head?_map, List.head?_map, hf, Option.map_some] at hfirst
    obtain ⟨m, -, htold⟩ := Option.map_eq_some_iff.mp hfirst.symm
    rw [← Form.keyword?_respan {} f, ← htold]
    exact Form.keyword?_told m.toForm
  have hread : read d.kind (.sym d.name s'' :: (options ++ members)) s =
      readMembers d.name [] members >>= fun ms => .ok (d.reread ms s) := by
    refine (congrArg (· >>= _) (readOptions_eq d s hoptions hnext)).trans ?_
    rfl
  have hdecl : SourceUnit.readDecl
      (.list (.sym d.kind.headWord s' :: .sym d.name s'' :: (options ++ members)) s) =
        read d.kind (.sym d.name s'' :: (options ++ members)) s := by
    cases d.kind with
    | classType =>
      change ((read .classType _ s >>= _) >>= _) = read .classType _ s
      cases read .classType (.sym d.name s'' :: (options ++ members)) s <;> rfl
    | interfaceType =>
      change ((read .interfaceType _ s >>= _) >>= _) = read .interfaceType _ s
      cases read .interfaceType (.sym d.name s'' :: (options ++ members)) s <;> rfl
  exact hdecl.trans hread

/-- **A legible declaration** is read back from its form, and its members print the same. -/
theorem readDecl_eq {d : TypeDecl} (h : d.IsLegible) {g : Form} (hg : g.respan {} = d.toForm.told) :
    ∃ ms s, SourceUnit.readDecl g = .ok (d.reread ms s) ∧
      ms.map (·.toForm.respan {}) = d.members.map (·.toForm.told) := by
  obtain ⟨gs, s, hgs, hread⟩ := readDecl_eq_bind hg
  obtain ⟨ms, hreads, hprint⟩ := readMembers_eq d.name h.members h.nodup
    (fun _ _ => List.not_mem_nil) hgs
  exact ⟨ms, s, hread.trans (bind_eq_ok.mpr ⟨ms, hreads, rfl⟩), hprint⟩

/-- Without notes, what is printed is the heads, the options and the members. -/
theorem print_eq_of_chars {layout : PrintLayout} (hlayout : layout.annotate = false)
    {d e : TypeDecl} (hheads : e.headForms = d.headForms) (hoptions : e.optionForms = d.optionForms)
    (hchars : e.members.map (·.toForm.chars) = d.members.map (·.toForm.chars)) :
    e.print layout = d.print layout := by
  have hlines : ∀ ms : List Member, (ms.map fun m => [m.toForm]).flatMap
      (Form.lineChars layout.indent) = (ms.map (·.toForm.chars)).flatMap fun cs =>
        '\n' :: List.replicate layout.indent ' ' ++ cs := by
    intro ms
    rw [List.flatMap_map, List.flatMap_map]
    rfl
  rw [← String.toList_inj, toList_print hlayout, toList_print hlayout, plainChars, plainChars,
    lineForms, lineForms, List.flatMap_append, List.flatMap_append, hlines, hlines, ← hchars,
    hheads, hoptions]

theorem print_reread {layout : PrintLayout} (hlayout : layout.annotate = false) {d : TypeDecl}
    {ms : List Member} (s : Span)
    (h : ms.map (·.toForm.respan {}) = d.members.map (·.toForm.told)) :
    (d.reread ms s).print layout = d.print layout := by
  have hmap := congrArg (List.map Form.chars) h
  rw [List.map_map, List.map_map] at hmap
  have hchars : ms.map (·.toForm.chars) = d.members.map (·.toForm.chars) := by
    simpa [Function.comp_def, Form.chars_respan, Form.chars_told] using hmap
  exact print_eq_of_chars hlayout rfl rfl hchars

/-- Legible declarations, one by one, are read as declarations that print the same. -/
theorem exists_mapM_readDecl_eq {layout : PrintLayout} (hlayout : layout.annotate = false)
    {ds : List TypeDecl} (hlegible : ∀ d ∈ ds, d.IsLegible) {gs : List Form}
    (hgs : gs.map (Form.respan {}) = ds.map (·.toForm.told)) :
    ∃ es, gs.mapM SourceUnit.readDecl = .ok es ∧
      es.map (·.print layout) = ds.map (·.print layout) := by
  induction ds generalizing gs with
  | nil =>
    obtain rfl := List.map_eq_nil_iff.mp hgs
    exact ⟨[], rfl, rfl⟩
  | cons d ds ih =>
    obtain ⟨hd, hds⟩ := List.forall_mem_cons.mp hlegible
    obtain ⟨g, gs, rfl, hg, hgs⟩ := List.map_eq_cons_iff.mp hgs
    obtain ⟨ms, s, hdecl, hprint⟩ := readDecl_eq hd hg
    obtain ⟨es, hes, hprints⟩ := ih hds hgs
    refine ⟨d.reread ms s :: es, ?_, ?_⟩
    · rw [List.mapM_cons]
      exact bind_eq_ok.mpr ⟨_, hdecl, bind_eq_ok.mpr ⟨es, hes, rfl⟩⟩
    · rw [List.map_cons, List.map_cons, print_reread hlayout s hprint, hprints]

end TypeDecl

/-- **Declarations survive printing.** Legible declarations, printed without notes, are read as
declarations that print the same. -/
theorem SourceUnit.ofSource_print {layout : PrintLayout} (hlayout : layout.annotate = false)
    {ds : List TypeDecl} (hscanned : ∀ d ∈ ds, d.toForm.AllAtoms Atom.IsScanned)
    (hlegible : ∀ d ∈ ds, d.IsLegible) :
    ∃ v, SourceUnit.ofSource ("\n\n".intercalate (ds.map (·.print layout))) = .ok v ∧
      v.types.map (·.print layout) = ds.map (·.print layout) := by
  obtain ⟨gs, hgs, hread⟩ := TypeDecl.exists_readAll_eq hlayout hscanned
  obtain ⟨es, hes, hprints⟩ := TypeDecl.exists_mapM_readDecl_eq hlayout hlegible hgs
  exact ⟨⟨es⟩, bind_eq_ok.mpr ⟨gs, hread, bind_eq_ok.mpr ⟨es, hes, rfl⟩⟩, hprints⟩

end DeclWeave
