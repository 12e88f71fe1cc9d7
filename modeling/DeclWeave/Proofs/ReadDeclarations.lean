import DeclWeave.Decl.Reader
import DeclWeave.Proofs.Outcome

/-!
# What Reading Guarantees

A declaration that was read from a form has distinct member names, and its members are written by
hand: none serves a field or has been given a way to be reached. `SourceUnit.IsRead` says this of
the declarations of a unit; every unit of a source is one.

## Main results

* `SourceUnit.IsRead.nodup`, `SourceUnit.IsRead.forall_mem`: what such a declaration is like.
* `SourceUnit.isRead_of_ofSource`: the unit of a source consists of such declarations.
-/

namespace DeclWeave

open Outcome (Ensures ensures_bind ensures_error ensures_ok ensures_pure)

theorem ensures_reject {α : Type} {P : α → Prop} (cause : ShapeCause) (s : Span) :
    Ensures (reject cause s) P :=
  ensures_error _

/-! ### Members -/

namespace Member

/-- What tells a member that was made from one written by hand. -/
def making (m : Member) : Origin × Option String × Option PropertyAccess × Bool :=
  (m.origin, m.accessorFor, m.property, m.inlined)

/-- The making of a member written by hand. -/
def written : Origin × Option String × Option PropertyAccess × Bool :=
  (.explicit, none, none, false)

namespace Options

@[simp] theorem making_push (o : Options) (d : Directive) :
    (o.push d).member.making = o.member.making := rfl

@[simp] theorem making_pushIf (o : Options) (d : Directive) (wanted : Bool) :
    (o.pushIf d wanted).member.making = o.member.making := by
  rw [pushIf]
  split <;> rfl

@[simp] theorem making_onAccessor (o : Options) (s : Span)
    (f : AccessorRequest → AccessorRequest) :
    (o.onAccessor s f).member.making = o.member.making := rfl

@[simp] theorem making_addMode (o : Options) (mode : PropertyMode) (s : Span) (wanted : Bool) :
    (o.addMode mode s wanted).member.making = o.member.making := by
  rw [addMode]
  split <;> rfl

/-- An option does not change how a member was made. -/
theorem making_apply (o : Options) (key : String) (s : Span) (value : Form) :
    Ensures (o.apply key s value) fun o' => o'.member.making = o.member.making := by
  unfold apply
  split
  case h_3 | h_4 =>
    -- `:private` and `:public` change nothing when they are false.
    refine ensures_bind fun wanted => ?_
    split <;> exact ensures_pure rfl
  case h_15 =>
    split
    · exact ensures_pure rfl
    · exact ensures_reject _ _
  case h_8 | h_9 | h_10 => exact ensures_pure (by simp)
  case h_21 => exact ensures_reject _ _
  all_goals exact ensures_bind fun _ => ensures_pure (by first | rfl | simp)

theorem making_finish (o : Options) :
    Ensures o.finish fun m => m.making = o.member.making := by
  unfold finish
  extract_lets withAccessor
  have hlast : ∀ o' : Options, o'.member.making = o.member.making →
      Ensures (withAccessor o') fun m => m.making = o.member.making := by
    intro o' ho'
    dsimp only [withAccessor]
    split <;> exact ensures_pure ho'
  split
  · exact hlast _ rfl
  · exact ensures_error _
  · exact hlast o rfl

/-- Options in turn, by the recursion of reading them. -/
theorem making_read (o : Options) (forms : List Form) :
    Ensures (o.read forms) fun result => result.1.member.making = o.member.making := by
  fun_induction read o forms with
  | case1 o key s value rest ih =>
    exact (making_apply o key s value).bind fun o' ho' result hresult =>
      (ih o' result hresult).trans ho'
  | case2 o key s => exact ensures_reject _ _
  | case3 o forms => exact ensures_ok rfl

end Options

theorem making_readOptions (m : Member) (forms : List Form) :
    Ensures (m.readOptions forms) fun result => result.1.making = m.making := by
  refine (Options.making_read { member := m } forms).bind fun result hresult => ?_
  exact (Options.making_finish result.1).bind fun m' hm' => ensures_pure (hm'.trans hresult)

theorem making_readField (rest : List Form) (s : Span) :
    Ensures (readField rest s) fun m => m.making = written := by
  refine ensures_bind fun (name, rest) => ?_
  refine (making_readOptions (bareField name s) rest).bind fun (m, rest) hm => ?_
  dsimp only
  split
  · exact ensures_pure hm
  · exact ensures_pure hm
  · exact ensures_reject _ _

theorem making_readMethod (rest : List Form) (s : Span) :
    Ensures (readMethod rest s) fun m => m.making = written := by
  refine ensures_bind fun (name, rest) => ?_
  dsimp only
  split
  · refine ensures_bind fun params => ?_
    exact (making_readOptions (bareMethod name params s) _).bind fun _ hm => ensures_pure hm
  · exact ensures_reject _ _

theorem making_readConstructor (rest : List Form) (s : Span) :
    Ensures (readConstructor rest s) fun m => m.making = written := by
  unfold readConstructor
  split
  · refine ensures_bind fun params => ?_
    exact (making_readOptions (bareMethod constructorName params s) _).bind
      fun _ hm => ensures_pure hm
  · exact ensures_reject _ _

/-- A member that is read was written by hand. -/
theorem making_ofForm (f : Form) : Ensures (ofForm f) fun m => m.making = written := by
  unfold ofForm
  split
  · exact making_readField _ _
  · exact making_readMethod _ _
  · exact making_readConstructor _ _
  · exact ensures_reject _ _
  · exact ensures_reject _ _

end Member

/-! ### Declarations -/

namespace TypeDecl

/-- What holds of every member that is read holds of those of a declaration. -/
theorem forall_mem_readMembers {P : Member → Prop} (hP : ∀ f, Ensures (Member.ofForm f) P)
    (owner : String) (seen : List String) (forms : List Form) :
    Ensures (readMembers owner seen forms) fun ms => ∀ m ∈ ms, P m := by
  induction forms generalizing seen with
  | nil => exact ensures_ok (by simp)
  | cons f forms ih =>
    refine (hP f).bind fun m hm => ?_
    split
    · exact ensures_reject _ _
    · exact (ih _).bind fun ms hms => ensures_pure (List.forall_mem_cons.mpr ⟨hm, hms⟩)

theorem forall_mem_read {P : Member → Prop} (hP : ∀ f, Ensures (Member.ofForm f) P)
    (kind : TypeKind) (rest : List Form) (s : Span) :
    Ensures (read kind rest s) fun d => ∀ m ∈ d.members, P m := by
  unfold read
  split
  · refine ensures_bind fun (d, rest) => ?_
    exact (forall_mem_readMembers hP _ [] rest).bind fun ms hms => ensures_pure hms
  · exact ensures_reject _ _
  · exact ensures_reject _ _

/-- Member names that were read are distinct, and none has been seen. -/
theorem nodup_readMembers (owner : String) (seen : List String) (forms : List Form) :
    Ensures (readMembers owner seen forms) fun ms =>
      (ms.map (·.name)).Nodup ∧ ∀ m ∈ ms, m.name ∉ seen := by
  induction forms generalizing seen with
  | nil => exact ensures_ok (by simp)
  | cons f forms ih =>
    refine ensures_bind fun m => ?_
    split
    · exact ensures_reject _ _
    · rename_i hnew
      refine (ih (m.name :: seen)).bind fun ms ⟨hnodup, hseen⟩ => ensures_pure ⟨?_, ?_⟩
      · rw [List.map_cons, List.nodup_cons]
        refine ⟨fun hmem => ?_, hnodup⟩
        obtain ⟨m', hm', hname⟩ := List.mem_map.mp hmem
        exact hseen m' hm' (List.mem_cons.mpr (.inl hname))
      · refine List.forall_mem_cons.mpr ⟨by simpa using hnew, fun m' hm' hmem => ?_⟩
        exact hseen m' hm' (List.mem_cons_of_mem _ hmem)

/-- The body of a declaration. -/
theorem nodup_read (kind : TypeKind) (rest : List Form) (s : Span) :
    Ensures (read kind rest s) fun d => d.memberNames.Nodup := by
  unfold read
  split
  · refine ensures_bind fun (d, rest) => ?_
    exact (nodup_readMembers _ [] rest).bind fun ms ⟨hnodup, _⟩ => ensures_pure hnodup
  · exact ensures_reject _ _
  · exact ensures_reject _ _

/-- What the body of every declaration ensures, a declaration that was read has. -/
theorem of_ofForm? {P : TypeDecl → Prop} (hP : ∀ kind rest s, Ensures (read kind rest s) P)
    {f : Form} {d : TypeDecl} (h : ofForm? f = .ok (some d)) : P d := by
  unfold ofForm? at h
  split at h
  · obtain ⟨d', hread, h⟩ := Outcome.bind_eq_ok.mp h
    obtain rfl := Option.some.inj (Except.ok.inj h)
    exact hP _ _ _ d' hread
  · obtain ⟨d', hread, h⟩ := Outcome.bind_eq_ok.mp h
    obtain rfl := Option.some.inj (Except.ok.inj h)
    exact hP _ _ _ d' hread
  · exact absurd (Except.ok.inj h) (by simp)

end TypeDecl

namespace SourceUnit

/-- A unit whose declarations were read from forms. -/
def IsRead (u : SourceUnit) : Prop :=
  ∀ d ∈ u.types, ∃ f, TypeDecl.ofForm? f = .ok (some d)

variable {u : SourceUnit} {d : TypeDecl}

theorem IsRead.nodup (h : u.IsRead) (hd : d ∈ u.types) : d.memberNames.Nodup := by
  obtain ⟨f, hf⟩ := h d hd
  exact TypeDecl.of_ofForm? TypeDecl.nodup_read hf

/-- What holds of every member that is read holds of those of a unit. -/
theorem IsRead.forall_mem (h : u.IsRead) (hd : d ∈ u.types) {P : Member → Prop}
    (hP : ∀ f, Ensures (Member.ofForm f) P) : ∀ m ∈ d.members, P m := by
  obtain ⟨f, hf⟩ := h d hd
  exact TypeDecl.of_ofForm? (TypeDecl.forall_mem_read hP) hf

theorem IsRead.making (h : u.IsRead) (hd : d ∈ u.types) :
    ∀ m ∈ d.members, m.making = Member.written :=
  h.forall_mem hd Member.making_ofForm

theorem IsRead.origin (h : u.IsRead) (hd : d ∈ u.types) :
    ∀ m ∈ d.members, m.origin = .explicit :=
  fun m hm => congrArg Prod.fst (h.making hd m hm)

theorem IsRead.accessorFor (h : u.IsRead) (hd : d ∈ u.types) :
    ∀ m ∈ d.members, m.accessorFor = none :=
  fun m hm => congrArg (·.2.1) (h.making hd m hm)

theorem IsRead.property (h : u.IsRead) (hd : d ∈ u.types) :
    ∀ m ∈ d.members, m.property = none :=
  fun m hm => congrArg (·.2.2.1) (h.making hd m hm)

/-- Each declaration of a unit is read from one of its forms. -/
theorem exists_readDecl_of_ofForms {forms : List Form} (h : ofForms forms = .ok u)
    (hd : d ∈ u.types) : ∃ f ∈ forms, readDecl f = .ok d := by
  obtain ⟨ds, hds, h⟩ := Outcome.bind_eq_ok.mp h
  obtain rfl := Except.ok.inj h
  exact Outcome.exists_of_mem_mapM hds hd

/-- **The unit of some forms** was read from them. -/
theorem isRead_of_ofForms {forms : List Form} (h : ofForms forms = .ok u) : u.IsRead := by
  intro d hd
  obtain ⟨f, -, hf⟩ := exists_readDecl_of_ofForms h hd
  refine ⟨f, ?_⟩
  obtain ⟨result, hresult, hf⟩ := Outcome.bind_eq_ok.mp hf
  cases result with
  | some d' =>
    obtain rfl := Except.ok.inj hf
    exact hresult
  | none => exact absurd hf (by simp [reject])

theorem isRead_of_ofSource {source : String} (h : ofSource source = .ok u) : u.IsRead := by
  obtain ⟨forms, -, h⟩ := Outcome.bind_eq_ok.mp h
  exact isRead_of_ofForms h

end SourceUnit

end DeclWeave
