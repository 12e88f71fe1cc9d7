import DeclWeave.Proofs.DerivedConstructors
import DeclWeave.Proofs.DonorChains
import DeclWeave.Proofs.ScannedDeclarations
import DeclWeave.Proofs.TailPositions

/-!
# Instantiated Types

Arguments are put into a type more than once: a reference to the parent of a donor has those of the
donor put in, and then those of the type that implements the donor. Once is enough. Two sets of
bindings make up a third (`Bindings.andThen`), and a name that was bound is not looked up again: it
stands for what the first set gives, with the second put in. Since a type has no argument put in for
a name that is applied to arguments, this goes through whatever the names are.

Arguments are put into bodies as well, and there they are put in for every symbol. The two agree on
a type that stands in a body unless a name in it that is applied to arguments (`TypeRef.heads`) is
bound to something else: then the body has the argument, and the signature has the name.

## Main results

* `substitute_andThen`: one set of bindings after the other, for types, signatures, parents of
  donors and superclasses of delegates.
* `TypeRef.substitute_foldl`: any number of sets of bindings.
* `Donor.copy_instantiates_iff`: when a type in the copy of a body is the one in its signature.
* `Donor.copy_parts_headed`: where it is not.
-/

namespace DeclWeave

/-! ### One set of bindings after another -/

namespace Bindings

/-- What the first bindings give, with the second put in; and what else the second give. -/
def andThen (b₁ b₂ : Bindings) : Bindings :=
  ⟨b₁.entries.map (fun entry => (entry.1, entry.2.substitute b₂)) ++ b₂.entries⟩

theorem find?_andThen (b₁ b₂ : Bindings) (name : String) :
    (b₁.andThen b₂).find? name = ((b₁.find? name).map (·.substitute b₂)).or (b₂.find? name) := by
  have hmap : ∀ entries : List (String × TypeRef),
      (entries.map fun entry => (entry.1, entry.2.substitute b₂)).lookup name =
        (entries.lookup name).map (·.substitute b₂) := by
    intro entries
    induction entries with
    | nil => rfl
    | cons entry entries ih =>
      rw [List.map_cons, List.lookup_cons, List.lookup_cons]
      cases name == entry.1 with
      | true => rfl
      | false => exact ih
  rw [find?, andThen, List.lookup_append, hmap]
  rfl

end Bindings

namespace TypeRef

mutual

/-- **Twice is once**, whatever the names in the type and what they are bound to. -/
theorem substitute_substitute (b₁ b₂ : Bindings) :
    ∀ t : TypeRef, (t.substitute b₁).substitute b₂ = t.substitute (b₁.andThen b₂)
  | ⟨name, []⟩ => by
    rw [substitute, substitute, Bindings.find?_andThen]
    cases b₁.find? name with
    | none => rfl
    | some t => rfl
  | ⟨name, arg :: args⟩ => by
    rw [substitute, substitute, substitute, substitute_substitute b₁ b₂ arg,
      substituteAll_substituteAll b₁ b₂ args]

theorem substituteAll_substituteAll (b₁ b₂ : Bindings) :
    ∀ ts : List TypeRef, substituteAll b₂ (substituteAll b₁ ts) = substituteAll (b₁.andThen b₂) ts
  | [] => rfl
  | t :: ts => by
    rw [substituteAll, substituteAll, substituteAll, substitute_substitute b₁ b₂ t,
      substituteAll_substituteAll b₁ b₂ ts]

end

/-- **Any number of sets of bindings**, put in one after the other. -/
theorem substitute_foldl (t : TypeRef) (bs : List Bindings) :
    bs.foldl (fun t b => t.substitute b) t = t.substitute (bs.foldl .andThen {}) := by
  induction bs using List.reverseRecOn with
  | nil => exact (substitute_empty t).symm
  | append_singleton bs b ih =>
    rw [List.foldl_append, List.foldl_append, ih]
    exact substitute_substitute _ b t

theorem option_map_substitute_substitute (b₁ b₂ : Bindings) (t : Option TypeRef) :
    (t.map (·.substitute b₁)).map (·.substitute b₂) = t.map (·.substitute (b₁.andThen b₂)) := by
  rw [Option.map_map]
  exact Option.map_congr fun t _ => substitute_substitute b₁ b₂ t

end TypeRef

theorem Param.substitute_substitute (b₁ b₂ : Bindings) (p : Param) :
    (p.substitute b₁).substitute b₂ = p.substitute (b₁.andThen b₂) := by
  rw [substitute, substitute, TypeRef.option_map_substitute_substitute, substitute]

theorem Signature.substitute_substitute (b₁ b₂ : Bindings) (s : Signature) :
    (s.substitute b₁).substitute b₂ = s.substitute (b₁.andThen b₂) := by
  rw [substitute, substitute, TypeRef.option_map_substitute_substitute, List.map_map, substitute]
  exact congrArg (Signature.mk · _)
    (List.map_congr_left fun p _ => Param.substitute_substitute b₁ b₂ p)

/-- **Substitution composes.** Putting in one set of bindings after another is putting in a third at
once: the one that gives what the first gives with the second put in, and what the second gives for
any other name. This goes for types and signatures, and so for what a donor or a delegate refers to,
whose own arguments are put in before those of what comes below it. -/
theorem substitute_andThen (b₁ b₂ : Bindings) :
    (∀ name, (b₁.andThen b₂).find? name =
      ((b₁.find? name).map (·.substitute b₂)).or (b₂.find? name)) ∧
    (∀ t : TypeRef, (t.substitute b₁).substitute b₂ = t.substitute (b₁.andThen b₂)) ∧
    (∀ s : Signature, (s.substitute b₁).substitute b₂ = s.substitute (b₁.andThen b₂)) ∧
    (∀ (bank : DonorBank) (child : TypeRef),
      (bank.parents child).map (·.substitute b₂) = bank.interfaces.map
        (·.substitute ((Bindings.ofParams bank.typeParams child.args).andThen b₂))) ∧
    ∀ (d : TypeDecl) (r : TypeRef), (Delegate.superclassThrough d r).map (·.substitute b₂) =
      d.superclass.map (·.substitute ((d.bindingsFor r).andThen b₂)) := by
  refine ⟨Bindings.find?_andThen b₁ b₂, TypeRef.substitute_substitute b₁ b₂,
    Signature.substitute_substitute b₁ b₂, fun bank child => ?_, fun d r => ?_⟩
  · rw [DonorBank.parents, List.map_map]
    exact List.map_congr_left fun t _ => TypeRef.substitute_substitute _ b₂ t
  · exact TypeRef.option_map_substitute_substitute _ b₂ d.superclass

/-! ### Types in bodies -/

namespace TypeRef

mutual

/-- The names in a type that are applied to arguments. -/
def heads : TypeRef → List String
  | ⟨_, []⟩ => []
  | ⟨name, arg :: args⟩ => name :: (heads arg ++ headsAll args)

/-- The names in some types that are applied to arguments. -/
def headsAll : List TypeRef → List String
  | [] => []
  | arg :: args => heads arg ++ headsAll args

end

theorem toForm_eq_sym_iff {t : TypeRef} {name : String} {s : Span} :
    t.toForm s = .sym name s ↔ t = .named name := by
  obtain ⟨name', args⟩ := t
  cases args with
  | nil => simp [toForm, named, Form.sym]
  | cons arg args => simp [toForm, named, Form.sym, Form.list]

theorem substituteTypes_sym_eq_iff {b : Bindings} {name : String} {s : Span} :
    (Form.sym name s).substituteTypes b = .sym name s ↔ b.Fixes [name] := by
  rw [Form.sym, Form.substituteTypes, Bindings.Fixes, List.forall_mem_singleton]
  cases b.find? name with
  | none => simp [Form.sym]
  | some t => simpa [Form.sym] using toForm_eq_sym_iff (s := s)

mutual

/-- **Putting in arguments commutes with writing a type as a form** if and only if no name in it
that is applied to arguments is bound to anything else. -/
theorem substituteTypes_toForm_iff (b : Bindings) (s : Span) :
    ∀ t : TypeRef, (t.toForm s).substituteTypes b = (t.substitute b).toForm s ↔ b.Fixes t.heads
  | ⟨name, []⟩ => by
    rw [toForm, Form.sym, Form.substituteTypes, substitute, heads]
    cases b.find? name with
    | none => simp [toForm, Form.sym, Bindings.Fixes]
    | some t => simp [Bindings.Fixes]
  | ⟨name, arg :: args⟩ => by
    have hheads : name :: (heads arg ++ headsAll args) =
        [name] ++ (heads arg ++ headsAll args) := rfl
    rw [substitute, toForm, toForm, heads, hheads, Bindings.fixes_append, Bindings.fixes_append,
      ← substituteTypes_toForm_iff b s arg, ← substituteTypesAll_toForms_iff b s args,
      ← substituteTypes_sym_eq_iff (s := s)]
    simp [Form.list, Form.substituteTypes, Form.substituteTypesAll]

theorem substituteTypesAll_toForms_iff (b : Bindings) (s : Span) :
    ∀ ts : List TypeRef, Form.substituteTypesAll b (toForms s ts) = toForms s (substituteAll b ts) ↔
      b.Fixes (headsAll ts)
  | [] => by simp [toForms, Form.substituteTypesAll, substituteAll, headsAll, Bindings.Fixes]
  | t :: ts => by
    rw [toForms, substituteAll, toForms, headsAll, Form.substituteTypesAll, Bindings.fixes_append,
      ← substituteTypes_toForm_iff b s t, ← substituteTypesAll_toForms_iff b s ts, List.cons.injEq]

end

end TypeRef

namespace Form

mutual

/-- Arguments are put in wherever a form stands. -/
theorem substituteTypes_respan (b : Bindings) (s : Span) :
    ∀ f : Form, (f.respan s).substituteTypes b = (f.substituteTypes b).respan s
  | .atom a t => by
    cases a with
    | sym name =>
      rw [respan, substituteTypes, substituteTypes]
      cases b.find? name with
      | none => rfl
      | some type => exact (type.respan_toForm s t).symm
    | nil => rfl
    | bool value => rfl
    | int n => rfl
    | float x => rfl
    | str text => rfl
    | keyword name => rfl
  | .seq bracket items t => by
    rw [respan, substituteTypes, substituteTypes, respan, substituteTypesAll_respanAll b s items]

theorem substituteTypesAll_respanAll (b : Bindings) (s : Span) : ∀ fs : List Form,
    substituteTypesAll b (respanAll s fs) = respanAll s (substituteTypesAll b fs)
  | [] => rfl
  | f :: fs => by
    rw [respanAll, substituteTypesAll, substituteTypesAll, respanAll, substituteTypes_respan b s f,
      substituteTypesAll_respanAll b s fs]

end

theorem substituteTypesAll_eq_map (b : Bindings) (fs : List Form) :
    substituteTypesAll b fs = fs.map (substituteTypes b) := by
  induction fs with
  | nil => rfl
  | cons f fs ih => rw [substituteTypesAll, ih, List.map_cons]

/-- What stands at a place still stands there once arguments are put in, with its own put in. -/
theorem sub?_substituteTypes (b : Bindings) {f g : Form} {path : List ℕ}
    (h : f.sub? path = some g) : (f.substituteTypes b).sub? path = some (g.substituteTypes b) := by
  induction path generalizing f with
  | nil =>
    obtain rfl := Option.some.inj h
    rfl
  | cons i path ih =>
    cases f with
    | atom a s => exact absurd h (by simp [elements])
    | seq bracket items s =>
      obtain ⟨item, hitem, hsub⟩ := Option.bind_eq_some_iff.mp h
      rw [elements_seq] at hitem
      rw [substituteTypes, sub?_cons, elements_seq, substituteTypesAll_eq_map, List.getElem?_map,
        hitem]
      exact ih hsub

theorem sub?_respan (s : Span) {f g : Form} {path : List ℕ} (h : f.sub? path = some g) :
    (f.respan s).sub? path = some (g.respan s) := by
  induction path generalizing f with
  | nil =>
    obtain rfl := Option.some.inj h
    rfl
  | cons i path ih =>
    cases f with
    | atom a s' => exact absurd h (by simp [elements])
    | seq bracket items s' =>
      obtain ⟨item, hitem, hsub⟩ := Option.bind_eq_some_iff.mp h
      rw [elements_seq] at hitem
      rw [respan, sub?_cons, elements_seq, respanAll_eq_map, List.getElem?_map, hitem]
      exact ih hsub

end Form

/-! ### Copies of members -/

namespace Donor

/-- What is copied of a body, be it the body of a method or what a field leaves to the
constructor. -/
def copiedBody (d : Donor) (target : TypeDecl) (m : Member) : Option Form :=
  if m.isField then (d.initOf target m).map (·.init) else (d.copy target m).body

theorem copiedBody_eq (d : Donor) (target : TypeDecl) (m : Member) :
    d.copiedBody target m =
      m.body.map fun body => (body.substituteTypes d.bindings).respan target.span := by
  rw [copiedBody, initOf, copy, Member.publish]
  cases m.isField with
  | false => rfl
  | true =>
    cases m.body with
    | none => rfl
    | some body => rfl

/-- A type that stands somewhere in a body stands there in the copy, with arguments put in as they
are in the signature, if and only if its heads are not bound. -/
theorem sub?_copiedBody_iff (d : Donor) (target : TypeDecl) {body : Form} {path : List ℕ}
    {t : TypeRef} {s : Span} (h : body.sub? path = some (t.toForm s)) :
    ((body.substituteTypes d.bindings).respan target.span).sub? path =
        some ((t.substitute d.bindings).toForm target.span) ↔ d.bindings.Fixes t.heads := by
  have hsub := Form.sub?_respan target.span (Form.sub?_substituteTypes d.bindings h)
  rw [hsub, Option.some.injEq, ← Form.substituteTypes_respan, TypeRef.respan_toForm]
  exact TypeRef.substituteTypes_toForm_iff d.bindings target.span t

/-- **Signature and body agree on a type** if and only if no name in it that is applied to arguments
is bound to anything but itself: putting arguments into its form gives the form of the type with
the arguments put in. So a type in a copied body, or in the initializer of a copied field, is the
one that the copied signature would have exactly under this condition. -/
theorem copy_instantiates_iff :
    (∀ (b : Bindings) (t : TypeRef) (s : Span),
      (t.toForm s).substituteTypes b = (t.substitute b).toForm s ↔ b.Fixes t.heads) ∧
    ∀ (d : Donor) (target : TypeDecl) (m : Member) (body : Form), m.body = some body →
      (d.copy target m).signature = m.signature.substitute d.bindings ∧
      ∃ copied, d.copiedBody target m = some copied ∧
        ∀ (path : List ℕ) (t : TypeRef) (s : Span), body.sub? path = some (t.toForm s) →
          (copied.sub? path = some ((t.substitute d.bindings).toForm target.span) ↔
            d.bindings.Fixes t.heads) := by
  refine ⟨fun b t s => t.substituteTypes_toForm_iff b s, fun d target m body hbody => ⟨rfl, ?_⟩⟩
  refine ⟨_, by rw [copiedBody_eq, hbody, Option.map_some], fun path t s h => ?_⟩
  exact d.sub?_copiedBody_iff target h

/-- A map that is made by a method and is its result: a parameter stands in it twice, and it is no
parameter that is applied to arguments. -/
theorem copy_instantiates_map :
    let map (t : TypeRef) : TypeRef := ⟨"Map", [t, ⟨"List", [t]⟩]⟩
    let array : TypeRef := ⟨"Array", [.named "Int"]⟩
    let d : Donor := ⟨{ (default : DonorBank) with typeParams := ["T"] }, ⟨[("T", array)]⟩⟩
    let target : TypeDecl := { name := "C", kind := .classType, span := ⟨7, 9, 1, 8⟩ }
    let body : Form := .ret (.call "new" [(map (.named "T")).toForm {}] {}) {}
    let m : Member := { name := "make", kind := .method, body, signature := ⟨[], map (.named "T")⟩ }
    (d.copy target m).type = some (map array) ∧
    ∃ copied, (d.copy target m).body = some copied ∧
      copied.sub? [1, 1] = some ((map array).toForm target.span) := by
  intro map array d target body m
  obtain ⟨hsignature, copied, hcopied, htypes⟩ := copy_instantiates_iff.2 d target m body rfl
  have hunbound : ∀ name ∈ (map (.named "T")).heads, d.bindings.find? name = none :=
    List.forall_mem_cons.mpr ⟨rfl, List.forall_mem_singleton.mpr rfl⟩
  have hfixes : d.bindings.Fixes (map (.named "T")).heads := fun name hname t ht =>
    absurd ((hunbound name hname).symm.trans ht) (by simp)
  exact ⟨rfl, copied, hcopied, (htypes [1, 1] (map (.named "T")) {} rfl).mpr hfixes⟩

/-- A type that is headed by a parameter is told apart: where the parameter is bound, its form is
headed by the argument, and the type with arguments put in by the parameter still. -/
theorem copy_parts_headed :
    ((TypeRef.mk "T" [.named "Int"]).toForm {}).substituteTypes ⟨[("T", .named "Array")]⟩ =
      (TypeRef.mk "Array" [.named "Int"]).toForm {} ∧
    (TypeRef.mk "T" [.named "Int"]).substitute ⟨[("T", .named "Array")]⟩ =
      .mk "T" [.named "Int"] ∧
    ¬∀ (b : Bindings) (t : TypeRef) (s : Span),
      (t.toForm s).substituteTypes b = (t.substitute b).toForm s := by
  refine ⟨rfl, rfl, fun h => ?_⟩
  have hheaded := h ⟨[("T", .named "Array")]⟩ (.mk "T" [.named "Int"]) {}
  have hfixes := (TypeRef.substituteTypes_toForm_iff _ _ _).mp hheaded
  exact absurd (hfixes "T" List.mem_cons_self (.named "Array") rfl) (by simp [TypeRef.named])

end Donor

end DeclWeave
