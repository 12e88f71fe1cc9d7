import DeclWeave.Proofs.ClassSurroundings
import DeclWeave.Proofs.PlannedConstructors

/-!
# The Layout of Constructors

A constructor that has anything to initialize begins with the call of the inherited one, then binds
fields from its parameters, then assigns the initializers that donors gave along with their fields,
and then goes on with what was written by hand. One is made where none was declared. With nothing to
initialize, no constructor is made and a declared one stays as it is.

A class is finished by the member that has the constructor's name, whatever it is. So all this is
said of classes in which only constructors have that name (`TypeDecl.OnlyConstructs`), and under
superclasses of that kind.

## Main results

* `TypeDecl.OnlyConstructs.finishConstructor_cases`: what finishing a constructor does.
* `SourceUnit.IsRead.length_constructors_le`: what was read has one constructor at most.
* `Member.initializes_withInits`: the statements of a finished constructor.
* `Synthesis.exists_laysOut_emit`: the plan of one class.
* `Expansion.expand_laysOut`: the plans of a unit.
-/

namespace DeclWeave

/-! ### The finished constructor -/

namespace Member

theorem isConstructor_withInits (m : Member) (direct : List DirectInit)
    (defaults : List DefaultInit) :
    (m.withInits direct defaults).isConstructor = m.isConstructor := rfl

/-- Statements divide at the call of an inherited constructor that they begin with. -/
def DividesAtSuper (statements first rest : List Form) : Prop :=
  statements = first ++ rest ∧
    ((∃ call, first = [call] ∧ call.head? = some "super") ∨
      first = [] ∧ ∀ f ∈ rest.head?, f.head? ≠ some "super")

theorem dividesAtSuper_splitSuper (statements : List Form) :
    DividesAtSuper statements (splitSuper statements).1 (splitSuper statements).2 := by
  cases statements with
  | nil => exact ⟨rfl, .inr ⟨rfl, by simp [splitSuper]⟩⟩
  | cons f fs =>
    by_cases hf : f.head? = some "super"
    · rw [splitSuper, if_pos hf]
      exact ⟨rfl, .inl ⟨f, rfl, hf⟩⟩
    · rw [splitSuper, if_neg hf]
      exact ⟨rfl, .inr ⟨rfl, by simpa using hf⟩⟩

/-- Parameters are added behind those that are there, for the fields that have none. -/
theorem addParams_spec (params : List Param) (direct : List DirectInit) :
    params <+: addParams params direct ∧
      ∀ name, name ∈ (addParams params direct).map (·.name) ↔
        name ∈ params.map (·.name) ∨ name ∈ direct.map (·.field) := by
  rw [addParams]
  induction direct generalizing params with
  | nil => simp
  | cons i direct ih =>
    rw [List.foldl_cons]
    split
    · rename_i hthere
      obtain ⟨hextends, hnames⟩ := ih params
      refine ⟨hextends, fun name => ?_⟩
      have hi : i.field ∈ params.map (·.name) := by simpa using hthere
      rw [hnames, List.map_cons, List.mem_cons]
      constructor
      · exact Or.imp_right .inr
      · rintro (hname | rfl | hname)
        · exact .inl hname
        · exact .inl hi
        · exact .inr hname
    · obtain ⟨hextends, hnames⟩ := ih (params ++ [i.param])
      refine ⟨(List.prefix_append _ _).trans hextends, fun name => ?_⟩
      rw [hnames, List.map_append, List.mem_append, List.map_singleton, List.mem_singleton,
        List.map_cons, List.mem_cons, or_assoc]
      rfl

end Member

namespace TypeDecl

/-- The members that construct. -/
def constructors (d : TypeDecl) : List Member :=
  d.members.filter (·.isConstructor)

/-- Every member of the constructor's name constructs. -/
def OnlyConstructs (d : TypeDecl) : Prop :=
  ∀ m ∈ d.members, m.name = constructorName → m.isMethod = true

variable {d : TypeDecl}

theorem OnlyConstructs.isConstructor_iff (h : d.OnlyConstructs) {m : Member} (hm : m ∈ d.members) :
    m.isConstructor = true ↔ m.name = constructorName :=
  ⟨Member.name_eq_of_isConstructor, fun hname =>
    Bool.and_eq_true_iff.mpr ⟨h m hm hname, beq_iff_eq.mpr hname⟩⟩

/-- The member of the constructor's name is the first one that constructs. -/
theorem OnlyConstructs.constructor?_eq (h : d.OnlyConstructs) :
    d.constructor? = d.members.find? (·.isConstructor) :=
  List.find?_congr fun _ hm => Bool.eq_iff_iff.mpr (beq_iff_eq.trans (h.isConstructor_iff hm).symm)

/-- Changing the member of the constructor's name changes the first one that constructs. -/
theorem OnlyConstructs.constructors_modifyMember (h : d.OnlyConstructs) {f : Member → Member}
    (hf : ∀ m, (f m).isConstructor = m.isConstructor) :
    (d.modifyMember constructorName f).constructors = d.constructors.modifyHead f := by
  change (modifyMember.go constructorName f d.members).filter _ = _
  rw [constructors]
  have hmembers : ∀ m ∈ d.members, m.isConstructor = true ↔ m.name = constructorName :=
    fun m hm => h.isConstructor_iff hm
  generalize d.members = ms at hmembers
  induction ms with
  | nil => rfl
  | cons m ms ih =>
    obtain ⟨hm, hms⟩ := List.forall_mem_cons.mp hmembers
    rw [modifyMember.go]
    split
    · rename_i hname
      have hconstructor : m.isConstructor = true := hm.mpr (beq_iff_eq.mp hname)
      rw [List.filter_cons_of_pos (hf m ▸ hconstructor), List.filter_cons_of_pos hconstructor]
      rfl
    · rename_i hname
      have hconstructor : ¬m.isConstructor = true := fun hm' => hname (beq_iff_eq.mpr (hm.mp hm'))
      rw [List.filter_cons_of_neg hconstructor, List.filter_cons_of_neg hconstructor, ih hms]

/-- **Finishing a constructor**: nothing is done without anything to initialize; otherwise the
first constructor begins with it, or one is made for it. -/
theorem OnlyConstructs.finishConstructor_cases (h : d.OnlyConstructs) (direct : List DirectInit)
    (defaults : List DefaultInit) (inherited : Option Member) :
    (direct = [] ∧ defaults = []) ∧ (d.finishConstructor direct defaults inherited).1 = d ∨
    ¬(direct = [] ∧ defaults = []) ∧
      (d.constructors ≠ [] ∧ (d.finishConstructor direct defaults inherited).1 =
          d.modifyMember constructorName (·.withInits direct defaults) ∨
        d.constructors = [] ∧ (d.finishConstructor direct defaults inherited).1 =
          { d with members := d.members ++ [((Member.derivedConstructor d.span
            inherited).withInits direct defaults).publish] }) := by
  rw [finishConstructor]
  by_cases hidle : direct = [] ∧ defaults = []
  · exact .inl ⟨hidle, by rw [if_pos (by simp [hidle.1, hidle.2])]⟩
  · refine .inr ⟨hidle, ?_⟩
    rw [if_neg (by simpa using hidle), h.constructor?_eq]
    cases hfind : d.members.find? (·.isConstructor) with
    | some own =>
      exact .inl ⟨List.ne_nil_of_mem (List.mem_filter.mpr
        ⟨List.mem_of_find?_eq_some hfind, List.find?_some hfind⟩), rfl⟩
    | none => exact .inr ⟨List.filter_eq_nil_iff.mpr (List.find?_eq_none.mp hfind), rfl⟩

theorem constructors_emit (d : TypeDecl) :
    d.emit.constructors = (d.constructors.filter d.keeps).map (·.emit d.isInterface) := by
  rw [constructors, emit, List.filter_map, constructors, List.filter_comm]
  rfl

end TypeDecl

/-- A declaration that was read has one constructor at most. -/
theorem SourceUnit.IsRead.length_constructors_le {u : SourceUnit} {d : TypeDecl} (h : u.IsRead)
    (hd : d ∈ u.types) : d.constructors.length ≤ 1 := by
  have hdistinct : (d.constructors.map (·.name)).Nodup :=
    (h.nodup hd).sublist (List.filter_sublist.map _)
  have hsame : d.constructors.map (·.name) =
      List.replicate d.constructors.length constructorName := by
    rw [List.eq_replicate_iff, List.length_map, List.forall_mem_map]
    exact ⟨rfl, fun m hm => Member.name_eq_of_isConstructor (List.mem_filter.mp hm).2⟩
  rw [hsame] at hdistinct
  exact List.nodup_replicate.mp hdistinct

namespace Synthesis

variable {c : Context} {d : TypeDecl} {found : Diagnostics}

/-- What is assembled for a type, as a declaration. -/
def assembly (c : Context) (d : TypeDecl) (found : Diagnostics) : TypeDecl :=
  { d with members := assembled c d found }

/-- What donors that do not construct contribute does not construct either. -/
theorem isConstructor_of_mem_contributed (hclass : d.isInterface = false)
    (hdonors : ∀ donor ∈ c.donors.chain d.interfaces,
      ∀ m ∈ donor.bank.members, m.isConstructor = false) :
    ∀ m ∈ (contributed c d found).members, m.isConstructor = false := by
  obtain ⟨gifts, hgifts, hcopies, -⟩ := exists_gifts_contributed c found hclass
  rw [hcopies]
  intro m hm
  obtain ⟨g, hg, rfl⟩ := List.mem_map.mp hm
  exact hdonors g.1 (hgifts g hg).1 g.2 (hgifts g hg).2

theorem constructors_assembly (hclass : d.isInterface = false)
    (hdonors : ∀ donor ∈ c.donors.chain d.interfaces,
      ∀ m ∈ donor.bank.members, m.isConstructor = false) :
    (assembly c d found).constructors = d.constructors.map (takenUp d) := by
  have hnone : (contributed c d found).members.filter (·.isConstructor) = [] :=
    List.filter_eq_nil_iff.mpr fun m hm =>
      Bool.eq_false_iff.mp (isConstructor_of_mem_contributed hclass hdonors m hm)
  change (assembled c d found).filter _ = _
  rw [assembled, List.filter_append, hnone, List.append_nil, filter_isConstructor_planned]
  rfl

/-- The constructor that is made for a class without one. -/
def madeConstructor (c : Context) (d : TypeDecl) (found : Diagnostics) : Member :=
  (initialized c d found (Member.derivedConstructor d.span
    (Ancestry.of c.scope d).constructor?)).publish

/-- Nothing is left for the constructor of a class to do. -/
def Idle (c : Context) (d : TypeDecl) (found : Diagnostics) : Prop :=
  (planned c d found).2.direct = [] ∧ (contributed c d found).defaultInits = []

/-- **The plan of a class**, by what is left for its constructor to do. -/
theorem expanded_cases (hclass : d.isInterface = false)
    (honly : (assembly c d found).OnlyConstructs) :
    Idle c d found ∧ (expanded c d found).1 = assembly c d found ∨
    ¬Idle c d found ∧
      ((assembly c d found).constructors ≠ [] ∧ (expanded c d found).1 =
          (assembly c d found).modifyMember constructorName (initialized c d found) ∨
        (assembly c d found).constructors = [] ∧ (expanded c d found).1 =
          { d with members := assembled c d found ++ [madeConstructor c d found] }) := by
  rw [expanded_eq, if_neg (by simp [hclass])]
  exact honly.finishConstructor_cases (planned c d found).2.direct
    (contributed c d found).defaultInits (Ancestry.of c.scope d).constructor?

/-- Copies of what does not construct are left alone when a constructor is finished. -/
theorem exists_members_expanded (hclass : d.isInterface = false)
    (honly : (assembly c d found).OnlyConstructs)
    (hcopies : ∀ m ∈ (contributed c d found).members, m.isConstructor = false) :
    ∃ kept made, (expanded c d found).1.members =
        kept ++ (contributed c d found).members ++ made ∧
      (∀ m ∈ kept, ∃ x ∈ (planned c d found).1, m.label = x.label) ∧
      (∀ m ∈ made, m.isConstructor = true) ∧ (Idle c d found → made = []) := by
  have hself : ∀ m ∈ (planned c d found).1, ∃ x ∈ (planned c d found).1, m.label = x.label :=
    fun m hm => ⟨m, hm, rfl⟩
  obtain ⟨-, hplan⟩ | ⟨hbusy, ⟨-, hplan⟩ | ⟨-, hplan⟩⟩ := expanded_cases hclass honly
  · exact ⟨_, [], by rw [hplan, List.append_nil]; rfl, hself, by simp, fun _ => rfl⟩
  · obtain ⟨ms, hms, hkept⟩ := (assembly c d found).exists_modifyMember constructorName
      (initialized c d found)
    have hkept' : List.Forall₂ _ ms ((planned c d found).1 ++ (contributed c d found).members) :=
      hkept.flip
    have hfirst := (List.forall₂_take_append _ _ _ hkept').flip
    have hsecond := (List.forall₂_drop_append _ _ _ hkept').flip
    have hother : ∀ m ∈ (contributed c d found).members, m.name ≠ constructorName := by
      intro m hm hname
      have hconstructor := (honly.isConstructor_iff (List.mem_append_right _ hm)).mpr hname
      exact absurd hconstructor (by simp [hcopies m hm])
    have hsame : (contributed c d found).members = ms.drop (planned c d found).1.length := by
      rw [← List.forall₂_eq_eq_eq]
      exact ((List.forall₂_and_left _ _).mpr ⟨hother, hsecond⟩).imp
        fun m m' ⟨hname, hm⟩ => (hm.resolve_right fun hnew => hname hnew.1).symm
    refine ⟨ms.take (planned c d found).1.length, [], ?_, fun m hm => ?_, by simp,
      fun _ => rfl⟩
    · rw [hplan, hms, List.append_nil, hsame, List.take_append_drop]
    · obtain ⟨x, hx, hsame⟩ := exists_of_mem_forall₂ hfirst hm
      refine ⟨x, hx, ?_⟩
      obtain rfl | ⟨-, rfl⟩ := hsame <;> rfl
  · refine ⟨_, [madeConstructor c d found], by rw [hplan]; rfl, hself, ?_, fun hidle =>
      absurd hidle hbusy⟩
    intro m hm
    rw [List.mem_singleton.mp hm]
    rfl

end Synthesis

/-! ### The layout -/

/-- A finished constructor that initializes: behind the statements that stay first, each bound field
is assigned its parameter and each other field the initializer that was held back for it. -/
structure Member.Initializes (ctor : Member) (s : Span) (params : List Param)
    (first rest : List Form) (bound : List String) (inits : List DefaultInit) : Prop where
  body_eq : ctor.body = some (Form.call "do"
    (first ++ bound.map (fun f => .assign (.getOfThis f s) (.sym f s) s) ++
      inits.map (fun i => .assign (.getOfThis i.field s) i.init s) ++ rest) s).stripShields
  params_prefix : params <+: ctor.signature.params
  mem_params_iff : ∀ name, name ∈ ctor.signature.params.map (·.name) ↔
    name ∈ params.map (·.name) ∨ name ∈ bound

/-- What the constructor of a class is before it initializes anything: the one that the class has,
with its statements divided at the call of the inherited one, or else a call of the inherited one
with just its parameters, if it has any. -/
def TypeDecl.Starts (d : TypeDecl) (inherited : Option Member) (s : Span) (params : List Param)
    (first rest : List Form) : Prop :=
  match d.constructors with
  | own :: _ => s = own.span ∧ params = own.signature.params ∧
      Member.DividesAtSuper own.statements first rest
  | [] => s = d.span ∧ params = (inherited.map (·.signature.params)).getD [] ∧ rest = [] ∧
      first = if params.isEmpty then [] else [.call "super" (params.map (.sym ·.name s)) s]

/-- The plan of a class is laid out: its members, with what donors gave it, and its constructor.
`inherited` is the nearest constructor above the class. -/
structure TypeDecl.LaysOut (donors : List Donor) (inherited : Option Member) (d plan : TypeDecl)
    (own : List Member) (gifts : List (Donor × Member)) (made : List Member) : Prop where
  members_eq : plan.members = own ++ gifts.map (fun g => (g.1.copy d g.2).emit false) ++ made
  own_of : ∀ m ∈ own, (∃ w ∈ d.members, m.name = w.name ∧ m.origin = w.origin) ∨
    m.origin = .synthesized
  gifts_of : ∀ g ∈ gifts, g.1 ∈ donors ∧ g.2 ∈ g.1.bank.members
  made_of : ∀ m ∈ made, m.isConstructor = true
  /-- With nothing to initialize, the constructor is as it was declared, or there is none. -/
  idle : d.boundNames = [] → (∀ g ∈ gifts, g.2.isField = true → g.2.body = none) →
    made = [] ∧ plan.constructors.map (fun m => (m.signature, m.body)) =
      d.constructors.map fun m => (m.signature, m.body.map (·.stripShields))
  /-- Otherwise there is one constructor, as long as no more were declared, and it initializes. -/
  busy : (d.boundNames ≠ [] ∨ ∃ g ∈ gifts, g.2.isField = true ∧ g.2.body ≠ none) →
    ∃ ctor s params first rest, plan.constructors.head? = some ctor ∧
      (d.constructors.length ≤ 1 → plan.constructors = [ctor]) ∧
      d.Starts inherited s params first rest ∧
      ctor.Initializes s params first rest d.boundNames
        (gifts.filterMap fun g => g.1.initOf d g.2)

/-- A constructor that is given initializations performs them. -/
theorem Member.initializes_withInits (m : Member) (direct : List DirectInit)
    (defaults : List DefaultInit) : Member.Initializes ((m.withInits direct defaults).emit false)
      m.span m.signature.params (Member.splitSuper m.statements).1
      (Member.splitSuper m.statements).2 (direct.map (·.field)) defaults := by
  obtain ⟨hextends, hnames⟩ := Member.addParams_spec m.signature.params direct
  refine ⟨?_, hextends, hnames⟩
  have hbody : (m.withInits direct defaults).body = some (.call "do"
      ((Member.splitSuper m.statements).1 ++ (direct.map (·.statement m.span) ++
        defaults.map (·.statement m.span)) ++ (Member.splitSuper m.statements).2) m.span) := rfl
  change (m.withInits direct defaults).body.map _ = _
  rw [hbody, ← List.append_assoc, List.map_map]
  rfl

namespace Synthesis

variable {c : Context} {d : TypeDecl} {found : Diagnostics}

/-- Templates apart, the plan of a class is emitted as a whole. -/
theorem keeps_expanded (hclass : d.isInterface = false) {m : Member} (hm : m.isTemplate = false) :
    (expanded c d found).1.keeps m = true := by
  rw [TypeDecl.keeps, kind_expanded, hclass, hm]
  rfl

theorem starts_own {own : Member} {others : List Member} (h : d.constructors = own :: others)
    (inherited : Option Member) : d.Starts inherited own.span own.signature.params
      (Member.splitSuper own.statements).1 (Member.splitSuper own.statements).2 := by
  rw [TypeDecl.Starts, h]
  exact ⟨rfl, rfl, Member.dividesAtSuper_splitSuper own.statements⟩

theorem starts_derived (h : d.constructors = []) (inherited : Option Member) :
    d.Starts inherited d.span (Member.derivedConstructor d.span inherited).signature.params
      (Member.splitSuper (Member.derivedConstructor d.span inherited).statements).1
      (Member.splitSuper (Member.derivedConstructor d.span inherited).statements).2 := by
  have hstatements : (Member.derivedConstructor d.span inherited).statements =
      if ((inherited.map (·.signature.params)).getD []).isEmpty then [] else
        [.call "super" (((inherited.map (·.signature.params)).getD []).map (.sym ·.name d.span))
          d.span] := rfl
  rw [TypeDecl.Starts, h]
  by_cases hparams : ((inherited.map (·.signature.params)).getD []).isEmpty = true
  · rw [hstatements, if_pos hparams]
    exact ⟨rfl, rfl, rfl, (if_pos hparams).symm⟩
  · rw [hstatements, if_neg hparams]
    exact ⟨rfl, rfl, rfl, (if_neg hparams).symm⟩

theorem initOf_eq_none_iff (donor : Donor) (target : TypeDecl) (m : Member) :
    donor.initOf target m = none ↔ (m.isField = true → m.body = none) := by
  rw [Donor.initOf]
  split <;> simp [*]

/-- A constructor has nothing to do just where no field is bound and no given one has an
initializer. -/
theorem idle_iff (hclass : d.isInterface = false) (hsugar : d.sugar.optOut = false)
    {gifts : List (Donor × Member)}
    (hinits : (contributed c d found).defaultInits = gifts.filterMap fun g => g.1.initOf d g.2) :
    Idle c d found ↔ d.boundNames = [] ∧ ∀ g ∈ gifts, g.2.isField = true → g.2.body = none := by
  have hdirect : (planned c d found).2.direct.map (·.field) = d.boundNames :=
    map_field_planned hclass hsugar
  rw [Idle, ← hdirect, List.map_eq_nil_iff, hinits, List.filterMap_eq_nil_iff]
  exact and_congr_right' (forall₂_congr fun g _ => initOf_eq_none_iff _ _ _)

section

variable (hclass : d.isInterface = false) (honly : (assembly c d found).OnlyConstructs)
  (hdonors : ∀ donor ∈ c.donors.chain d.interfaces,
    ∀ m ∈ donor.bank.members, m.isConstructor = false)

include hclass honly hdonors

/-- **The constructors of a plan**: those declared, or the first of them initializing, or a made
one. -/
theorem constructors_expanded :
    Idle c d found ∧ (expanded c d found).1.constructors = d.constructors.map (takenUp d) ∨
    ¬Idle c d found ∧
      ((∃ own others, d.constructors = own :: others ∧ (expanded c d found).1.constructors =
          initialized c d found (takenUp d own) :: others.map (takenUp d)) ∨
        d.constructors = [] ∧ (expanded c d found).1.constructors =
          [madeConstructor c d found]) := by
  have hassembly : (assembly c d found).constructors = d.constructors.map (takenUp d) :=
    constructors_assembly hclass hdonors
  obtain ⟨hidle, hplan⟩ | ⟨hbusy, ⟨hsome, hplan⟩ | ⟨hnone, hplan⟩⟩ := expanded_cases hclass honly
  · exact .inl ⟨hidle, by rw [hplan, hassembly]⟩
  · refine .inr ⟨hbusy, .inl ?_⟩
    cases hown : d.constructors with
    | nil => exact absurd (by rw [hassembly, hown]; rfl) hsome
    | cons own others =>
      have hsame : ∀ m, (initialized c d found m).isConstructor = m.isConstructor :=
        fun m => m.isConstructor_withInits _ _
      refine ⟨own, others, rfl, ?_⟩
      rw [hplan, honly.constructors_modifyMember hsame, hassembly, hown]
      rfl
  · refine .inr ⟨hbusy, .inr ⟨List.map_eq_nil_iff.mp (hassembly ▸ hnone), ?_⟩⟩
    rw [hplan]
    change (assembled c d found ++ [madeConstructor c d found]).filter _ = _
    rw [List.filter_append]
    change (assembly c d found).constructors ++ _ = _
    rw [hnone]
    rfl

variable (hown : ∀ m ∈ d.constructors, m.isTemplate = false)

include hown

/-- No constructor is a template, if none that was declared is. -/
theorem isTemplate_of_mem_constructors :
    ∀ m ∈ (expanded c d found).1.constructors, m.isTemplate = false := by
  have htaken : ∀ ms ⊆ d.constructors, ∀ m ∈ ms.map (takenUp d), m.isTemplate = false := by
    intro ms hms m hm
    obtain ⟨own, hmem, rfl⟩ := List.mem_map.mp hm
    exact hown own (hms hmem)
  obtain ⟨-, hplan⟩ | ⟨-, ⟨own, others, hdecl, hplan⟩ | ⟨-, hplan⟩⟩ :=
    constructors_expanded hclass honly hdonors
  · rw [hplan]
    exact htaken _ (List.Subset.refl _)
  · rw [hplan, List.forall_mem_cons]
    rw [hdecl] at htaken hown
    exact ⟨hown own List.mem_cons_self, htaken _ (List.subset_cons_self _ _)⟩
  · rw [hplan]
    intro m hm
    rw [List.mem_singleton.mp hm]
    rfl

theorem constructors_emit_expanded :
    (expanded c d found).1.emit.constructors =
      (expanded c d found).1.constructors.map (·.emit false) := by
  rw [TypeDecl.constructors_emit, kind_expanded, hclass, List.filter_eq_self.mpr fun m hm =>
    keeps_expanded hclass (isTemplate_of_mem_constructors hclass honly hdonors hown m hm)]

/-- With nothing to do, constructors are emitted as they were declared. -/
theorem map_constructors_emit_of_idle (hidle : Idle c d found) :
    (expanded c d found).1.emit.constructors.map (fun m => (m.signature, m.body)) =
      d.constructors.map fun m => (m.signature, m.body.map (·.stripShields)) := by
  rw [constructors_emit_expanded hclass honly hdonors hown]
  obtain ⟨-, hplan⟩ | ⟨hbusy, -⟩ := constructors_expanded hclass honly hdonors
  · rw [hplan, List.map_map, List.map_map]
    rfl
  · exact absurd hidle hbusy

/-- With something to do, the first constructor does it. -/
theorem exists_initializes_emit (hbusy : ¬Idle c d found) :
    ∃ ctor s params first rest,
      (expanded c d found).1.emit.constructors.head? = some ctor ∧
      (d.constructors.length ≤ 1 → (expanded c d found).1.emit.constructors = [ctor]) ∧
      d.Starts (Ancestry.of c.scope d).constructor? s params first rest ∧
      ctor.Initializes s params first rest ((planned c d found).2.direct.map (·.field))
        (contributed c d found).defaultInits := by
  rw [constructors_emit_expanded hclass honly hdonors hown]
  obtain ⟨hidle, -⟩ | ⟨-, ⟨own, others, hdecl, hplan⟩ | ⟨hdecl, hplan⟩⟩ :=
    constructors_expanded hclass honly hdonors
  · exact absurd hidle hbusy
  · rw [hplan]
    refine ⟨(initialized c d found (takenUp d own)).emit false, _, _, _, _, rfl,
      fun hlength => ?_, starts_own hdecl _, Member.initializes_withInits (takenUp d own) _ _⟩
    obtain rfl : others = [] := by
      rw [hdecl] at hlength
      exact List.length_eq_zero_iff.mp (by simpa using hlength)
    rfl
  · rw [hplan]
    exact ⟨(madeConstructor c d found).emit false, _, _, _, _, rfl, fun _ => rfl,
      starts_derived hdecl _, Member.initializes_withInits
        (Member.derivedConstructor d.span (Ancestry.of c.scope d).constructor?) _ _⟩

/-- **The plan of a class** is laid out. -/
theorem exists_laysOut_emit (hsugar : d.sugar.optOut = false) :
    ∃ own gifts made, TypeDecl.LaysOut (c.donors.chain d.interfaces)
      (Ancestry.of c.scope d).constructor? d (expanded c d found).1.emit own gifts made := by
  obtain ⟨gifts, hgifts, hcopies, hinits⟩ := exists_gifts_contributed c found hclass
  obtain ⟨kept, made, hmembers, hkept, hmade, hnone⟩ :=
    exists_members_expanded hclass honly (isConstructor_of_mem_contributed hclass hdonors)
  have hidle : Idle c d found ↔ _ := idle_iff hclass hsugar hinits
  have hdirect : (planned c d found).2.direct.map (·.field) = d.boundNames :=
    map_field_planned hclass hsugar
  refine ⟨(kept.filter (expanded c d found).1.keeps).map (·.emit false), gifts,
    (made.filter (expanded c d found).1.keeps).map (·.emit false), ?_, ?_, hgifts, ?_, ?_, ?_⟩
  · have hcopies' : (contributed c d found).members.filter (expanded c d found).1.keeps =
        gifts.map fun g => g.1.copy d g.2 := by
      rw [hcopies]
      refine List.filter_eq_self.mpr fun m hm => keeps_expanded hclass ?_
      obtain ⟨g, -, rfl⟩ := List.mem_map.mp hm
      rfl
    rw [TypeDecl.emit, kind_expanded, hclass, hmembers, List.filter_append, List.filter_append,
      hcopies', List.map_append, List.map_append, List.map_map]
    rfl
  · intro m hm
    obtain ⟨m', hm', rfl⟩ := List.mem_map.mp hm
    obtain ⟨x, hx, hlabel⟩ := hkept m' (List.mem_filter.mp hm').1
    obtain ⟨w, hw, hlabel', -⟩ | ⟨-, horigin⟩ := of_mem_planned hx
    · exact .inl ⟨w, hw, Member.name_eq_of_label (hlabel.trans hlabel'),
        Member.origin_eq_of_label (hlabel.trans hlabel')⟩
    · exact .inr ((Member.origin_eq_of_label hlabel).trans horigin)
  · intro m hm
    obtain ⟨m', hm', rfl⟩ := List.mem_map.mp hm
    exact hmade m' (List.mem_filter.mp hm').1
  · intro hbound hgiven
    have hnothing : Idle c d found := hidle.mpr ⟨hbound, hgiven⟩
    exact ⟨by rw [hnone hnothing]; rfl,
      map_constructors_emit_of_idle hclass honly hdonors hown hnothing⟩
  · intro hbusy
    have hsomething : ¬Idle c d found := by
      rw [hidle]
      rintro ⟨hbound, hgiven⟩
      obtain hbound' | ⟨g, hg, hfield, hbody⟩ := hbusy
      · exact hbound' hbound
      · exact hbody (hgiven g hg hfield)
    rw [← hinits, ← hdirect]
    exact exists_initializes_emit hclass honly hdonors hown hsomething

end

/-- Members of the constructor's name construct where a class is assembled, if they do in its
plan. -/
theorem onlyConstructs_assembly (hclass : d.isInterface = false)
    (hown : ∀ m ∈ d.members, m.name = constructorName → m.isTemplate = false)
    (hplan : (expanded c d found).1.emit.OnlyConstructs) :
    (assembly c d found).OnlyConstructs := by
  intro m hm hname
  have htemplate : m.isTemplate = false := by
    rcases List.mem_append.mp hm with hm | hm
    · obtain ⟨w, hw, hlabel, hdirectives⟩ | ⟨htemplate, -⟩ := of_mem_planned hm
      · rw [Member.isTemplate, hdirectives]
        exact hown w hw ((Member.name_eq_of_label hlabel).symm.trans hname)
      · exact htemplate
    · obtain ⟨gifts, -, hcopies, -⟩ := exists_gifts_contributed c found hclass
      rw [hcopies] at hm
      obtain ⟨g, -, rfl⟩ := List.mem_map.mp hm
      rfl
  obtain ⟨m', hm', hlabel⟩ := exists_mem_emit_expanded hclass hm htemplate
  have hmethod := hplan m' hm' ((Member.name_eq_of_label hlabel).trans hname)
  have hkind : m'.kind = m.kind := congrArg (·.2.1) hlabel
  rwa [Member.isMethod, hkind] at hmethod

end Synthesis

namespace Expansion

open Pass

variable {settings : Settings} {u : SourceUnit} {d : TypeDecl}

/-- Where nothing but constructors has their name, the inherited constructor is the nearest. -/
theorem findSome?_constructor?_eq {line : List TypeDecl} (h : ∀ a ∈ line, a.OnlyConstructs) :
    line.findSome? (·.constructor?) =
      line.findSome? fun a => a.members.find? (·.isConstructor) := by
  induction line with
  | nil => rfl
  | cons a line ih =>
    obtain ⟨ha, hline⟩ := List.forall_mem_cons.mp h
    rw [List.findSome?_cons, List.findSome?_cons, ha.constructor?_eq, ih hline]

/-- A donor of a class has no constructors. -/
theorem isConstructor_of_mem_donorsOf (hnames : (u.types.map (·.name)).Nodup) (hd : d ∈ u.types)
    (hclass : d.isInterface = false) {donor : Donor}
    (h : donor ∈ donorsOf settings u (planOf settings u.types d).emit) :
    ∀ m ∈ donor.bank.members, m.isConstructor = false := by
  obtain ⟨e, -, -, -, hbank⟩ := exists_of_mem_donorsOf hnames hd hclass h
  rw [hbank, DonorBank.members_ofDecl]
  intro m hm
  have hdonated := (Bool.and_eq_true_iff.mp (List.mem_filter.mp hm).2).1
  simpa using hdonated

/-- **The layout of constructors.** Unless a repeated type or a circle is reported, a class whose
sugar is carried out has a plan. Where only constructors have their name, there and above, it keeps
its constructor, or its lack of one, if no field is bound and none that was given has an
initializer. Otherwise there is one constructor. It begins with the call of the inherited one that
was written or made, then binds the bound fields in the order declared, then initializes the given
ones in the order given, and ends with the other statements that were written. -/
theorem expand_laysOut
    (hreports : ∀ entry ∈ (expand settings u).diagnostics.entries, ∀ name,
      entry.fault.cause ≠ .duplicateType name ∧ entry.fault.cause ≠ .inheritanceCycle name)
    (hd : d ∈ u.types) (hclass : d.isInterface = false) (hsugar : settings.carriesOut d = true)
    (hown : ∀ m ∈ d.members, m.name = constructorName → m.isTemplate = false) :
    ∃ plan, (expand settings u).plan? d.name = some plan ∧
      ((∀ a ∈ plan.decl :: (expand settings u).above plan.decl, a.OnlyConstructs) →
        ∃ own gifts made, TypeDecl.LaysOut (donorsOf settings u plan.decl)
          (((expand settings u).above plan.decl).findSome? fun a =>
            a.members.find? (·.isConstructor)) d plan.decl own gifts made) := by
  obtain ⟨hnames, hcyclic⟩ := nodup_of_not_reported settings hreports
  have hfind : u.find? d.name = some d := TypeDecl.find?_name_eq_some hnames hd
  have hplan := planOf_eq_expanded ((sugarEnabled_turn settings u.types d.name d).trans hsugar)
  refine ⟨_, by rw [plan?_expand settings hnames hcyclic, hfind]; rfl, fun honly => ?_⟩
  change ∀ a ∈ (planOf settings u.types d).emit :: (expand settings u).above
    (planOf settings u.types d).emit, a.OnlyConstructs at honly
  change ∃ own gifts made, TypeDecl.LaysOut (donorsOf settings u (planOf settings u.types d).emit)
    (((expand settings u).above (planOf settings u.types d).emit).findSome? _) d
    (planOf settings u.types d).emit own gifts made
  obtain ⟨hself, habove⟩ := List.forall_mem_cons.mp honly
  rw [← findSome?_constructor?_eq habove, ← chain_turn_eq hnames hd hclass,
    ← superclasses_turn_eq hnames hcyclic hd hclass]
  rw [hplan] at hself ⊢
  refine Synthesis.exists_laysOut_emit hclass
    (Synthesis.onlyConstructs_assembly hclass hown hself) ?_ ?_ ?_
  · rw [chain_turn_eq hnames hd hclass]
    exact fun donor => isConstructor_of_mem_donorsOf hnames hd hclass
  · intro m hm
    obtain ⟨hmem, hconstructor⟩ := List.mem_filter.mp hm
    exact hown m hmem (Member.name_eq_of_isConstructor hconstructor)
  · simpa using (Bool.and_eq_true_iff.mp hsugar).2

/-- A class with a bound field and a constructor of its own. -/
def countingClass : TypeDecl :=
  { name := "Counter"
    kind := .classType
    superclass := some (.named "Base")
    interfaces := [.named "Tally"]
    members := [{ name := "label", kind := .field, directives := [.directInit] },
      { name := constructorName
        kind := .method
        signature := { params := [⟨"size", none⟩] }
        body := some (.call "do" [.call "super" [.sym "size" {}] {},
          .call "print" [.sym "label" {}] {}] {}) }] }

/-- The class between a superclass with a constructor and a donor of two fields. -/
def countingUnit : SourceUnit :=
  ⟨[{ name := "Tally"
      kind := .interfaceType
      members := [{ name := "total", kind := .field, body := some (.atom (.int 0) {}) },
        { name := "seen", kind := .field, body := some (.call "list" [] {}) }] },
    { name := "Base"
      kind := .classType
      members := [{ name := constructorName
                    kind := .method
                    signature := { params := [⟨"size", none⟩] }
                    body := some (.call "print" [.sym "size" {}] {}) }] },
    countingClass]⟩

/-- The call of the inherited constructor stays first, and what was written by hand comes last. -/
theorem expand_laysOut_counting :
    let settings : Settings := { requireOptIn := false }
    ∃ plan, (expand settings countingUnit).plan? "Counter" = some plan ∧
      plan.decl.constructors.map (·.body.map (·.text)) = [some ("(do (super size) " ++
        "(set! (get this label) label) (set! (get this total) 0) " ++
        "(set! (get this seen) (list)) (print label))")] ∧
      ∃ own gifts made, TypeDecl.LaysOut (donorsOf settings countingUnit plan.decl)
        (((expand settings countingUnit).above plan.decl).findSome? fun a =>
          a.members.find? (·.isConstructor)) countingClass plan.decl own gifts made := by
  intro settings
  have hentries : (expand settings countingUnit).diagnostics.entries = [] := by cbv
  have hconstructs : ((expand settings countingUnit).plan? "Counter").all (fun plan =>
      (plan.decl :: (expand settings countingUnit).above plan.decl).all fun a =>
        a.members.all fun m => m.name != constructorName || m.isMethod) = true := by cbv
  have hbodies : ((expand settings countingUnit).plan? "Counter").map (fun plan =>
      plan.decl.constructors.map (·.body.map (·.text))) = some [some ("(do (super size) " ++
        "(set! (get this label) label) (set! (get this total) 0) " ++
        "(set! (get this seen) (list)) (print label))")] := by cbv
  have hreports : ∀ entry ∈ (expand settings countingUnit).diagnostics.entries, ∀ name,
      entry.fault.cause ≠ .duplicateType name ∧ entry.fault.cause ≠ .inheritanceCycle name := by
    simp [hentries]
  have hd : countingClass ∈ countingUnit.types := by simp [countingUnit]
  have hown : ∀ m ∈ countingClass.members, m.name = constructorName → m.isTemplate = false := by
    simp [countingClass, constructorName, Member.isTemplate]
  obtain ⟨plan, hplan, hlays⟩ := expand_laysOut hreports hd rfl rfl hown
  have hplan : (expand settings countingUnit).plan? "Counter" = some plan := hplan
  rw [hplan] at hconstructs hbodies
  refine ⟨plan, hplan, Option.some.inj hbodies, hlays fun a ha m hm hname => ?_⟩
  have hmember := List.all_eq_true.mp (List.all_eq_true.mp hconstructs a ha) m hm
  simpa [hname] using hmember

end Expansion

end DeclWeave
