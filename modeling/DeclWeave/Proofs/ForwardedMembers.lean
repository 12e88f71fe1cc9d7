import DeclWeave.Proofs.WriteAccess

/-!
# Forwarded Members

A forwarding member goes through the candidates of its delegate in order. Each candidate that its
filter lets through claims its own name; a field claims those of its accessors after that, and keeps
the accessors whose names were free. So an accessor can take the name of a later candidate, which is
then left out, while the candidates themselves never are in each other's way: their names differ.

`Forward.portion` says what one candidate is given, once it is known what was made before it. It
asks only which names the host has to begin with, and what has been made since.

## Main results

* `Delegate.mem_candidates_iff`: what a delegate lets through.
* `Forward.counterparts_singleton`: one candidate is given its portion.
* `Forward.synthesize_portions`: what a forwarding member gives its host.
-/

namespace DeclWeave

/-! ### Accessors whose names are free -/

theorem NameRegistry.accept_fst (r : NameRegistry) (m : Member) :
    (r.accept m).1 = [m].filter fun m => !r.contains m.name := by
  rw [accept, claim?]
  cases h : r.contains m.name <;> simp [h]

/-- Accepting a member makes no difference to other names. -/
theorem NameRegistry.contains_accept_snd (r : NameRegistry) {m : Member} {name : String}
    (h : m.name ≠ name) : (r.accept m).2.contains name = r.contains name := by
  rw [accept, claim?]
  cases r.contains m.name
  · simp [contains, Ne.symm h]
  · rfl

/-- The names of the two accessors of a field differ. -/
theorem getterName_ne_setterName (name : String) : getterName name ≠ setterName name := by
  intro h
  have hchars := congrArg String.toList h
  simp [getterName, setterName] at hchars

namespace PropertySpec

/-- The accessors that a property asks for: a getter, and a setter where it can be written. -/
def accessors (p : PropertySpec) (field : Member) : List Member :=
  let field := field.withType field.inferredType
  p.accessor field (getterName field.name) [] (p.getterBody field) ::
    match p.shape with
    | .readwrite _ assignment =>
      [p.accessor field (setterName field.name) [⟨setterParam, field.type⟩]
        (setterBody field assignment)]
    | _ => []

/-- **The accessors that are made** are those whose names are free. -/
theorem added_apply (p : PropertySpec) (field : Member) (registry : NameRegistry) :
    (p.apply field registry).added =
      (p.accessors field).filter fun m => !registry.contains m.name := by
  obtain ⟨shape, inlined⟩ := p
  cases shape with
  | calculated => exact registry.accept_fst _
  | readonly getter => exact registry.accept_fst _
  | readwrite getter assignment =>
    -- The setter is held against a registry that may know the getter, but by another name.
    let p : PropertySpec := ⟨.readwrite getter assignment, inlined⟩
    let typed := field.withType field.inferredType
    let reads := p.accessor typed (getterName field.name) [] (p.getterBody typed)
    let writes := p.accessor typed (setterName field.name) [⟨setterParam, typed.type⟩]
      (setterBody typed assignment)
    have hfree : [writes].filter (fun m => !(registry.accept reads).2.contains m.name) =
        [writes].filter fun m => !registry.contains m.name := by
      refine List.filter_congr fun m hm => ?_
      rw [List.mem_singleton.mp hm,
        registry.contains_accept_snd (getterName_ne_setterName field.name)]
    change (registry.accept reads).1 ++ ((registry.accept reads).2.accept writes).1 =
      ([reads] ++ [writes]).filter fun m => !registry.contains m.name
    rw [NameRegistry.accept_fst, NameRegistry.accept_fst, hfree, List.filter_append]

theorem accessorFor_of_mem_accessors {p : PropertySpec} {field m : Member}
    (h : m ∈ p.accessors field) : m.accessorFor = some field.name := by
  rw [accessors] at h
  rcases List.mem_cons.mp h with rfl | h
  · rfl
  · split at h
    · rw [List.mem_singleton.mp h]
      rfl
    · exact absurd h List.not_mem_nil

end PropertySpec

/-! ### What a delegate lets through -/

namespace Delegate

theorem visibleMembers_sublist (seen : List String) (cs : List Candidate) :
    (visibleMembers seen cs).Sublist cs := by
  induction cs generalizing seen with
  | nil => exact .slnil
  | cons c cs ih =>
    rw [visibleMembers]
    split
    · exact (ih seen).cons c
    · exact (ih _).cons_cons c

/-- Visible members have distinct names. -/
theorem nodup_visibleMembers (cs : List Candidate) :
    ((visibleMembers [] cs).map (·.member.name)).Nodup := by
  refine List.nodup_iff_count_le_one.mpr fun name => ?_
  have hfirst := filter_visibleMembers [] cs name
  rw [if_neg List.not_mem_nil] at hfirst
  rw [List.count, List.countP_map, List.countP_eq_length_filter]
  change ((visibleMembers [] cs).filter (·.member.name == name)).length ≤ 1
  rw [hfirst]
  exact List.length_take_le 1 _

/-- A member is visible if it is the first of its name. -/
theorem mem_visibleMembers_iff {cs : List Candidate} {c : Candidate} :
    c ∈ visibleMembers [] cs ↔ cs.find? (·.member.name == c.member.name) = some c := by
  have hfirst := filter_visibleMembers [] cs c.member.name
  rw [if_neg List.not_mem_nil] at hfirst
  have hmem : c ∈ visibleMembers [] cs ↔
      c ∈ (visibleMembers [] cs).filter (·.member.name == c.member.name) := by simp
  rw [hmem, hfirst, ← List.head?_filter, ← Option.mem_toList, ← List.take_one]

variable {d : Delegate} {c : Candidate}

/-- A member that a delegate lets through: the first of its name in the lowest layer that declares
the name, provided that it is seen and is no constructor, accessor or template. -/
structure Offers (d : Delegate) (c : Candidate) : Prop where
  declared : ∃ layer, d.declaring? c.member.name = some layer ∧
    layer.decl.member? c.member.name = some c.member ∧
    c = ⟨c.member, layer.decl.name, layer.bindings, layer.pending⟩
  visible : c.member.visibility ≠ some .hidden
  constructs : c.member.isConstructor = false
  accessorFor : c.member.accessorFor = none
  template : c.member.isTemplate = false

theorem candidates_sublist (d : Delegate) :
    d.candidates.Sublist (d.layers.flatMap Layer.offers) :=
  List.filter_sublist.trans (visibleMembers_sublist [] _)

theorem nodup_candidates (d : Delegate) : (d.candidates.map (·.member.name)).Nodup :=
  (nodup_visibleMembers _).sublist (List.filter_sublist.map _)

/-- A layer offers a member of each name that it declares. -/
theorem isSome_find?_offers (l : Layer) (name : String) :
    (l.offers.find? (·.member.name == name)).isSome = l.decl.memberNames.contains name := by
  rw [Bool.eq_iff_iff, List.find?_isSome, List.contains_iff_mem]
  simp [Layer.offers, TypeDecl.memberNames]

/-- A name is found first in the lowest layer that declares it. -/
theorem find?_flatMap_offers (layers : List Layer) (name : String) :
    (layers.flatMap Layer.offers).find? (·.member.name == name) =
      (layers.find? (·.decl.memberNames.contains name)).bind fun l =>
        l.offers.find? (·.member.name == name) := by
  induction layers with
  | nil => rfl
  | cons l layers ih =>
    have hsome := isSome_find?_offers l name
    rw [List.flatMap_cons, List.find?_append, List.find?_cons]
    cases hl : l.decl.memberNames.contains name with
    | true =>
      obtain ⟨c, hc⟩ := Option.isSome_iff_exists.mp (hsome.trans hl)
      dsimp only
      rw [Option.bind_some, hc, Option.some_or]
    | false =>
      have hnone : l.offers.find? (·.member.name == name) = none :=
        Option.not_isSome_iff_eq_none.mp (by rw [hsome, hl]; exact Bool.false_ne_true)
      dsimp only
      rw [hnone, Option.none_or, ih]

/-- **What a delegate lets through.** -/
theorem mem_candidates_iff : c ∈ d.candidates ↔ d.Offers c := by
  have hdeclared : c ∈ visibleMembers [] (d.layers.flatMap Layer.offers) ↔
      ∃ layer, d.declaring? c.member.name = some layer ∧
        layer.decl.member? c.member.name = some c.member ∧
        c = ⟨c.member, layer.decl.name, layer.bindings, layer.pending⟩ := by
    rw [mem_visibleMembers_iff, find?_flatMap_offers, Option.bind_eq_some_iff]
    refine exists_congr fun layer => and_congr_right fun _ => ?_
    rw [Layer.offers, List.find?_map, Option.map_eq_some_iff]
    constructor
    · rintro ⟨m, hm, rfl⟩
      exact ⟨hm, rfl⟩
    · rintro ⟨hm, hc⟩
      exact ⟨c.member, hm, hc.symm⟩
  have hforwardable : isForwardable c.member = true ↔ c.member.visibility ≠ some .hidden ∧
      c.member.isConstructor = false ∧ c.member.accessorFor = none ∧
        c.member.isTemplate = false := by
    simp [isForwardable, and_assoc]
  change c ∈ (visibleMembers [] (d.layers.flatMap Layer.offers)).filter _ ↔ _
  rw [List.mem_filter, hdeclared, hforwardable]
  constructor
  · rintro ⟨declared, visible, constructs, accessorFor, template⟩
    exact ⟨declared, visible, constructs, accessorFor, template⟩
  · rintro ⟨declared, visible, constructs, accessorFor, template⟩
    exact ⟨declared, visible, constructs, accessorFor, template⟩

end Delegate

/-! ### Counterparts -/

namespace Forward

/-- Whether a filter lets a candidate through; without one, every candidate passes. -/
def passes (filter : Option Filter) (c : Candidate) : Bool :=
  match filter with
  | some f => f.selectsMember c.member.name c.origin
  | none => true

/-- How the counterpart of a field is read and written: through the delegate. -/
def spec (source : Member) (c : Candidate) : PropertySpec :=
  let target := Form.get (reach source) c.member.name source.span
  let shape : PropertyShape :=
    if c.isWritable then
      .readwrite (some target)
        (.custom (.assign target (.sym setterParam source.span) source.span))
    else .readonly (some target)
  ⟨shape, false⟩

/-- The counterpart of a field before it becomes a property. -/
def plain (source : Member) (c : Candidate) : Member :=
  { name := c.member.name
    kind := .field
    signature := { type := c.fieldType }
    origin := .synthesized
    sugar := source.sugar
    span := source.span }

theorem field_eq (source : Member) (c : Candidate) (registry : NameRegistry) :
    field source c registry =
      (((spec source c).apply (plain source c) registry).field.publish ::
          ((spec source c).apply (plain source c) registry).added,
        ((spec source c).apply (plain source c) registry).registry) := rfl

/-- The counterpart of a candidate: a property, or a method. -/
def counterpart (source : Member) (template : Option Form) (c : Candidate) : Member :=
  if c.member.isField then
    ((spec source c).property ((plain source c).withType (plain source c).inferredType)).publish
  else method source template c

/-- The accessors that the counterpart of a candidate asks for. -/
def accessors (source : Member) (c : Candidate) : List Member :=
  if c.member.isField then (spec source c).accessors (plain source c) else []

/-- **What a candidate is given** after `earlier` has been made, on a host that has the names
`taken`: nothing if its name is taken, or is that of an accessor made earlier; otherwise its
counterpart, and directly behind it those of its accessors whose names are free. -/
def portion (source : Member) (template : Option Form) (taken : List String)
    (earlier : List Member) (c : Candidate) : List Member :=
  if c.member.name ∈ taken ++ (earlier.filter (·.accessorFor.isSome)).map (·.name) then []
  else counterpart source template c :: (accessors source c).filter fun m =>
    !(taken ++ earlier.map (·.name) ++ [c.member.name]).contains m.name

variable {source : Member} {template : Option Form} {taken : List String} {earlier : List Member}
  {c : Candidate} {registry : NameRegistry}

theorem name_counterpart : (counterpart source template c).name = c.member.name := by
  rw [counterpart]
  split <;> rfl

theorem accessorFor_counterpart : (counterpart source template c).accessorFor = none := by
  rw [counterpart]
  split <;> rfl

theorem isSome_accessorFor_of_mem_accessors {m : Member} (h : m ∈ accessors source c) :
    m.accessorFor.isSome = true := by
  rw [accessors] at h
  split at h
  · rw [PropertySpec.accessorFor_of_mem_accessors h]
    rfl
  · exact absurd h List.not_mem_nil

/-- Of a portion, only the counterpart is no accessor. -/
theorem filter_portion : (portion source template taken earlier c).filter (·.accessorFor.isNone) =
    if (portion source template taken earlier c).isEmpty then []
    else [counterpart source template c] := by
  rw [portion]
  split
  · rfl
  · have haccessors : ∀ kept : Member → Bool,
        ((accessors source c).filter kept).filter (·.accessorFor.isNone) = [] := by
      refine fun kept => List.filter_eq_nil_iff.mpr fun m hm => ?_
      rw [Bool.not_eq_true, Option.isNone_eq_false_iff]
      exact isSome_accessorFor_of_mem_accessors (List.mem_filter.mp hm).1
    rw [List.filter_cons_of_pos (by rw [accessorFor_counterpart]; rfl), haccessors]
    rfl

theorem counterparts_cons (cs : List Candidate) :
    counterparts source template registry (c :: cs) =
      ((counterparts source template registry [c]).1 ++
          (counterparts source template (counterparts source template registry [c]).2 cs).1,
        (counterparts source template (counterparts source template registry [c]).2 cs).2) := by
  rw [counterparts, counterparts]
  cases registry.claim? c.member.name with
  | none => rfl
  | some r => simp [counterparts]

/-- A registry in which a host's names `taken` are known, and the names of what has been made
since. -/
def Knows (registry : NameRegistry) (taken : List String) (earlier : List Member) : Prop :=
  ∀ name, name ∈ registry.names ↔ name ∈ taken ∨ name ∈ earlier.map (·.name)

/-- **One candidate** is given its portion: of what was made earlier, only accessors can have its
name. -/
theorem counterparts_singleton (hknows : Knows registry taken earlier)
    (hearlier : ∀ m ∈ earlier, m.accessorFor = none → m.name ≠ c.member.name) :
    (counterparts source template registry [c]).1 =
      portion source template taken earlier c := by
  have hname : c.member.name ∈ registry.names ↔
      c.member.name ∈ taken ++ (earlier.filter (·.accessorFor.isSome)).map (·.name) := by
    rw [hknows, List.mem_append]
    refine or_congr_right ⟨fun h => ?_, fun h => ?_⟩
    · obtain ⟨m, hm, hmname⟩ := List.mem_map.mp h
      have haccessor : m.accessorFor ≠ none := fun hnone => hearlier m hm hnone hmname
      exact List.mem_map.mpr
        ⟨m, List.mem_filter.mpr ⟨hm, Option.isSome_iff_ne_none.mpr haccessor⟩, hmname⟩
    · exact (List.filter_sublist.map _).subset h
  rw [portion]
  split
  · rename_i htaken
    rw [counterparts, NameRegistry.claim?_eq_none_iff.mpr (hname.mpr htaken)]
    rfl
  · rename_i hfree
    have hknown : ∀ m : Member, NameRegistry.contains
        { registry with names := c.member.name :: registry.names } m.name =
          (taken ++ earlier.map (·.name) ++ [c.member.name]).contains m.name := by
      intro m
      rw [Bool.eq_iff_iff, NameRegistry.contains_iff_mem, List.contains_iff_mem, List.mem_cons,
        hknows, List.mem_append, List.mem_append, List.mem_singleton, or_comm]
    rw [counterparts, NameRegistry.claim?_eq_some fun h => hfree (hname.mp h), counterpart,
      accessors]
    dsimp only
    rw [counterparts, List.append_nil]
    split
    · simp only [field_eq, PropertySpec.field_apply, PropertySpec.added_apply, hknown]
    · rfl

/-- **Candidates of distinct names** are given their portions one after the other. By induction,
with what has been made so far at large. -/
theorem exists_portions {cs : List Candidate} (hnodup : (cs.map (·.member.name)).Nodup)
    (hknows : Knows registry taken earlier)
    (hearlier : ∀ c ∈ cs, ∀ m ∈ earlier, m.accessorFor = none → m.name ≠ c.member.name) :
    ∃ parts : List (Candidate × List Member), parts.map Prod.fst = cs ∧
      (∀ before c part after, parts = before ++ (c, part) :: after →
        part = portion source template taken (earlier ++ before.flatMap Prod.snd) c) ∧
      (counterparts source template registry cs).1 = parts.flatMap Prod.snd := by
  induction cs generalizing registry earlier with
  | nil => exact ⟨[], rfl, by simp, rfl⟩
  | cons c cs ih =>
    obtain ⟨hc, hnodup⟩ := List.nodup_cons.mp hnodup
    have hportion : (counterparts source template registry [c]).1 =
        portion source template taken earlier c :=
      counterparts_singleton hknows (hearlier c List.mem_cons_self)
    have hclaims := claims_counterparts source template registry [c]
    rw [hportion] at hclaims
    have hknows' : Knows (counterparts source template registry [c]).2 taken
        (earlier ++ portion source template taken earlier c) := by
      intro name
      rw [hclaims.mem_names_iff, hknows, List.map_append, List.mem_append, or_assoc]
    have hearlier' : ∀ c' ∈ cs, ∀ m ∈ earlier ++ portion source template taken earlier c,
        m.accessorFor = none → m.name ≠ c'.member.name := by
      intro c' hc' m hm haccessor
      rcases List.mem_append.mp hm with hm | hm
      · exact hearlier c' (List.mem_cons_of_mem _ hc') m hm haccessor
      · have hm' : m ∈ (portion source template taken earlier c).filter
            (·.accessorFor.isNone) :=
          List.mem_filter.mpr ⟨hm, Option.isNone_iff_eq_none.mpr haccessor⟩
        rw [filter_portion] at hm'
        split at hm'
        · exact absurd hm' List.not_mem_nil
        · rw [List.mem_singleton.mp hm', name_counterpart]
          exact fun hname => hc (List.mem_map.mpr ⟨c', hc', hname.symm⟩)
    obtain ⟨parts, hfst, hparts, hmade⟩ := ih hnodup hknows' hearlier'
    refine ⟨(c, portion source template taken earlier c) :: parts, ?_, ?_, ?_⟩
    · rw [List.map_cons, hfst]
    · intro before c' part after hsplit
      cases before with
      | nil =>
        obtain ⟨hhead, -⟩ := List.cons.inj hsplit
        obtain ⟨rfl, rfl⟩ := Prod.mk.inj hhead
        rw [List.flatMap_nil, List.append_nil]
      | cons head before =>
        obtain ⟨rfl, hsplit'⟩ := List.cons.inj hsplit
        rw [hparts before c' part after hsplit', List.append_assoc, List.flatMap_cons]
    · rw [counterparts_cons, hportion, hmade, List.flatMap_cons]

end Forward

/-! ### What a forwarding member gives -/

/-- A forwarding member that is refused adds nothing, and takes no name. -/
theorem Synthesis.exists_forwardOf_eq_of_error {c : Context} {d : TypeDecl} {m : Member}
    {request : ForwardRequest} {p : Progress} {cause : Cause}
    (hrequest : m.forwardRequest? = some request)
    (hforward : forward c d m request p.registry = .error cause) :
    ∃ found, forwardOf c d m p = ([], { p with found }) := by
  rw [forwardOf, hrequest]
  dsimp only
  split
  · exact ⟨p.found, rfl⟩
  · rw [hforward]
    exact ⟨_, rfl⟩

namespace Forward

variable {source : Member} {template : Option Form} {taken : List String}

/-- **Refused or carried out**: either way it is so for any names that are taken. -/
theorem synthesize_cases (host : TypeDecl) (source : Member) (request : ForwardRequest)
    (delegate : Delegate) :
    (∃ cause, ∀ registry, synthesize host source request delegate registry = .error cause) ∨
      ∃ filter template, Filter.ofList request.filters = .ok filter ∧
        templateBody host request = .ok template ∧
        ∀ registry, synthesize host source request delegate registry =
          .ok (counterparts source template registry
            (delegate.candidates.filter (passes filter))) := by
  have hsynthesize : ∀ registry, synthesize host source request delegate registry = do
      let filter ← (Filter.ofList request.filters).mapError (·.toCause)
      let template ← templateBody host request
      return counterparts source template registry (delegate.candidates.filter (passes filter)) :=
    fun _ => rfl
  simp only [hsynthesize]
  cases Filter.ofList request.filters with
  | error fault => exact .inl ⟨fault.toCause, fun _ => rfl⟩
  | ok filter =>
    cases templateBody host request with
    | error cause => exact .inl ⟨cause, fun _ => rfl⟩
    | ok template => exact .inr ⟨filter, template, rfl, rfl, fun _ => rfl⟩

/-- **The parts of a forwarding member**, one for each candidate that its filter lets through, on a
host that has the names `taken`. -/
structure Parts (source : Member) (delegate : Delegate) (filter : Option Filter)
    (template : Option Form) (taken : List String) (parts : List (Candidate × List Member)) :
    Prop where
  /-- The candidates stand in the order of the delegate's layers. -/
  ordered : (parts.map Prod.fst).Sublist (delegate.layers.flatMap Layer.offers)
  nodup : (parts.map (·.1.member.name)).Nodup
  selected : ∀ c, c ∈ parts.map Prod.fst ↔ delegate.Offers c ∧ passes filter c = true
  given : ∀ before c part after, parts = before ++ (c, part) :: after →
    part = portion source template taken (before.flatMap Prod.snd) c

theorem exists_parts (source : Member) (delegate : Delegate) (filter : Option Filter)
    (template : Option Form) (registry : NameRegistry) :
    ∃ parts, Parts source delegate filter template registry.names parts ∧
      (counterparts source template registry (delegate.candidates.filter (passes filter))).1 =
        parts.flatMap Prod.snd := by
  have hsublist : (delegate.candidates.filter (passes filter)).Sublist delegate.candidates :=
    List.filter_sublist
  have hnodup := delegate.nodup_candidates.sublist (hsublist.map (·.member.name))
  have hknows : Knows registry registry.names [] := by simp [Knows]
  obtain ⟨parts, hfst, hgiven, hmade⟩ := exists_portions hnodup hknows (by simp)
  refine ⟨parts, ⟨?_, ?_, fun c => ?_, hgiven⟩, hmade⟩
  · rw [hfst]
    exact hsublist.trans delegate.candidates_sublist
  · rwa [← hfst, List.map_map] at hnodup
  · rw [hfst, List.mem_filter, Delegate.mem_candidates_iff]

/-- The counterparts are what is no accessor. -/
theorem Parts.filter_flatMap {delegate : Delegate} {filter : Option Filter}
    {parts : List (Candidate × List Member)}
    (h : Parts source delegate filter template taken parts) :
    (parts.flatMap Prod.snd).filter (·.accessorFor.isNone) =
      (parts.filter fun part => !part.2.isEmpty).map fun part =>
        counterpart source template part.1 := by
  have heach : ∀ part ∈ parts, part.2.filter (·.accessorFor.isNone) =
      if part.2.isEmpty then [] else [counterpart source template part.1] := by
    intro part hpart
    obtain ⟨before, after, hsplit⟩ := List.append_of_mem hpart
    have hgiven := h.given before part.1 part.2 after hsplit
    rw [hgiven]
    exact filter_portion
  clear h
  induction parts with
  | nil => rfl
  | cons part parts ih =>
    obtain ⟨hpart, hparts⟩ := List.forall_mem_cons.mp heach
    rw [List.flatMap_cons, List.filter_append, hpart, ih hparts, List.filter_cons]
    cases part.2.isEmpty <;> rfl

/-- **What a forwarding member gives its host**, whatever the delegate is and whatever names are
taken. If it is refused, it is so for any names that are taken, and the host goes on with those it
had. Otherwise each candidate that its filter lets through is given its portion, in order; what is
no accessor are the counterparts of the candidates that are given anything; and the names of all
that is made were free, are distinct, and are the only ones taken in addition. -/
theorem synthesize_portions (host : TypeDecl) (source : Member) (request : ForwardRequest)
    (delegate : Delegate) (registry : NameRegistry) :
    match synthesize host source request delegate registry with
    | .error cause =>
      (∀ registry', synthesize host source request delegate registry' = .error cause) ∧
        ∀ (c : Context) (p : Progress), source.forwardRequest? = some request →
          Synthesis.forward c host source request p.registry = .error cause →
            (Synthesis.forwardOf c host source p).1 = [] ∧
              (Synthesis.forwardOf c host source p).2.registry = p.registry
    | .ok (made, registry') => ∃ filter template parts,
      Filter.ofList request.filters = .ok filter ∧ templateBody host request = .ok template ∧
        Parts source delegate filter template registry.names parts ∧
        made = parts.flatMap Prod.snd ∧
        made.filter (·.accessorFor.isNone) =
          (parts.filter fun part => !part.2.isEmpty).map
            (fun part => counterpart source template part.1) ∧
        registry.Claims made registry' := by
  have hhost : ∀ (cause : Cause) (c : Context) (p : Progress),
      source.forwardRequest? = some request →
        Synthesis.forward c host source request p.registry = .error cause →
          (Synthesis.forwardOf c host source p).1 = [] ∧
            (Synthesis.forwardOf c host source p).2.registry = p.registry := by
    intro cause c p hrequest hforward
    obtain ⟨found, hforwardOf⟩ := Synthesis.exists_forwardOf_eq_of_error hrequest hforward
    rw [hforwardOf]
    exact ⟨rfl, rfl⟩
  obtain ⟨cause, herror⟩ | ⟨filter, template, hfilter, htemplate, hok⟩ :=
    synthesize_cases host source request delegate
  · rw [herror]
    exact ⟨herror, hhost cause⟩
  · obtain ⟨parts, hparts, hmade⟩ := exists_parts source delegate filter template registry
    rw [hok]
    refine ⟨filter, template, parts, hfilter, htemplate, hparts, hmade, ?_,
      claims_counterparts ..⟩
    rw [hmade]
    exact hparts.filter_flatMap

/-- The getter of a field takes the name of a method that the delegate declares after it. -/
example :
    let owner : TypeDecl :=
      { name := "Engine", kind := .classType
        members := [.bareField "speed" {}, .bareMethod "get_speed" [] {}] }
    (counterparts (.bareField "engine" {}) none ⟨"Car", ["engine"]⟩
      (Delegate.candidates ⟨[⟨owner, {}, false⟩]⟩)).1.map (·.name) =
        ["speed", "get_speed", "set_speed"] := by cbv

end Forward

end DeclWeave
