import DeclWeave.Expansion.Order
import DeclWeave.Expansion.Synthesis
import DeclWeave.Proofs.LinesOfDescent
import Mathlib.Data.Set.Basic

/-!
# What Synthesis Looks At

The synthesis of a type looks up names only: those of its supertypes and of the types it forwards
to, and from there those on their lines of descent and in their donor chains. `Context.AgreeOn`
says that two contexts cannot be told apart on some names, and `Context.Closed` that no reference
leads out of them. Under these two, the plan and the findings are the same.

A type parameter in the place of a supertype would be replaced by an argument, and lead anywhere;
closed names have no such references.

## Main results

* `DonorRegistry.map_chainFrom_congr`: donor chains in registries that correspond.
* `DonorRegistry.chainFrom_congr`: donor chains in registries that agree.
* `Synthesis.ofDecl_congr`: the plan and the findings in contexts that agree.
-/

namespace DeclWeave

/-! ### References with arguments -/

/-- What is no parameter is bound to nothing. -/
theorem Bindings.find?_ofParams_of_notMem {params : List String} {name : String}
    (h : name ∉ params) (args : List TypeRef) : (ofParams params args).find? name = none := by
  refine List.lookup_eq_none_iff.mpr fun entry hentry => ?_
  have hmem := (List.of_mem_zip (List.mem_reverse.mp hentry)).1
  have hne : name ≠ entry.1 := fun heq => h (heq ▸ hmem)
  simpa using hne

namespace TypeRef

/-- A reference by a name that is bound to nothing keeps its name, and its arguments are put
in. -/
theorem substitute_of_find?_eq_none {b : Bindings} {r : TypeRef} (h : b.find? r.name = none) :
    r.substitute b = ⟨r.name, r.args.map (·.substitute b)⟩ := by
  obtain ⟨name, args⟩ := r
  have hname : b.find? name = none := h
  cases args with
  | nil =>
    rw [substitute, hname]
    rfl
  | cons arg args =>
    rw [substitute, substituteAll_eq_map]
    rfl

/-- What is no parameter keeps its name when arguments are put in. -/
theorem name_substitute {params : List String} {r : TypeRef} (h : r.name ∉ params)
    (args : List TypeRef) : (r.substitute (.ofParams params args)).name = r.name := by
  rw [substitute_of_find?_eq_none (Bindings.find?_ofParams_of_notMem h args)]
  rfl

end TypeRef

/-- References to some names, none of them a parameter. -/
def PlainRefs (params : List String) (names : Set String) (refs : List TypeRef) : Prop :=
  ∀ r ∈ refs, r.name ∈ names ∧ r.name ∉ params

/-! ### Contexts that agree -/

namespace Context

/-- Two contexts that cannot be told apart on some names. -/
structure AgreeOn (c c' : Context) (names : Set String) : Prop where
  settings_eq : c.settings = c'.settings
  declared_iff : ∀ name, name ∈ c.declared ↔ name ∈ c'.declared
  find?_eq : ∀ name ∈ names, c.scope.find? name = c'.scope.find? name
  isFinished_eq : ∀ name ∈ names, c.isFinished name = c'.isFinished name
  donor?_eq : ∀ name ∈ names, c.donors.find? name = c'.donors.find? name

/-- From some names, no reference of a type or a donor leads to others. -/
structure Closed (c : Context) (names : Set String) : Prop where
  supertypes : ∀ name ∈ names, ∀ d, c.scope.find? name = some d →
    PlainRefs d.typeParams names d.supertypes
  donors : ∀ name ∈ names, ∀ bank, c.donors.find? name = some bank →
    PlainRefs bank.typeParams names bank.interfaces

variable {c c' : Context} {names : Set String}

theorem AgreeOn.declared_contains_eq (h : c.AgreeOn c' names) (name : String) :
    c.declared.contains name = c'.declared.contains name := by
  rw [Bool.eq_iff_iff, List.contains_iff_mem, List.contains_iff_mem]
  exact h.declared_iff name

theorem AgreeOn.sugarEnabled_eq (h : c.AgreeOn c' names) (d : TypeDecl) :
    c.sugarEnabled d = c'.sugarEnabled d := by
  rw [sugarEnabled, sugarEnabled, h.settings_eq]

end Context

/-! ### Donor chains -/

namespace DonorRegistry

variable {r r' : DonorRegistry} {names : Set String} {visited : List String} {ref : TypeRef}
  {rest : List TypeRef}

theorem chainFrom_of_mem_visited (h : ref.name ∈ visited) :
    r.chainFrom visited (ref :: rest) = r.chainFrom visited rest := by
  rw [chainFrom, dif_pos h]

theorem chainFrom_of_find?_eq_none (h : r.find? ref.name = none) :
    r.chainFrom visited (ref :: rest) = r.chainFrom visited rest := by
  rw [chainFrom]
  split
  · rfl
  · split
    · rfl
    · simp_all

theorem chainFrom_of_find? {bank : DonorBank} (hv : ref.name ∉ visited)
    (h : r.find? ref.name = some bank) :
    r.chainFrom visited (ref :: rest) =
      (if bank.rejected then [] else [⟨bank, .ofParams bank.typeParams ref.args⟩]) ++
        r.chainFrom (ref.name :: visited)
          (bank.interfaces.map (·.substitute (.ofParams bank.typeParams ref.args)) ++ rest) := by
  rw [chainFrom, dif_neg hv]
  split
  · simp_all
  · rename_i bank' hbank'
    obtain rfl : bank' = bank := Option.some.inj (hbank'.symm.trans h)
    rfl

/-- **The donors of a chain** correspond in registries that do: they are the same after a change of
their banks that leaves alone what leads along the chain. -/
theorem map_chainFrom_congr (f : DonorBank → DonorBank)
    (hinterfaces : ∀ b, (f b).interfaces = b.interfaces)
    (hparams : ∀ b, (f b).typeParams = b.typeParams) (hrejected : ∀ b, (f b).rejected = b.rejected)
    (h : ∀ name, (r.find? name).map f = (r'.find? name).map f) {refs : List TypeRef} :
    (r.chainFrom visited refs).map (fun d => { d with bank := f d.bank }) =
      (r'.chainFrom visited refs).map fun d => { d with bank := f d.bank } := by
  fun_induction chainFrom r visited refs with
  | case1 visited => rw [chainFrom]
  | case2 visited ref rest hv ih => rw [chainFrom_of_mem_visited hv, ih]
  | case3 visited ref rest hv hnone ih =>
    have href := h ref.name
    rw [hnone, Option.map_none] at href
    rw [chainFrom_of_find?_eq_none (Option.map_eq_none_iff.mp href.symm), ih]
  | case4 visited ref rest hv bank hbank bindings parents ih =>
    have href := h ref.name
    rw [hbank, Option.map_some] at href
    obtain ⟨bank', hbank', hsame⟩ := Option.map_eq_some_iff.mp href.symm
    have hinterfaces' : bank'.interfaces = bank.interfaces := by
      rw [← hinterfaces, hsame, hinterfaces]
    have hparams' : bank'.typeParams = bank.typeParams := by rw [← hparams, hsame, hparams]
    have hrejected' : bank'.rejected = bank.rejected := by rw [← hrejected, hsame, hrejected]
    rw [chainFrom_of_find? hv hbank', List.map_append, List.map_append, ih, hinterfaces', hparams',
      hrejected']
    congr 1
    split
    · rfl
    · rw [List.map_singleton, List.map_singleton]
      dsimp only
      rw [hsame]

/-- **Registries that agree** on some names, which no donor leaves, have the same chains there. -/
theorem chainFrom_congr (hfind : ∀ name ∈ names, r.find? name = r'.find? name)
    (hclosed : ∀ name ∈ names, ∀ bank, r.find? name = some bank →
      PlainRefs bank.typeParams names bank.interfaces)
    {refs : List TypeRef} (hrefs : ∀ ref ∈ refs, ref.name ∈ names) :
    r.chainFrom visited refs = r'.chainFrom visited refs := by
  fun_induction chainFrom r visited refs with
  | case1 visited => rw [chainFrom]
  | case2 visited ref rest hv ih =>
    rw [chainFrom_of_mem_visited hv, ih (List.forall_mem_cons.mp hrefs).2]
  | case3 visited ref rest hv hnone ih =>
    obtain ⟨href, hrest⟩ := List.forall_mem_cons.mp hrefs
    rw [chainFrom_of_find?_eq_none (hfind _ href ▸ hnone), ih hrest]
  | case4 visited ref rest hv bank hbank bindings parents ih =>
    obtain ⟨href, hrest⟩ := List.forall_mem_cons.mp hrefs
    rw [chainFrom_of_find? hv (hfind _ href ▸ hbank), ih fun ref' href' => ?_]
    rcases List.mem_append.mp href' with href' | href'
    · obtain ⟨parent, hparent, rfl⟩ := List.mem_map.mp href'
      obtain ⟨hmem, hplain⟩ := hclosed _ href bank hbank parent hparent
      rwa [TypeRef.name_substitute hplain]
    · exact hrest ref' href'

end DonorRegistry

theorem Weave.ofTarget_congr {donors donors' : DonorRegistry} {declared declared' : List String}
    {target : TypeDecl} (hchain : donors.chain target.interfaces = donors'.chain target.interfaces)
    (hdeclared : ∀ name, declared.contains name = declared'.contains name) (settings : Settings)
    (capabilities : CapabilitySet) (registry : NameRegistry) :
    ofTarget settings donors declared target capabilities registry =
      ofTarget settings donors' declared' target capabilities registry := by
  have hvisible : isVisible settings declared = isVisible settings declared' := by
    funext chain target registry name
    rw [isVisible, isVisible, hdeclared]
  rw [ofTarget, ofTarget, perform, perform, hchain, hvisible]

/-! ### Ancestries and delegates -/

namespace TypeScope

/-- What is on a line of descent that does not leave some names has one of these. -/
theorem name_mem_of_mem_lineage {scope : TypeScope} {above : TypeDecl → TypeRef → Option TypeRef}
    {seen : List String} {names : Set String}
    (habove : ∀ r d r', r.name ∈ names → scope.find? r.name = some d → above d r = some r' →
      r'.name ∈ names) {start : Option TypeRef} (hstart : ∀ r ∈ start, r.name ∈ names)
    {entry : TypeDecl × TypeRef} (h : entry ∈ scope.lineage above seen start) :
    entry.1.name ∈ names := by
  fun_induction lineage scope above seen start with
  | case1 => exact absurd h List.not_mem_nil
  | case2 => exact absurd h List.not_mem_nil
  | case3 => exact absurd h List.not_mem_nil
  | case4 seen r d hd hseen ih =>
    have hr := hstart r rfl
    rcases List.mem_cons.mp h with rfl | h
    · have hname : d.name = r.name := by simpa using List.find?_some hd
      rwa [hname]
    · exact ih (fun r' hr' => habove r d r' hr hd hr') h

end TypeScope

namespace Context

variable {c c' : Context} {names : Set String}

theorem superclasses_congr (h : c.AgreeOn c' names) (hc : c.Closed names) {d : TypeDecl}
    (hd : ∀ r ∈ d.supertypes, r.name ∈ names) :
    Ancestry.superclasses c.scope d = Ancestry.superclasses c'.scope d := by
  rw [Ancestry.superclasses, Ancestry.superclasses]
  congr 1
  refine TypeScope.lineage_congr h.find?_eq (fun r e r' hr he hr' => ?_) fun r hr => ?_
  · exact (hc.supertypes _ hr e he r' (List.mem_append_left _ (by simp [hr']))).1
  · exact hd r (List.mem_append_left _ (by simpa using hr))

theorem ancestry_congr (h : c.AgreeOn c' names) (hc : c.Closed names) {d : TypeDecl}
    (hd : ∀ r ∈ d.supertypes, r.name ∈ names) :
    Ancestry.of c.scope d = Ancestry.of c'.scope d := by
  rw [Ancestry.of, Ancestry.of, superclasses_congr h hc hd]

/-- A superclass as seen through a reference stays among closed names. -/
theorem Closed.superclassThrough (hc : c.Closed names) (r : TypeRef) (d : TypeDecl) (r' : TypeRef)
    (hr : r.name ∈ names) (hd : c.scope.find? r.name = some d)
    (hr' : Delegate.superclassThrough d r = some r') : r'.name ∈ names := by
  obtain ⟨parent, hparent, rfl⟩ := Option.map_eq_some_iff.mp hr'
  obtain ⟨hmem, hplain⟩ :=
    hc.supertypes _ hr d hd parent (List.mem_append_left _ (by simp [hparent]))
  rw [TypeDecl.bindingsFor, TypeRef.name_substitute hplain]
  exact hmem

theorem resolve?_congr (h : c.AgreeOn c' names) (hc : c.Closed names) {type : TypeRef}
    (htype : type.name ∈ names) :
    Delegate.resolve? c.scope type = Delegate.resolve? c'.scope type := by
  rw [Delegate.resolve?, Delegate.resolve?, TypeScope.lineage_congr h.find?_eq
    hc.superclassThrough (by simpa using htype)]

/-- The declarations of a delegate stand under closed names. -/
theorem Closed.name_mem_of_resolve? (hc : c.Closed names) {type : TypeRef}
    (htype : type.name ∈ names) {delegate : Delegate}
    (h : Delegate.resolve? c.scope type = some delegate) :
    ∀ layer ∈ delegate.layers, layer.decl.name ∈ names := by
  rw [Delegate.resolve?] at h
  split at h
  · exact absurd h (by simp)
  · obtain rfl := Option.some.inj h
    intro layer hlayer
    obtain ⟨entry, hentry, rfl⟩ := List.mem_map.mp hlayer
    exact TypeScope.name_mem_of_mem_lineage hc.superclassThrough (by simpa using htype) hentry

end Context

theorem Delegate.markPending_congr {delegate : Delegate} {f g : TypeDecl → Bool}
    (h : ∀ layer ∈ delegate.layers, f layer.decl = g layer.decl) :
    delegate.markPending f = delegate.markPending g := by
  rw [markPending, markPending]
  congr 1
  exact List.map_congr_left fun layer hlayer => by rw [h layer hlayer]

/-! ### Synthesis -/

namespace Synthesis

variable {c c' : Context} {names : Set String} {d : TypeDecl}

theorem forward_congr (h : c.AgreeOn c' names) (hc : c.Closed names) {source : Member}
    (hsource : ∀ type ∈ source.type, type.name ∈ names) (request : ForwardRequest)
    (registry : NameRegistry) :
    forward c d source request registry = forward c' d source request registry := by
  rw [forward, forward, Forward.delegateType]
  cases htype : source.type with
  | none => rfl
  | some type =>
    have hname := hsource type htype
    dsimp only [bind, Except.bind]
    rw [← Context.resolve?_congr h hc hname]
    cases hresolve : Delegate.resolve? c.scope type with
    | none => rfl
    | some delegate =>
      dsimp only
      rw [Delegate.markPending_congr fun layer hlayer => ?_]
      rw [h.sugarEnabled_eq,
        h.isFinished_eq _ (hc.name_mem_of_resolve? hname hresolve layer hlayer)]

theorem forwardOf_congr (h : c.AgreeOn c' names) (hc : c.Closed names) {m : Member}
    (hm : m.forwardRequest?.isSome → ∀ type ∈ m.type, type.name ∈ names) (p : Progress) :
    forwardOf c d m p = forwardOf c' d m p := by
  rw [forwardOf, forwardOf]
  cases hrequest : m.forwardRequest? with
  | none => rfl
  | some request =>
    dsimp only
    rw [forward_congr h hc (hm (by rw [hrequest]; rfl))]

theorem forwards_congr (h : c.AgreeOn c' names) (hc : c.Closed names)
    {pairs : List (Member × List Member)}
    (hpairs : ∀ pair ∈ pairs, pair.1.forwardRequest?.isSome →
      ∀ type ∈ pair.1.type, type.name ∈ names) (p : Progress) :
    forwards c d p pairs = forwards c' d p pairs := by
  induction pairs generalizing p with
  | nil => rfl
  | cons pair pairs ih =>
    obtain ⟨hpair, hpairs⟩ := List.forall_mem_cons.mp hpairs
    simp only [forwards, forwardOf_congr h hc hpair, ih hpairs]

theorem woven_congr (h : c.AgreeOn c' names) (hc : c.Closed names) {plan : TypeDecl}
    (hplan : ∀ r ∈ plan.interfaces, r.name ∈ names) (ancestry : Ancestry) (p : Progress) :
    woven c plan ancestry p = woven c' plan ancestry p := by
  have hchain : c.donors.chain plan.interfaces = c'.donors.chain plan.interfaces :=
    DonorRegistry.chainFrom_congr h.donor?_eq hc.donors hplan
  rw [woven, woven]
  dsimp only
  rw [Weave.ofTarget_congr hchain h.declared_contains_eq, h.settings_eq]

theorem preliminary_congr (h : c.AgreeOn c' names) : preliminary c d = preliminary c' d := by
  simp only [preliminary, unknownReferences, h.declared_contains_eq, h.settings_eq]

/-- **Synthesis is local.** In contexts that agree on closed names, among them those that a
declaration refers to, its plan and what is found about it are the same. -/
theorem ofDecl_congr (h : c.AgreeOn c' names) (hc : c.Closed names)
    (hsupertypes : ∀ r ∈ d.supertypes, r.name ∈ names)
    (hdelegates : ∀ r ∈ d.delegateTypes, r.name ∈ names) : ofDecl c d = ofDecl c' d := by
  have hpairs : ∀ groups : List (List Member), ∀ pair ∈ d.members.zip groups,
      pair.1.forwardRequest?.isSome → ∀ type ∈ pair.1.type, type.name ∈ names := by
    intro groups pair hpair hforwards type htype
    refine hdelegates type (List.mem_filterMap.mpr ⟨pair.1, (List.of_mem_zip hpair).1, ?_⟩)
    rw [if_pos hforwards]
    exact htype
  have hwoven : ∀ ms ancestry p, woven c { d with members := ms } ancestry p =
      woven c' { d with members := ms } ancestry p :=
    fun ms => woven_congr h hc fun r hr => hsupertypes r (List.mem_append_right _ hr)
  unfold ofDecl expanded
  rw [preliminary_congr h, h.sugarEnabled_eq, Context.ancestry_congr h hc hsupertypes]
  simp only [forwards_congr h hc (hpairs _), hwoven]

end Synthesis

end DeclWeave
