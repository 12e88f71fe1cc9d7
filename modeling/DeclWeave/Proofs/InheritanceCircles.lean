import DeclWeave.Proofs.Isolation

/-!
# Circles of Inheritance

The order of expansion takes in the first declaration of every name, and puts the supertypes of a
type before it, whatever members forward to. It can only fail to where supertypes make a circle,
and some type of each such circle is reported.

The report is not exact. The search follows delegates as well as supertypes, so the path that a
strong back edge closes may run over a delegate, and then no circle of supertypes need be there.
And the search leaves a type of a circle before another back edge closes if the two circles share
a type, so that it is on no path that is closed. Both are matters of the source order. Where no
member forwards to a declared type, only types on circles of supertypes are reported; and where
moreover each type has one supertype at most, all of them are.

## Main results

* `Expansion.expand_order`: the order has every type once, after its supertypes unless it is
  reported.
* `Expansion.reportsCircle_sound`, `Expansion.exists_reportsCircle`: what a report says, and
  where there is one.
* `Expansion.expand_reportsCircle`: all that reports tell of circles of supertypes.
-/

namespace DeclWeave

open Relation (ReflTransGen TransGen)

/-! ### First declarations -/

namespace Expansion

variable {seen : List String} {ds : List TypeDecl}

/-- The declarations that are the first of their names. -/
def firsts (marked : List (TypeDecl × Bool)) : List TypeDecl :=
  (marked.filter (·.2)).map (·.1)

theorem firsts_markFirst_cons (seen : List String) (d : TypeDecl) (ds : List TypeDecl) :
    firsts (markFirst seen (d :: ds)) =
      if d.name ∈ seen then firsts (markFirst (d.name :: seen) ds)
      else d :: firsts (markFirst (d.name :: seen) ds) := by
  by_cases h : d.name ∈ seen <;> simp [firsts, markFirst, h]

theorem nodup_map_name_firsts (seen : List String) (ds : List TypeDecl) :
    ((firsts (markFirst seen ds)).map (·.name)).Nodup ∧
      ∀ d ∈ firsts (markFirst seen ds), d.name ∉ seen := by
  induction ds generalizing seen with
  | nil => exact ⟨List.nodup_nil, by simp [firsts, markFirst]⟩
  | cons d ds ih =>
    obtain ⟨hnodup, hnew⟩ := ih (d.name :: seen)
    have hseen : ∀ e ∈ firsts (markFirst (d.name :: seen) ds), e.name ∉ seen :=
      fun e he hmem => hnew e he (List.mem_cons_of_mem _ hmem)
    rw [firsts_markFirst_cons]
    split
    · exact ⟨hnodup, hseen⟩
    · rename_i hd
      refine ⟨List.nodup_cons.mpr ⟨fun hmem => ?_, hnodup⟩, List.forall_mem_cons.mpr ⟨hd, hseen⟩⟩
      obtain ⟨e, he, hname⟩ := List.mem_map.mp hmem
      exact hnew e he (List.mem_cons.mpr (.inl hname))

theorem find?_firsts {name : String} (h : name ∉ seen) :
    (firsts (markFirst seen ds)).find? (·.name == name) = ds.find? (·.name == name) := by
  induction ds generalizing seen with
  | nil => rfl
  | cons d ds ih =>
    rw [firsts_markFirst_cons]
    by_cases hname : d.name = name
    · have hd : d.name ∉ seen := hname ▸ h
      rw [if_neg hd, List.find?_cons_of_pos (by simpa using hname),
        List.find?_cons_of_pos (by simpa using hname)]
    · have hrest : (firsts (markFirst (d.name :: seen) ds)).find? (·.name == name) =
          ds.find? (·.name == name) := ih (by simpa [Ne.symm hname] using h)
      rw [List.find?_cons_of_neg (by simpa using hname), ← hrest]
      split
      · rfl
      · rw [List.find?_cons_of_neg (by simpa using hname)]

end Expansion

namespace SourceUnit

/-- The unit without repeated declarations: of each name the first is kept. -/
def distinct (u : SourceUnit) : SourceUnit :=
  ⟨Expansion.firsts (Expansion.markFirst [] u.types)⟩

theorem nodup_names_distinct (u : SourceUnit) : (u.distinct.types.map (·.name)).Nodup :=
  (Expansion.nodup_map_name_firsts [] u.types).1

@[simp] theorem find?_distinct (u : SourceUnit) (name : String) :
    u.distinct.find? name = u.find? name :=
  Expansion.find?_firsts List.not_mem_nil

theorem references_distinct (u : SourceUnit) : u.distinct.References = u.References := by
  funext a b
  simp only [References, find?_distinct]

/-- A declared type has another one as its superclass, or implements it. -/
def Inherits (u : SourceUnit) (a b : String) : Prop :=
  ∃ d e, u.find? a = some d ∧ u.find? b = some e ∧ ∃ r ∈ d.supertypes, r.name = b

theorem references_of_inherits {u : SourceUnit} {a b : String} (h : u.Inherits a b) :
    u.References a b := by
  obtain ⟨d, e, hd, he, r, hr, hname⟩ := h
  exact ⟨d, e, hd, he, r, List.mem_append_left _ hr, hname⟩

/-- The search for the dependency order follows just the references. -/
theorem depends_distinct_iff {u : SourceUnit} {a b : String} :
    Order.Depends u.distinct.types a b ↔ u.References a b := by
  rw [← references_distinct]
  refine ⟨references_of_depends, fun h => ?_⟩
  obtain ⟨d, e, hd, he, href⟩ := h
  obtain ⟨dep, hdep⟩ := mem_dependencies.mpr href
  refine ⟨mem_names_iff.mpr ⟨e, he⟩, dep, ?_⟩
  have hfind : u.distinct.types.find? (·.name == a) = some d := hd
  rw [Order.edges, hfind]
  exact hdep

theorem inherits_of_edge {u : SourceUnit} {a b : String}
    (hb : b ∈ u.distinct.types.map (·.name))
    (hedge : (b, .strong) ∈ Order.edges u.distinct.types a) : u.Inherits a b := by
  obtain ⟨e, he⟩ := mem_names_iff.mp hb
  rw [find?_distinct] at he
  rw [Order.edges] at hedge
  split at hedge
  · rename_i d hd
    have hd' : u.find? a = some d := u.find?_distinct a ▸ hd
    rcases List.mem_append.mp hedge with hstrong | hweak
    · obtain ⟨r, hr, hname⟩ := List.mem_map.mp hstrong
      exact ⟨d, e, hd', he, r, hr, (Prod.mk.inj hname).1⟩
    · obtain ⟨r, -, hname⟩ := List.mem_map.mp hweak
      exact absurd (Prod.mk.inj hname).2 (by simp)
  · exact absurd hedge List.not_mem_nil

end SourceUnit

/-! ### What is reported -/

namespace Expansion

open Pass SourceUnit

/-- Some error says that the type of a name is on a circle of inheritance. -/
def ReportsCircle (e : Expansion) (name : String) : Prop :=
  ∃ entry ∈ e.diagnostics.entries,
    entry.severity = .error ∧ entry.fault.cause = .inheritanceCycle name

variable {settings : Settings} {u : SourceUnit} {name : String}

/-- **The reports of circles** are those made before any type is expanded. -/
theorem reportsCircle_expand_iff :
    (expand settings u).ReportsCircle name ↔
      name ∈ (Order.cyclic u.distinct.types).map (·.name) := by
  obtain ⟨more, hentries, hcause⟩ := exists_entries_expand_eq settings u
  rw [ReportsCircle, hentries, entries_start]
  constructor
  · rintro ⟨entry, hentry, -, hcycle⟩
    rcases List.mem_append.mp hentry with hentry | hentry
    · rcases List.mem_append.mp hentry with hentry | hentry
      · obtain ⟨d, -, rfl⟩ := List.mem_map.mp hentry
        exact absurd hcycle (by simp [TypeDecl.fault, Fault.locate])
      · obtain ⟨d, hd, rfl⟩ := List.mem_map.mp hentry
        exact List.mem_map.mpr ⟨d, hd, Cause.inheritanceCycle.inj hcycle⟩
    · have hunit := hcause entry hentry
      rw [hcycle] at hunit
      exact absurd hunit (by simp [Cause.isOfUnit])
  · intro hname
    obtain ⟨d, hd, rfl⟩ := List.mem_map.mp hname
    exact ⟨_, List.mem_append_left _ (List.mem_append_right _ (List.mem_map_of_mem hd)), rfl, rfl⟩

/-! ### The order -/

/-- Where no report is made of a type, its supertypes come before it. -/
theorem mem_before_of_inherits {d e : TypeDecl} {l₁ l₂ : List TypeDecl}
    (hsorted : Order.sorted u.distinct.types = l₁ ++ d :: l₂)
    (hreport : ¬(expand settings u).ReportsCircle d.name) {r : TypeRef} (hr : r ∈ d.supertypes)
    (he : u.find? r.name = some e) : e ∈ l₁ := by
  have hcyclic : d ∉ Order.cyclic u.distinct.types := fun hmem =>
    hreport (reportsCircle_expand_iff.mpr (List.mem_map_of_mem hmem))
  rw [← find?_distinct] at he
  exact Order.mem_before_of_supertypes u.nodup_names_distinct hsorted hcyclic hr
    (List.mem_of_find?_eq_some he) (TypeDecl.name_of_find? he)

/-- **Dependency order.** The order in which types are expanded has the first declaration of each
name, and it has it once. Before each type that is not reported to be on a circle, it has the
declared types that this one has as superclass or implements, whatever members forward to. -/
theorem expand_order (settings : Settings) (u : SourceUnit) :
    (Order.sorted u.distinct.types).Perm u.distinct.types ∧
    ((Order.sorted u.distinct.types).map (·.name)).Nodup ∧
    ∀ d l₁ l₂, Order.sorted u.distinct.types = l₁ ++ d :: l₂ →
      ¬(expand settings u).ReportsCircle d.name →
        ∀ r ∈ d.supertypes, ∀ e, u.find? r.name = some e → e ∈ l₁ :=
  ⟨Order.sorted_perm u.nodup_names_distinct, Order.nodup_map_name_sorted _,
    fun _ _ _ hsorted hreport _ hr _ he => mem_before_of_inherits hsorted hreport hr he⟩

/-- A class with the types that it refers to: its superclass, its interfaces, and the types of
fields that forward. -/
def referringClass (name : String) (superclass : Option String)
    (interfaces delegates : List String) : TypeDecl :=
  { name
    kind := .classType
    superclass := superclass.map .named
    interfaces := interfaces.map .named
    members := delegates.map fun delegate =>
      { Member.bareField delegate {} with
        signature := { type := some (.named delegate) }
        directives := [.forward { filters := [], span := {} }] } }

/-- A class and its superclass forward to each other, and the class to one that extends itself. -/
def delegatingUnit : SourceUnit :=
  ⟨[referringClass "Shown" (some "Base") [] ["Loop"], referringClass "Base" none [] ["Shown"],
    referringClass "Loop" (some "Loop") [] []]⟩

/-- The superclass is first, although it forwards to the class, and a circle is reported
elsewhere. -/
theorem expand_order_delegating :
    (Order.sorted delegatingUnit.distinct.types).map (·.name) = ["Base", "Loop", "Shown"] ∧
    (expand {} delegatingUnit).ReportsCircle "Loop" ∧
    ¬(expand {} delegatingUnit).ReportsCircle "Shown" ∧
    ∃ shown base l₁, Order.sorted delegatingUnit.distinct.types = l₁ ++ [shown] ∧
      shown.name = "Shown" ∧ delegatingUnit.find? "Base" = some base ∧ base ∈ l₁ := by
  have hcyclic : (Order.cyclic delegatingUnit.distinct.types).map (·.name) = ["Loop"] := by cbv
  have hreport : ¬(expand {} delegatingUnit).ReportsCircle "Shown" := by
    rw [reportsCircle_expand_iff, hcyclic]
    decide
  refine ⟨by cbv, by rw [reportsCircle_expand_iff, hcyclic]; decide, hreport, ?_⟩
  have hsorted : Order.sorted delegatingUnit.distinct.types =
      [referringClass "Base" none [] ["Shown"], referringClass "Loop" (some "Loop") [] []] ++
        [referringClass "Shown" (some "Base") [] ["Loop"]] := by cbv
  exact ⟨_, _, _, hsorted, rfl, rfl, (expand_order {} delegatingUnit).2.2 _ _ _ hsorted hreport
    (.named "Base") (by simp [referringClass, TypeDecl.supertypes]) _ rfl⟩

/-! ### Circles and reports -/

/-- **What a report says.** References lead around from the type, over a supertype. -/
theorem reportsCircle_sound (h : (expand settings u).ReportsCircle name) :
    ∃ a b, ReflTransGen u.References name a ∧ u.Inherits a b ∧
      ReflTransGen u.References b name := by
  obtain ⟨d, hd, rfl⟩ := List.mem_map.mp (reportsCircle_expand_iff.mp h)
  obtain ⟨-, path, hback, hpath⟩ := Order.mem_cyclic_iff.mp hd
  have hcircle := DepthFirst.isCircle_of_mem_backEdges hback
  obtain ⟨b, a, hb, hedge, hto, hfrom⟩ := hcircle.exists_closing hpath
  have hdepends : Order.Depends u.distinct.types ≤ u.References :=
    fun _ _ => depends_distinct_iff.mp
  exact ⟨a, b, ReflTransGen.mono hdepends _ _ hto, inherits_of_edge hb hedge,
    ReflTransGen.mono hdepends _ _ hfrom⟩

/-- What leads around leads around by steps that each lie on the way. -/
theorem transGen_within {α : Type} {r : α → α → Prop} {a b : α} (h : TransGen r a b) :
    TransGen (fun x y => r x y ∧ ReflTransGen r a x ∧ ReflTransGen r y b) a b := by
  induction h using TransGen.head_induction_on with
  | single h => exact .single ⟨h, .refl, .refl⟩
  | head h hrest ih =>
    refine .head ⟨h, .refl, hrest.to_reflTransGen⟩ (TransGen.mono ?_ _ _ ih)
    rintro x y ⟨hxy, hx, hy⟩
    exact ⟨hxy, hx.head h, hy⟩

/-- **Where there is a report.** Of the types on a circle of supertypes, or on others that share a
type with it, one is reported. -/
theorem exists_reportsCircle (settings : Settings) (h : TransGen u.Inherits name name) :
    ∃ other, ReflTransGen u.Inherits name other ∧ ReflTransGen u.Inherits other name ∧
      (expand settings u).ReportsCircle other := by
  by_contra hnone
  -- Without a report, supertypes come first all the way around, so the type comes before itself.
  obtain ⟨x, ⟨d, -, hd, -⟩, -⟩ := TransGen.head'_iff.mp h
  have hd' : u.distinct.types.find? (·.name == name) = some d := (u.find?_distinct name).trans hd
  obtain ⟨l₁, l₂, hsorted⟩ := List.append_of_mem
    ((Order.mem_sorted u.nodup_names_distinct).mpr (List.mem_of_find?_eq_some hd'))
  obtain ⟨e, he, hfind⟩ := Order.mem_before_of_transGen (fun hstep hda hsorted => by
    obtain ⟨⟨d', e, hd', he, r, hr, rfl⟩, hto, hback⟩ := hstep
    obtain rfl := Option.some.inj (hda.symm.trans ((u.find?_distinct _).trans hd'))
    obtain rfl := TypeDecl.name_of_find? hda
    refine ⟨e, mem_before_of_inherits hsorted (fun hreport => hnone ⟨_, hto, ?_, hreport⟩) hr he,
      (u.find?_distinct _).trans he⟩
    exact hback.head ⟨_, e, hd', he, r, hr, rfl⟩) (transGen_within h) hd' hsorted
  obtain rfl : e = d := Option.some.inj (hfind.symm.trans hd')
  exact Order.not_mem_before_self hsorted he

/-- Where a type has one reference at most, all of a circle of supertypes is reported. -/
theorem reportsCircle_of_unique (hunique : ∀ {a b c}, u.References a b → u.References a c → b = c)
    (h : TransGen u.Inherits name name) : (expand settings u).ReportsCircle name := by
  obtain ⟨other, -, hback, hreport⟩ := exists_reportsCircle settings h
  obtain ⟨d, hd, rfl⟩ := List.mem_map.mp (reportsCircle_expand_iff.mp hreport)
  obtain ⟨-, path, hpath, hmem⟩ := Order.mem_cyclic_iff.mp hd
  have hcircle := DepthFirst.isCircle_of_mem_backEdges hpath
  have hstays : ∀ {b}, ReflTransGen u.Inherits d.name b → b ∈ path := by
    intro b hreach
    induction hreach with
    | refl => exact hmem
    | tail _ hstep ih =>
      refine hcircle.mem_of_linked (fun hb hc => ?_) ih
        (depends_distinct_iff.mpr (references_of_inherits hstep))
      exact hunique (depends_distinct_iff.mp hb) (depends_distinct_iff.mp hc)
  obtain ⟨x, ⟨e, -, he, -⟩, -⟩ := TransGen.head'_iff.mp h
  have he' : u.distinct.types.find? (·.name == name) = some e := (u.find?_distinct name).trans he
  obtain rfl := TypeDecl.name_of_find? he'
  exact reportsCircle_expand_iff.mpr (List.mem_map_of_mem
    (Order.mem_cyclic_iff.mpr ⟨List.mem_of_find?_eq_some he', path, hpath, hstays hback⟩))

/-- **Circles and reports.** A type that is reported is on a circle of references, one of them to a
supertype. Of the types that a type on a circle of supertypes shares such circles with, itself among
them, one is reported. If types refer to no others than their supertypes, all that are reported are
on circles of supertypes; and if each type refers to one other at most, all on such circles are
reported. -/
theorem expand_reportsCircle (settings : Settings) (u : SourceUnit) :
    (∀ name, (expand settings u).ReportsCircle name →
      ∃ a b, ReflTransGen u.References name a ∧ u.Inherits a b ∧
        ReflTransGen u.References b name) ∧
    (∀ name, TransGen u.Inherits name name →
      ∃ other, ReflTransGen u.Inherits name other ∧ ReflTransGen u.Inherits other name ∧
        (expand settings u).ReportsCircle other) ∧
    ((∀ a b, u.References a b → u.Inherits a b) →
      ∀ name, (expand settings u).ReportsCircle name → TransGen u.Inherits name name) ∧
    ((∀ a b c, u.References a b → u.References a c → b = c) →
      ∀ name, TransGen u.Inherits name name → (expand settings u).ReportsCircle name) := by
  refine ⟨fun _ => reportsCircle_sound, fun _ => exists_reportsCircle settings,
    fun hinherits name hreport => ?_, fun hunique name => reportsCircle_of_unique (hunique _ _ _)⟩
  obtain ⟨a, b, hto, hstep, hfrom⟩ := reportsCircle_sound hreport
  have hto' : ReflTransGen u.Inherits name a := ReflTransGen.mono hinherits _ _ hto
  have hfrom' : ReflTransGen u.Inherits b name := ReflTransGen.mono hinherits _ _ hfrom
  exact (TransGen.tail' hto' hstep).trans_left hfrom'

/-- Two classes extend each other, and a third extends one of them. -/
def ringUnit : SourceUnit :=
  ⟨[referringClass "Left" (some "Right") [] [], referringClass "Right" (some "Left") [] [],
    referringClass "Beside" (some "Left") [] []]⟩

/-- Every reference in the ring is one to the superclass. -/
theorem references_ringUnit {a b : String} (h : ringUnit.References a b) :
    ringUnit.Inherits a b ∧ b = if a = "Left" then "Right" else "Left" := by
  obtain ⟨d, e, hd, he, r, hr, hname⟩ := h
  have ha := TypeDecl.name_of_find? hd
  have hmem := List.mem_of_find?_eq_some hd
  simp only [ringUnit, List.mem_cons, List.not_mem_nil, or_false] at hmem
  have hsuper : ∀ {x y : String}, r ∈ (referringClass x (some y) [] []).supertypes ++
      (referringClass x (some y) [] []).delegateTypes → r = .named y := by
    intro x y hr
    simpa [referringClass, TypeDecl.supertypes, TypeDecl.delegateTypes] using hr
  have hr' : r ∈ d.supertypes := by
    rcases hmem with rfl | rfl | rfl <;>
      simpa [referringClass, TypeDecl.supertypes, TypeDecl.delegateTypes] using hr
  refine ⟨⟨d, e, hd, he, r, hr', hname⟩, ?_⟩
  rcases hmem with rfl | rfl | rfl <;> rw [← hname, ← ha, hsuper hr] <;> rfl

/-- The ring is reported, and not the class beside it. -/
theorem expand_reportsCircle_ring :
    (expand {} ringUnit).ReportsCircle "Left" ∧ (expand {} ringUnit).ReportsCircle "Right" ∧
      ¬(expand {} ringUnit).ReportsCircle "Beside" := by
  obtain ⟨-, -, hsound, hcomplete⟩ := expand_reportsCircle {} ringUnit
  have hleft : ringUnit.Inherits "Left" "Right" :=
    ⟨_, _, rfl, rfl, _, List.mem_singleton_self _, rfl⟩
  have hright : ringUnit.Inherits "Right" "Left" :=
    ⟨_, _, rfl, rfl, _, List.mem_singleton_self _, rfl⟩
  have hunique : ∀ a b c, ringUnit.References a b → ringUnit.References a c → b = c :=
    fun _ _ _ hb hc => (references_ringUnit hb).2.trans (references_ringUnit hc).2.symm
  refine ⟨hcomplete hunique _ (.head hleft (.single hright)),
    hcomplete hunique _ (.head hright (.single hleft)), fun hreport => ?_⟩
  have hcircle := hsound (fun _ _ h => (references_ringUnit h).1) _ hreport
  obtain ⟨x, -, hx⟩ := TransGen.tail'_iff.mp hcircle
  have hbeside := (references_ringUnit (SourceUnit.references_of_inherits hx)).2
  split at hbeside <;> exact absurd hbeside (by decide)

/-- A class extends one that forwards to a third, and the third extends the first. -/
def aroundUnit : SourceUnit :=
  ⟨[referringClass "Outer" (some "Middle") [] [], referringClass "Middle" none [] ["Inner"],
    referringClass "Inner" (some "Outer") [] []]⟩

/-- Two circles of supertypes share two interfaces; the third is on the longer one only. -/
def sharedUnit : SourceUnit :=
  ⟨[{ referringClass "First" none ["Second", "Third"] [] with kind := .interfaceType },
    { referringClass "Second" none ["First"] [] with kind := .interfaceType },
    { referringClass "Third" none ["Second"] [] with kind := .interfaceType }]⟩

/-- **Reports are not exact.** Classes of which no superclass leads back are reported for what one
of them forwards to; and an interface on a circle of supertypes is not reported. -/
theorem expand_reportsCircle_inexact :
    ((expand {} aroundUnit).ReportsCircle "Outer" ∧
      ¬TransGen aroundUnit.Inherits "Outer" "Outer") ∧
    TransGen sharedUnit.Inherits "Third" "Third" ∧
      ¬(expand {} sharedUnit).ReportsCircle "Third" := by
  refine ⟨⟨?_, fun h => ?_⟩, ?_, ?_⟩
  · rw [reportsCircle_expand_iff]
    have hcyclic : (Order.cyclic aroundUnit.distinct.types).map (·.name) =
        ["Outer", "Middle", "Inner"] := by cbv
    rw [hcyclic]
    decide
  · -- From the class there is one step, to a class without supertypes.
    obtain ⟨x, ⟨d, -, hd, -, r, hr, rfl⟩, hrest⟩ := TransGen.head'_iff.mp h
    obtain rfl := Option.some.inj hd
    obtain rfl := List.mem_singleton.mp hr
    rcases ReflTransGen.cases_head hrest with heq | ⟨y, ⟨e, -, he, -, r, hr, -⟩, -⟩
    · exact absurd heq (by decide)
    · obtain rfl := Option.some.inj he
      exact List.not_mem_nil hr
  · have hto : sharedUnit.Inherits "Third" "Second" :=
      ⟨_, _, rfl, rfl, _, List.mem_cons_self, rfl⟩
    have hon : sharedUnit.Inherits "Second" "First" :=
      ⟨_, _, rfl, rfl, _, List.mem_cons_self, rfl⟩
    have hback : sharedUnit.Inherits "First" "Third" :=
      ⟨_, _, rfl, rfl, _, List.mem_cons_of_mem _ List.mem_cons_self, rfl⟩
    exact .head hto (.head hon (.single hback))
  · rw [reportsCircle_expand_iff]
    have hcyclic : (Order.cyclic sharedUnit.distinct.types).map (·.name) =
        ["First", "Second"] := by cbv
    rw [hcyclic]
    decide

end Expansion

end DeclWeave
