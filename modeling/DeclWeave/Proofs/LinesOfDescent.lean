import DeclWeave.Forward.Lineage
import Mathlib.Data.List.Forall2
import Mathlib.Logic.Relation

/-!
# What a Line of Descent Meets

A line of descent is determined by what is found under the names on it, so two scopes that agree
on these have the same lines. Where superclass references make no circle, a line of superclasses
meets everything that they lead to.

## Main results

* `TypeScope.lineage_congr`: scopes that agree on a closed set of names have the same lines there.
* `TypeScope.forall₂_lineage`, `TypeScope.lineage_map`: scopes that correspond have lines that do.
* `TypeScope.mem_lineage`, `TypeScope.extends_of_mem_lineage`: what superclass references reach is
  on the line, and nothing else.
-/

namespace DeclWeave.TypeScope

open Relation (ReflTransGen TransGen)

variable {scope scope' : TypeScope} {above : TypeDecl → TypeRef → Option TypeRef}
  {seen : List String} {r : TypeRef} {d : TypeDecl}

/-! ### One step of the climb -/

@[simp] theorem lineage_none (scope : TypeScope) (above : TypeDecl → TypeRef → Option TypeRef)
    (seen : List String) : scope.lineage above seen none = [] := by
  rw [lineage]

theorem lineage_of_find?_eq_none (h : scope.find? r.name = none) :
    scope.lineage above seen (some r) = [] := by
  rw [lineage]
  split
  · rfl
  · simp_all

theorem lineage_of_mem_seen (h : r.name ∈ seen) : scope.lineage above seen (some r) = [] := by
  rw [lineage]
  split
  · rfl
  · rw [dif_pos h]

theorem lineage_of_find? (h : scope.find? r.name = some d) (hseen : r.name ∉ seen) :
    scope.lineage above seen (some r) =
      (d, r) :: scope.lineage above (r.name :: seen) (above d r) := by
  rw [lineage]
  split
  · simp_all
  · rename_i d' hd'
    obtain rfl : d' = d := Option.some.inj (hd'.symm.trans h)
    rw [dif_neg hseen]

/-! ### Agreement -/

/-- **Scopes that agree** on some names, which no climb leaves, have the same lines of descent
there. -/
theorem lineage_congr {names : Set String}
    (hfind : ∀ name ∈ names, scope.find? name = scope'.find? name)
    (habove : ∀ r d r', r.name ∈ names → scope.find? r.name = some d → above d r = some r' →
      r'.name ∈ names) {start : Option TypeRef} (hstart : ∀ r ∈ start, r.name ∈ names) :
    scope.lineage above seen start = scope'.lineage above seen start := by
  fun_induction lineage scope above seen start with
  | case1 seen => rw [lineage_none]
  | case2 seen r hnone =>
    have hr := hfind r.name (hstart r rfl)
    rw [lineage_of_find?_eq_none (hr ▸ hnone)]
  | case3 seen r d hd hseen => rw [lineage_of_mem_seen hseen]
  | case4 seen r d hd hseen ih =>
    have hr := hstart r rfl
    rw [lineage_of_find? (hfind r.name hr ▸ hd) hseen, ih fun r' hr' => habove r d r' hr hd hr']

/-- **Scopes that correspond** name by name have lines of superclasses that do, if what
corresponds has the same superclass. -/
theorem forall₂_lineage {R : TypeDecl → TypeDecl → Prop}
    (hfind : ∀ name, Option.Rel R (scope.find? name) (scope'.find? name))
    (hsuper : ∀ d d', R d d' → d.superclass = d'.superclass) (seen : List String)
    (start : Option TypeRef) :
    List.Forall₂ (fun x y => R x.1 y.1) (scope.lineage (fun d _ => d.superclass) seen start)
      (scope'.lineage (fun d _ => d.superclass) seen start) := by
  fun_induction lineage scope (fun d _ => d.superclass) seen start with
  | case1 seen =>
    rw [lineage_none]
    exact .nil
  | case2 seen r hnone =>
    have hr := hfind r.name
    rw [hnone] at hr
    cases hr' : scope'.find? r.name with
    | none =>
      rw [lineage_of_find?_eq_none hr']
      exact .nil
    | some d' =>
      rw [hr'] at hr
      cases hr
  | case3 seen r d hd hseen =>
    rw [lineage_of_mem_seen hseen]
    exact .nil
  | case4 seen r d hd hseen ih =>
    have hr := hfind r.name
    rw [hd] at hr
    cases hr' : scope'.find? r.name with
    | none =>
      rw [hr'] at hr
      cases hr
    | some d' =>
      rw [hr'] at hr
      obtain ⟨hrel⟩ := hr
      rw [lineage_of_find? hr' hseen, ← hsuper d d' hrel]
      exact .cons hrel ih

/-- A change of declarations that leaves alone their names, and what leads upwards from them,
changes the declarations on a line of descent and nothing else about it. -/
theorem lineage_map (f : TypeDecl → TypeDecl) (hname : ∀ d, (f d).name = d.name)
    (habove : ∀ d r, above (f d) r = above d r) (start : Option TypeRef) :
    TypeScope.lineage (scope.map f) above seen start =
      (scope.lineage above seen start).map (Prod.map f id) := by
  have hfind : ∀ name, TypeScope.find? (scope.map f) name = (scope.find? name).map f := by
    intro name
    have hsame : (fun d : TypeDecl => d.name == name) ∘ f = fun d => d.name == name := by
      funext d
      rw [Function.comp_apply, hname]
    rw [TypeScope.find?, TypeScope.find?, List.find?_map, hsame]
  fun_induction lineage scope above seen start with
  | case1 seen => rw [lineage_none, List.map_nil]
  | case2 seen r hnone =>
    rw [lineage_of_find?_eq_none (by rw [hfind, hnone, Option.map_none]), List.map_nil]
  | case3 seen r d hd hseen => rw [lineage_of_mem_seen hseen, List.map_nil]
  | case4 seen r d hd hseen ih =>
    rw [lineage_of_find? (by rw [hfind, hd, Option.map_some]) hseen, habove, ih, List.map_cons]
    rfl

/-! ### Superclasses -/

/-- A declaration names another one as its superclass. -/
def Extends (scope : TypeScope) (a b : String) : Prop :=
  ∃ d e, scope.find? a = some d ∧ scope.find? b = some e ∧
    d.superclass.map (·.name) = some b

/-- **A line of superclasses** meets everything that superclass references lead to, where they
make no circle and what they lead to has not been met before. -/
theorem mem_lineage (hacyclic : ∀ a, ¬TransGen scope.Extends a a) {a : String}
    (hreach : ReflTransGen scope.Extends r.name a) (hd : scope.find? a = some d)
    (hseen : ∀ s ∈ seen, ¬ReflTransGen scope.Extends r.name s) :
    d ∈ (scope.lineage (fun d _ => d.superclass) seen (some r)).map (·.1) := by
  generalize hx : r.name = x at hreach hseen
  induction hreach using ReflTransGen.head_induction_on generalizing r seen with
  | refl =>
    have hnew : r.name ∉ seen := fun hmem => hseen _ hmem (hx ▸ .refl)
    rw [lineage_of_find? (hx ▸ hd) hnew]
    exact List.mem_cons_self
  | head hstep hrest ih =>
    have hnew : r.name ∉ seen := fun hmem => hseen _ hmem (hx ▸ .refl)
    obtain ⟨e, -, he, -, hsuper⟩ := id hstep
    obtain ⟨r', hr', rfl⟩ := Option.map_eq_some_iff.mp hsuper
    rw [lineage_of_find? (hx ▸ he) hnew, hr']
    refine List.mem_cons_of_mem _ (ih rfl fun s hs hreach => ?_)
    rcases List.mem_cons.mp hs with rfl | hs
    · exact hacyclic _ (.head' (hx ▸ hstep) hreach)
    · exact hseen s hs (.head hstep hreach)

/-- Whatever is on a line of superclasses, references lead to it. -/
theorem extends_of_mem_lineage {start : Option TypeRef} {x : TypeDecl × TypeRef}
    (h : x ∈ scope.lineage (fun d _ => d.superclass) seen start) :
    scope.find? x.1.name = some x.1 ∧
      ∃ r ∈ start, ReflTransGen scope.Extends r.name x.1.name := by
  fun_induction lineage scope (fun d _ => d.superclass) seen start with
  | case1 seen => exact absurd h List.not_mem_nil
  | case2 seen r hnone => exact absurd h List.not_mem_nil
  | case3 seen r d hd hseen => exact absurd h List.not_mem_nil
  | case4 seen r d hd hseen ih =>
    have hname : d.name = r.name := by simpa using List.find?_some hd
    rcases List.mem_cons.mp h with rfl | h
    · exact ⟨hname ▸ hd, r, rfl, hname ▸ .refl⟩
    · obtain ⟨hfind, r', hr', hreach⟩ := ih h
      have hsuper : d.superclass = some r' := hr'
      have hfound : ∃ e, scope.find? r'.name = some e := by
        obtain heq | ⟨y, ⟨e, -, he, -⟩, -⟩ := ReflTransGen.cases_head hreach
        · exact ⟨x.1, heq ▸ hfind⟩
        · exact ⟨e, he⟩
      obtain ⟨e, he⟩ := hfound
      exact ⟨hfind, r, rfl, .head ⟨d, e, hd, he, by rw [hsuper]; rfl⟩ hreach⟩

end DeclWeave.TypeScope
