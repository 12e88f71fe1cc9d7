import DeclWeave.Expansion.Order
import DeclWeave.Proofs.DepthFirstOrder

/-!
# The Order of Expansion

Types with distinct names are expanded in the order in which the search through their dependencies
leaves them. A strong dependency that is not expanded first closes a circle, and then the type
that has it is one of those reported. Without any circle the same holds of the weak ones.

## Main results

* `sorted_perm`: the order is one of all the types.
* `mem_before_of_supertypes`: the supertypes of a type that is not reported come first.
* `mem_before_of_acyclic`: where dependencies make no circle, all of them come first.
* `search_of_inOrder`: types that are in order already are left in that order.
-/

namespace DeclWeave

/-! ### Declarations by name -/

namespace TypeDecl

variable {types : List TypeDecl} {d : TypeDecl}

/-- With distinct names, a declaration is found by its name. -/
theorem find?_name_eq_some (hnames : (types.map (·.name)).Nodup) (hd : d ∈ types) :
    types.find? (·.name == d.name) = some d := by
  induction types with
  | nil => exact absurd hd List.not_mem_nil
  | cons e types ih =>
    obtain ⟨he, hnames⟩ := List.nodup_cons.mp hnames
    rcases List.mem_cons.mp hd with rfl | hd
    · simp
    · have hne : e.name ≠ d.name := fun heq => he (List.mem_map.mpr ⟨d, hd, heq.symm⟩)
      rw [List.find?_cons_of_neg (by simpa using hne)]
      exact ih hnames hd

theorem name_of_find? {name : String} (h : types.find? (·.name == name) = some d) :
    d.name = name := by
  simpa using List.find?_some h

theorem find?_name_eq_none_iff {name : String} :
    types.find? (·.name == name) = none ↔ name ∉ types.map (·.name) := by
  simp [List.find?_eq_none, List.mem_map]

theorem mem_map_name_iff {name : String} :
    name ∈ types.map (·.name) ↔ ∃ d, types.find? (·.name == name) = some d := by
  rw [← Option.ne_none_iff_exists', ne_eq, find?_name_eq_none_iff, not_not]

/-- With distinct names, a name is found among some of the declarations if it is one of theirs. -/
theorem find?_filter_name (hnames : (types.map (·.name)).Nodup)
    (p : TypeDecl → Bool) (name : String) : (types.filter p).find? (·.name == name) =
      (types.find? (·.name == name)).filter p := by
  induction types with
  | nil => rfl
  | cons e types ih =>
    obtain ⟨he, hnames⟩ := List.nodup_cons.mp hnames
    by_cases hname : e.name = name
    · -- No other declaration has the name, so that it is this one or none.
      have hrest : types.find? (·.name == name) = none :=
        find?_name_eq_none_iff.mpr (hname ▸ he)
      have ih := ih hnames
      rw [hrest, Option.filter_none] at ih
      rw [List.filter_cons, List.find?_cons_of_pos (by simpa using hname)]
      cases hp : p e with
      | false => simp [hp, Option.filter_some, ih]
      | true => simp [hp, Option.filter_some, hname]
    · have hskip : (e.name == name) = false := by simpa using hname
      rw [List.find?_cons_of_neg (by simpa using hname), ← ih hnames, List.filter_cons]
      split
      · rw [List.find?_cons, hskip]
      · rfl

end TypeDecl

namespace Order

variable {types : List TypeDecl} {d e : TypeDecl} {l₁ l₂ : List TypeDecl}

theorem edges_name (hnames : (types.map (·.name)).Nodup) (hd : d ∈ types) :
    edges types d.name = d.dependencies := by
  rw [edges, TypeDecl.find?_name_eq_some hnames hd]

/-! ### All types -/

/-- Looking up names of declarations in turn gives declarations of these names. -/
theorem map_name_filterMap_find? {names : List String} (h : names ⊆ types.map (·.name)) :
    (names.filterMap fun name => types.find? (·.name == name)).map (·.name) = names := by
  induction names with
  | nil => rfl
  | cons name names ih =>
    obtain ⟨hname, hnames⟩ := List.cons_subset.mp h
    obtain ⟨d, hd⟩ := TypeDecl.mem_map_name_iff.mp hname
    rw [List.filterMap_cons, hd, List.map_cons, ih hnames, TypeDecl.name_of_find? hd]

theorem map_name_sorted (types : List TypeDecl) :
    (sorted types).map (·.name) = DepthFirst.leaveOrder (search types) :=
  map_name_filterMap_find? fun _ h => DepthFirst.mem_leaveOrder_trace.mp h

theorem nodup_map_name_sorted (types : List TypeDecl) : ((sorted types).map (·.name)).Nodup := by
  rw [map_name_sorted]
  exact DepthFirst.nodup_leaveOrder_trace _ _

theorem mem_of_mem_sorted (h : d ∈ sorted types) : d ∈ types := by
  obtain ⟨name, -, hfind⟩ := List.mem_filterMap.mp h
  exact List.mem_of_find?_eq_some hfind

theorem mem_sorted (hnames : (types.map (·.name)).Nodup) : d ∈ sorted types ↔ d ∈ types := by
  refine ⟨mem_of_mem_sorted, fun h => ?_⟩
  refine List.mem_filterMap.mpr ⟨d.name, ?_, TypeDecl.find?_name_eq_some hnames h⟩
  exact DepthFirst.mem_leaveOrder_trace.mpr (List.mem_map_of_mem h)

/-- **The order takes in every type once.** -/
theorem sorted_perm (hnames : (types.map (·.name)).Nodup) : (sorted types).Perm types :=
  (List.perm_ext_iff_of_nodup (nodup_map_name_sorted types).of_map hnames.of_map).mpr
    fun _ => mem_sorted hnames

/-! ### What comes first -/

theorem not_mem_before_self (hsorted : sorted types = l₁ ++ d :: l₂) : d ∉ l₁ := by
  have hnodup := (nodup_map_name_sorted types).of_map
  rw [hsorted] at hnodup
  exact fun hd => (List.nodup_cons.mp (List.nodup_middle.mp hnodup)).1 (List.mem_append_left _ hd)

/-- **The types reported** are those on the path of a back edge that is strong. -/
theorem mem_cyclic_iff : d ∈ cyclic types ↔
    d ∈ types ∧ ∃ path, (path, .strong) ∈ DepthFirst.backEdges (search types) ∧ d.name ∈ path := by
  rw [cyclic, List.mem_filter, List.any_eq_true]
  refine and_congr_right fun _ => ⟨?_, ?_⟩
  · rintro ⟨⟨path, dep⟩, hpath, hd⟩
    obtain ⟨hback, hstrong⟩ := List.mem_filter.mp hpath
    obtain rfl : dep = .strong := by simpa using hstrong
    exact ⟨path, hback, List.contains_iff_mem.mp hd⟩
  · rintro ⟨path, hback, hd⟩
    exact ⟨(path, .strong), List.mem_filter.mpr ⟨hback, rfl⟩, List.contains_iff_mem.mpr hd⟩

/-- What a type depends on comes before it, or the dependency is a back edge of the search. -/
theorem mem_before_or_back (hnames : (types.map (·.name)).Nodup)
    (hsorted : sorted types = l₁ ++ d :: l₂) {dep : Dependency}
    (hdep : (e.name, dep) ∈ d.dependencies) (he : e ∈ types) :
    e ∈ l₁ ∨ ∃ path, (path, dep) ∈ DepthFirst.backEdges (search types) ∧
      path.getLast? = some d.name := by
  have hd : d ∈ types := (mem_sorted hnames).mp (by rw [hsorted]; exact List.mem_append_cons_self)
  have horder : DepthFirst.leaveOrder (search types) =
      l₁.map (·.name) ++ d.name :: l₂.map (·.name) := by
    rw [← map_name_sorted, hsorted, List.map_append, List.map_cons]
  rw [← edges_name hnames hd] at hdep
  rcases DepthFirst.left_before_or_back horder hdep (List.mem_map_of_mem he) with
    hbefore | ⟨path, hpath, -, hlast⟩
  · obtain ⟨e', he', hname⟩ := List.mem_map.mp hbefore
    have hfind := TypeDecl.find?_name_eq_some hnames he
    have he'types : e' ∈ types :=
      (mem_sorted hnames).mp (by rw [hsorted]; exact List.mem_append_left _ he')
    rw [← hname, TypeDecl.find?_name_eq_some hnames he'types] at hfind
    exact .inl (Option.some.inj hfind ▸ he')
  · exact .inr ⟨path, hpath, hlast⟩

/-- **Supertypes come first**, unless the type is reported to be on a circle. -/
theorem mem_before_of_supertypes (hnames : (types.map (·.name)).Nodup)
    (hsorted : sorted types = l₁ ++ d :: l₂) (hcyclic : d ∉ cyclic types)
    {r : TypeRef} (hr : r ∈ d.supertypes) (he : e ∈ types) (hname : e.name = r.name) :
    e ∈ l₁ := by
  have hdep : (e.name, Dependency.strong) ∈ d.dependencies := by
    rw [hname]
    exact List.mem_append_left _ (List.mem_map.mpr ⟨r, hr, rfl⟩)
  refine (mem_before_or_back hnames hsorted hdep he).resolve_right ?_
  rintro ⟨path, hpath, hlast⟩
  have hd : d ∈ types := (mem_sorted hnames).mp (by rw [hsorted]; exact List.mem_append_cons_self)
  exact hcyclic (mem_cyclic_iff.mpr ⟨hd, path, hpath, List.mem_of_getLast? hlast⟩)

/-- What comes first by single references does so by references in a row. -/
theorem mem_before_of_transGen {R : String → String → Prop}
    (hstep : ∀ {a b : String} {d : TypeDecl} {k₁ k₂ : List TypeDecl}, R a b →
      types.find? (·.name == a) = some d → sorted types = k₁ ++ d :: k₂ →
        ∃ e ∈ k₁, types.find? (·.name == b) = some e)
    {a b : String} (h : Relation.TransGen R a b) (hd : types.find? (·.name == a) = some d)
    (hsorted : sorted types = l₁ ++ d :: l₂) :
    ∃ e ∈ l₁, types.find? (·.name == b) = some e := by
  induction h using Relation.TransGen.head_induction_on generalizing d l₁ l₂ with
  | single h => exact hstep h hd hsorted
  | head h _ ih =>
    obtain ⟨x, hx, hfind⟩ := hstep h hd hsorted
    obtain ⟨j₁, j₂, rfl⟩ := List.append_of_mem hx
    rw [List.append_assoc, List.cons_append] at hsorted
    obtain ⟨e, he, hfind'⟩ := ih hfind hsorted
    exact ⟨e, List.mem_append_left _ he, hfind'⟩

/-- A declared type depends on another. -/
def Depends (types : List TypeDecl) : String → String → Prop :=
  DepthFirst.Linked (types.map (·.name)) (edges types)

theorem backEdges_eq_nil (hacyclic : ∀ name, ¬Relation.TransGen (Depends types) name name) :
    DepthFirst.backEdges (search types) = [] :=
  DepthFirst.backEdges_eq_nil_iff.mpr hacyclic

theorem cyclic_eq_nil (hacyclic : ∀ name, ¬Relation.TransGen (Depends types) name name) :
    cyclic types = [] := by
  simp [cyclic, backEdges_eq_nil hacyclic]

/-- **Every dependency comes first** where dependencies make no circle. -/
theorem mem_before_of_acyclic (hnames : (types.map (·.name)).Nodup)
    (hacyclic : ∀ name, ¬Relation.TransGen (Depends types) name name)
    (hsorted : sorted types = l₁ ++ d :: l₂) {dep : Dependency}
    (hdep : (e.name, dep) ∈ d.dependencies) (he : e ∈ types) : e ∈ l₁ := by
  refine (mem_before_or_back hnames hsorted hdep he).resolve_right ?_
  rintro ⟨path, hpath, -⟩
  rw [backEdges_eq_nil hacyclic] at hpath
  exact List.not_mem_nil hpath

/-- Each type comes after those that it depends on. -/
def InOrder (types : List TypeDecl) : Prop :=
  ∀ l₁ d l₂, types = l₁ ++ d :: l₂ → ∀ dep ∈ d.dependencies, dep.1 ∈ types.map (·.name) →
    dep.1 ∈ l₁.map (·.name)

/-- **Types that are in order** already are left in that order. -/
theorem search_of_inOrder (hnames : (types.map (·.name)).Nodup) (h : InOrder types) :
    search types = (types.map (·.name)).map .leave := by
  refine DepthFirst.trace_of_sorted hnames fun m₁ x m₂ hsplit dep hdep hmem => ?_
  obtain ⟨l₁, rest, rfl, rfl, hrest⟩ := List.map_eq_append_iff.mp hsplit
  obtain ⟨d, l₂, rfl, rfl, rfl⟩ := List.map_eq_cons_iff.mp hrest
  rw [edges_name hnames List.mem_append_cons_self] at hdep
  exact h l₁ d l₂ rfl dep hdep hmem

/-- Without circles, the order in which types are expanded is such an order. -/
theorem inOrder_sorted (hnames : (types.map (·.name)).Nodup)
    (hacyclic : ∀ name, ¬Relation.TransGen (Depends types) name name) :
    InOrder (sorted types) := by
  intro l₁ d l₂ hsorted dep hdep hmem
  obtain ⟨e, he, hname⟩ := List.mem_map.mp hmem
  refine List.mem_map.mpr ⟨e, ?_, hname⟩
  have hdep' : (e.name, dep.2) ∈ d.dependencies := by rwa [hname]
  exact mem_before_of_acyclic hnames hacyclic hsorted hdep' (mem_of_mem_sorted he)

end Order

end DeclWeave
