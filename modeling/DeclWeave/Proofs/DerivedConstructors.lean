import DeclWeave.Proofs.ConstructorLayout
import DeclWeave.Proofs.InheritanceCircles

/-!
# Constructors Made From Inherited Ones

A class that needs a constructor and has none is given one with the parameters of the nearest
constructor above it, which it passes on. Its superclass may be generic, and the superclass above
that one, so that along the line type parameters come to stand for arguments (`Ancestry.instances`).
Copies from donors and forwarded members have these arguments put in. The parameters of a made
constructor do not: they are taken over as they are written above, and so have the types that the
class would see only where these mention none of the parameters that stand for something else.

## Main results

* `TypeRef.substitute_eq_self_iff`: which types are left alone when arguments are put in.
* `Ancestry.constructor?_of`, `Ancestry.map_layer_lineage`: what the parameters along a line of
  superclasses stand for, against the constructor that is inherited and against the layers of a
  delegate.
* `Synthesis.eq_madeConstructor_of_mem_emit`: a constructor that nobody wrote is the one made.
* `Expansion.expand_derivesParams_iff`: when a parameter that is taken over has the type that it
  has along the line.
* `Expansion.expand_derivesUnbound`: where it has not.
-/

namespace DeclWeave

/-! ### Types that arguments leave alone -/

namespace TypeRef

mutual

/-- The names that stand without arguments in a type, where a parameter can be. -/
def leaves : TypeRef → List String
  | ⟨name, []⟩ => [name]
  | ⟨_, arg :: args⟩ => leaves arg ++ leavesAll args

/-- The names that stand without arguments in some types. -/
def leavesAll : List TypeRef → List String
  | [] => []
  | arg :: args => leaves arg ++ leavesAll args

end

end TypeRef

/-- Each of some names stands for nothing else than itself. -/
def Bindings.Fixes (b : Bindings) (names : List String) : Prop :=
  ∀ name ∈ names, ∀ t, b.find? name = some t → t = .named name

theorem Bindings.fixes_append {b : Bindings} {names names' : List String} :
    b.Fixes (names ++ names') ↔ b.Fixes names ∧ b.Fixes names' :=
  List.forall_mem_append

namespace TypeRef

mutual

/-- **A type is left alone** when arguments are put in if and only if each of its leaves is. -/
theorem substitute_eq_self_iff {b : Bindings} :
    ∀ t : TypeRef, t.substitute b = t ↔ b.Fixes t.leaves
  | ⟨name, []⟩ => by
    rw [substitute, leaves, Bindings.Fixes, List.forall_mem_singleton]
    cases b.find? name with
    | none => simp
    | some t => simp [named]
  | ⟨name, arg :: args⟩ => by
    rw [substitute, leaves, Bindings.fixes_append, ← substitute_eq_self_iff arg,
      ← substituteAll_eq_self_iff args]
    simp

theorem substituteAll_eq_self_iff {b : Bindings} :
    ∀ ts : List TypeRef, substituteAll b ts = ts ↔ b.Fixes (leavesAll ts)
  | [] => by simp [substituteAll, leavesAll, Bindings.Fixes]
  | t :: ts => by
    rw [substituteAll, leavesAll, Bindings.fixes_append, ← substitute_eq_self_iff t,
      ← substituteAll_eq_self_iff ts]
    simp

end

end TypeRef

/-- A parameter without a type is left alone, and otherwise its type decides. -/
theorem Param.type_substitute_eq_self_iff {b : Bindings} (p : Param) :
    (p.substitute b).type = p.type ↔ ∀ t ∈ p.type, b.Fixes t.leaves := by
  rw [substitute]
  cases p.type with
  | none => simp
  | some t => simp [TypeRef.substitute_eq_self_iff]

/-! ### What parameters stand for along a line -/

namespace Ancestry

/-- Declarations above one another, each with what its type parameters stand for: the arguments of
the reference that leads to it, in which the parameters below it are replaced in turn. -/
def instances (b : Bindings) : List (TypeDecl × TypeRef) → List (TypeDecl × Bindings)
  | [] => []
  | (a, r) :: line =>
    let b' := Bindings.ofParams a.typeParams (r.args.map (·.substitute b))
    (a, b') :: instances b' line

/-- The nearest constructor above a declaration, with what the type parameters stand for there. -/
def nearest? (scope : TypeScope) (d : TypeDecl) : Option (Member × Bindings) :=
  (instances {} (scope.lineage (fun d _ => d.superclass) [d.name] d.superclass)).findSome?
    fun entry => entry.1.constructor?.map (·, entry.2)

theorem map_fst_instances (b : Bindings) (line : List (TypeDecl × TypeRef)) :
    (instances b line).map (·.1) = line.map (·.1) := by
  induction line generalizing b with
  | nil => rfl
  | cons entry line ih => rw [instances, List.map_cons, List.map_cons, ih]

/-- The nearest constructor is the one that is inherited. -/
theorem constructor?_of (scope : TypeScope) (d : TypeDecl) :
    (of scope d).constructor? = (nearest? scope d).map (·.1) := by
  have hline : ∀ entries : List (TypeDecl × Bindings),
      (entries.map (·.1)).findSome? (·.constructor?) =
        (entries.findSome? fun entry => entry.1.constructor?.map (·, entry.2)).map (·.1) := by
    intro entries
    induction entries with
    | nil => rfl
    | cons entry entries ih =>
      rw [List.map_cons, List.findSome?_cons, List.findSome?_cons]
      cases entry.1.constructor? with
      | none => exact ih
      | some m => rfl
  rw [nearest?, ← hline, map_fst_instances]
  rfl

/-- **A delegate sees the same.** The layers above a type have the bindings of its line of
superclasses, as long as no superclass is given by a type parameter. -/
theorem map_layer_lineage {scope : TypeScope}
    (hplain : ∀ a ∈ scope, ∀ r ∈ a.superclass, r.name ∉ a.typeParams) {b : Bindings}
    {seen : List String} {start : Option TypeRef}
    (hstart : ∀ r ∈ start, b.find? r.name = none) :
    (scope.lineage Delegate.superclassThrough seen (start.map (·.substitute b))).map
        (fun entry => (entry.1, entry.1.bindingsFor entry.2)) =
      instances b (scope.lineage (fun d _ => d.superclass) seen start) := by
  fun_induction TypeScope.lineage scope (fun d _ => d.superclass) seen start generalizing b with
  | case1 seen => simp [instances]
  | case2 seen r hnone =>
    have hname := congrArg TypeRef.name (TypeRef.substitute_of_find?_eq_none (hstart r rfl))
    rw [Option.map_some, TypeScope.lineage_of_find?_eq_none (hname ▸ hnone)]
    rfl
  | case3 seen r a hfind hseen =>
    have hname := congrArg TypeRef.name (TypeRef.substitute_of_find?_eq_none (hstart r rfl))
    rw [Option.map_some, TypeScope.lineage_of_mem_seen (hname ▸ hseen)]
    rfl
  | case4 seen r a hfind hseen ih =>
    have hr := TypeRef.substitute_of_find?_eq_none (hstart r rfl)
    have hname : (r.substitute b).name = r.name := by
      rw [hr]
      rfl
    have hbindings : a.bindingsFor (r.substitute b) =
        .ofParams a.typeParams (r.args.map (·.substitute b)) := by
      rw [hr]
      rfl
    rw [Option.map_some, TypeScope.lineage_of_find? (hname ▸ hfind) (hname ▸ hseen),
      List.map_cons, instances, hname, Delegate.superclassThrough, hbindings]
    refine congrArg (List.cons _) (ih fun r' hr' => ?_)
    exact Bindings.find?_ofParams_of_notMem
      (hplain a (List.mem_of_find?_eq_some hfind) r' hr') _

end Ancestry

/-! ### The constructor that is made -/

/-- What is emitted of a declaration written by hand was not made. -/
theorem TypeDecl.origin_ne_synthesized_of_mem_emit {d : TypeDecl} {m : Member}
    (hwritten : ∀ w ∈ d.members, w.origin = .explicit) (hm : m ∈ d.emit.members) :
    m.origin ≠ .synthesized := by
  obtain ⟨w, hw, hlabel⟩ := exists_label_eq_of_mem_emit hm
  rw [← Member.origin_eq_of_label hlabel, hwritten w hw]
  exact Origin.noConfusion

namespace Synthesis

variable {c : Context} {d : TypeDecl} {m : Member} {found : Diagnostics}

/-- A constructor among what is assembled for a type was written by hand or given by a donor. -/
theorem origin_ne_synthesized_of_mem_assembled (hwritten : ∀ w ∈ d.members, w.origin = .explicit)
    (hm : m ∈ assembled c d found) (hconstructor : m.isConstructor = true) :
    m.origin ≠ .synthesized := by
  rcases List.mem_append.mp hm with hm | hm
  · have hplanned := List.mem_filter.mpr ⟨hm, hconstructor⟩
    rw [filter_isConstructor_planned] at hplanned
    obtain ⟨w, hw, rfl⟩ := List.mem_map.mp hplanned
    have horigin : (takenUp d w).origin = .explicit := hwritten w (List.mem_filter.mp hw).1
    simp [horigin]
  · cases hclass : d.isInterface with
    | true =>
      have hnothing : contributed c d found = {} := by
        rw [contributed, woven, if_pos (by exact hclass)]
      rw [hnothing] at hm
      exact absurd hm List.not_mem_nil
    | false =>
      obtain ⟨gifts, -, hcopies, -⟩ := exists_gifts_contributed c found hclass
      rw [hcopies] at hm
      obtain ⟨g, -, rfl⟩ := List.mem_map.mp hm
      exact Origin.noConfusion

/-- A constructor that is made takes over the parameters of the nearest one above. -/
theorem params_prefix_madeConstructor {inherited : Member} {b : Bindings}
    (h : Ancestry.nearest? c.scope d = some (inherited, b)) :
    inherited.signature.params <+:
      ((madeConstructor c d found).emit false).signature.params := by
  have hinherited : (Ancestry.of c.scope d).constructor? = some inherited := by
    rw [Ancestry.constructor?_of, h]
    rfl
  rw [madeConstructor, hinherited]
  exact (Member.addParams_spec inherited.signature.params _).1

/-- **A constructor that nobody wrote** is the one that is made for a class. -/
theorem eq_madeConstructor_of_mem_emit (hwritten : ∀ w ∈ d.members, w.origin = .explicit)
    (hm : m ∈ (ofDecl c d).1.emit.constructors) (hmade : m.origin = .synthesized) :
    d.isInterface = false ∧ m = (madeConstructor c d (preliminary c d)).emit false := by
  obtain ⟨hm, hconstructor⟩ := List.mem_filter.mp hm
  rw [ofDecl] at hm
  by_cases hsugar : c.sugarEnabled d = true
  · rw [if_pos hsugar] at hm
    have hassembled : ∀ m' ∈ assembled c d (preliminary c d), m'.label ≠ m.label :=
      fun m' hm' hlabel => origin_ne_synthesized_of_mem_assembled hwritten hm'
        ((Member.isConstructor_eq_of_label hlabel).trans hconstructor)
        ((Member.origin_eq_of_label hlabel).trans hmade)
    cases hclass : d.isInterface with
    | true =>
      rw [expanded_eq] at hm
      dsimp only at hm
      rw [if_pos hclass] at hm
      obtain ⟨m', hm', hlabel⟩ := TypeDecl.exists_label_eq_of_mem_emit hm
      exact absurd hlabel (hassembled m' hm')
    | false =>
      refine ⟨rfl, ?_⟩
      obtain ⟨m', -, rfl, hm' | ⟨old, hold, -, rfl⟩ | rfl⟩ := exists_of_mem_emit_expanded hclass hm
      · exact absurd rfl (hassembled m' hm')
      · exact absurd rfl (hassembled old hold)
      · rfl
  · rw [if_neg hsugar] at hm
    exact absurd hmade (TypeDecl.origin_ne_synthesized_of_mem_emit hwritten hm)

end Synthesis

/-! ### Plans of a unit -/

namespace Expansion

open Pass

variable {settings : Settings} {u : SourceUnit} {plan : MemberPlan}

/-- What has been reported has no bearing on what synthesis looks at. -/
theorem context_foldl_congr {p p' : Pass} (h : p.context = p'.context) (l : List TypeDecl) :
    (l.foldl expandType p).context = (l.foldl expandType p').context := by
  induction l generalizing p p' with
  | nil => exact h
  | cons d l ih =>
    refine ih ?_
    rw [expandType_eq, expandType_eq, h]

/-- **Every plan** of a unit is that of the first declaration of its name, made at its turn, or a
declaration as it was written. -/
theorem exists_planOf_of_mem_plans (h : plan ∈ (expand settings u).plans) :
    (∃ d ∈ u.distinct.types, plan.decl = (planOf settings u.distinct.types d).emit) ∨
      ∃ d ∈ u.types, plan.decl = d.emit := by
  refine (mem_finished_or_of_mem_plans h).imp_left fun hfinished => ?_
  rw [run_eq] at hfinished
  change plan.decl ∈ ((queue u.distinct.types).foldl expandType
    (start settings (markFirst [] u.types))).context.finished at hfinished
  have hnames := nodup_map_name_queue u.distinct.types
  have hstart : (start settings (markFirst [] u.types)).context.finished = [] := by
    rw [context_start]
  have hmap := map_name_finished_foldl (start settings (markFirst [] u.types))
    (queue u.distinct.types)
  rw [hstart, List.map_nil, List.nil_append] at hmap
  have hname : plan.decl.name ∈ (queue u.distinct.types).map (·.name) :=
    hmap ▸ List.mem_map_of_mem hfinished
  obtain ⟨d, hd, hname⟩ := List.mem_map.mp hname
  obtain ⟨rest, hqueue⟩ := exists_queue_eq u.nodup_names_distinct (mem_of_mem_queue hd)
  have hplan := find?_finished hstart hnames hqueue
  rw [hname, TypeDecl.find?_name_eq_some (hmap ▸ hnames) hfinished] at hplan
  refine ⟨d, mem_of_mem_queue hd, ?_⟩
  have hcontext : (start settings (markFirst [] u.types)).context =
      (start settings (u.distinct.types.map (·, true))).context := by
    rw [context_start, context_start, firsts_eq]
    rfl
  rw [Option.some.inj hplan, context_foldl_congr hcontext, ← hname]
  rfl

/-- **Parameters that are taken over** by a constructor that was made stand first in it, just as
they are in the nearest constructor above the class. So such a parameter has the type that it has
there with the arguments along the line of superclasses put in if and only if that leaves its type
alone, which is so if whatever the leaves of the type stand for is themselves. -/
theorem expand_derivesParams_iff (settings : Settings) (h : u.IsRead)
    (hplan : plan ∈ (expand settings u).plans) {ctor : Member}
    (hctor : ctor ∈ plan.decl.constructors) (hmade : ctor.origin = .synthesized) :
    ∃ d, u.find? plan.decl.name = some d ∧ d.isInterface = false ∧
      ∀ (inherited : Member) (b : Bindings),
        Ancestry.nearest? (turn settings u.distinct.types d.name).scope d = some (inherited, b) →
        ∀ (i : ℕ) (p : Param), inherited.signature.params[i]? = some p →
          ∃ q : Param, ctor.signature.params[i]? = some q ∧ q = p ∧
            (q.type = (p.substitute b).type ↔ ∀ t ∈ p.type, b.Fixes t.leaves) := by
  have hwritten : ∀ d ∈ u.types, ∀ w ∈ d.members, w.origin = .explicit := fun d hd => h.origin hd
  obtain ⟨d, hd, hdecl⟩ | ⟨d, hd, hdecl⟩ := exists_planOf_of_mem_plans hplan
  · have hfind : u.find? d.name = some d := by
      rw [← u.find?_distinct]
      exact TypeDecl.find?_name_eq_some u.nodup_names_distinct hd
    have hname : plan.decl.name = d.name := by
      rw [hdecl]
      exact Synthesis.name_ofDecl _ d
    rw [hdecl] at hctor
    obtain ⟨hclass, rfl⟩ := Synthesis.eq_madeConstructor_of_mem_emit
      (hwritten d (List.mem_of_find?_eq_some hfind)) hctor hmade
    refine ⟨d, hname ▸ hfind, hclass, fun inherited b hnearest i p hp => ⟨p, ?_, rfl, ?_⟩⟩
    · obtain ⟨bound, hbound⟩ := Synthesis.params_prefix_madeConstructor hnearest
      rw [← hbound, List.getElem?_append_left (List.getElem?_eq_some_iff.mp hp).1, hp]
    · rw [eq_comm]
      exact p.type_substitute_eq_self_iff
  · rw [hdecl] at hctor
    exact absurd hmade (TypeDecl.origin_ne_synthesized_of_mem_emit (hwritten d hd)
      (List.mem_filter.mp hctor).1)

/-- The nearest constructor above `C` is two generic superclasses away. The first parameter of that
class stands for an argument, and the second is given none. -/
def derivingSource : String :=
  "(class: A :params [T S] (constructor: [[x T] [y (List S)]] (print x)))" ++
  "(class: B :params [U] :extends (A (Array U)))" ++
  "(class: C :extends (B Int) (field: n :type Int :direct-init true))"

/-- What is made of `derivingSource`: the constructor of `C`, and the one above it. -/
theorem exists_derived : let settings : Settings := { requireOptIn := false }
    ∃ u plan ctor d inherited b, SourceUnit.ofSource derivingSource = .ok u ∧
      (expand settings u).isOk = true ∧ plan ∈ (expand settings u).plans ∧
      ctor ∈ plan.decl.constructors ∧ ctor.origin = .synthesized ∧
      u.find? plan.decl.name = some d ∧
      Ancestry.nearest? (turn settings u.distinct.types d.name).scope d = some (inherited, b) ∧
      inherited.signature.params = [⟨"x", some (.named "T")⟩, ⟨"y", some ⟨"List", [.named "S"]⟩⟩] ∧
      ctor.signature.params = [⟨"x", some (.named "T")⟩, ⟨"y", some ⟨"List", [.named "S"]⟩⟩,
        ⟨"n", some (.named "Int")⟩] ∧
      b.entries = [("T", ⟨"Array", [.named "Int"]⟩)] := by
  intro settings
  have hexpansion : (SourceUnit.ofSource derivingSource >>= fun u =>
      let e := expand settings u
      .ok (e.isOk, (e.plan? "C").map (fun plan => plan.decl.constructors.map
        fun m => (m.origin, m.signature.params)), (u.find? "C").bind fun d =>
          (Ancestry.nearest? (turn settings u.distinct.types d.name).scope d).map
            fun near => (near.1.signature.params, near.2.entries))) =
      .ok (true, some [(.synthesized, [⟨"x", some (.named "T")⟩,
        ⟨"y", some ⟨"List", [.named "S"]⟩⟩, ⟨"n", some (.named "Int")⟩])],
        some ([⟨"x", some (.named "T")⟩, ⟨"y", some ⟨"List", [.named "S"]⟩⟩],
          [("T", ⟨"Array", [.named "Int"]⟩)])) := by cbv
  obtain ⟨u, hu, hresult⟩ := Outcome.bind_eq_ok.mp hexpansion
  obtain ⟨hok, hctors, hnear⟩ : _ ∧ _ ∧ _ := by
    simpa only [Except.ok.injEq, Prod.mk.injEq] using hresult
  obtain ⟨plan, hplan, hctors⟩ := Option.map_eq_some_iff.mp hctors
  obtain ⟨ctor, hctor, hmade⟩ := List.map_eq_singleton_iff.mp hctors
  obtain ⟨hmade, hparams⟩ := Prod.mk.inj hmade
  obtain ⟨d, hd, hnear⟩ := Option.bind_eq_some_iff.mp hnear
  obtain ⟨⟨inherited, b⟩, hnear, heq⟩ := Option.map_eq_some_iff.mp hnear
  obtain ⟨hinherited, hb⟩ := Prod.mk.inj heq
  have hname : plan.decl.name = "C" := by simpa using List.find?_some hplan
  refine ⟨u, plan, ctor, d, inherited, b, hu, hok, List.mem_of_find?_eq_some hplan, ?_, hmade,
    hname ▸ hd, hnear, hinherited, hparams, hb⟩
  rw [hctor]
  exact List.mem_singleton_self ctor

/-- A parameter that is given no argument along the line is taken over with the type that it has
there. -/
theorem expand_derivesParams_iff_unbound : let settings : Settings := { requireOptIn := false }
    ∃ u plan ctor inherited b p, SourceUnit.ofSource derivingSource = .ok u ∧
      plan ∈ (expand settings u).plans ∧ ctor ∈ plan.decl.constructors ∧
      ctor.origin = .synthesized ∧ inherited.signature.params[1]? = some p ∧
      ∃ d, u.find? plan.decl.name = some d ∧
        Ancestry.nearest? (turn settings u.distinct.types d.name).scope d = some (inherited, b) ∧
        ∃ q : Param, ctor.signature.params[1]? = some q ∧ q.type = (p.substitute b).type := by
  intro settings
  obtain ⟨u, plan, ctor, d, inherited, b, hu, -, hplan, hctor, hmade, hd, hnear, hinherited, -,
    hb⟩ := exists_derived
  obtain ⟨d', hd', -, hderives⟩ := expand_derivesParams_iff settings
    (SourceUnit.isRead_of_ofSource hu) hplan hctor hmade
  obtain rfl : d = d' := Option.some.inj (hd.symm.trans hd')
  have hp : inherited.signature.params[1]? = some ⟨"y", some ⟨"List", [.named "S"]⟩⟩ := by
    rw [hinherited]
    rfl
  obtain ⟨q, hq, -, htype⟩ := hderives inherited b hnear 1 _ hp
  refine ⟨u, plan, ctor, inherited, b, _, hu, hplan, hctor, hmade, hp, d, hd, hnear, q, hq,
    htype.mpr ?_⟩
  intro t ht name hname s hs
  obtain rfl : TypeRef.mk "List" [.named "S"] = t := Option.some.inj ht
  obtain rfl : name = "S" := List.mem_singleton.mp hname
  have hnone : b.find? "S" = none := by
    rw [Bindings.find?, hb]
    rfl
  rw [hnone] at hs
  exact absurd hs (Option.some_ne_none s).symm

/-- **Arguments are left out**: without an error, `C` is given a constructor with a parameter of
type `T`, a parameter of `A` that stands for `Array Int` along the line from `C`. -/
theorem expand_derivesUnbound : let settings : Settings := { requireOptIn := false }
    ∃ u plan ctor inherited b p q d, SourceUnit.ofSource derivingSource = .ok u ∧
      (expand settings u).isOk = true ∧ plan ∈ (expand settings u).plans ∧
      ctor ∈ plan.decl.constructors ∧ ctor.origin = .synthesized ∧
      u.find? plan.decl.name = some d ∧
      Ancestry.nearest? (turn settings u.distinct.types d.name).scope d = some (inherited, b) ∧
      inherited.signature.params[0]? = some p ∧ ctor.signature.params[0]? = some q ∧
      q.type = some (.named "T") ∧ (p.substitute b).type = some ⟨"Array", [.named "Int"]⟩ := by
  intro settings
  obtain ⟨u, plan, ctor, d, inherited, b, hu, hok, hplan, hctor, hmade, hd, hnear, hinherited,
    hparams, hb⟩ := exists_derived
  refine ⟨u, plan, ctor, inherited, b, ⟨"x", some (.named "T")⟩, ⟨"x", some (.named "T")⟩, d, hu,
    hok, hplan, hctor, hmade, hd, hnear, ?_, ?_, rfl, ?_⟩
  · rw [hinherited]
    rfl
  · rw [hparams]
    rfl
  · have hfind : b.find? "T" = some ⟨"Array", [.named "Int"]⟩ := by
      rw [Bindings.find?, hb]
      rfl
    simp [Param.substitute, TypeRef.named, TypeRef.substitute, hfind]

end Expansion

end DeclWeave
