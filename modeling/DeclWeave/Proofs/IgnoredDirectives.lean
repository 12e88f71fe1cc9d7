import DeclWeave.Decl.Reader
import DeclWeave.Proofs.FailureAccounts
import DeclWeave.Proofs.InheritanceCircles
import DeclWeave.Proofs.Isolation
import DeclWeave.Proofs.ShedDirectives

/-!
# Ignored Directives

Directives that are ignored should be inert: whether they are there or not, every plan is the same.
Three kinds of them are read nevertheless. A template is left out of the plan of its type, a tag on
a donor's member decides who is given it, and a request to forward is a dependency, which has a say
in the order of expansion and in the circles that are reported.

All others can be removed from a unit (`SourceUnit.shed`), and every plan stays as it is. The work
on the two units goes step by step; their contexts differ in what is shed, and the same types fail.
Requests to forward can be removed as well where references are in order. For there the order of
expansion does not matter to plans, and in a unit that declares its types in that order already, it
is the same without the requests.

## Main results

* `Expansion.Pass.Sheds.expandType`, `Expansion.Pass.Sheds.foldl_expandType`: one step of the work,
  and by induction all of it.
* `Expansion.plans_shed`, `Expansion.plans_shed_of_layered`: the plans, if the search for the order
  stays the same, and if references are in order.
* `Expansion.expand_ignoresDirectives`: which ignored directives are inert.
* `Expansion.expand_readsIgnored`: the others are not.
-/

namespace DeclWeave

/-- The declarations of a unit without the directives that are ignored and not to be kept. -/
def SourceUnit.shed (settings : Settings) (kept : TypeDecl → Directive → Bool) (u : SourceUnit) :
    SourceUnit :=
  ⟨u.types.map (settings.shed kept)⟩

/-! ### Dependencies -/

section Dependencies

variable {settings : Settings} {kept : TypeDecl → Directive → Bool} {d : TypeDecl} {u : SourceUnit}

/-- Shedding adds no request to forward. -/
theorem Settings.isSome_forwardRequest?_shedMember {m : Member}
    (h : (settings.shedMember kept d m).forwardRequest?.isSome) : m.forwardRequest?.isSome := by
  obtain ⟨request, hrequest⟩ := Option.isSome_iff_exists.mp h
  obtain ⟨x, hx, hrequest⟩ := List.exists_of_findSome?_eq_some hrequest
  rw [Member.forwardRequest?, List.findSome?_isSome_iff]
  exact ⟨x, (List.mem_filter.mp hx).1, Option.isSome_iff_exists.mpr ⟨request, hrequest⟩⟩

theorem Settings.delegateTypes_shed_subset (d : TypeDecl) :
    (settings.shed kept d).delegateTypes ⊆ d.delegateTypes := by
  intro type htype
  obtain ⟨m', hm', htype⟩ := List.mem_filterMap.mp htype
  obtain ⟨m, hm, rfl⟩ := List.mem_map.mp hm'
  refine List.mem_filterMap.mpr ⟨m, hm, ?_⟩
  split at htype
  · rename_i hforwards
    rw [if_pos (isSome_forwardRequest?_shedMember hforwards)]
    exact htype
  · exact absurd htype (by simp)

theorem Settings.dependencies_shed_subset (d : TypeDecl) :
    (settings.shed kept d).dependencies ⊆ d.dependencies := by
  intro dep hdep
  rcases List.mem_append.mp hdep with hdep | hdep
  · exact List.mem_append_left _ hdep
  · exact List.mem_append_right _ (List.map_subset _ (delegateTypes_shed_subset d) hdep)

theorem Settings.dependencies_shed (h : ∀ request, kept d (.forward request) = true) :
    (settings.shed kept d).dependencies = d.dependencies := by
  have hforwards : ∀ m : Member, (settings.shedMember kept d m).forwardRequest? =
      m.forwardRequest? := by
    intro m
    refine findSome?_filter_eq (fun x hx => ?_) m.directives
    cases x with
    | forward request => rw [h request, Bool.or_true]
    | _ => exact absurd hx Bool.false_ne_true
  have htypes : (settings.shed kept d).delegateTypes = d.delegateTypes := by
    rw [TypeDecl.delegateTypes, TypeDecl.delegateTypes, shed]
    dsimp only
    rw [List.filterMap_map]
    refine List.filterMap_congr fun m _ => ?_
    rw [Function.comp_apply, hforwards]
    rfl
  rw [TypeDecl.dependencies, htypes]
  rfl

namespace Order

variable {types : List TypeDecl}

theorem find?_shed (types : List TypeDecl) (name : String) :
    (types.map (settings.shed kept)).find? (·.name == name) =
      (types.find? (·.name == name)).map (settings.shed kept) :=
  List.find?_map

theorem sorted_shed (h : search (types.map (settings.shed kept)) = search types) :
    sorted (types.map (settings.shed kept)) = (sorted types).map (settings.shed kept) := by
  rw [sorted, sorted, h, List.map_filterMap]
  exact List.filterMap_congr fun name _ => find?_shed types name

theorem cyclic_shed (h : search (types.map (settings.shed kept)) = search types) :
    cyclic (types.map (settings.shed kept)) = (cyclic types).map (settings.shed kept) := by
  rw [cyclic, cyclic, h, List.filter_map]
  rfl

/-- If requests to forward are kept, the search is the same. -/
theorem search_shed (h : ∀ d request, kept d (.forward request) = true) (types : List TypeDecl) :
    search (types.map (settings.shed kept)) = search types := by
  have hedges : edges (types.map (settings.shed kept)) = edges types := by
    funext name
    rw [edges, edges, find?_shed]
    cases types.find? (·.name == name) with
    | none => rfl
    | some d => exact Settings.dependencies_shed (h d)
  rw [search, search, Settings.map_name_shed, hedges]

/-- Types that are in order stay so. -/
theorem InOrder.shed (h : InOrder types) : InOrder (types.map (settings.shed kept)) := by
  intro m₁ d' m₂ hsplit dep hdep hmem
  obtain ⟨l₁, rest, rfl, rfl, hrest⟩ := List.map_eq_append_iff.mp hsplit
  obtain ⟨d, l₂, rfl, rfl, rfl⟩ := List.map_eq_cons_iff.mp hrest
  rw [Settings.map_name_shed] at hmem ⊢
  exact h l₁ d l₂ rfl dep (Settings.dependencies_shed_subset d hdep) hmem

theorem search_shed_of_inOrder (hnames : (types.map (·.name)).Nodup) (h : InOrder types) :
    search (types.map (settings.shed kept)) = search types := by
  rw [search_of_inOrder (by rwa [Settings.map_name_shed]) h.shed, search_of_inOrder hnames h,
    Settings.map_name_shed]

end Order

namespace SourceUnit

theorem find?_shed (u : SourceUnit) (name : String) :
    (u.shed settings kept).find? name = (u.find? name).map (settings.shed kept) :=
  Order.find?_shed u.types name

/-- Shedding adds no references. -/
theorem references_of_shed {a b : String} (h : (u.shed settings kept).References a b) :
    u.References a b := by
  obtain ⟨d', e', hd', he', r, hr, hname⟩ := h
  rw [find?_shed] at hd' he'
  obtain ⟨d, hd, rfl⟩ := Option.map_eq_some_iff.mp hd'
  obtain ⟨e, he, rfl⟩ := Option.map_eq_some_iff.mp he'
  refine ⟨d, e, hd, he, r, ?_, hname⟩
  rcases List.mem_append.mp hr with hr | hr
  · exact List.mem_append_left _ hr
  · exact List.mem_append_right _ (Settings.delegateTypes_shed_subset d hr)

theorem Layered.shed (h : u.Layered) : (u.shed settings kept).Layered where
  nodup_names := by
    rw [SourceUnit.shed, Settings.map_name_shed]
    exact h.nodup_names
  acyclic a hcircle :=
    h.acyclic a (Relation.TransGen.mono (fun _ _ => references_of_shed) _ _ hcircle)
  plain d' hd' := by
    obtain ⟨d, hd, rfl⟩ := List.mem_map.mp hd'
    exact h.plain d hd

end SourceUnit

end Dependencies

/-! ### The work on a unit -/

namespace Expansion

namespace Pass

variable {kept : TypeDecl → Directive → Bool} {p p' : Pass} {c c' : Context}

/-- Two stages of the work on a unit that differ in what is shed: the same types have failed. -/
structure Sheds (kept : TypeDecl → Directive → Bool) (p p' : Pass) : Prop where
  context : p.context.Sheds kept p'.context
  failed_eq : p'.failed = p.failed

/-- Whatever is still read is kept. -/
def KeepsRead (settings : Settings) (kept : TypeDecl → Directive → Bool) : Prop :=
  ∀ d x, settings.stillReads d x → kept d x

theorem KeepsRead.template {settings : Settings} (hkept : KeepsRead settings kept) (d : TypeDecl) :
    kept d .template = true :=
  hkept d .template rfl

theorem KeepsRead.tags {settings : Settings} (hkept : KeepsRead settings kept) {d : TypeDecl}
    (hdonates : (d.isInterface && settings.carriesOut d) = true) (x : Directive)
    (hx : x.isTag = true) : kept d x = true := by
  refine hkept d x ?_
  rw [Settings.stillReads, hx, Bool.true_and, hdonates, Bool.or_true]

/-- **A donor** is the same but for the directives that its interface sheds, which are no tags. -/
theorem ofDecl_bank_shed (h : c.Sheds kept c') (hkept : KeepsRead c.settings kept) {d : TypeDecl}
    (hdonates : donates c d = true) :
    let bank := DonorBank.ofDecl c.settings (Synthesis.ofDecl c d).1
    let bank' := DonorBank.ofDecl c.settings (Synthesis.ofDecl c' (c.settings.shed kept d)).1
    bank'.1.keeping Directive.isTag = bank.1.keeping Directive.isTag ∧ bank'.2 = bank.2 := by
  have hplan := TypeDecl.keeping_mono (hkept.tags hdonates)
    (Synthesis.ofDecl_shed h hkept.template d).1
  have htags : ∀ x : Directive, x.isTag → Directive.isTag x := fun _ hx => hx
  have hbank := DonorBank.ofDecl_keeping htags c.settings (Synthesis.ofDecl c d).1
  have hbank' := DonorBank.ofDecl_keeping htags c.settings
    (Synthesis.ofDecl c' (c.settings.shed kept d)).1
  rw [hplan, hbank] at hbank'
  exact ⟨(congrArg Prod.fst hbank').symm, (congrArg Prod.snd hbank').symm⟩

theorem hasErrors_findings_shed (h : c.Sheds kept c') (hkept : KeepsRead c.settings kept)
    (d : TypeDecl) : (findings c' (c.settings.shed kept d)).hasErrors =
      (findings c d).hasErrors := by
  obtain ⟨-, herrors⟩ := Synthesis.ofDecl_shed h hkept.template d
  have hdonates : donates c' (c.settings.shed kept d) = donates c d := by
    rw [donates, donates, h.sugarEnabled_eq]
    rfl
  rw [findings, findings, hdonates, h.settings_eq]
  dsimp only
  split
  · rename_i hdonor
    rw [Diagnostics.hasErrors_append, Diagnostics.hasErrors_append, herrors,
      (ofDecl_bank_shed h hkept hdonor).2]
  · exact herrors

/-- **One step** of the work keeps two stages together. -/
theorem Sheds.expandType (h : p.Sheds kept p') (hkept : KeepsRead p.context.settings kept)
    (d : TypeDecl) :
    (p.expandType d).Sheds kept (p'.expandType (p.context.settings.shed kept d)) := by
  have hcontext := h.context
  have hemit : (Synthesis.ofDecl p'.context (p.context.settings.shed kept d)).1.emit =
      (Synthesis.ofDecl p.context d).1.emit := by
    rw [← TypeDecl.emit_keeping (hkept.template d),
      (Synthesis.ofDecl_shed hcontext hkept.template d).1, TypeDecl.emit_keeping (hkept.template d)]
  have hdonates : donates p'.context (p.context.settings.shed kept d) = donates p.context d := by
    rw [donates, donates, hcontext.sugarEnabled_eq]
    rfl
  rw [expandType_eq, expandType_eq]
  -- What is left: finished plans are the same, have no directives, donors agree, failures agree.
  refine ⟨⟨hcontext.settings_eq, hcontext.types_eq, ?_, ?_, fun name => ?_⟩, ?_⟩
  · dsimp only
    rw [hcontext.finished_eq, hemit]
  · intro plan hplan
    rcases List.mem_append.mp hplan with hplan | hplan
    · exact hcontext.directives_eq plan hplan
    · obtain rfl := List.mem_singleton.mp hplan
      exact (TypeDecl.isFinished_emit _).directives_eq
  · dsimp only [donorsAfter]
    rw [hdonates, hcontext.settings_eq]
    split
    · rename_i hdonor
      have hname : (p.context.settings.shed kept d).name = d.name := rfl
      rw [DonorRegistry.find?_insert, DonorRegistry.find?_insert, DonorBank.name_ofDecl,
        DonorBank.name_ofDecl, Synthesis.name_ofDecl, Synthesis.name_ofDecl, hname]
      split
      · exact congrArg some (ofDecl_bank_shed hcontext hkept hdonor).1
      · exact hcontext.donors_eq name
    · exact hcontext.donors_eq name
  · dsimp only
    rw [hasErrors_findings_shed hcontext hkept, h.failed_eq]
    rfl

/-- **The whole queue**, by induction. -/
theorem Sheds.foldl_expandType (h : p.Sheds kept p') (hkept : KeepsRead p.context.settings kept)
    (l : List TypeDecl) :
    (l.foldl Pass.expandType p).Sheds kept
      ((l.map (p.context.settings.shed kept)).foldl Pass.expandType p') := by
  induction l generalizing p p' with
  | nil => exact h
  | cons d l ih =>
    have hsettings : (p.expandType d).context.settings = p.context.settings := by
      rw [expandType_eq]
    have hrest := ih (h.expandType hkept d) (hsettings ▸ hkept)
    rwa [hsettings] at hrest

end Pass

/-- The first declarations of each name are the same. -/
theorem markFirst_shed (settings : Settings) (kept : TypeDecl → Directive → Bool)
    (seen : List String) (ds : List TypeDecl) :
    markFirst seen (ds.map (settings.shed kept)) =
      (markFirst seen ds).map (Prod.map (settings.shed kept) id) := by
  induction ds generalizing seen with
  | nil => rfl
  | cons d ds ih =>
    rw [List.map_cons, markFirst, markFirst, List.map_cons]
    exact congrArg _ (ih _)

namespace Pass

variable {settings : Settings} {kept : TypeDecl → Directive → Bool}

theorem failed_foldl_report (cause : String → Cause) (ds : List TypeDecl) (p : Pass) :
    (ds.foldl (report cause) p).failed = (ds.map (·.name)).reverse ++ p.failed := by
  induction ds generalizing p with
  | nil => rfl
  | cons d ds ih =>
    rw [List.foldl_cons, ih]
    simp [report]

theorem map_fst_filter_shed (settings : Settings) (kept : TypeDecl → Directive → Bool)
    (first : TypeDecl × Bool → Bool)
    (hfirst : ∀ entry, first (Prod.map (settings.shed kept) id entry) = first entry)
    (marked : List (TypeDecl × Bool)) :
    ((marked.map (Prod.map (settings.shed kept) id)).filter first).map (·.1) =
      ((marked.filter first).map (·.1)).map (settings.shed kept) := by
  have hsame : first ∘ Prod.map (settings.shed kept) id = first := funext hfirst
  rw [List.filter_map, hsame, List.map_map, List.map_map]
  rfl

theorem queue_shed {types : List TypeDecl}
    (h : Order.search (types.map (settings.shed kept)) = Order.search types) :
    queue (types.map (settings.shed kept)) = (queue types).map (settings.shed kept) := by
  rw [queue, queue, Order.sorted_shed h, List.map_append, List.filter_map, List.filter_map]
  rfl

/-- **Before any type is expanded**, the same types have failed if the same circles are closed. -/
theorem start_shed {marked : List (TypeDecl × Bool)}
    (hsearch : Order.search ((firsts marked).map (settings.shed kept)) =
      Order.search (firsts marked)) :
    (start settings marked).Sheds kept
      (start settings (marked.map (Prod.map (settings.shed kept) id))) := by
  have hfirsts := map_fst_filter_shed settings kept (·.2) (fun _ => rfl) marked
  have hrepeated := map_fst_filter_shed settings kept (!·.2) (fun _ => rfl) marked
  have hcyclic : Order.cyclic (((marked.filter (·.2)).map (·.1)).map (settings.shed kept)) =
      (Order.cyclic ((marked.filter (·.2)).map (·.1))).map (settings.shed kept) :=
    Order.cyclic_shed hsearch
  constructor
  · rw [context_start, context_start, hfirsts]
    exact ⟨rfl, rfl, rfl, by simp, fun _ => rfl⟩
  · rw [start, start, hfirsts, hrepeated, failed_foldl_report, failed_foldl_report,
      failed_foldl_report, failed_foldl_report, Settings.map_name_shed, hcyclic,
      Settings.map_name_shed]

theorem run_shed (hkept : KeepsRead settings kept) {marked : List (TypeDecl × Bool)}
    (hsearch : Order.search ((firsts marked).map (settings.shed kept)) =
      Order.search (firsts marked)) :
    (run settings marked).Sheds kept
      (run settings (marked.map (Prod.map (settings.shed kept) id))) := by
  have hfirsts := map_fst_filter_shed settings kept (·.2) (fun _ => rfl) marked
  have hsettings : (start settings marked).context.settings = settings := by rw [context_start]
  have hkept' : KeepsRead (start settings marked).context.settings kept := by rwa [hsettings]
  have hqueue := (start_shed hsearch).foldl_expandType hkept'
    (queue ((marked.filter (·.2)).map (·.1)))
  have hsame : queue (((marked.filter (·.2)).map (·.1)).map (settings.shed kept)) =
      (queue ((marked.filter (·.2)).map (·.1))).map (settings.shed kept) := queue_shed hsearch
  rw [run_eq, run_eq, hfirsts, hsame]
  rwa [hsettings] at hqueue

end Pass

open Pass

/-- **Plans stay** when a unit sheds directives that are ignored and not read, if types are
expanded in the same order. -/
theorem plans_shed {settings : Settings} {kept : TypeDecl → Directive → Bool}
    (hkept : KeepsRead settings kept) {u : SourceUnit}
    (hsearch : Order.search ((firsts (markFirst [] u.types)).map (settings.shed kept)) =
      Order.search (firsts (markFirst [] u.types))) :
    (expand settings (u.shed settings kept)).plans = (expand settings u).plans := by
  have hrun := run_shed hkept hsearch
  rw [expand, expand, SourceUnit.shed]
  dsimp only
  rw [markFirst_shed, List.map_map]
  refine List.map_congr_left fun entry _ => ?_
  have hemit : (settings.shed kept entry.1).emit = entry.1.emit := by
    rw [← TypeDecl.emit_keeping (hkept.template entry.1), Settings.keeping_shed,
      TypeDecl.emit_keeping (hkept.template entry.1)]
  dsimp only [Function.comp_apply, Prod.map]
  rw [hrun.context.finished_eq, hrun.failed_eq, hemit]
  rfl

end Expansion

/-! ### Ignored directives are inert -/

namespace Expansion

open Pass

variable {settings : Settings} {kept : TypeDecl → Directive → Bool} {u v : SourceUnit}

theorem map_name_plans (settings : Settings) (u : SourceUnit) :
    (expand settings u).plans.map (·.decl.name) = u.types.map (·.name) := by
  obtain ⟨planOf, hplans, hplanOf⟩ := exists_plans_eq settings u
  have hnames : ∀ entry ∈ markFirst [] u.types,
      ((fun plan : MemberPlan => plan.decl.name) ∘ planOf) entry =
        ((fun d : TypeDecl => d.name) ∘ Prod.fst) entry := fun entry _ => (hplanOf entry).1
  rw [hplans, List.map_map, List.map_congr_left hnames, ← List.map_map, map_fst_markFirst]

/-- Plans of distinct names are those found under their names. -/
theorem plans_eq_filterMap {e : Expansion} (h : (e.plans.map (·.decl.name)).Nodup) :
    e.plans = (e.plans.map (·.decl.name)).filterMap e.plan? := by
  have hfind : ∀ plan ∈ e.plans, (e.plan? ∘ fun plan => plan.decl.name) plan = some plan := by
    intro plan hplan
    rw [Function.comp_apply, plan?]
    cases hfind : e.plans.find? (·.decl.name == plan.decl.name) with
    | none => simpa using List.find?_eq_none.mp hfind plan hplan
    | some plan' =>
      have hname : plan'.decl.name = plan.decl.name := by simpa using List.find?_some hfind
      rw [List.inj_on_of_nodup_map h (List.mem_of_find?_eq_some hfind) hplan hname]
  rw [List.filterMap_map, List.filterMap_congr hfind, List.filterMap_some]

/-- Where references are in order, that of the declarations does not matter to plans. -/
theorem plan?_expand_of_perm (hu : u.Layered) (hperm : v.types.Perm u.types) {y : String}
    (hy : y ∈ u.types.map (·.name)) :
    (expand settings v).plan? y = (expand settings u).plan? y := by
  obtain ⟨⟨plan, hplan, hplan'⟩, -⟩ := expand_congr hu (hu.of_perm hperm)
    (fun name => ((hperm.map _).mem_iff).symm) hy (fun b _ => (hu.find?_of_perm hperm b).symm)
    settings
  rw [hplan, hplan']

/-- **Plans stay** where references are in order, whatever is shed of requests to forward. The unit
is compared with one that declares its types in the order in which they are expanded: there, the
order stays the same. -/
theorem plans_shed_of_layered (hkept : KeepsRead settings kept) (hu : u.Layered) :
    (expand settings (u.shed settings kept)).plans = (expand settings u).plans := by
  let v : SourceUnit := ⟨Order.sorted u.types⟩
  have hperm : v.types.Perm u.types := Order.sorted_perm hu.nodup_names
  have hnames : (v.types.map (·.name)).Nodup := (hu.of_perm hperm).nodup_names
  have hordered : Order.InOrder v.types :=
    Order.inOrder_sorted hu.nodup_names hu.not_transGen_depends
  have hfirsts : firsts (markFirst [] v.types) = v.types := by
    rw [markFirst_eq_of_nodup hnames (by simp)]
    exact firsts_eq v.types
  have hplans : (expand settings (v.shed settings kept)).plans = (expand settings v).plans := by
    refine plans_shed hkept ?_
    rw [hfirsts]
    exact Order.search_shed_of_inOrder hnames hordered
  have hplan? : ∀ y, (expand settings (v.shed settings kept)).plan? y =
      (expand settings v).plan? y := by
    intro y
    rw [plan?, plan?, hplans]
  have hshed : (u.shed settings kept).types.map (·.name) = u.types.map (·.name) :=
    Settings.map_name_shed u.types
  rw [plans_eq_filterMap (e := expand settings (u.shed settings kept)),
    plans_eq_filterMap (e := expand settings u), map_name_plans, map_name_plans, hshed]
  · refine List.filterMap_congr fun y hy => ?_
    rw [← plan?_expand_of_perm hu hperm hy, ← hplan?]
    exact (plan?_expand_of_perm hu.shed (hperm.map _) (hshed.symm ▸ hy)).symm
  · rw [map_name_plans]
    exact hu.nodup_names
  · rw [map_name_plans, hshed]
    exact hu.nodup_names

/-- **Ignored directives are inert**, but for those that are read all the same: in every unit, the
directives of types that are not carried out and of members that opt out can be removed, and every
plan stays as it is, with its flag. The exceptions are templates, and the tags on an interface whose
directives are carried out; and requests to forward, unless the references of the unit are in
order. -/
theorem expand_ignoresDirectives (settings : Settings) (u : SourceUnit)
    (kept : TypeDecl → Directive → Bool) (hkept : ∀ d x, settings.stillReads d x → kept d x)
    (hforward : (∀ d request, kept d (.forward request)) ∨ u.Layered) :
    (expand settings (u.shed settings kept)).plans = (expand settings u).plans := by
  rcases hforward with hforward | hlayered
  · exact plans_shed hkept (Order.search_shed hforward _)
  · exact plans_shed_of_layered hkept hlayered

/-- A class whose members opt out, one of which asks to be forwarded to a class that opts out. -/
def optedOutUnit : SourceUnit :=
  let level : Member :=
    { Member.bareField "level" {} with directives := [.accessor { modes := [.readonly] }] }
  let other : Member :=
    { Member.bareField "other" {} with
      signature := { type := some (.named "Other") }
      directives := [.forward { filters := [], span := {} }] }
  ⟨[{ name := "Host"
      kind := .classType
      members := [{ level with sugar := { optOut := true } },
        { other with sugar := { optOut := true } }] },
    { name := "Other", kind := .classType, members := [level], sugar := { optOut := true } }]⟩

theorem references_optedOutUnit {a b : String} (h : optedOutUnit.References a b) :
    a = "Host" ∧ b = "Other" := by
  obtain ⟨d, e, hd, he, r, hr, rfl⟩ := h
  have hname := TypeDecl.name_of_find? hd
  have hmem := List.mem_of_find?_eq_some hd
  simp only [optedOutUnit, List.mem_cons, List.not_mem_nil, or_false] at hmem
  obtain rfl | rfl := hmem
  · have hother : r = .named "Other" := by
      simpa [TypeDecl.supertypes, TypeDecl.delegateTypes, Member.bareField, Member.type,
        Member.forwardRequest?] using hr
    exact ⟨hname.symm, by rw [hother]; rfl⟩
  · simp [TypeDecl.supertypes, TypeDecl.delegateTypes, Member.bareField,
      Member.forwardRequest?] at hr

theorem layered_optedOutUnit : optedOutUnit.Layered where
  nodup_names := by decide
  acyclic a h := by
    obtain ⟨b, hab, -⟩ := Relation.TransGen.head'_iff.mp h
    obtain ⟨c, -, hca⟩ := Relation.TransGen.tail'_iff.mp h
    have hhost := (references_optedOutUnit hab).1
    have hother := (references_optedOutUnit hca).2
    exact absurd (hhost.symm.trans hother) (by decide)
  plain d hd := by
    simp only [optedOutUnit, List.mem_cons, List.not_mem_nil, or_false] at hd
    obtain rfl | rfl := hd <;> simp [TypeDecl.supertypes]

/-- Members that opt out, and those of a class that does, can do without their directives. -/
theorem expand_ignoresDirectives_optedOut :
    let settings : Settings := .permissive
    optedOutUnit.Layered ∧
      optedOutUnit.types.map (·.hasDirectives) = [true, true] ∧
      (optedOutUnit.shed settings settings.stillReads).types.map (·.hasDirectives) =
        [false, false] ∧
      (expand settings optedOutUnit).plans.map (·.decl.memberNames) =
        [["level", "other"], ["level"]] ∧
      (expand settings (optedOutUnit.shed settings settings.stillReads)).plans =
        (expand settings optedOutUnit).plans := by
  intro settings
  have hnames : (expand settings optedOutUnit).plans.map (·.decl.memberNames) =
      [["level", "other"], ["level"]] := by cbv
  exact ⟨layered_optedOutUnit, by decide, by decide, hnames,
    expand_ignoresDirectives settings optedOutUnit settings.stillReads (fun _ _ hx => hx)
      (.inr layered_optedOutUnit)⟩

/-- The names of members in each plan, and whether it failed. -/
def outline (e : Expansion) : List (List String × Bool) :=
  e.plans.map fun plan => (plan.decl.memberNames, plan.failed)

/-- Removing every ignored directive changes the plans of a source. -/
def Reacts (settings : Settings) (source : String) (before after : List (List String × Bool)) :
    Prop :=
  before ≠ after ∧ ∃ u, SourceUnit.ofSource source = .ok u ∧
    (expand settings u).outline = before ∧
    (expand settings (u.shed settings fun _ _ => false)).outline = after

theorem reacts_of_bind {source : String} {before after : List (List String × Bool)}
    (hne : before ≠ after)
    (h : (SourceUnit.ofSource source >>= fun u => .ok ((expand settings u).outline,
      (expand settings (u.shed settings fun _ _ => false)).outline)) = .ok (before, after)) :
    Reacts settings source before after := by
  obtain ⟨u, hu, hresult⟩ := Outcome.bind_eq_ok.mp h
  obtain ⟨hbefore, hafter⟩ := Prod.mk.inj (Except.ok.inj hresult)
  exact ⟨hne, u, hu, hbefore, hafter⟩

/-- **Ignored directives are read**: a template of a type that opts out is left out, a tag of a
member that opts out keeps it from a class, and a request to forward of such a member closes a
circle that is reported. -/
theorem expand_readsIgnored :
    Reacts .permissive "(class: A :no-sugar true (method: t [] :template true 1))"
      [([], false)] [(["t"], false)] ∧
    Reacts .permissive ("(interface: D (field: b :used-only-by [c] :no-sugar true) " ++
        "(method: c [] 1)) (class: X :implements [D] (method: c [] 2))")
      [(["b", "c"], false), (["c"], false)] [(["b", "c"], false), (["c", "b"], false)] ∧
    Reacts .permissive ("(class: A :extends B) (class: B (field: c :type C :forward true " ++
        ":no-sugar true)) (class: C :extends A)")
      [([], true), (["c"], true), ([], true)] [([], false), (["c"], false), ([], false)] := by
  refine ⟨reacts_of_bind (by decide) ?_, reacts_of_bind (by decide) ?_,
    reacts_of_bind (by decide) ?_⟩ <;> cbv

end Expansion

end DeclWeave
