import DeclWeave.Proofs.FinishedTypes
import DeclWeave.Proofs.NoClobber

/-!
# Expanding Again

Expansion is not idempotent, even where it finds no error: what a class was refused by its donors
in the first round it may receive in the second one. But it leaves what it has made as it is
exactly where all classes in it are settled, which can be read off the plans of the first round.

A class sees the donors of all interfaces, since interfaces are expanded first, and these stay as
they are. What it inherits is settled by induction on how much is expanded before it.

## Main results

* `Expansion.isFinished_toUnit`: what an expansion without errors makes is finished.
* `Expansion.map_unmarked_plans_expand_iff`: when expansion leaves a finished unit as it is.
* `Expansion.expand_again_iff`: when a second expansion changes nothing.
* `Expansion.expand_again_adds`: a unit in which it adds a member.
-/

namespace DeclWeave

/-! ### Finished units -/

namespace SourceUnit

/-- The donors that the interfaces of a unit are. -/
def donors (u : SourceUnit) (settings : Settings) : DonorRegistry :=
  ⟨(u.types.filter fun d => d.isInterface && settings.carriesOut d).map fun d =>
    (DonorBank.ofDecl settings d).1⟩

/-- Every class of a unit is settled. -/
def IsSettled (u : SourceUnit) (settings : Settings) : Prop :=
  ∀ d ∈ u.types, d.isInterface = false →
    d.IsSettled settings (u.donors settings) (Ancestry.of u.types d).names

/-- A unit as expansion makes it without an error: finished declarations, and distinct names in it
and in each of them. -/
structure IsFinished (u : SourceUnit) : Prop where
  nodup_names : (u.types.map (·.name)).Nodup
  isFinished : ∀ d ∈ u.types, d.IsFinished
  nodup_memberNames : ∀ d ∈ u.types, d.memberNames.Nodup

theorem find?_donors {u : SourceUnit} (hnames : (u.types.map (·.name)).Nodup)
    (settings : Settings) (name : String) : (u.donors settings).find? name =
      ((u.find? name).filter fun d => d.isInterface && settings.carriesOut d).map fun d =>
        (DonorBank.ofDecl settings d).1 := by
  have hname : ((fun bank : DonorBank => bank.name == name) ∘ fun d =>
      (DonorBank.ofDecl settings d).1) = fun d => d.name == name := by
    funext d
    rw [Function.comp_apply, DonorBank.name_ofDecl]
  rw [DonorRegistry.find?, donors, List.find?_map, hname, TypeDecl.find?_filter_name hnames]
  rfl

end SourceUnit

/-! ### Expanding a finished unit -/

namespace Expansion

open Pass

section Donors

variable {settings : Settings} {types : List TypeDecl} {d e : TypeDecl}

/-- The plan of a declaration at its turn. -/
def planOf (settings : Settings) (types : List TypeDecl) (d : TypeDecl) : TypeDecl :=
  (Synthesis.ofDecl (turn settings types d.name) d).1

theorem sugarEnabled_turn (settings : Settings) (types : List TypeDecl) (name : String)
    (d : TypeDecl) : (turn settings types name).sugarEnabled d = settings.carriesOut d := by
  rw [Context.sugarEnabled, settings_turn]
  rfl

/-- The plan of a declaration whose directives are carried out. -/
theorem planOf_eq_expanded (hsugar : (turn settings types d.name).sugarEnabled d = true) :
    planOf settings types d = (Synthesis.expanded (turn settings types d.name) d
      (Synthesis.preliminary (turn settings types d.name) d)).1 := by
  rw [planOf, Synthesis.ofDecl, if_pos hsugar]

/-- All interfaces are expanded before a class. -/
theorem mem_before_of_interface (hnames : (types.map (·.name)).Nodup) (hd : d ∈ types)
    (hclass : d.isInterface = false) (he : e ∈ types) (hinterface : e.isInterface = true) :
    e ∈ before types d.name := by
  have hother : ∀ e ∈ (Order.sorted types).filter (·.isInterface), e.name ≠ d.name := by
    intro e he hname
    obtain ⟨he, hinterface⟩ := List.mem_filter.mp he
    have hfind := TypeDecl.find?_name_eq_some hnames (Order.mem_of_mem_sorted he)
    rw [hname, TypeDecl.find?_name_eq_some hnames hd] at hfind
    obtain rfl := Option.some.inj hfind
    simp [hclass] at hinterface
  rw [before, queue, List.takeWhile_append_of_pos (by simpa using hother)]
  exact List.mem_append_left _
    (List.mem_filter.mpr ⟨(Order.mem_sorted hnames).mpr he, hinterface⟩)

/-- **The donors that a class can see** are the banks of all interfaces whose directives are
carried out. -/
theorem find?_donors_turn_of_class (hnames : (types.map (·.name)).Nodup) (hd : d ∈ types)
    (hclass : d.isInterface = false) (name : String) :
    (turn settings types d.name).donors.find? name =
      ((types.find? (·.name == name)).filter fun e => e.isInterface && settings.carriesOut e).map
        fun e => (DonorBank.ofDecl settings (planOf settings types e)).1 := by
  have hdonates : ∀ e : TypeDecl, donates (turn settings types e.name) e =
      (e.isInterface && settings.carriesOut e) := by
    intro e
    rw [donates, sugarEnabled_turn]
  by_cases hmem : name ∈ (before types d.name).map (·.name)
  · obtain ⟨e, he, rfl⟩ := List.mem_map.mp hmem
    rw [find?_donors_turn settings hnames hd he, hdonates,
      TypeDecl.find?_name_eq_some hnames (mem_of_mem_before he), Option.filter_some]
    split <;> rfl
  · rw [turn, find?_donors_after_of_not_mem settings hmem]
    cases hfind : types.find? (·.name == name) with
    | none => rfl
    | some e =>
      have hclass' : e.isInterface = false := by
        by_contra hinterface
        have hbefore := mem_before_of_interface hnames hd hclass (List.mem_of_find?_eq_some hfind)
          (by simpa using hinterface)
        exact hmem (List.mem_map.mpr ⟨e, hbefore, TypeDecl.name_of_find? hfind⟩)
      simp [Option.filter_some, hclass']

end Donors

section Finished

variable {settings : Settings} {u : SourceUnit} {d e : TypeDecl}

/-- The donors of a finished unit, at the turn of a class, are those that its interfaces are. -/
theorem unmarked_find?_donors_turn (h : u.IsFinished) (hd : d ∈ u.types)
    (hclass : d.isInterface = false) (name : String) :
    ((turn settings u.types d.name).donors.find? name).map DonorBank.unmarked =
      ((u.donors settings).find? name).map DonorBank.unmarked := by
  rw [find?_donors_turn_of_class h.nodup_names hd hclass, SourceUnit.find?_donors h.nodup_names,
    SourceUnit.find?, Option.map_map, Option.map_map]
  cases hfind : (u.types.find? (·.name == name)).filter fun e =>
      e.isInterface && settings.carriesOut e with
  | none => rfl
  | some e =>
    obtain ⟨hfind', hdonates⟩ := Option.filter_eq_some_iff.mp hfind
    obtain ⟨hinterface, -⟩ := Bool.and_eq_true_iff.mp hdonates
    have hfinished := h.isFinished e (List.mem_of_find?_eq_some hfind')
    exact congrArg some (DonorBank.unmarked_ofDecl_congr settings hfinished.directives_eq
      (Synthesis.unmarked_ofDecl_of_interface hfinished hinterface))

/-- What donors of a finished unit have is without tags and bodies. -/
theorem untagged_of_mem_chain (h : u.IsFinished) (hd : d ∈ u.types)
    (hclass : d.isInterface = false) {donor : Donor}
    (hdonor : donor ∈ (turn settings u.types d.name).donors.chain d.interfaces) :
    donor.bank.IsOfDecl ∧ ∀ m ∈ donor.bank.members, m.directives = [] ∧ m.body = none := by
  obtain ⟨name, hfind⟩ := DonorRegistry.exists_find?_of_mem_chainFrom hdonor
  rw [find?_donors_turn_of_class h.nodup_names hd hclass] at hfind
  obtain ⟨e, he, hbank⟩ := Option.map_eq_some_iff.mp hfind
  obtain ⟨hfind', hdonates⟩ := Option.filter_eq_some_iff.mp he
  obtain ⟨hinterface, -⟩ := Bool.and_eq_true_iff.mp hdonates
  have hmem := List.mem_of_find?_eq_some hfind'
  have hfinished := h.isFinished e hmem
  have hplan : (planOf settings u.types e).unmarked = e.unmarked :=
    Synthesis.unmarked_ofDecl_of_interface hfinished hinterface
  rw [← hbank]
  refine ⟨⟨settings, _, Synthesis.nodup_memberNames_ofDecl (h.nodup_memberNames e hmem), rfl⟩,
    fun m hm => ?_⟩
  rw [DonorBank.members_ofDecl] at hm
  obtain ⟨m', hm', hsame⟩ := TypeDecl.exists_mem_of_unmarked hplan (List.mem_filter.mp hm).1
  have hdirectives : m'.directives = m.directives := congrArg (·.directives) hsame
  have hbody : m'.body = m.body := congrArg (·.body) hsame
  exact ⟨hdirectives ▸ hfinished.directives_eq m' hm',
    hbody ▸ hfinished.body_eq hinterface m' hm'⟩

/-- Where what comes before a type is as it was, the type looks at what is in the unit. -/
theorem agreeUnmarked_scope_turn (hnames : (u.types.map (·.name)).Nodup) (hd : d ∈ u.types)
    (hbefore : ∀ e ∈ before u.types d.name,
      (planOf settings u.types e).emit.unmarked = e.unmarked) :
    (turn settings u.types d.name).scope.AgreeUnmarked u.types := by
  intro name
  by_cases hmem : name ∈ (before u.types d.name).map (·.name)
  · obtain ⟨e, he, rfl⟩ := List.mem_map.mp hmem
    have hfind : TypeScope.find? u.types e.name = some e :=
      TypeDecl.find?_name_eq_some hnames (mem_of_mem_before he)
    rw [find?_scope_turn settings hnames hd he, hfind]
    exact congrArg some (hbefore e he)
  · rw [turn, find?_scope_after_of_not_mem settings hmem]
    rfl

/-- A finished interface has a plan that is the same. -/
theorem unmarked_emit_planOf_of_interface (h : u.IsFinished) (he : e ∈ u.types)
    (hinterface : e.isInterface = true) :
    (planOf settings u.types e).emit.unmarked = e.unmarked := by
  have hfinished := h.isFinished e he
  rw [← TypeDecl.emit_unmarked, planOf,
    Synthesis.unmarked_ofDecl_of_interface hfinished hinterface, TypeDecl.emit_unmarked,
    TypeDecl.emit_of_interface hfinished hinterface]

/-- A finished class has a plan that is the same just if it is settled, where that is so of what
comes before it. -/
theorem unmarked_emit_planOf_iff (h : u.IsFinished) (hd : d ∈ u.types)
    (hclass : d.isInterface = false)
    (hbefore : ∀ e ∈ before u.types d.name,
      (planOf settings u.types e).emit.unmarked = e.unmarked) :
    (planOf settings u.types d).emit.unmarked = d.unmarked ↔
      d.IsSettled settings (u.donors settings) (Ancestry.of u.types d).names := by
  rw [planOf, Synthesis.unmarked_emit_ofDecl_iff (h.isFinished d hd) hclass
      (fun _ => untagged_of_mem_chain h hd hclass), settings_turn,
    Ancestry.names_congr (agreeUnmarked_scope_turn h.nodup_names hd hbefore) d]
  have hchain : ((turn settings u.types d.name).donors.chain d.interfaces).map Donor.unmarked =
      ((u.donors settings).chain d.interfaces).map Donor.unmarked :=
    DonorRegistry.map_unmarked_chainFrom (unmarked_find?_donors_turn h hd hclass)
  exact ⟨fun hsettled => hsettled.congr hchain, fun hsettled => hsettled.congr hchain.symm⟩

/-- **Every plan is the same** just if every class is settled. -/
theorem unmarked_emit_planOf_all_iff (h : u.IsFinished) :
    (∀ d ∈ u.types, (planOf settings u.types d).emit.unmarked = d.unmarked) ↔
      u.IsSettled settings := by
  constructor
  · intro hsame d hd hclass
    exact (unmarked_emit_planOf_iff h hd hclass fun e he => hsame e (mem_of_mem_before he)).mp
      (hsame d hd)
  · intro hsettled d hd
    -- By induction on how much is expanded before the type.
    induction hn : (before u.types d.name).length using Nat.strong_induction_on
      generalizing d with
    | _ n ih =>
      subst hn
      cases hkind : d.isInterface with
      | true => exact unmarked_emit_planOf_of_interface h hd hkind
      | false =>
        refine (unmarked_emit_planOf_iff h hd hkind fun e he => ?_).mpr (hsettled d hd hkind)
        obtain ⟨rest, heq⟩ := exists_before_eq h.nodup_names hd he
        have hlength : (before u.types e.name).length < (before u.types d.name).length := by
          rw [heq, List.length_append, List.length_cons]
          omega
        exact ih _ hlength e (mem_of_mem_before he) rfl

/-- **Expanding a finished unit** leaves it as it is just if every class is settled. -/
theorem map_unmarked_plans_expand_iff (h : u.IsFinished) :
    (expand settings u).plans.map (·.decl.unmarked) = u.types.map TypeDecl.unmarked ↔
      u.IsSettled settings := by
  rw [plans_expand settings h.nodup_names, List.map_map, List.map_inj_left]
  exact unmarked_emit_planOf_all_iff h

/-! ### Expanding twice -/

/-- What is found about a unit as a whole are errors. -/
theorem isError_of_mem_start {marked : List (TypeDecl × Bool)} {entry : Diagnostic}
    (h : entry ∈ (start settings marked).found.entries) : entry.isError = true := by
  rw [entries_start] at h
  rcases List.mem_append.mp h with hrepeated | hcyclic
  · obtain ⟨d, -, rfl⟩ := List.mem_map.mp hrepeated
    rfl
  · obtain ⟨d, -, rfl⟩ := List.mem_map.mp hcyclic
    rfl

/-- Without an error, nothing is found about the unit as a whole. -/
theorem isOfUnit_eq_false_of_isOk (hok : (expand settings u).isOk = true) :
    ∀ entry ∈ (expand settings u).diagnostics.entries, entry.fault.cause.isOfUnit = false := by
  intro entry hentry
  rw [isOk, Bool.not_eq_true', Diagnostics.hasErrors, List.any_eq_false] at hok
  have hnoError := hok entry hentry
  obtain ⟨more, hentries, hcause⟩ := exists_entries_expand_eq settings u
  rw [hentries] at hentry
  rcases List.mem_append.mp hentry with hstart | hmore
  · exact absurd (isError_of_mem_start hstart) hnoError
  · exact hcause entry hmore

/-- Without an error, names are distinct and there are no circles. -/
theorem nodup_of_isOk (hok : (expand settings u).isOk = true) :
    (u.types.map (·.name)).Nodup ∧ Order.cyclic u.types = [] := by
  refine nodup_of_not_reported settings fun entry hentry name => ?_
  have hcause := isOfUnit_eq_false_of_isOk hok entry hentry
  constructor <;> intro heq <;> simp [heq, Cause.isOfUnit] at hcause

/-- **What expansion makes without an error is finished.** -/
theorem isFinished_toUnit (hread : u.IsRead) (hok : (expand settings u).isOk = true) :
    (expand settings u).toUnit.IsFinished := by
  have hnames := (nodup_of_isOk hok).1
  refine ⟨?_, fun d hd => ?_, fun d hd => ?_⟩
  · have hsame : (expand settings u).toUnit.types.map (·.name) = u.types.map (·.name) := by
      rw [toUnit, plans_expand settings hnames, List.map_map, List.map_map]
      exact List.map_congr_left fun d _ => Synthesis.name_ofDecl _ d
    rwa [hsame]
  · rw [toUnit, plans_expand settings hnames, List.map_map] at hd
    obtain ⟨d', -, rfl⟩ := List.mem_map.mp hd
    exact TypeDecl.isFinished_emit _
  · obtain ⟨plan, hplan, rfl⟩ := List.mem_map.mp hd
    exact nodup_memberNames_of_mem_plans hread hplan

/-- **Expanding again.** What an expansion without errors makes is left as it is by a second
expansion, up to the marks of members, just if in each class that it has made every body is without
shields, and, where directives are carried out, every field has the type that its literal gives it
and all that the donors of the class have is there or inherited. -/
theorem expand_again_iff (hread : u.IsRead) (hok : (expand settings u).isOk = true) :
    (expand settings (expand settings u).toUnit).plans.map (·.decl.unmarked) =
        (expand settings u).plans.map (·.decl.unmarked) ↔
      (expand settings u).toUnit.IsSettled settings := by
  have hsame : (expand settings u).plans.map (·.decl.unmarked) =
      (expand settings u).toUnit.types.map TypeDecl.unmarked := by
    rw [toUnit, List.map_map]
    rfl
  rw [hsame]
  exact map_unmarked_plans_expand_iff (isFinished_toUnit hread hok)

end Finished

/-- An interface with a field, written with some options, and a method that a class has itself. -/
def sharingForms (options : List Form) : List Form :=
  let helper : Form :=
    .list ([.sym "field:" {}, .sym "helper" {}] ++ options ++ [.atom (.int 2) {}]) {}
  let run (result : Int) : Form :=
    .list [.sym "method:" {}, .sym "run" {}, .vector [] {}, .atom (.int result) {}] {}
  [.list [.sym "interface:" {}, .sym "Donor" {}, helper, run 1] {},
    .list [.sym "class:" {}, .sym "Host" {},
      .keyword "implements" {}, .vector [.sym "Donor" {}] {}, run 3] {}]

def sharingUnit (directives : List Directive) : SourceUnit :=
  let run (result : Int) : Member :=
    { Member.bareMethod "run" [] {} with body := some (.atom (.int result) {}) }
  ⟨[{ name := "Donor"
      kind := .interfaceType
      members :=
        [{ Member.bareField "helper" {} with body := some (.atom (.int 2) {}), directives },
          run 1] },
    { name := "Host"
      kind := .classType
      interfaces := [.named "Donor"]
      members := [run 3] }]⟩

/-- The names of members in each plan. -/
def memberNames (e : Expansion) : List (List String) :=
  e.plans.map (·.decl.memberNames)

/-- A class that has received all that its donor has, and a constructor for it, stays as it is. -/
theorem expand_again_iff_sharing :
    let e := expand { requireOptIn := false } (sharingUnit [])
    SourceUnit.ofForms (sharingForms []) = .ok (sharingUnit []) ∧ e.isOk = true ∧
      e.memberNames = [["helper", "run"], ["run", "helper", constructorName]] ∧
      (expand { requireOptIn := false } e.toUnit).plans.map (·.decl.unmarked) =
        e.plans.map (·.decl.unmarked) ∧
      e.toUnit.IsSettled { requireOptIn := false } := by
  have hread : SourceUnit.ofForms (sharingForms []) = .ok (sharingUnit []) := by cbv
  have hok : (expand { requireOptIn := false } (sharingUnit [])).isOk = true := by cbv
  have hsame : (expand { requireOptIn := false }
      (expand { requireOptIn := false } (sharingUnit [])).toUnit).plans.map (·.decl.unmarked) =
        (expand { requireOptIn := false } (sharingUnit [])).plans.map (·.decl.unmarked) := by cbv
  exact ⟨hread, hok, by cbv, hsame,
    (expand_again_iff (SourceUnit.isRead_of_ofForms hread) hok).mp hsame⟩

/-- **Expansion is not idempotent.** A field that is donated only together with a method is kept
back from a class that has the method itself, until the tag that says so is consumed. -/
theorem expand_again_adds :
    let u := sharingUnit [.usedOnlyBy ["run"]]
    let e := expand { requireOptIn := false } u
    SourceUnit.ofForms (sharingForms [.keyword "used-only-by" {}, .vector [.sym "run" {}] {}]) =
        .ok u ∧
      e.isOk = true ∧ e.memberNames = [["helper", "run"], ["run"]] ∧
      (expand { requireOptIn := false } e.toUnit).memberNames =
        [["helper", "run"], ["run", "helper"]] := by
  refine ⟨?_, ?_, ?_, ?_⟩ <;> cbv

end Expansion

end DeclWeave
