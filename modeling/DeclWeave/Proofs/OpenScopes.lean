import DeclWeave.Proofs.ScopeStretches

/-!
# Open Scopes

What a form binds for the forms after it are the names of the `var`s that it exposes, that is, of
those that stand in no scope of its own. A `do`, the body of a `fn` or `for` and a case of a
`switch` expose nothing; the body of a `while`, the branches of an `if` and the arguments of a call
are exposed.

## Main results

* `tracks`: the names bound after a form.
* `freeNames_leavesBound_iff`: what this means for the forms that follow.
* `freeNames_leaksLocals`: a name that nothing binds, unreported.
-/

namespace DeclWeave.Form

variable {name : String} {e : Form} {fs : List Form} {t : Stretch} {ts : List Stretch}

/-! ### What is bound after a form -/

/-- What a form exposes: itself, and what the parts expose that are checked in the scope around
it. -/
inductive Exposes : Form → Form → Prop
  | refl (e : Form) : Exposes e e
  | part {e f g : Form} {t : Stretch} {path : List ℕ} :
      t ∈ e.stretches → (path, f) ∈ t.exposed → Exposes f g → Exposes e g

/-- Whether a name is bound for the forms after a form. -/
def Leaves (e : Form) (name : String) : Prop :=
  ∃ g, e.Exposes g ∧ name ∈ g.declared

/-- Whether a name is bound for what comes after a stretch. -/
def Stretch.Leaves (t : Stretch) (name : String) : Prop :=
  ∃ part ∈ t.exposed, part.2.Leaves name

theorem leaves_iff : e.Leaves name ↔ name ∈ e.declared ∨ ∃ t ∈ e.stretches, t.Leaves name := by
  constructor
  · rintro ⟨g, hexposes, hname⟩
    cases hexposes with
    | refl => exact .inl hname
    | part ht hpart hexposes => exact .inr ⟨_, ht, _, hpart, g, hexposes, hname⟩
  · rintro (hname | ⟨t, ht, part, hpart, g, hexposes, hname⟩)
    · exact ⟨e, .refl e, hname⟩
    · exact ⟨g, .part ht hpart hexposes, hname⟩

/-- After a form, just that is bound which was before or which it leaves. -/
def Tracks (e : Form) : Prop :=
  ∀ locals name, name ∈ (freeNames locals e).2 ↔ name ∈ locals ∨ e.Leaves name

theorem Tracks.all (h : ∀ f ∈ fs, f.Tracks) (locals : List String) (name : String) :
    name ∈ (freeNamesAll locals fs).2 ↔ name ∈ locals ∨ ∃ f ∈ fs, f.Leaves name := by
  induction fs generalizing locals with
  | nil => simp [freeNamesAll]
  | cons f fs ih =>
    obtain ⟨hf, hfs⟩ := List.forall_mem_cons.mp h
    rw [freeNamesAll, List.exists_mem_cons_iff, ← or_assoc, ← hf locals name]
    exact ih hfs _

theorem Tracks.check (h : ∀ part ∈ t.parts, part.2.Tracks) (locals : List String) (name : String) :
    name ∈ (t.check locals).2 ↔ name ∈ locals ∨ t.Leaves name := by
  cases t with
  | around parts =>
    have hparts : ∀ f ∈ parts.map (·.2), f.Tracks := List.forall_mem_map.mpr h
    rw [Stretch.check, Tracks.all hparts]
    simp only [List.mem_map, exists_exists_and_eq_and, Stretch.Leaves, Stretch.exposed]
  | enclosed binders parts =>
    have hleaves : ¬(Stretch.enclosed binders parts).Leaves name := by
      rintro ⟨part, hpart, -⟩
      exact absurd hpart List.not_mem_nil
    exact (or_iff_left hleaves).symm

theorem Tracks.walk (h : ∀ t ∈ ts, ∀ part ∈ t.parts, part.2.Tracks) (locals : List String)
    (name : String) : name ∈ (walk locals ts).2 ↔ name ∈ locals ∨ ∃ t ∈ ts, t.Leaves name := by
  induction ts generalizing locals with
  | nil => simp [Form.walk]
  | cons t ts ih =>
    obtain ⟨ht, hts⟩ := List.forall_mem_cons.mp h
    rw [walk_cons, List.exists_mem_cons_iff, ← or_assoc, ← Tracks.check ht locals name]
    exact ih hts _

/-- **The names bound after a form** are those bound before it and those of the `var`s that it
exposes. -/
theorem tracks (e : Form) : e.Tracks := by
  induction e using induction_parts with
  | atom a s =>
    intro locals name
    have hleaves : ¬(Form.atom a s).Leaves name := by simp [leaves_iff, stretches, declared]
    rw [or_iff_left hleaves]
    cases a <;> simp [freeNames]
  | seq b items s ih =>
    intro locals name
    rw [freeNames_seq, List.mem_append, Tracks.walk ih, leaves_iff, or_left_comm]

theorem mem_locals_freeNames_iff : name ∈ (freeNames [] e).2 ↔ e.Leaves name := by
  rw [e.tracks, or_iff_right List.not_mem_nil]

theorem mem_locals_check_iff : name ∈ (t.check []).2 ↔ t.Leaves name := by
  rw [Tracks.check fun part _ => part.2.tracks, or_iff_right List.not_mem_nil]

/-- **What a form does to the forms after it.** It leaves the locals as they were exactly if it
exposes no `var`, and a name that is free in a later form comes to be bound by it exactly if it
exposes a `var` of that name. -/
theorem freeNames_leavesBound_iff (locals : List String) (e : Form) :
    ((freeNames locals e).2 = locals ↔ ∀ g, e.Exposes g → g.declared = []) ∧
      ∀ later name, name ∈ (freeNames locals later).1 →
        (name ∉ (freeNames (freeNames locals e).2 later).1 ↔
          ∃ g, e.Exposes g ∧ name ∈ g.declared) := by
  constructor
  · have hafter : (freeNames locals e).2 = (freeNames [] e).2 ++ locals :=
      congrArg Prod.snd (e.isRelative [] locals)
    rw [hafter, List.append_left_eq_self, List.eq_nil_iff_forall_not_mem]
    simp only [mem_locals_freeNames_iff, Leaves, not_exists, not_and,
      List.eq_nil_iff_forall_not_mem]
    exact ⟨fun h g hg name => h name g hg, fun h name g hg => h g hg name⟩
  · intro later name hfree
    have hname := mem_freeNames_iff.mp hfree
    rw [mem_freeNames_iff, e.tracks]
    change _ ↔ e.Leaves name
    tauto

/-- **What a branch, the body of a loop or an argument binds** is bound after the form that it
stands in, so that a name which nothing binds is not reported behind it; the body of a `for` and a
case of a `switch` leave nothing. -/
theorem freeNames_leaksLocals :
    let binding : Form := .list [.sym "var" {}, .sym "t" {}, .atom (.int 1) {}] {}
    let behind (e : Form) : Form := .list [.sym "do" {}, e, .sym "t" {}] {}
    let branch : Form := .list [.sym "if" {}, .sym "c" {}, binding] {}
    let loop : Form := .list [.sym "while" {}, .sym "c" {}, binding] {}
    let call : Form := .list [.sym "c" {}, binding] {}
    let loopOver : Form := .list [.sym "for" {}, .sym "x" {}, .sym "c" {}, binding] {}
    let arm : Form := .list [.sym "case" {}, .atom (.int 1) {}, binding] {}
    let choice : Form := .list [.sym "switch" {}, .sym "c" {}, arm] {}
    [branch, loop, call].map (freeNames ["c"]) =
        [([], ["t", "c"]), ([], ["t", "c"]), ([], ["t", "c"])] ∧
      [branch, loop, call].map (fun e => unresolvedNames ["c"] (fun _ => false) (behind e)) =
        [[], [], []] ∧
      [loopOver, choice].map (freeNames ["c"]) = [([], ["c"]), ([], ["c"])] ∧
      [loopOver, choice].map (fun e => unresolvedNames ["c"] (fun _ => false) (behind e)) =
        [["t"], ["t"]] := by
  refine ⟨?_, ?_, ?_, ?_⟩ <;> cbv

end DeclWeave.Form
