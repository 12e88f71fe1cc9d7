import DeclWeave.Proofs.ComputedFields
import DeclWeave.Proofs.ExpansionPass

/-!
# Shields That Remain

Whether a list is a shield is decided before its elements lose their own shields. So
`((no-sugar no-sugar) x)` is none, has the shield on its head taken off, and becomes
`(no-sugar x)`. Such a disguised shield is the only thing that leaves one behind: a form without
shields has a shield exactly where the form had a disguised one, and is stripped again with no
effect exactly where it had none.

The bodies of a plan are stripped when it is emitted, so what is said of forms decides which of them
have a shield.

## Main results

* `Form.hasNode_isShield_stripShields`: where shields remain.
* `Form.stripShields_eq_self_iff`: forms that stripping leaves alone.
* `Expansion.expand_leavesShields_iff`: both, and the bodies of a class.
-/

namespace DeclWeave

namespace Form

/-- Whether a form is a list of two with the symbol of shields at its head, but behind shields. -/
def isDisguised : Form → Bool
  | .seq .round [head, _] _ => head.isShield && head.stripShields.isSymbol shieldHead
  | _ => false

variable {f : Form}

theorem isShield_iff : f.isShield = true ↔
    ∃ head inner s, f = .seq .round [head, inner] s ∧ head.isSymbol shieldHead = true := by
  constructor
  · intro h
    match f with
    | .atom _ _ | .seq .square _ _ => exact absurd h (by simp [isShield])
    | .seq .round items s =>
      obtain ⟨t, inner, rfl⟩ := exists_of_isShield h
      exact ⟨_, inner, s, rfl, isSymbol_iff.mpr ⟨t, rfl⟩⟩
  · rintro ⟨head, inner, s, rfl, hhead⟩
    obtain ⟨t, rfl⟩ := isSymbol_iff.mp hhead
    rfl

/-- What is left of a shield is what it shields. -/
theorem exists_stripShields_eq (h : f.isShield = true) :
    ∃ head inner s, f = .seq .round [head, inner] s ∧ f.stripShields = inner.stripShields := by
  obtain ⟨head, inner, s, rfl, hhead⟩ := isShield_iff.mp h
  obtain ⟨t, rfl⟩ := isSymbol_iff.mp hhead
  exact ⟨_, inner, s, rfl, by simp [shieldHead, stripShields]⟩

theorem isDisguised_iff : f.isDisguised = true ↔ ∃ head inner s, f = .seq .round [head, inner] s ∧
    head.isShield = true ∧ head.stripShields.isSymbol shieldHead = true := by
  constructor
  · intro h
    rw [isDisguised.eq_def] at h
    split at h
    · exact ⟨_, _, _, rfl, by simpa using h⟩
    · exact absurd h (by decide)
  · rintro ⟨head, inner, s, rfl, hshield, hhead⟩
    simp [isDisguised, hshield, hhead]

/-- **What becomes a shield** without being one is disguised. -/
theorem becomesShield_iff :
    f.isShield = false ∧ f.stripShields.isShield = true ↔ f.isDisguised = true := by
  rw [isDisguised_iff]
  constructor
  · rintro ⟨hshield, hstrip⟩
    cases f with
    | atom a s => exact absurd hstrip (by simp [stripShields, isShield])
    | seq b items s =>
      rw [stripShields_seq hshield, isShield_iff] at hstrip
      obtain ⟨head', inner', s', heq, hhead⟩ := hstrip
      obtain ⟨rfl, hitems, rfl⟩ := Form.seq.inj heq
      obtain ⟨head, rest, rfl, rfl, hrest⟩ := List.map_eq_cons_iff.mp hitems
      obtain ⟨inner, more, rfl, -, hnil⟩ := List.map_eq_cons_iff.mp hrest
      obtain rfl := List.map_eq_nil_iff.mp hnil
      refine ⟨head, inner, s, rfl, (isSymbol_or_isShield hhead).resolve_left fun hsymbol => ?_,
        hhead⟩
      have hplain : isShield (.seq .round [head, inner] s) = true :=
        isShield_iff.mpr ⟨head, inner, s, rfl, hsymbol⟩
      exact absurd hplain (by simp [hshield])
  · rintro ⟨head, inner, s, rfl, hshield, hhead⟩
    have hplain : isShield (.seq .round [head, inner] s) = false := by
      rw [Bool.eq_false_iff, Ne, isShield_iff]
      rintro ⟨head', inner', s', heq, hsymbol⟩
      obtain ⟨-, hitems, -⟩ := Form.seq.inj heq
      obtain ⟨rfl, -⟩ := List.cons.inj hitems
      obtain ⟨t, rfl⟩ := isSymbol_iff.mp hsymbol
      exact absurd hshield (by simp [isShield])
    refine ⟨hplain, ?_⟩
    rw [stripShields_seq hplain, isShield_iff]
    exact ⟨_, _, s, rfl, hhead⟩

/-- **Where shields remain**: where they were disguised. -/
theorem hasNode_isShield_stripShields (f : Form) :
    HasNode (·.isShield = true) f.stripShields ↔ HasNode (·.isDisguised = true) f := by
  rw [hasNode_stripShields (by simp [isShield]) f]
  simp only [becomesShield_iff]

/-! ### Forms that stripping leaves alone -/

theorem sizeOf_map_stripShields_le {fs : List Form}
    (h : ∀ f ∈ fs, sizeOf f.stripShields ≤ sizeOf f) :
    sizeOf (fs.map stripShields) ≤ sizeOf fs := by
  induction fs with
  | nil => rfl
  | cons f fs ih =>
    obtain ⟨hf, hfs⟩ := List.forall_mem_cons.mp h
    have hrest := ih hfs
    rw [List.map_cons, List.cons.sizeOf_spec, List.cons.sizeOf_spec]
    omega

mutual

/-- Nothing is added where shields are taken off. -/
theorem sizeOf_stripShields_le : ∀ f : Form, sizeOf f.stripShields ≤ sizeOf f
  | .atom a s => by rw [stripShields]
  | .seq b items s => by
    have hitems := sizeOf_stripShields_le_of_mem items
    cases hshield : isShield (.seq b items s) with
    | false =>
      have hsize := sizeOf_map_stripShields_le hitems
      rw [stripShields_seq hshield, Form.seq.sizeOf_spec, Form.seq.sizeOf_spec]
      omega
    | true =>
      obtain ⟨head, inner, s', heq, hstrip⟩ := exists_stripShields_eq hshield
      obtain ⟨rfl, rfl, rfl⟩ := Form.seq.inj heq
      have hinner := hitems inner (by simp)
      rw [hstrip, Form.seq.sizeOf_spec, List.cons.sizeOf_spec, List.cons.sizeOf_spec]
      omega

theorem sizeOf_stripShields_le_of_mem : ∀ fs : List Form,
    ∀ f ∈ fs, sizeOf f.stripShields ≤ sizeOf f
  | [] => by simp
  | f :: fs => List.forall_mem_cons.mpr
      ⟨sizeOf_stripShields_le f, sizeOf_stripShields_le_of_mem fs⟩

end

/-- A shield is lost. -/
theorem stripShields_ne_self (h : f.isShield = true) : f.stripShields ≠ f := by
  obtain ⟨head, inner, s, rfl, hstrip⟩ := exists_stripShields_eq h
  intro hself
  have hsize := sizeOf_stripShields_le inner
  rw [← hstrip, hself, Form.seq.sizeOf_spec, List.cons.sizeOf_spec, List.cons.sizeOf_spec] at hsize
  omega

mutual

/-- **Stripping leaves alone** the forms that have no shields. -/
theorem stripShields_eq_self_iff : ∀ f : Form,
    f.stripShields = f ↔ ¬HasNode (·.isShield = true) f
  | .atom a s => by simp [stripShields, isShield]
  | .seq b items s => by
    rw [hasNode_seq, not_or, ← map_stripShields_eq_self_iff items]
    cases hshield : isShield (.seq b items s) with
    | false => simp [stripShields_seq hshield]
    | true => simp [stripShields_ne_self hshield]

theorem map_stripShields_eq_self_iff : ∀ fs : List Form,
    fs.map stripShields = fs ↔ ¬∃ f ∈ fs, HasNode (·.isShield = true) f
  | [] => by simp
  | f :: fs => by
    rw [List.map_cons, List.cons.injEq, stripShields_eq_self_iff f, map_stripShields_eq_self_iff fs,
      List.exists_mem_cons_iff, not_or]

end

end Form

/-! ### Bodies of a plan -/

/-- A body in the plan of a class is one that was there before, with its shields off. -/
theorem TypeDecl.exists_body_eq_of_mem_emit {d : TypeDecl} {m : Member}
    (hclass : d.isInterface = false) (hm : m ∈ d.emit.members) {body : Form}
    (hbody : m.body = some body) :
    ∃ m' ∈ d.members, ∃ written,
      m = m'.emit false ∧ m'.body = some written ∧ body = written.stripShields := by
  obtain ⟨m', hm', rfl⟩ := List.mem_map.mp hm
  rw [hclass] at hbody ⊢
  obtain ⟨written, hwritten, rfl⟩ := Option.map_eq_some_iff.mp hbody
  exact ⟨m', (List.mem_filter.mp hm').1, written, rfl, hwritten, rfl⟩

namespace Expansion

/-- **Shields remain where they were disguised.** A form without its shields still has one exactly
if it had a disguised one, and this is when stripping it again makes a difference. The plan of a
class is the emission of its declaration or of what synthesis makes of one; a body in it has a
shield exactly if there was a disguised one in the body that is emitted. -/
theorem expand_leavesShields_iff (settings : Settings) (u : SourceUnit) :
    (∀ f : Form,
      (f.stripShields.HasNode (·.isShield = true) ↔ f.HasNode (·.isDisguised = true)) ∧
      (f.stripShields.stripShields = f.stripShields ↔ ¬f.HasNode (·.isDisguised = true))) ∧
    ∀ plan ∈ (expand settings u).plans, plan.decl.isInterface = false →
      ∃ d, (d ∈ u.types ∨ ∃ c, ∃ e ∈ u.types, d = (Synthesis.ofDecl c e).1) ∧
        plan.decl = d.emit ∧
        ∀ m ∈ plan.decl.members, ∀ body, m.body = some body →
          ∃ m' ∈ d.members, ∃ written, m = m'.emit false ∧ m'.body = some written ∧
            (body.HasNode (·.isShield = true) ↔ written.HasNode (·.isDisguised = true)) := by
  refine ⟨fun f => ⟨f.hasNode_isShield_stripShields, ?_⟩, fun plan hplan hclass => ?_⟩
  · rw [Form.stripShields_eq_self_iff, f.hasNode_isShield_stripShields]
  · obtain ⟨d, hemit, horigin⟩ := exists_eq_emit_of_mem_plans hplan
    refine ⟨d, horigin, hemit, fun m hm body hbody => ?_⟩
    rw [hemit] at hclass hm
    have hkind : d.isInterface = false := hclass
    obtain ⟨m', hm', written, heq, hwritten, rfl⟩ :=
      TypeDecl.exists_body_eq_of_mem_emit hkind hm hbody
    exact ⟨m', hm', written, heq, hwritten, written.hasNode_isShield_stripShields⟩

/-- A call whose head is shielded, with the symbol of shields behind. -/
def disguisedShield : Form :=
  .list [.list [.sym shieldHead {}, .sym shieldHead {}] {}, .sym "x" {}] {}

/-- **A shield is left behind**, in a form and in the plan of a class with that form for a body. -/
theorem expand_leavesShield :
    let settings : Settings := { requireOptIn := false }
    disguisedShield.stripShields.text = "(no-sugar x)" ∧
    disguisedShield.stripShields.HasNode (·.isShield = true) ∧
    disguisedShield.stripShields.stripShields ≠ disguisedShield.stripShields ∧
    ∃ u, SourceUnit.ofSource "(class: A (method: m [] ((no-sugar no-sugar) x)))" = .ok u ∧
      (expand settings u).isOk = true ∧
      ∃ plan ∈ (expand settings u).plans, plan.decl.isInterface = false ∧
        ∃ m ∈ plan.decl.members, ∃ body, m.body = some body ∧
          body.HasNode (·.isShield = true) := by
  intro settings
  have hleft : disguisedShield.stripShields.HasNode (·.isShield = true) := by decide
  refine ⟨by cbv, hleft, ?_, ?_⟩
  · rw [Ne, Form.stripShields_eq_self_iff, not_not]
    exact hleft
  have hexpansion : (SourceUnit.ofSource "(class: A (method: m [] ((no-sugar no-sugar) x)))" >>=
      fun u => .ok ((expand settings u).isOk, (expand settings u).plans.any fun plan =>
        !plan.decl.isInterface && plan.decl.members.any fun m =>
          m.body.any fun body => decide (body.HasNode (·.isShield = true)))) =
      .ok (true, true) := by
    cbv
  obtain ⟨u, hu, hresult⟩ := Outcome.bind_eq_ok.mp hexpansion
  simp only [Except.ok.injEq, Prod.mk.injEq, List.any_eq_true, Bool.and_eq_true,
    Bool.not_eq_true', Option.any_eq_true, decide_eq_true_eq] at hresult
  exact ⟨u, hu, hresult⟩

end Expansion

end DeclWeave
