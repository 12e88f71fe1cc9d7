import DeclWeave.Body.Substitution
import DeclWeave.Proofs.ScannedDeclarations
import DeclWeave.Proofs.ShieldedScopes

/-!
# Scanned Bodies

Whatever is done to a body keeps it scanned: shields are taken off and returns inserted, types are
put in the place of type parameters, and templates are filled with a delegate and arguments that
are scanned themselves.

Each proof goes by the recursion of what it is about, over a form and over its elements together.

## Main results

* `Form.isScanned_finish`: a body with returns inserted and without shields.
* `Form.isScanned_substituteTypes`: a body with type parameters replaced.
* `Template.isScanned_fill`: a template with its variables replaced.
-/

namespace DeclWeave

/-! ### Shields and returns -/

namespace Form

mutual

theorem isScanned_stripShields : ∀ {f : Form}, f.IsScanned → f.stripShields.IsScanned
  | .atom _ _, h => by
    rw [stripShields]
    exact h
  | .seq b items s, h => by
    have hitems := isScanned_stripShieldsAll (isScanned_seq.mp h)
    cases hshield : isShield (.seq b items s) with
    | false =>
      rw [stripShields_seq hshield, isScanned_seq]
      exact hitems
    | true =>
      cases b with
      | square => exact absurd hshield (by simp [isShield])
      | round =>
        obtain ⟨t, inner, rfl⟩ := exists_of_isShield hshield
        exact hitems _ (by simp [shieldHead, stripShields])

theorem isScanned_stripShieldsAll : ∀ {fs : List Form}, (∀ f ∈ fs, f.IsScanned) →
    ∀ f ∈ fs.map stripShields, f.IsScanned
  | [], _ => by simp
  | _ :: _, h => List.forall_mem_cons.mpr ⟨isScanned_stripShields (List.forall_mem_cons.mp h).1,
      isScanned_stripShieldsAll (List.forall_mem_cons.mp h).2⟩

end

/-- Whatever is returned, the call is scanned. -/
theorem isScanned_ret {f : Form} (h : f.IsScanned) (s : Span) : (ret f s).IsScanned :=
  isScanned_call (by decide) (by simpa using h)

mutual

theorem isScanned_insertReturns : ∀ {f : Form}, f.IsScanned → f.insertReturns.IsScanned
  | .atom a s, h => by
    cases a with
    | nil => exact isScanned_call (by decide) (by simp)
    | bool value => exact isScanned_ret h s
    | int n => exact isScanned_ret h s
    | float x => exact isScanned_ret h s
    | str text => exact isScanned_ret h s
    | sym name => exact isScanned_ret h s
    | keyword name => exact isScanned_ret h s
  | .seq .square items s, h => isScanned_ret h s
  | .seq .round [] s, h => isScanned_ret h s
  | .seq .round (.seq b items t :: rest) s, h => isScanned_ret h s
  | .seq .round (.atom a t :: rest) s, h => by
    obtain ⟨hhead, hrest⟩ := List.forall_mem_cons.mp (isScanned_seq.mp h)
    have hlast := isScanned_returnLast hrest
    have hbranches := isScanned_returnBranches hrest
    have hcases := isScanned_returnCases hrest
    cases a with
    | sym head =>
      rw [insertReturns]
      split_ifs
      · exact isScanned_seq.mpr (List.forall_mem_cons.mpr ⟨hhead, hlast⟩)
      · exact isScanned_seq.mpr (List.forall_mem_cons.mpr ⟨hhead, hbranches⟩)
      · exact isScanned_seq.mpr (List.forall_mem_cons.mpr ⟨hhead, hcases⟩)
      · exact h
      · exact isScanned_ret h s
    | nil => exact isScanned_ret h s
    | bool value => exact isScanned_ret h s
    | int n => exact isScanned_ret h s
    | float x => exact isScanned_ret h s
    | str text => exact isScanned_ret h s
    | keyword name => exact isScanned_ret h s

theorem isScanned_returnLast : ∀ {fs : List Form}, (∀ f ∈ fs, f.IsScanned) →
    ∀ f ∈ returnLast fs, f.IsScanned
  | [], _ => by simp [returnLast]
  | [f], h => by simpa [returnLast] using isScanned_insertReturns (h f List.mem_cons_self)
  | f :: g :: rest, h => by
    obtain ⟨hf, hrest⟩ := List.forall_mem_cons.mp h
    exact List.forall_mem_cons.mpr ⟨hf, isScanned_returnLast hrest⟩

theorem isScanned_returnBranches : ∀ {fs : List Form}, (∀ f ∈ fs, f.IsScanned) →
    ∀ f ∈ returnBranches fs, f.IsScanned
  | [], _ => by simp [returnBranches]
  | [f], h => h
  | [f, yes], h => by
    simp only [List.forall_mem_cons] at h
    simpa [returnBranches] using ⟨h.1, isScanned_insertReturns h.2.1⟩
  | f :: yes :: no :: rest, h => by
    simp only [List.forall_mem_cons] at h
    have hyes := isScanned_insertReturns h.2.1
    have hno := isScanned_insertReturns h.2.2.1
    simp only [returnBranches, List.forall_mem_cons]
    exact ⟨h.1, hyes, hno, h.2.2.2⟩

theorem isScanned_returnCases : ∀ {fs : List Form}, (∀ f ∈ fs, f.IsScanned) →
    ∀ f ∈ returnCases fs, f.IsScanned
  | [], _ => by simp [returnCases]
  | f :: fs, h => by
    obtain ⟨hf, hfs⟩ := List.forall_mem_cons.mp h
    exact List.forall_mem_cons.mpr ⟨hf, isScanned_returnEachCase hfs⟩

theorem isScanned_returnEachCase : ∀ {fs : List Form}, (∀ f ∈ fs, f.IsScanned) →
    ∀ f ∈ returnEachCase fs, f.IsScanned
  | [], _ => by simp [returnEachCase]
  | .atom _ _ :: rest, h => by
    obtain ⟨hf, hrest⟩ := List.forall_mem_cons.mp h
    exact List.forall_mem_cons.mpr ⟨hf, isScanned_returnEachCase hrest⟩
  | .seq .square _ _ :: rest, h => by
    obtain ⟨hf, hrest⟩ := List.forall_mem_cons.mp h
    exact List.forall_mem_cons.mpr ⟨hf, isScanned_returnEachCase hrest⟩
  | .seq .round items s :: rest, h => by
    obtain ⟨hf, hrest⟩ := List.forall_mem_cons.mp h
    have hitems := isScanned_returnCase (isScanned_seq.mp hf)
    exact List.forall_mem_cons.mpr ⟨isScanned_seq.mpr hitems, isScanned_returnEachCase hrest⟩

theorem isScanned_returnCase : ∀ {fs : List Form}, (∀ f ∈ fs, f.IsScanned) →
    ∀ f ∈ returnCase fs, f.IsScanned
  | [], _ => by simp [returnCase]
  | .seq _ _ _ :: rest, h => h
  | .atom a t :: rest, h => by
    obtain ⟨hhead, hrest⟩ := List.forall_mem_cons.mp h
    have hfirst := isScanned_returnAfterFirst hrest
    have hlast := isScanned_returnLast hrest
    cases a with
    | sym head =>
      rw [returnCase]
      split_ifs
      · exact List.forall_mem_cons.mpr ⟨hhead, hfirst⟩
      · exact List.forall_mem_cons.mpr ⟨hhead, hlast⟩
      · exact h
    | nil => exact h
    | bool value => exact h
    | int n => exact h
    | float x => exact h
    | str text => exact h
    | keyword name => exact h

theorem isScanned_returnAfterFirst : ∀ {fs : List Form}, (∀ f ∈ fs, f.IsScanned) →
    ∀ f ∈ returnAfterFirst fs, f.IsScanned
  | [], _ => by simp [returnAfterFirst]
  | f :: fs, h => by
    obtain ⟨hf, hfs⟩ := List.forall_mem_cons.mp h
    exact List.forall_mem_cons.mpr ⟨hf, isScanned_returnLast hfs⟩

end

/-- **A finished body** is scanned. -/
theorem isScanned_finish {f : Form} (h : f.IsScanned) (optedOut : Bool) :
    (f.finish optedOut).IsScanned := by
  rw [finish]
  split
  · exact isScanned_stripShields h
  · exact isScanned_stripShields (isScanned_insertReturns h)

end Form

/-! ### Type parameters -/

/-- Arguments that are scanned. -/
def Bindings.IsScanned (b : Bindings) : Prop :=
  ∀ entry ∈ b.entries, entry.2.IsScanned

namespace Bindings

variable {b : Bindings}

theorem IsScanned.find? (h : b.IsScanned) {name : String} {t : TypeRef}
    (ht : b.find? name = some t) : t.IsScanned := by
  obtain ⟨before, after, hentries, -⟩ := List.lookup_eq_some_iff.mp ht
  exact h (name, t) (hentries ▸ List.mem_append_right _ List.mem_cons_self)

theorem isScanned_ofParams (params : List String) {args : List TypeRef}
    (h : ∀ t ∈ args, t.IsScanned) : (ofParams params args).IsScanned := by
  intro entry hentry
  exact h _ (List.of_mem_zip (List.mem_reverse.mp hentry)).2

end Bindings

namespace TypeRef

variable {b : Bindings}

mutual

theorem isScanned_substitute (hb : b.IsScanned) : ∀ {t : TypeRef}, t.IsScanned →
    (t.substitute b).IsScanned
  | ⟨name, []⟩, h => by
    rw [substitute]
    cases hfind : b.find? name with
    | none => exact h
    | some t => exact hb.find? hfind
  | ⟨name, arg :: args⟩, h => by
    obtain ⟨hname, hargs⟩ := isScanned_mk.mp h
    obtain ⟨harg, hargs⟩ := List.forall_mem_cons.mp hargs
    rw [substitute, isScanned_mk]
    exact ⟨hname, List.forall_mem_cons.mpr
      ⟨isScanned_substitute hb harg, isScanned_substituteAll hb hargs⟩⟩

theorem isScanned_substituteAll (hb : b.IsScanned) : ∀ {ts : List TypeRef},
    (∀ t ∈ ts, t.IsScanned) → ∀ t ∈ substituteAll b ts, t.IsScanned
  | [], _ => by simp [substituteAll]
  | _ :: _, h => List.forall_mem_cons.mpr ⟨isScanned_substitute hb (List.forall_mem_cons.mp h).1,
      isScanned_substituteAll hb (List.forall_mem_cons.mp h).2⟩

end

end TypeRef

namespace Form

variable {b : Bindings}

mutual

theorem isScanned_substituteTypes (hb : b.IsScanned) : ∀ {f : Form}, f.IsScanned →
    (f.substituteTypes b).IsScanned
  | .atom a s, h => by
    cases a with
    | sym name =>
      rw [substituteTypes]
      cases hfind : b.find? name with
      | none => exact h
      | some t => exact (TypeRef.isScanned_toForm s).mpr (hb.find? hfind)
    | nil => exact h
    | bool value => exact h
    | int n => exact h
    | float x => exact h
    | str text => exact h
    | keyword name => exact h
  | .seq _ items s, h => by
    rw [substituteTypes, isScanned_seq]
    exact isScanned_substituteTypesAll hb (isScanned_seq.mp h)

theorem isScanned_substituteTypesAll (hb : b.IsScanned) : ∀ {fs : List Form},
    (∀ f ∈ fs, f.IsScanned) → ∀ f ∈ substituteTypesAll b fs, f.IsScanned
  | [], _ => by simp [substituteTypesAll]
  | _ :: _, h => List.forall_mem_cons.mpr
      ⟨isScanned_substituteTypes hb (List.forall_mem_cons.mp h).1,
        isScanned_substituteTypesAll hb (List.forall_mem_cons.mp h).2⟩

end

end Form

/-! ### Templates -/

/-- What a template is filled with is scanned. -/
structure Template.IsScanned (t : Template) : Prop where
  delegate : t.delegate.IsScanned
  args : ∀ f ∈ t.args, f.IsScanned

namespace Template

variable {t : Template}

mutual

theorem isScanned_fill (ht : t.IsScanned) : ∀ {f : Form}, f.IsScanned → (t.fill f).IsScanned
  | .atom a s, h => by
    cases a with
    | sym name =>
      rw [fill]
      split_ifs
      · trivial
      · exact ht.delegate
      · exact Form.isScanned_seq.mpr ht.args
      · exact h
    | nil => exact h
    | bool value => exact h
    | int n => exact h
    | float x => exact h
    | str text => exact h
    | keyword name => exact h
  | .seq .round items s, h => by
    rw [fill, Form.list, Form.isScanned_seq]
    exact isScanned_fillSpliced ht (Form.isScanned_seq.mp h)
  | .seq .square items s, h => by
    rw [fill, Form.vector, Form.isScanned_seq]
    exact isScanned_fillAll ht (Form.isScanned_seq.mp h)

theorem isScanned_fillAll (ht : t.IsScanned) : ∀ {fs : List Form}, (∀ f ∈ fs, f.IsScanned) →
    ∀ f ∈ t.fillAll fs, f.IsScanned
  | [], _ => by simp [fillAll]
  | _ :: _, h => List.forall_mem_cons.mpr ⟨isScanned_fill ht (List.forall_mem_cons.mp h).1,
      isScanned_fillAll ht (List.forall_mem_cons.mp h).2⟩

theorem isScanned_fillSpliced (ht : t.IsScanned) : ∀ {fs : List Form}, (∀ f ∈ fs, f.IsScanned) →
    ∀ f ∈ t.fillSpliced fs, f.IsScanned
  | [], _ => by simp [fillSpliced]
  | f :: fs, h => by
    obtain ⟨hf, hfs⟩ := List.forall_mem_cons.mp h
    have hfirst := isScanned_fill ht hf
    have hrest := isScanned_fillSpliced ht hfs
    rw [fillSpliced]
    split
    · exact List.forall_mem_append.mpr ⟨ht.args, hrest⟩
    · exact List.forall_mem_cons.mpr ⟨hfirst, hrest⟩

end

end Template

end DeclWeave
