import DeclWeave.Body.TailReturn
import DeclWeave.Proofs.ShieldedScopes
import Mathlib.Data.List.Basic

/-!
# Tail Positions

A place in a form is given by a path, the list of the indices to go down by. The tail positions of
a body are the body itself and, below a tail position, the last statement of a `do`, the branches of
an `if` and the last statement of every case of a `switch`; `TailStep` says this for one level and
`Tail` for a whole body.

Insertion of returns goes into a tail position exactly by these steps, and the tail positions below
what comes out are those that were there (`tailStep_insertReturns_iff`). So its whole effect can be
said by paths: where no tail position is further below, there is a return or a form that needs none,
and every node elsewhere is the node that was there.

## Main results

* `eq_of_nodeAt?_eq`: forms with the same nodes at the same paths are equal.
* `Tail.sub?_insertReturns`: what becomes of a tail position.
* `nodeAt?_insertReturns`: what stays.
* `insertReturns_touchesTails`: both, with the ways back.
-/

namespace DeclWeave.Form

/-! ### Places in a form -/

/-- The form at a path. -/
def sub? (f : Form) : List ℕ → Option Form
  | [] => some f
  | i :: path => f.elements[i]?.bind (·.sub? path)

/-- A form without its elements, of which there is just the number. -/
inductive Node where
  | atom (value : Atom) (span : Span)
  | seq (bracket : Bracket) (size : ℕ) (span : Span)
  deriving DecidableEq

def node : Form → Node
  | .atom a s => .atom a s
  | .seq b items s => .seq b items.length s

/-- The node at a path. -/
def nodeAt? (f : Form) (path : List ℕ) : Option Node :=
  (f.sub? path).map node

variable {f g k : Form} {fs : List Form} {path step p q : List ℕ}

@[simp] theorem elements_seq (b : Bracket) (items : List Form) (s : Span) :
    (Form.seq b items s).elements = items := rfl

@[simp] theorem elements_list (items : List Form) (s : Span) :
    (Form.list items s).elements = items := rfl

@[simp] theorem sub?_nil (f : Form) : f.sub? [] = some f := rfl

@[simp] theorem sub?_cons (f : Form) (i : ℕ) (path : List ℕ) :
    f.sub? (i :: path) = f.elements[i]?.bind (·.sub? path) := rfl

theorem sub?_append (f : Form) (p q : List ℕ) : f.sub? (p ++ q) = (f.sub? p).bind (·.sub? q) := by
  induction p generalizing f with
  | nil => rfl
  | cons i p ih =>
    rw [List.cons_append, sub?_cons, sub?_cons, Option.bind_assoc]
    simp only [ih]

@[simp] theorem nodeAt?_nil (f : Form) : f.nodeAt? [] = some f.node := rfl

@[simp] theorem nodeAt?_cons (f : Form) (i : ℕ) (path : List ℕ) :
    f.nodeAt? (i :: path) = f.elements[i]?.bind (nodeAt? · path) := by
  rw [nodeAt?, sub?_cons, Option.map_bind]
  rfl

/-- The nodes below a path are those of the form there. -/
theorem nodeAt?_append (h : f.sub? p = some g) (q : List ℕ) :
    f.nodeAt? (p ++ q) = g.nodeAt? q := by
  rw [nodeAt?, sub?_append, h]
  rfl

mutual

/-- **A form is given by its nodes.** -/
theorem eq_of_nodeAt?_eq : ∀ {f g : Form}, (∀ path, f.nodeAt? path = g.nodeAt? path) → f = g
  | .atom a s, g, h => by
    have hnode := h []
    cases g with
    | atom a' s' => simpa [node] using hnode
    | seq b' items' s' => simp [node] at hnode
  | .seq b items s, g, h => by
    have hnode := h []
    cases g with
    | atom a' s' => simp [node] at hnode
    | seq b' items' s' =>
      simp only [nodeAt?_nil, node, Option.some.injEq, Node.seq.injEq] at hnode
      obtain ⟨rfl, hlength, rfl⟩ := hnode
      rw [eq_of_nodesAt?_eq hlength fun i path => by simpa [elements] using h (i :: path)]

theorem eq_of_nodesAt?_eq : ∀ {fs gs : List Form}, fs.length = gs.length →
    (∀ (i : ℕ) path, fs[i]?.bind (nodeAt? · path) = gs[i]?.bind (nodeAt? · path)) → fs = gs
  | [], gs, hlength, _ => (List.eq_nil_of_length_eq_zero hlength.symm).symm
  | f :: fs, [], hlength, _ => by simp at hlength
  | f :: fs, g :: gs, hlength, h => by
    have hf : f = g := eq_of_nodeAt?_eq fun path => by simpa using h 0 path
    have hfs : fs = gs := eq_of_nodesAt?_eq (by simpa using hlength) fun i path => by
      simpa using h (i + 1) path
    rw [hf, hfs]

end

/-! ### Tail positions -/

/-- The last statement of a case of a `switch`, with its index. A `case` has a value before its
statements. -/
inductive ArmLast : Form → ℕ → Form → Prop
  | case {h s : Span} {value last : Form} {statements : List Form} :
      statements.getLast? = some last →
      ArmLast (.list (.sym "case" h :: value :: statements) s) (statements.length + 1) last
  | default {h s : Span} {last : Form} {statements : List Form} :
      statements.getLast? = some last →
      ArmLast (.list (.sym "default" h :: statements) s) statements.length last

/-- The tail positions right below a form, each with the path to it: the last statement of a `do`,
the second and third argument of an `if`, and the last statement of every case of a `switch`. -/
inductive TailStep : Form → List ℕ → Form → Prop
  | block {h s : Span} {statements : List Form} {last : Form} :
      statements.getLast? = some last →
      TailStep (.list (.sym "do" h :: statements) s) [statements.length] last
  | branch {h s : Span} {args : List Form} {i : ℕ} {branch : Form} :
      i = 1 ∨ i = 2 → args[i]? = some branch →
      TailStep (.list (.sym "if" h :: args) s) [i + 1] branch
  | arm {h s : Span} {subject arm last : Form} {cases : List Form} {i j : ℕ} :
      cases[i]? = some arm → ArmLast arm j last →
      TailStep (.list (.sym "switch" h :: subject :: cases) s) [i + 2, j] last

/-- The tail positions of a body, each with the path to it. -/
inductive Tail : Form → List ℕ → Form → Prop
  | here (f : Form) : Tail f [] f
  | there {f g k : Form} {step path : List ℕ} :
      TailStep f step g → Tail g path k → Tail f (step ++ path) k

/-- A tail position with no further one below it. -/
def InnermostTail (f : Form) (path : List ℕ) (g : Form) : Prop :=
  Tail f path g ∧ ∀ step k, ¬TailStep g step k

/-- The heads of the forms that have tail positions below them. -/
def branchingHeads : List String := ["do", "if", "switch"]

/-- Whether a form is a statement or shielded, or has tail positions below it if it has all its
elements. Such a form needs no return of its own. -/
def needsNoReturn (f : Form) : Bool :=
  f.head?.any fun head =>
    statementHeads.contains head || head == shieldHead || branchingHeads.contains head

/-- What becomes of an innermost tail position: it is returned, or nothing is if it is `nil`, unless
it needs no return. -/
def returned : Form → Form
  | .atom .nil s => call "return" [] s
  | f => if f.needsNoReturn then f else ret f f.span

/-! ### Insertion, list by list -/

/-- A case of a `switch`, made to return. -/
def returnArm : Form → Form
  | .seq .round items s => .seq .round (returnCase items) s
  | f => f

theorem returnLast_concat (fs : List Form) (f : Form) :
    returnLast (fs ++ [f]) = fs ++ [f.insertReturns] := by
  induction fs with
  | nil => rfl
  | cons g fs ih =>
    cases fs with
    | nil => rfl
    | cons g' rest => exact congrArg (g :: ·) ih

theorem length_returnLast (fs : List Form) : (returnLast fs).length = fs.length := by
  rcases List.eq_nil_or_concat fs with rfl | ⟨init, last, rfl⟩
  · rfl
  · simp [List.concat_eq_append, returnLast_concat]

theorem getLast?_returnLast (fs : List Form) :
    (returnLast fs).getLast? = fs.getLast?.map insertReturns := by
  rcases List.eq_nil_or_concat fs with rfl | ⟨init, last, rfl⟩
  · rfl
  · simp [List.concat_eq_append, returnLast_concat]

/-- What is not last stays. -/
theorem getElem?_returnLast {i : ℕ} (h : ∀ f, fs.getLast? = some f → i + 1 ≠ fs.length) :
    (returnLast fs)[i]? = fs[i]? := by
  rcases List.eq_nil_or_concat fs with rfl | ⟨init, last, rfl⟩
  · rfl
  · rw [List.concat_eq_append] at h ⊢
    have hi : i ≠ init.length := by simpa using h last (by simp)
    rw [returnLast_concat, List.getElem?_append, List.getElem?_append]
    split
    · rfl
    · rw [List.getElem?_eq_none, List.getElem?_eq_none] <;> simp <;> omega

theorem returnBranches_eq_modify (fs : List Form) :
    returnBranches fs = (fs.modify 1 insertReturns).modify 2 insertReturns := by
  match fs with
  | [] | [_] | [_, _] | _ :: _ :: _ :: _ => rfl

theorem getElem?_returnBranches (fs : List Form) (i : ℕ) : (returnBranches fs)[i]? =
    if i = 1 ∨ i = 2 then fs[i]?.map insertReturns else fs[i]? := by
  rw [returnBranches_eq_modify, List.getElem?_modify, List.getElem?_modify]
  by_cases h1 : i = 1
  · subst h1
    simp
  · by_cases h2 : i = 2
    · subst h2
      simp
    · simp [h1, h2, Ne.symm h1, Ne.symm h2]

theorem returnEachCase_eq_map (fs : List Form) : returnEachCase fs = fs.map returnArm := by
  induction fs with
  | nil => rfl
  | cons f fs ih =>
    match f with
    | .atom _ _ | .seq .round _ _ | .seq .square _ _ => simp [returnEachCase, returnArm, ih]

theorem length_returnAfterFirst (fs : List Form) : (returnAfterFirst fs).length = fs.length := by
  cases fs with
  | nil => rfl
  | cons value statements => simp [returnAfterFirst, length_returnLast]

theorem tail_returnAfterFirst (fs : List Form) :
    (returnAfterFirst fs).tail = returnLast fs.tail := by
  cases fs <;> rfl

theorem getElem?_returnAfterFirst {i : ℕ}
    (h : ∀ f, fs.tail.getLast? = some f → i + 1 ≠ fs.length) :
    (returnAfterFirst fs)[i]? = fs[i]? := by
  match fs, i with
  | [], _ => rfl
  | value :: statements, 0 => rfl
  | value :: statements, i + 1 =>
    rw [returnAfterFirst, List.getElem?_cons_succ, List.getElem?_cons_succ]
    exact getElem?_returnLast fun f hf => by simpa using h f hf

theorem length_returnCase (fs : List Form) : (returnCase fs).length = fs.length := by
  rw [returnCase.eq_def]
  split
  · split_ifs
    · simp [length_returnAfterFirst]
    · simp [length_returnLast]
    · rfl
  · rfl

/-! ### One level of tail positions -/

section Step

variable {head : String} {h s : Span} {args : List Form} {i j : ℕ}

theorem armLast_iff : ArmLast (.list (.sym head h :: args) s) j g ↔
    head = "case" ∧ (args.tail.getLast? = some g ∧ j = args.length) ∨
      head = "default" ∧ (args.getLast? = some g ∧ j = args.length) := by
  constructor
  · intro harm
    cases harm with
    | case hlast => exact .inl ⟨rfl, hlast, rfl⟩
    | default hlast => exact .inr ⟨rfl, hlast, rfl⟩
  · rintro (⟨rfl, hlast, rfl⟩ | ⟨rfl, hlast, rfl⟩)
    · cases args with
      | nil => simp at hlast
      | cons value statements => exact .case hlast
    · exact .default hlast

theorem armLast_case_iff : ArmLast (.list (.sym "case" h :: args) s) j g ↔
    args.tail.getLast? = some g ∧ j = args.length := by
  simp [armLast_iff]

theorem armLast_default_iff : ArmLast (.list (.sym "default" h :: args) s) j g ↔
    args.getLast? = some g ∧ j = args.length := by
  simp [armLast_iff]

theorem tailStep_iff : TailStep (.list (.sym head h :: args) s) step g ↔
    head = "do" ∧ (args.getLast? = some g ∧ step = [args.length]) ∨
      head = "if" ∧ (∃ i, (i = 1 ∨ i = 2) ∧ args[i]? = some g ∧ step = [i + 1]) ∨
      head = "switch" ∧ ∃ i j arm, args[i + 1]? = some arm ∧ ArmLast arm j g ∧
        step = [i + 2, j] := by
  constructor
  · intro hstep
    cases hstep with
    | block hlast => exact .inl ⟨rfl, hlast, rfl⟩
    | branch hi hbranch => exact .inr (.inl ⟨rfl, _, hi, hbranch, rfl⟩)
    | arm harm hlast => exact .inr (.inr ⟨rfl, _, _, _, harm, hlast, rfl⟩)
  · rintro (⟨rfl, hlast, rfl⟩ | ⟨rfl, i, hi, hbranch, rfl⟩ | ⟨rfl, i, j, arm, harm, hlast, rfl⟩)
    · exact .block hlast
    · exact .branch hi hbranch
    · cases args with
      | nil => simp at harm
      | cons subject cases => exact .arm harm hlast

theorem tailStep_do_iff : TailStep (.list (.sym "do" h :: args) s) step g ↔
    args.getLast? = some g ∧ step = [args.length] := by
  simp [tailStep_iff]

theorem tailStep_if_iff : TailStep (.list (.sym "if" h :: args) s) step g ↔
    ∃ i, (i = 1 ∨ i = 2) ∧ args[i]? = some g ∧ step = [i + 1] := by
  simp [tailStep_iff]

theorem tailStep_switch_iff : TailStep (.list (.sym "switch" h :: args) s) step g ↔
    ∃ i j arm, args[i + 1]? = some arm ∧ ArmLast arm j g ∧ step = [i + 2, j] := by
  simp [tailStep_iff]

/-- Only some lists have tail positions below them. -/
theorem TailStep.head?_mem (hstep : TailStep f step g) :
    ∃ head ∈ branchingHeads, f.head? = some head := by
  cases hstep with
  | block _ => exact ⟨"do", by simp [branchingHeads], rfl⟩
  | branch _ _ => exact ⟨"if", by simp [branchingHeads], rfl⟩
  | arm _ _ => exact ⟨"switch", by simp [branchingHeads], rfl⟩

/-- The last statement of a case is one of its elements. -/
theorem ArmLast.getElem?_elements {arm : Form} (harm : ArmLast arm j g) :
    arm.elements[j]? = some g := by
  cases harm with
  | case hlast | default hlast =>
    obtain ⟨init, rfl⟩ := List.getLast?_eq_some_iff.mp hlast
    simp

/-- A step leads to the form that is there. -/
theorem TailStep.sub?_eq (hstep : TailStep f step g) : f.sub? step = some g := by
  cases hstep with
  | block hlast =>
    obtain ⟨init, rfl⟩ := List.getLast?_eq_some_iff.mp hlast
    simp
  | branch hi hbranch => simpa using hbranch
  | arm harm hlast => simp [harm, hlast.getElem?_elements]

theorem TailStep.ne_nil (hstep : TailStep f step g) : step ≠ [] := by
  cases hstep <;> simp

/-- A step below another one is this step. -/
theorem TailStep.eq_of_append_eq {step' : List ℕ} (hstep : TailStep f step g)
    (hstep' : TailStep f step' k) (heq : step ++ p = step' ++ q) :
    step = step' ∧ p = q ∧ g = k := by
  have hsame : step = step' := by
    cases hstep with
    | block _ =>
      obtain ⟨-, rfl⟩ := tailStep_do_iff.mp hstep'
      rfl
    | branch _ _ =>
      obtain ⟨_, -, -, rfl⟩ := tailStep_if_iff.mp hstep'
      simp_all
    | arm _ _ =>
      obtain ⟨_, _, _, -, -, rfl⟩ := tailStep_switch_iff.mp hstep'
      simp_all
  subst hsame
  have hform := hstep.sub?_eq.symm.trans hstep'.sub?_eq
  exact ⟨rfl, List.append_cancel_left heq, Option.some.inj hform⟩

end Step

/-! ### What insertion does at one level -/

section Insertion

variable {arm : Form} {i j : ℕ} {h s : Span} {args : List Form}

/-- What is made to return is what was there. -/
theorem map_insertReturns_iff {found : Option Form} {c : Prop} :
    found.map insertReturns = some k ∧ c ↔
      ∃ g, (found = some g ∧ c) ∧ k = g.insertReturns := by
  rw [Option.map_eq_some_iff]
  constructor
  · rintro ⟨⟨g, hfound, rfl⟩, hc⟩
    exact ⟨g, ⟨hfound, hc⟩, rfl⟩
  · rintro ⟨g, ⟨hfound, hc⟩, rfl⟩
    exact ⟨⟨g, hfound, rfl⟩, hc⟩

/-- A case or a default has insertion go on below it; anything else stays. -/
theorem arm_cases (arm : Form) :
    (∃ h args s, arm = .list (.sym "case" h :: args) s) ∨
      (∃ h args s, arm = .list (.sym "default" h :: args) s) ∨
        returnArm arm = arm ∧ ∀ j g, ¬ArmLast arm j g := by
  match arm with
  | .atom a s => exact .inr (.inr ⟨rfl, nofun⟩)
  | .seq .square items s => exact .inr (.inr ⟨rfl, nofun⟩)
  | .seq .round [] s => exact .inr (.inr ⟨rfl, nofun⟩)
  | .seq .round (.seq b items t :: rest) s => exact .inr (.inr ⟨rfl, nofun⟩)
  | .seq .round (.atom a h :: args) s =>
    cases a with
    | sym head =>
      by_cases hcase : head = "case"
      · exact .inl ⟨h, args, s, by rw [hcase]; rfl⟩
      by_cases hdefault : head = "default"
      · exact .inr (.inl ⟨h, args, s, by rw [hdefault]; rfl⟩)
      refine .inr (.inr ⟨by simp [returnArm, returnCase, Form.sym, hcase, hdefault], fun j g => ?_⟩)
      exact fun hlast => (armLast_iff.mp hlast).elim (hcase ·.1) (hdefault ·.1)
    | _ => exact .inr (.inr ⟨rfl, nofun⟩)

theorem returnArm_case : returnArm (.list (.sym "case" h :: args) s) =
    .list (.sym "case" h :: returnAfterFirst args) s := by
  simp [returnArm, returnCase, Form.list, Form.sym]

theorem returnArm_default : returnArm (.list (.sym "default" h :: args) s) =
    .list (.sym "default" h :: returnLast args) s := by
  simp [returnArm, returnCase, Form.list, Form.sym]

/-- A case has its last statement made to return. -/
theorem armLast_returnArm_iff :
    ArmLast (returnArm arm) j k ↔ ∃ g, ArmLast arm j g ∧ k = g.insertReturns := by
  rcases arm_cases arm with ⟨h, args, s, rfl⟩ | ⟨h, args, s, rfl⟩ | ⟨heq, hnone⟩
  · rw [returnArm_case]
    simpa [armLast_case_iff, length_returnAfterFirst, tail_returnAfterFirst,
      getLast?_returnLast] using map_insertReturns_iff
  · rw [returnArm_default]
    simpa [armLast_default_iff, length_returnLast, getLast?_returnLast] using map_insertReturns_iff
  · simp [heq, hnone]

/-- A case is as it was but for its last statement. -/
theorem getElem?_elements_returnArm (h : ∀ g, ¬ArmLast arm j g) :
    (returnArm arm).elements[j]? = arm.elements[j]? := by
  rcases arm_cases arm with ⟨t, args, s, rfl⟩ | ⟨t, args, s, rfl⟩ | ⟨heq, -⟩
  · rw [returnArm_case]
    cases j with
    | zero => rfl
    | succ j =>
      exact getElem?_returnAfterFirst fun g hg hj => h g (armLast_case_iff.mpr ⟨hg, hj⟩)
  · rw [returnArm_default]
    cases j with
    | zero => rfl
    | succ j =>
      exact getElem?_returnLast fun g hg hj => h g (armLast_default_iff.mpr ⟨hg, hj⟩)
  · rw [heq]

theorem node_returnArm (arm : Form) : (returnArm arm).node = arm.node := by
  match arm with
  | .atom _ _ | .seq .square _ _ => rfl
  | .seq .round items s => rw [returnArm, node, node, length_returnCase]

theorem getElem?_returnCases (fs : List Form) (i : ℕ) :
    (returnCases fs)[i]? = if i = 0 then fs[i]? else fs[i]?.map returnArm := by
  cases fs with
  | nil => simp [returnCases]
  | cons subject cases => cases i <;> simp [returnCases, returnEachCase_eq_map]

theorem insertReturns_do : (Form.list (.sym "do" h :: args) s).insertReturns =
    .list (.sym "do" h :: returnLast args) s := by
  simp [Form.list, Form.sym, insertReturns]

theorem insertReturns_if : (Form.list (.sym "if" h :: args) s).insertReturns =
    .list (.sym "if" h :: returnBranches args) s := by
  simp [Form.list, Form.sym, insertReturns]

theorem insertReturns_switch : (Form.list (.sym "switch" h :: args) s).insertReturns =
    .list (.sym "switch" h :: returnCases args) s := by
  simp [Form.list, Form.sym, insertReturns]

/-- A block, a choice or a switch has insertion go on below it; any other form is a tail. -/
theorem shape_cases (f : Form) :
    (∃ h args s, f = .list (.sym "do" h :: args) s) ∨
      (∃ h args s, f = .list (.sym "if" h :: args) s) ∨
        (∃ h args s, f = .list (.sym "switch" h :: args) s) ∨
          f.insertReturns = f.returned ∧ ∀ head ∈ branchingHeads, f.head? ≠ some head := by
  match f with
  | .atom a s => cases a <;> exact .inr (.inr (.inr ⟨rfl, by simp [head?]⟩))
  | .seq .square items s => exact .inr (.inr (.inr ⟨rfl, by simp [head?]⟩))
  | .seq .round [] s => exact .inr (.inr (.inr ⟨rfl, by simp [head?]⟩))
  | .seq .round (.seq b items t :: rest) s => exact .inr (.inr (.inr ⟨rfl, by simp [head?]⟩))
  | .seq .round (.atom a h :: args) s =>
    cases a with
    | sym head =>
      by_cases hdo : head = "do"
      · exact .inl ⟨h, args, s, by rw [hdo]; rfl⟩
      by_cases hif : head = "if"
      · exact .inr (.inl ⟨h, args, s, by rw [hif]; rfl⟩)
      by_cases hswitch : head = "switch"
      · exact .inr (.inr (.inl ⟨h, args, s, by rw [hswitch]; rfl⟩))
      refine .inr (.inr (.inr ⟨?_, by simp [branchingHeads, head?, hdo, hif, hswitch]⟩))
      simp [insertReturns, returned, needsNoReturn, branchingHeads, head?, span, Form.list,
        Form.sym, hdo, hif, hswitch, or_comm]
    | _ => exact .inr (.inr (.inr ⟨rfl, by simp [head?]⟩))

theorem length_returnCases (fs : List Form) : (returnCases fs).length = fs.length := by
  cases fs with
  | nil => rfl
  | cons subject cases => simp [returnCases, returnEachCase_eq_map]

/-- **The tail positions below** a body with returns inserted are those that were there, with
returns inserted. -/
theorem tailStep_insertReturns_iff :
    TailStep f.insertReturns step k ↔ ∃ g, TailStep f step g ∧ k = g.insertReturns := by
  rcases shape_cases f with ⟨h, args, s, rfl⟩ | ⟨h, args, s, rfl⟩ | ⟨h, args, s, rfl⟩ | ⟨heq, hhead⟩
  · rw [insertReturns_do]
    simpa [tailStep_do_iff, length_returnLast, getLast?_returnLast] using map_insertReturns_iff
  · rw [insertReturns_if]
    simp only [tailStep_if_iff, getElem?_returnBranches]
    constructor
    · rintro ⟨i, hi, hbranch, rfl⟩
      rw [if_pos hi, Option.map_eq_some_iff] at hbranch
      obtain ⟨g, hg, rfl⟩ := hbranch
      exact ⟨g, ⟨i, hi, hg, rfl⟩, rfl⟩
    · rintro ⟨g, ⟨i, hi, hg, rfl⟩, rfl⟩
      exact ⟨i, hi, by rw [if_pos hi, hg]; rfl, rfl⟩
  · rw [insertReturns_switch]
    simp only [tailStep_switch_iff, getElem?_returnCases, Nat.add_one_ne_zero, if_false]
    constructor
    · rintro ⟨i, j, arm, harm, hlast, rfl⟩
      obtain ⟨arm', harm', rfl⟩ := Option.map_eq_some_iff.mp harm
      obtain ⟨g, hg, rfl⟩ := armLast_returnArm_iff.mp hlast
      exact ⟨g, ⟨i, j, arm', harm', hg, rfl⟩, rfl⟩
    · rintro ⟨g, ⟨i, j, arm, harm, hlast, rfl⟩, rfl⟩
      exact ⟨i, j, returnArm arm, by rw [harm]; rfl, armLast_returnArm_iff.mpr ⟨g, hlast, rfl⟩, rfl⟩
  · have hreturned : ∀ head ∈ branchingHeads, f.returned.head? ≠ some head := by
      rw [returned.eq_def]
      split
      · simp [branchingHeads, call, Form.list, Form.sym, head?]
      · split
        · exact hhead
        · simp [branchingHeads, ret, call, Form.list, Form.sym, head?]
    rw [heq]
    constructor
    · intro hstep
      obtain ⟨head, hmem, hshape⟩ := hstep.head?_mem
      exact absurd hshape (hreturned head hmem)
    · rintro ⟨g, hstep, -⟩
      obtain ⟨head, hmem, hshape⟩ := hstep.head?_mem
      exact absurd hshape (hhead head hmem)

/-- **Nodes off the tail positions** right below a block, a choice or a switch stay. -/
theorem nodeAt?_insertReturns_of_head? (hhead : ∃ head ∈ branchingHeads, f.head? = some head)
    (hoff : ∀ step g, TailStep f step g → ¬step <+: path) :
    f.insertReturns.nodeAt? path = f.nodeAt? path := by
  rcases shape_cases f with ⟨h, args, s, rfl⟩ | ⟨h, args, s, rfl⟩ | ⟨h, args, s, rfl⟩ | ⟨-, hnone⟩
  · rw [insertReturns_do]
    match path with
    | [] => simp [node, Form.list, length_returnLast]
    | 0 :: path => simp
    | (i + 1) :: path =>
      have hi : (returnLast args)[i]? = args[i]? := getElem?_returnLast fun g hg hi =>
        hoff _ _ (tailStep_do_iff.mpr ⟨hg, rfl⟩) (by simp [hi])
      simp [hi]
  · rw [insertReturns_if]
    match path with
    | [] => simp [node, Form.list, returnBranches_eq_modify]
    | 0 :: path => simp
    | (i + 1) :: path =>
      rw [nodeAt?_cons, nodeAt?_cons, elements_list, elements_list, List.getElem?_cons_succ,
        List.getElem?_cons_succ, getElem?_returnBranches]
      split
      · rename_i hi
        cases hbranch : args[i]? with
        | none => rfl
        | some branch =>
          exact absurd (by simp) (hoff _ _ (tailStep_if_iff.mpr ⟨i, hi, hbranch, rfl⟩))
      · rfl
  · rw [insertReturns_switch]
    match path with
    | [] => simp [node, Form.list, length_returnCases]
    | 0 :: path => simp
    | 1 :: path => simp [getElem?_returnCases]
    | (i + 2) :: path =>
      rw [nodeAt?_cons, nodeAt?_cons, elements_list, elements_list, List.getElem?_cons_succ,
        List.getElem?_cons_succ, getElem?_returnCases, if_neg (Nat.add_one_ne_zero i)]
      cases harm : args[i + 1]? with
      | none => rfl
      | some arm =>
        match path with
        | [] => simp [node_returnArm]
        | j :: path =>
          have hj : (returnArm arm).elements[j]? = arm.elements[j]? :=
            getElem?_elements_returnArm fun g hg =>
              hoff _ _ (tailStep_switch_iff.mpr ⟨i, j, arm, harm, hg, rfl⟩) (by simp)
          simp [hj]
  · obtain ⟨head, hmem, hshape⟩ := hhead
    exact absurd hshape (hnone head hmem)

/-- **A form without tail positions below it** is made to return as a whole, unless it needs
none. -/
theorem insertReturns_eq_returned (hnone : ∀ step g, ¬TailStep f step g) :
    f.insertReturns = f.returned := by
  have hself : (∃ head ∈ branchingHeads, f.head? = some head) → f.insertReturns = f := fun hhead =>
    eq_of_nodeAt?_eq fun path =>
      nodeAt?_insertReturns_of_head? hhead fun step g hstep => absurd hstep (hnone step g)
  rcases shape_cases f with ⟨h, args, s, rfl⟩ | ⟨h, args, s, rfl⟩ | ⟨h, args, s, rfl⟩ | ⟨heq, -⟩
  · exact hself ⟨"do", by simp [branchingHeads], rfl⟩
  · exact hself ⟨"if", by simp [branchingHeads], rfl⟩
  · exact hself ⟨"switch", by simp [branchingHeads], rfl⟩
  · exact heq

end Insertion

/-! ### Whole bodies -/

theorem tail_iff : Tail f path k ↔ path = [] ∧ k = f ∨
    ∃ step g rest, TailStep f step g ∧ Tail g rest k ∧ path = step ++ rest := by
  constructor
  · intro h
    cases h with
    | here => exact .inl ⟨rfl, rfl⟩
    | there hstep htail => exact .inr ⟨_, _, _, hstep, htail, rfl⟩
  · rintro (⟨rfl, rfl⟩ | ⟨step, g, rest, hstep, htail, rfl⟩)
    · exact .here _
    · exact .there hstep htail

/-- What is in a tail position further down is in one below. -/
theorem Tail.of_append (h : Tail f p g) (h' : Tail f (p ++ q) k) : Tail g q k := by
  induction h with
  | here f => exact h'
  | there hstep _ ih =>
    rcases tail_iff.mp h' with ⟨hnil, -⟩ | ⟨step', g', rest, hstep', htail', heq⟩
    · exact absurd (List.append_eq_nil_iff.mp (List.append_eq_nil_iff.mp hnil).1).1 hstep.ne_nil
    · rw [List.append_assoc] at heq
      obtain ⟨-, rfl, rfl⟩ := hstep.eq_of_append_eq hstep' heq
      exact ih htail'

/-- A path to a tail position leads to it. -/
theorem Tail.sub?_eq (h : Tail f path g) : f.sub? path = some g := by
  induction h with
  | here f => rfl
  | there hstep _ ih => rw [sub?_append, hstep.sub?_eq, Option.bind_some, ih]

/-- A tail position is made to return where it is. -/
theorem Tail.insertReturns (h : Tail f path g) :
    Tail f.insertReturns path g.insertReturns := by
  induction h with
  | here f => exact .here _
  | there hstep _ ih => exact .there (tailStep_insertReturns_iff.mpr ⟨_, hstep, rfl⟩) ih

/-- **What becomes of a tail position.** -/
theorem Tail.sub?_insertReturns (h : Tail f path g) :
    f.insertReturns.sub? path = some g.insertReturns :=
  h.insertReturns.sub?_eq

/-- No tail positions come in by insertion. -/
theorem exists_of_tail_insertReturns (h : Tail f.insertReturns path k) :
    ∃ g, Tail f path g ∧ k = g.insertReturns := by
  generalize hf : f.insertReturns = f' at h
  induction h generalizing f with
  | here f' => exact ⟨f, .here f, hf.symm⟩
  | there hstep _ ih =>
    obtain ⟨g, hg, rfl⟩ := tailStep_insertReturns_iff.mp (hf ▸ hstep)
    obtain ⟨k, hk, rfl⟩ := ih rfl
    exact ⟨k, .there hg hk, rfl⟩

/-- **What stays**: every node that is not in an innermost tail position. -/
theorem nodeAt?_insertReturns (hoff : ∀ q g, InnermostTail f q g → ¬q <+: path) :
    f.insertReturns.nodeAt? path = f.nodeAt? path := by
  induction hlength : path.length using Nat.strongRecOn generalizing f path with
  | ind n ih =>
  by_cases hnext : ∃ step g, TailStep f step g ∧ step <+: path
  · -- The path goes through a tail position, and on from there.
    obtain ⟨step, g, hstep, rest, rfl⟩ := hnext
    rw [nodeAt?_append (tailStep_insertReturns_iff.mpr ⟨g, hstep, rfl⟩).sub?_eq,
      nodeAt?_append hstep.sub?_eq]
    have hshorter : rest.length < n := by
      have hpos := List.length_pos_iff.mpr hstep.ne_nil
      rw [← hlength, List.length_append]
      omega
    refine ih rest.length hshorter (fun q k hq hbegins => ?_) rfl
    have hinner : InnermostTail f (step ++ q) k := ⟨.there hstep hq.1, hq.2⟩
    exact hoff _ k hinner ((List.prefix_append_right_inj step).mpr hbegins)
  · push Not at hnext
    by_cases hsome : ∃ step g, TailStep f step g
    · obtain ⟨step, g, hstep⟩ := hsome
      exact nodeAt?_insertReturns_of_head? hstep.head?_mem hnext
    · push Not at hsome
      exact absurd List.nil_prefix (hoff [] f ⟨.here f, hsome⟩)

namespace InnermostTail

/-- **What becomes of an innermost tail position.** -/
theorem sub?_insertReturns (h : InnermostTail f path g) :
    f.insertReturns.sub? path = some g.returned := by
  rw [h.1.sub?_insertReturns, insertReturns_eq_returned h.2]

/-- No innermost tail position is inside another one. -/
theorem eq_of_prefix (h : InnermostTail f p g) (h' : InnermostTail f q k) (hbegins : p <+: q) :
    p = q := by
  obtain ⟨rest, rfl⟩ := hbegins
  rcases tail_iff.mp (h.1.of_append h'.1) with ⟨rfl, -⟩ | ⟨step, l, -, hstep, -⟩
  · rw [List.append_nil]
  · exact absurd hstep (h.2 step l)

end InnermostTail

/-- A body whose innermost tail positions need no return stays as it is. -/
theorem insertReturns_eq_self (h : ∀ path g, InnermostTail f path g → g.returned = g) :
    f.insertReturns = f := by
  refine eq_of_nodeAt?_eq fun path => ?_
  by_cases hin : ∃ q g, InnermostTail f q g ∧ q <+: path
  · obtain ⟨q, g, hq, rest, rfl⟩ := hin
    rw [nodeAt?_append hq.sub?_insertReturns, nodeAt?_append hq.1.sub?_eq, h q g hq]
  · push Not at hin
    exact nodeAt?_insertReturns hin

theorem returned_eq_self (h : f.needsNoReturn = true) : f.returned = f := by
  rw [returned.eq_def]
  split
  · exact absurd h (by simp [needsNoReturn, head?])
  · rw [if_pos h]

theorem needsNoReturn_returned (f : Form) : f.returned.needsNoReturn = true := by
  rw [returned.eq_def]
  split
  · rfl
  · split
    · assumption
    · rfl

/-- **A second insertion** changes nothing. -/
theorem insertReturns_insertReturns (f : Form) :
    f.insertReturns.insertReturns = f.insertReturns := by
  refine insertReturns_eq_self fun path k hk => ?_
  obtain ⟨g, hg, rfl⟩ := exists_of_tail_insertReturns hk.1
  have hnone : ∀ step h, ¬TailStep g step h := fun step h hstep =>
    hk.2 step _ (tailStep_insertReturns_iff.mpr ⟨h, hstep, rfl⟩)
  rw [insertReturns_eq_returned hnone]
  exact returned_eq_self (needsNoReturn_returned g)

/-! ### The way back -/

/-- What is returned, if anything is. -/
def unreturned : Form → Form
  | .list [.sym "return" _] s => .nil s
  | .list [.sym "return" _, f] _ => f
  | f => f

theorem unreturned_returned (h : f.needsNoReturn = false) : f.returned.unreturned = f := by
  rw [returned.eq_def]
  split
  · rfl
  · rw [if_neg (by simp [h])]
    rfl

open Classical in
mutual

/-- A form with what is returned in the place of the form that returns it, at all given paths. -/
noncomputable def eraseReturns (places : List ℕ → Prop) : Form → Form
  | .atom a s => .atom a s
  | .seq b items s =>
    if places [] then unreturned (.seq b items s)
    else .seq b (eraseReturnsAll places 0 items) s

/-- Some forms with this done, the first of them at an index. -/
noncomputable def eraseReturnsAll (places : List ℕ → Prop) (i : ℕ) : List Form → List Form
  | [] => []
  | f :: fs => eraseReturns (fun path => places (i :: path)) f :: eraseReturnsAll places (i + 1) fs

end

variable {places : List ℕ → Prop}

theorem getElem?_eraseReturnsAll (places : List ℕ → Prop) (i j : ℕ) (fs : List Form) :
    (eraseReturnsAll places i fs)[j]? =
      fs[j]?.map (eraseReturns fun path => places ((i + j) :: path)) := by
  induction fs generalizing i j with
  | nil => simp [eraseReturnsAll]
  | cons f fs ih =>
    cases j with
    | zero => simp [eraseReturnsAll]
    | succ j => simp [eraseReturnsAll, ih, Nat.add_right_comm, Nat.add_assoc]

theorem length_eraseReturnsAll (places : List ℕ → Prop) (i : ℕ) (fs : List Form) :
    (eraseReturnsAll places i fs).length = fs.length := by
  induction fs generalizing i with
  | nil => rfl
  | cons f fs ih => rw [eraseReturnsAll, List.length_cons, ih, List.length_cons]

/-- At a place on the way to no other, what is returned comes out. -/
theorem sub?_eraseReturns (hplace : places path) (hfirst : ∀ q, places q → q <+: path → q = path) :
    (f.eraseReturns places).sub? path = (f.sub? path).map unreturned := by
  induction path generalizing f places with
  | nil =>
    cases f with
    | atom a s => rfl
    | seq b items s => rw [eraseReturns, if_pos hplace]; rfl
  | cons i path ih =>
    have hroot : ¬places [] := fun hnil => absurd (hfirst [] hnil List.nil_prefix) (by simp)
    cases f with
    | atom a s => rfl
    | seq b items s =>
      rw [eraseReturns, if_neg hroot, sub?_cons, sub?_cons, elements_seq, elements_seq,
        getElem?_eraseReturnsAll, Nat.zero_add]
      cases items[i]? with
      | none => rfl
      | some g =>
        refine ih (f := g) hplace fun q hq hbegins => ?_
        simpa using hfirst (i :: q) hq (by simpa using hbegins)

/-- Off the places, all nodes stay. -/
theorem nodeAt?_eraseReturns (hoff : ∀ q, places q → ¬q <+: path) :
    (f.eraseReturns places).nodeAt? path = f.nodeAt? path := by
  have hroot : ¬places [] := fun hnil => hoff [] hnil List.nil_prefix
  induction path generalizing f places with
  | nil =>
    cases f with
    | atom a s => rfl
    | seq b items s => simp [eraseReturns, hroot, node, length_eraseReturnsAll]
  | cons i path ih =>
    cases f with
    | atom a s => rfl
    | seq b items s =>
      rw [eraseReturns, if_neg hroot, nodeAt?_cons, nodeAt?_cons, elements_seq, elements_seq,
        getElem?_eraseReturnsAll, Nat.zero_add]
      cases items[i]? with
      | none => rfl
      | some g =>
        have hoff' : ∀ q, places (i :: q) → ¬q <+: path := fun q hq hbegins =>
          hoff _ hq (by simpa using hbegins)
        exact ih (f := g) hoff' fun hnil => hoff' [] hnil List.nil_prefix

/-- Where insertion puts a return. -/
def InsertsAt (f : Form) (path : List ℕ) : Prop :=
  ∃ g, InnermostTail f path g ∧ g.needsNoReturn = false

/-- **Without the returns that were inserted**, a body is what it was. -/
theorem eraseReturns_insertReturns (f : Form) : f.insertReturns.eraseReturns f.InsertsAt = f := by
  refine eq_of_nodeAt?_eq fun path => ?_
  by_cases hin : ∃ q, f.InsertsAt q ∧ q <+: path
  · obtain ⟨q, ⟨g, hq, hneeds⟩, rest, rfl⟩ := hin
    have herased : (f.insertReturns.eraseReturns f.InsertsAt).sub? q = some g := by
      rw [sub?_eraseReturns ⟨g, hq, hneeds⟩ fun q' ⟨g', hq', _⟩ hbegins =>
        hq'.eq_of_prefix hq hbegins, hq.sub?_insertReturns, Option.map_some,
        unreturned_returned hneeds]
    rw [nodeAt?_append herased, nodeAt?_append hq.1.sub?_eq]
  · push Not at hin
    rw [nodeAt?_eraseReturns hin]
    by_cases hrests : ∃ q g, InnermostTail f q g ∧ q <+: path
    · obtain ⟨q, g, hq, rest, rfl⟩ := hrests
      have hneeds : g.returned = g := by
        refine returned_eq_self (Bool.not_eq_false _ ▸ fun hneeds => ?_)
        exact hin q ⟨g, hq, hneeds⟩ (List.prefix_append q rest)
      rw [nodeAt?_append hq.sub?_insertReturns, nodeAt?_append hq.1.sub?_eq, hneeds]
    · push Not at hrests
      exact nodeAt?_insertReturns hrests

/-- **Insertion touches exactly the tail positions.** An innermost one becomes what is said by
`returned`, with all that is below it kept; every node that is not in an innermost tail position
stays where it is. A second insertion changes nothing, and without the returns that were inserted
there is the body again. -/
theorem insertReturns_touchesTails (f : Form) :
    (∀ path g, InnermostTail f path g → f.insertReturns.sub? path = some g.returned) ∧
      (∀ path, (∀ q g, InnermostTail f q g → ¬q <+: path) →
        f.insertReturns.nodeAt? path = f.nodeAt? path) ∧
      f.insertReturns.insertReturns = f.insertReturns ∧
      f.insertReturns.eraseReturns f.InsertsAt = f :=
  ⟨fun _ _ => InnermostTail.sub?_insertReturns, fun _ => nodeAt?_insertReturns,
    insertReturns_insertReturns f, eraseReturns_insertReturns f⟩

end DeclWeave.Form
