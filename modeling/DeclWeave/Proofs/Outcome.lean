import Mathlib.Data.List.Basic

/-!
# Steps That Can Fail

Steps in `Except` are followed in two ways. Taken apart, a sequence that succeeds is one in which
each step did. Taken forwards, `Ensures` says what holds of the result of a step if it has one,
and is carried from step to step.
-/

namespace DeclWeave.Outcome

variable {ε α β : Type}

theorem bind_eq_ok {x : Except ε α} {f : α → Except ε β} {b : β} :
    x >>= f = .ok b ↔ ∃ a, x = .ok a ∧ f a = .ok b := by
  cases x with
  | error e => exact ⟨fun h => absurd h (by simp [bind, Except.bind]), by simp⟩
  | ok a => simp [bind, Except.bind]

theorem bind_eq_error {x : Except ε α} {f : α → Except ε β} {e : ε} :
    x >>= f = .error e ↔ x = .error e ∨ ∃ a, x = .ok a ∧ f a = .error e := by
  cases x with
  | error e' => simp [bind, Except.bind]
  | ok a => simp [bind, Except.bind]

/-- Each result of a list of steps is that of one of them. -/
theorem exists_of_mem_mapM {f : α → Except ε β} {as : List α} {bs : List β}
    (h : as.mapM f = .ok bs) {b : β} (hb : b ∈ bs) : ∃ a ∈ as, f a = .ok b := by
  induction as generalizing bs with
  | nil =>
    obtain rfl := Except.ok.inj h
    exact absurd hb List.not_mem_nil
  | cons a as ih =>
    rw [List.mapM_cons] at h
    obtain ⟨first, hfirst, h⟩ := bind_eq_ok.mp h
    obtain ⟨rest, hrest, h⟩ := bind_eq_ok.mp h
    obtain rfl := Except.ok.inj h
    rcases List.mem_cons.mp hb with rfl | hb
    · exact ⟨a, List.mem_cons_self, hfirst⟩
    · obtain ⟨a', ha', hb'⟩ := ih hrest hb
      exact ⟨a', List.mem_cons_of_mem _ ha', hb'⟩

/-- A list of steps gives what each step gives, for steps that undo a function. -/
theorem mapM_eq_ok_of_map_eq {γ : Type} {f : α → Except ε β} {r : α → γ} {w : β → γ}
    (hf : ∀ a b, r a = w b → f a = .ok b) {as : List α} {bs : List β} (h : as.map r = bs.map w) :
    as.mapM f = .ok bs := by
  induction bs generalizing as with
  | nil =>
    obtain rfl := List.map_eq_nil_iff.mp h
    rfl
  | cons b bs ih =>
    obtain ⟨a, as, rfl, ha, has⟩ := List.map_eq_cons_iff.mp h
    rw [List.mapM_cons, hf a b ha, ih has]
    rfl

/-- What a step gives, if it gives anything, satisfies `P`. -/
def Ensures (x : Except ε α) (P : α → Prop) : Prop :=
  ∀ a, x = .ok a → P a

variable {x : Except ε α} {P : α → Prop} {Q : β → Prop}

theorem ensures_ok {a : α} (h : P a) : Ensures (.ok a : Except ε α) P :=
  fun _ heq => Except.ok.inj heq ▸ h

theorem ensures_pure {a : α} (h : P a) : Ensures (pure a : Except ε α) P :=
  ensures_ok h

theorem ensures_error (e : ε) : Ensures (.error e : Except ε α) P :=
  fun _ heq => absurd heq (by simp)

/-- **Step after step**: the next one may use what the first ensures. -/
theorem Ensures.bind {f : α → Except ε β} (hx : Ensures x P) (hf : ∀ a, P a → Ensures (f a) Q) :
    Ensures (x >>= f) Q := by
  intro b h
  obtain ⟨a, ha, hb⟩ := bind_eq_ok.mp h
  exact hf a (hx a ha) b hb

theorem ensures_bind {f : α → Except ε β} (hf : ∀ a, Ensures (f a) Q) : Ensures (x >>= f) Q :=
  Ensures.bind (fun _ _ => trivial) fun a _ => hf a

end DeclWeave.Outcome
