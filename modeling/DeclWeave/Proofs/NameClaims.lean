import DeclWeave.Synthesis.Registry
import Mathlib.Data.List.Nodup

/-!
# Claims on Names

A rule that makes members claims their names one after the other, and every claim is on a name
that is still free. `NameRegistry.Claims r made r'` says that `r` has become `r'` by claims on the
names of `made`: these are then distinct, none of them was taken before, and nothing else has been
added. Claims compose, so each rule needs only its own step.
-/

namespace DeclWeave.NameRegistry

/-- `r'` is `r` after the names of `made` have been claimed in turn. -/
structure Claims (r : NameRegistry) (made : List Member) (r' : NameRegistry) : Prop where
  target_eq : r'.target = r.target
  names_eq : r'.names = (made.map (·.name)).reverse ++ r.names
  fresh : ∀ m ∈ made, m.name ∉ r.names
  nodup : (made.map (·.name)).Nodup

variable {r r' r'' : NameRegistry} {made more : List Member}

theorem contains_iff_mem {name : String} : r.contains name = true ↔ name ∈ r.names :=
  List.contains_iff_mem

theorem contains_eq_false_iff {name : String} : r.contains name = false ↔ name ∉ r.names := by
  rw [← contains_iff_mem, Bool.not_eq_true]

theorem claim?_eq_some {name : String} (h : name ∉ r.names) :
    r.claim? name = some { r with names := name :: r.names } := by
  rw [claim?, contains_eq_false_iff.mpr h]
  rfl

theorem Claims.refl (r : NameRegistry) : r.Claims [] r :=
  ⟨rfl, rfl, by simp, List.nodup_nil⟩

/-- A name is known afterwards when it was before or has been claimed. -/
theorem Claims.mem_names_iff (h : r.Claims made r') {name : String} :
    name ∈ r'.names ↔ name ∈ r.names ∨ name ∈ made.map (·.name) := by
  rw [h.names_eq, List.mem_append, List.mem_reverse, or_comm]

theorem Claims.subset (h : r.Claims made r') : r.names ⊆ r'.names :=
  fun _ hname => h.mem_names_iff.mpr (.inl hname)

theorem Claims.of_claim? {m : Member} (h : r.claim? m.name = some r') : r.Claims [m] r' := by
  have hfree : m.name ∉ r.names := fun hmem => by
    rw [claim?_eq_none_iff.mpr hmem] at h
    exact absurd h (by simp)
  rw [claim?_eq_some hfree, Option.some.injEq] at h
  subst h
  exact ⟨rfl, rfl, by simpa using hfree, List.nodup_singleton _⟩

/-- What is made on the strength of a claim may be any member of the name. -/
theorem Claims.of_names_eq (h : r.Claims made r') (hnames : more.map (·.name) = made.map (·.name)) :
    r.Claims more r' where
  target_eq := h.target_eq
  names_eq := by rw [hnames, h.names_eq]
  fresh := by
    intro m hm
    have hmem : m.name ∈ made.map (·.name) := hnames ▸ List.mem_map_of_mem hm
    obtain ⟨m', hm', hname⟩ := List.mem_map.mp hmem
    exact hname ▸ h.fresh m' hm'
  nodup := hnames ▸ h.nodup

/-- **Claims compose.** -/
theorem Claims.append (h : r.Claims made r') (h' : r'.Claims more r'') :
    r.Claims (made ++ more) r'' where
  target_eq := h'.target_eq.trans h.target_eq
  names_eq := by
    rw [h'.names_eq, h.names_eq, List.map_append, List.reverse_append, List.append_assoc]
  fresh := by
    intro m hm
    rcases List.mem_append.mp hm with hm | hm
    · exact h.fresh m hm
    · exact fun hname => h'.fresh m hm (h.subset hname)
  nodup := by
    rw [List.map_append]
    refine h.nodup.append h'.nodup fun name hmade hmore => ?_
    obtain ⟨m, hm, rfl⟩ := List.mem_map.mp hmore
    exact h'.fresh m hm (h.mem_names_iff.mpr (.inr hmade))

/-- A member that is accepted has claimed its name. -/
theorem claims_accept (r : NameRegistry) (m : Member) :
    r.Claims (r.accept m).1 (r.accept m).2 := by
  rw [accept]
  split
  · exact .of_claim? ‹_›
  · exact .refl r

end DeclWeave.NameRegistry
