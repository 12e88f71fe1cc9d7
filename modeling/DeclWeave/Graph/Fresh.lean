/-!
# Nodes Not Seen Yet

Every search through a finite graph ends because the nodes it has not seen become fewer.
-/

namespace DeclWeave.Graph

variable {α : Type} [DecidableEq α]

/-- The nodes that have not been seen. -/
def fresh (nodes seen : List α) : List α :=
  nodes.filter (· ∉ seen)

theorem mem_fresh {nodes seen : List α} {x : α} : x ∈ fresh nodes seen ↔ x ∈ nodes ∧ x ∉ seen := by
  simp [fresh]

theorem fresh_length_cons (y : α) (nodes seen : List α) :
    (fresh (y :: nodes) seen).length = (fresh nodes seen).length + if y ∈ seen then 0 else 1 := by
  by_cases h : y ∈ seen <;> simp [fresh, h]

theorem fresh_length_le {nodes seen later : List α} (h : ∀ x ∈ seen, x ∈ later) :
    (fresh nodes later).length ≤ (fresh nodes seen).length := by
  induction nodes with
  | nil => exact Nat.le_refl _
  | cons y ys ih =>
    rw [fresh_length_cons, fresh_length_cons]
    have hy := h y
    split <;> split <;> first | omega | exact absurd (hy ‹_›) ‹_›

/-- Seeing a fresh node leaves fewer. -/
theorem fresh_length_lt {nodes seen later : List α} {x : α} (h : ∀ y ∈ seen, y ∈ later)
    (hx : x ∈ fresh nodes seen) (hl : x ∈ later) :
    (fresh nodes later).length < (fresh nodes seen).length := by
  induction nodes with
  | nil => simp [fresh] at hx
  | cons y ys ih =>
    have hle : (fresh ys later).length ≤ (fresh ys seen).length := fresh_length_le h
    rw [fresh_length_cons, fresh_length_cons]
    by_cases hxy : x = y
    · subst hxy
      rw [if_pos hl, if_neg (mem_fresh.1 hx).2]
      omega
    · obtain ⟨hmem, hnot⟩ := mem_fresh.1 hx
      have hlt := ih (mem_fresh.2 ⟨(List.mem_cons.1 hmem).resolve_left hxy, hnot⟩)
      by_cases hy : y ∈ seen
      · rw [if_pos (h y hy), if_pos hy]
        exact hlt
      · rw [if_neg hy]
        split <;> omega

theorem fresh_length_lt_cons {nodes seen : List α} {x : α} (hx : x ∈ fresh nodes seen) :
    (fresh nodes (x :: seen)).length < (fresh nodes seen).length :=
  fresh_length_lt (fun _ => List.mem_cons_of_mem _) hx List.mem_cons_self

end DeclWeave.Graph
