import DeclWeave.Graph.DepthFirst
import Mathlib.Data.List.Chain
import Mathlib.Data.List.Nodup
import Mathlib.Data.List.TakeWhile

/-!
# The Order of a Depth-First Search

A depth-first search leaves every node once. When it leaves a node, whatever an edge of that node
leads to has been left before, except along a back edge; and a back edge closes a path of edges
into a circle. On a graph without circles the order in which nodes are left is therefore one in
which dependencies come first.

All statements are inductions on the search itself. A state of the search is what has been
entered, the roots still to come and the stack; a node is *left* when it has been entered and is
not on the stack. `Coherent` collects what the search keeps true of its state.

## Main results

* `nodup_leaveOrder_trace`, `mem_leaveOrder_trace`: every node of the graph is left, and only once.
* `isCircle_of_mem_backEdges`: a back edge closes a path of edges.
* `backEdges_eq_nil_iff`: a search meets back edges exactly where edges make a circle.
* `left_before_or_back`: what an edge leads to is left before its source, or the edge is a back
  edge of the search.
* `trace_of_sorted`: nodes that are in order already are left in that order.
-/

namespace DeclWeave.DepthFirst

open DeclWeave.Graph (fresh)

variable {α ε : Type} {nodes entered roots : List α} {edges : α → List (α × ε)}
  {stack : List (Frame α ε)}

/-- Some edge leads from one node to another one of the graph. -/
def Linked (nodes : List α) (edges : α → List (α × ε)) (a b : α) : Prop :=
  b ∈ nodes ∧ ∃ label, (b, label) ∈ edges a

/-- A path of edges that an edge with the given label closes: it leads from the last node of the
path back to the first. -/
def IsCircle (nodes : List α) (edges : α → List (α × ε)) (path : List α) (label : ε) : Prop :=
  path.IsChain (Linked nodes edges) ∧
    ∃ first last, path.head? = some first ∧ path.getLast? = some last ∧
      first ∈ nodes ∧ (first, label) ∈ edges last

/-- The nodes that are entered and not left. -/
def active (stack : List (Frame α ε)) : List α :=
  stack.map Prod.fst

/-- A node that is left: entered and no longer active. -/
def IsLeft (entered : List α) (stack : List (Frame α ε)) (x : α) : Prop :=
  x ∈ entered ∧ x ∉ active stack

/-- What a search keeps true: only nodes of the graph are entered, the active ones are distinct
entered ones, what a frame still has to follow are edges of its node, and each active node is
reached by an edge from the one below it. -/
structure Coherent (nodes : List α) (edges : α → List (α × ε)) (entered : List α)
    (stack : List (Frame α ε)) : Prop where
  entered_subset : entered ⊆ nodes
  active_subset : active stack ⊆ entered
  nodup_active : (active stack).Nodup
  edges_subset : ∀ frame ∈ stack, frame.2 ⊆ edges frame.1
  linked : (active stack).IsChain fun a b => Linked nodes edges b a

/-! ### Reading a trace -/

@[simp] theorem leaveOrder_nil : leaveOrder ([] : List (Event α ε)) = [] := rfl

@[simp] theorem leaveOrder_leave (x : α) (events : List (Event α ε)) :
    leaveOrder (.leave x :: events) = x :: leaveOrder events := rfl

@[simp] theorem leaveOrder_back (path : List α) (label : ε) (events : List (Event α ε)) :
    leaveOrder (.back path label :: events) = leaveOrder events := rfl

@[simp] theorem backEdges_nil : backEdges ([] : List (Event α ε)) = [] := rfl

@[simp] theorem backEdges_leave (x : α) (events : List (Event α ε)) :
    backEdges (.leave x :: events) = backEdges events := rfl

@[simp] theorem backEdges_back (path : List α) (label : ε) (events : List (Event α ε)) :
    backEdges (.back path label :: events) = (path, label) :: backEdges events := rfl

@[simp] theorem active_nil : active ([] : List (Frame α ε)) = [] := rfl

@[simp] theorem active_cons (frame : Frame α ε) (stack : List (Frame α ε)) :
    active (frame :: stack) = frame.1 :: active stack := rfl

/-! ### What a step keeps true -/

namespace Coherent

variable {node next : α} {label : ε} {rest : List (α × ε)}

theorem start (nodes : List α) (edges : α → List (α × ε)) : Coherent nodes edges [] [] :=
  ⟨by simp, by simp, by simp, by simp, .nil⟩

theorem enter [DecidableEq α] (h : Coherent nodes edges entered []) {root : α}
    (hroot : root ∈ fresh nodes entered) :
    Coherent nodes edges (root :: entered) [(root, edges root)] where
  entered_subset := List.cons_subset.mpr ⟨(Graph.mem_fresh.mp hroot).1, h.entered_subset⟩
  active_subset := by simp
  nodup_active := by simp
  edges_subset := by simp
  linked := by simp

theorem leave (h : Coherent nodes edges entered ((node, []) :: stack)) :
    Coherent nodes edges entered stack where
  entered_subset := h.entered_subset
  active_subset := fun _ hx => h.active_subset (List.mem_cons_of_mem _ hx)
  nodup_active := (List.nodup_cons.mp h.nodup_active).2
  edges_subset := fun frame hframe => h.edges_subset frame (List.mem_cons_of_mem _ hframe)
  linked := h.linked.tail

/-- An edge is dealt with where it leads to no new node. -/
theorem skip (h : Coherent nodes edges entered ((node, (next, label) :: rest) :: stack)) :
    Coherent nodes edges entered ((node, rest) :: stack) where
  entered_subset := h.entered_subset
  active_subset := h.active_subset
  nodup_active := h.nodup_active
  edges_subset := by
    intro frame hframe
    rcases List.mem_cons.mp hframe with rfl | hframe
    · exact (List.cons_subset.mp (h.edges_subset _ List.mem_cons_self)).2
    · exact h.edges_subset frame (List.mem_cons_of_mem _ hframe)
  linked := h.linked

theorem edge_mem (h : Coherent nodes edges entered ((node, (next, label) :: rest) :: stack)) :
    (next, label) ∈ edges node :=
  (List.cons_subset.mp (h.edges_subset _ List.mem_cons_self)).1

theorem follow [DecidableEq α]
    (h : Coherent nodes edges entered ((node, (next, label) :: rest) :: stack))
    (hnext : next ∈ fresh nodes entered) :
    Coherent nodes edges (next :: entered) ((next, edges next) :: (node, rest) :: stack) where
  entered_subset := List.cons_subset.mpr ⟨(Graph.mem_fresh.mp hnext).1, h.entered_subset⟩
  active_subset := List.cons_subset_cons _ h.active_subset
  nodup_active :=
    List.nodup_cons.mpr
      ⟨fun hmem => (Graph.mem_fresh.mp hnext).2 (h.active_subset hmem), h.nodup_active⟩
  edges_subset := by
    intro frame hframe
    rcases List.mem_cons.mp hframe with rfl | hframe
    · exact List.Subset.refl _
    · exact h.skip.edges_subset frame hframe
  linked :=
    List.isChain_cons_cons.mpr ⟨⟨(Graph.mem_fresh.mp hnext).1, label, h.edge_mem⟩, h.linked⟩

end Coherent

theorem isLeft_of_follow {node next x : α} {es rest : List (α × ε)}
    (h : IsLeft (next :: entered) ((next, es) :: (node, rest) :: stack) x)
    (other : List (α × ε)) : IsLeft entered ((node, other) :: stack) x := by
  obtain ⟨hmem, hnot⟩ := h
  simp only [active_cons, List.mem_cons, not_or] at hmem hnot
  exact ⟨hmem.resolve_left hnot.1, by simpa using hnot.2⟩

theorem isLeft_of_leave {x : α} (node : α) (h : IsLeft entered stack x) :
    x = node ∨ IsLeft entered ((node, []) :: stack) x := by
  obtain ⟨hmem, hnot⟩ := h
  by_cases hnode : x = node
  · exact .inl hnode
  · exact .inr ⟨hmem, by simpa using ⟨hnode, hnot⟩⟩

theorem isLeft_of_enter {root x : α} {es : List (α × ε)}
    (h : IsLeft (root :: entered) [(root, es)] x) : IsLeft entered ([] : List (Frame α ε)) x := by
  obtain ⟨hmem, hnot⟩ := h
  simp only [active_cons, active_nil, List.mem_singleton] at hnot
  exact ⟨(List.mem_cons.mp hmem).resolve_left hnot, List.not_mem_nil⟩

/-- In a list without repetition, what stands before an element in a sublist stands before it. -/
theorem mem_left_of_sublist {x y : α} {l₁ l₂ : List α} (hnodup : (l₁ ++ x :: l₂).Nodup)
    (hsub : [y, x].Sublist (l₁ ++ x :: l₂)) : y ∈ l₁ := by
  induction l₁ with
  | nil =>
    -- Both ways of taking `[y, x]` from `x :: l₂` find `x` in `l₂`.
    have hx : x ∈ l₂ := by
      cases hsub with
      | cons _ hsub => exact hsub.subset (by simp)
      | cons_cons _ hsub => exact hsub.subset (by simp)
    exact absurd hx (List.nodup_cons.mp hnodup).1
  | cons z l₁ ih =>
    cases hsub with
    | cons _ hsub => exact List.mem_cons_of_mem _ (ih (List.nodup_cons.mp hnodup).2 hsub)
    | cons_cons _ hsub => exact List.mem_cons_self

/-- From each node of a circle, edges lead to the last one, and on from where that one leads. -/
theorem IsCircle.exists_closing {path : List α} {label : ε} (h : IsCircle nodes edges path label)
    {x : α} (hx : x ∈ path) : ∃ first last, first ∈ nodes ∧ (first, label) ∈ edges last ∧
      Relation.ReflTransGen (Linked nodes edges) x last ∧
      Relation.ReflTransGen (Linked nodes edges) first x := by
  obtain ⟨hchain, first, last, hfirst, hlast, hmem, hedge⟩ := h
  obtain ⟨above, below, rfl⟩ := List.append_of_mem hx
  have habove := (List.isChain_split.mp hchain).1
  have hbelow := (List.isChain_split.mp hchain).2
  refine ⟨first, last, hmem, hedge, ?_, ?_⟩
  · refine List.relationReflTransGen_of_exists_isChain_cons below hbelow ?_
    simpa [List.getLast?_append, List.getLast?_eq_some_getLast] using hlast
  · cases above with
    | nil => exact (by simpa using hfirst : x = first) ▸ .refl
    | cons y above =>
      obtain rfl : y = first := by simpa using hfirst
      exact List.relationReflTransGen_of_exists_isChain_cons (above ++ [x]) habove (by simp)

/-- From each node of a circle, edges lead back to it. -/
theorem IsCircle.transGen_self {path : List α} {label : ε} (h : IsCircle nodes edges path label)
    {x : α} (hx : x ∈ path) : Relation.TransGen (Linked nodes edges) x x := by
  obtain ⟨first, last, hmem, hedge, hto, hfrom⟩ := h.exists_closing hx
  exact (Relation.TransGen.tail' hto ⟨hmem, label, hedge⟩).trans_left hfrom

/-- Where no node has two edges, those from a circle do not leave it. -/
theorem IsCircle.mem_of_linked {path : List α} {label : ε} (h : IsCircle nodes edges path label)
    (hunique : ∀ {a b c}, Linked nodes edges a b → Linked nodes edges a c → b = c) {x y : α}
    (hx : x ∈ path) (hxy : Linked nodes edges x y) : y ∈ path := by
  obtain ⟨hchain, first, last, hfirst, hlast, hmem, hedge⟩ := h
  obtain ⟨above, below, rfl⟩ := List.append_of_mem hx
  cases below with
  | nil =>
    obtain rfl : x = last := by simpa using hlast
    rw [hunique hxy ⟨hmem, label, hedge⟩]
    exact List.mem_of_mem_head? hfirst
  | cons z below =>
    have hxz : Linked nodes edges x z :=
      (List.isChain_cons_cons.mp (List.isChain_split.mp hchain).2).1
    rw [hunique hxy hxz]
    simp

/-! ### Every node once -/

variable [DecidableEq α]

/-- The active nodes are left in the order of the stack. -/
theorem active_sublist (nodes : List α) (edges : α → List (α × ε)) (entered roots : List α)
    (stack : List (Frame α ε)) :
    (active stack).Sublist (leaveOrder (traceFrom nodes edges entered roots stack)) := by
  fun_induction traceFrom nodes edges entered roots stack with
  | case1 => exact List.nil_sublist _
  | case2 => exact List.nil_sublist _
  | case3 => exact List.nil_sublist _
  | case4 entered roots node stack ih => exact ih.cons_cons node
  | case5 entered roots node next label rest stack hnext ih =>
    exact (List.sublist_cons_self next _).trans ih
  | case6 entered roots node next label rest stack hnext hback ih => exact ih
  | case7 entered roots node next label rest stack hnext hback ih => exact ih

/-- What is still to be left is a node of the graph that is not left yet. -/
theorem mem_of_mem_leaveOrder (h : Coherent nodes edges entered stack) {x : α}
    (hx : x ∈ leaveOrder (traceFrom nodes edges entered roots stack)) :
    x ∈ nodes ∧ ¬IsLeft entered stack x := by
  fun_induction traceFrom nodes edges entered roots stack with
  | case1 => exact absurd hx List.not_mem_nil
  | case2 entered root roots hroot ih =>
    obtain ⟨hmem, hleft⟩ := ih (h.enter hroot) hx
    refine ⟨hmem, fun hold => hleft ⟨List.mem_cons_of_mem _ hold.1, ?_⟩⟩
    have hne : x ≠ root := fun heq => (Graph.mem_fresh.mp hroot).2 (heq ▸ hold.1)
    simpa using hne
  | case3 entered root roots hroot ih => exact ih h hx
  | case4 entered roots node stack ih =>
    rcases List.mem_cons.mp hx with rfl | hx
    · have hactive : x ∈ active ((x, ([] : List (α × ε))) :: stack) := by simp
      exact ⟨h.entered_subset (h.active_subset hactive), fun hold => hold.2 hactive⟩
    · obtain ⟨hmem, hleft⟩ := ih h.leave hx
      exact ⟨hmem, fun hold => hleft ⟨hold.1, fun hstack =>
        hold.2 (List.mem_cons_of_mem _ hstack)⟩⟩
  | case5 entered roots node next label rest stack hnext ih =>
    obtain ⟨hmem, hleft⟩ := ih (h.follow hnext) hx
    refine ⟨hmem, fun hold => hleft ⟨List.mem_cons_of_mem _ hold.1, fun hstack => ?_⟩⟩
    rcases List.mem_cons.mp hstack with rfl | hstack
    · exact (Graph.mem_fresh.mp hnext).2 hold.1
    · exact hold.2 hstack
  | case6 entered roots node next label rest stack hnext hback ih => exact ih h.skip hx
  | case7 entered roots node next label rest stack hnext hback ih => exact ih h.skip hx

/-- A node that is left is not left again. -/
theorem Coherent.not_mem_leaveOrder {node : α} (roots : List α)
    (h : Coherent nodes edges entered ((node, []) :: stack)) :
    node ∉ leaveOrder (traceFrom nodes edges entered roots stack) := by
  intro hmem
  refine (mem_of_mem_leaveOrder h.leave hmem).2 ⟨h.active_subset (by simp), ?_⟩
  exact (List.nodup_cons.mp h.nodup_active).1

theorem nodup_leaveOrder (roots : List α) (h : Coherent nodes edges entered stack) :
    (leaveOrder (traceFrom nodes edges entered roots stack)).Nodup := by
  fun_induction traceFrom nodes edges entered roots stack with
  | case1 => exact List.nodup_nil
  | case2 entered root roots hroot ih => exact ih (h.enter hroot)
  | case3 entered root roots hroot ih => exact ih h
  | case4 entered roots node stack ih =>
    exact List.nodup_cons.mpr ⟨h.not_mem_leaveOrder roots, ih h.leave⟩
  | case5 entered roots node next label rest stack hnext ih => exact ih (h.follow hnext)
  | case6 entered roots node next label rest stack hnext hback ih => exact ih h.skip
  | case7 entered roots node next label rest stack hnext hback ih => exact ih h.skip

/-- A root that is not left yet will be. -/
theorem mem_leaveOrder_of_mem_roots {x : α} (hx : x ∈ nodes) (hroots : x ∈ roots)
    (hleft : ¬IsLeft entered stack x) :
    x ∈ leaveOrder (traceFrom nodes edges entered roots stack) := by
  fun_induction traceFrom nodes edges entered roots stack with
  | case1 => exact absurd hroots List.not_mem_nil
  | case2 entered root roots hroot ih =>
    rcases List.mem_cons.mp hroots with rfl | hroots
    · exact (active_sublist nodes edges _ roots _).subset (by simp)
    · exact ih hroots fun hold => hleft (isLeft_of_enter hold)
  | case3 entered root roots hroot ih =>
    rcases List.mem_cons.mp hroots with rfl | hroots
    · refine absurd ⟨?_, List.not_mem_nil⟩ hleft
      by_contra hnew
      exact hroot (Graph.mem_fresh.mpr ⟨hx, hnew⟩)
    · exact ih hroots hleft
  | case4 entered roots node stack ih =>
    by_cases hnode : x = node
    · exact List.mem_cons.mpr (.inl hnode)
    · exact List.mem_cons_of_mem _ (ih hroots fun hold =>
        hleft ((isLeft_of_leave node hold).resolve_left hnode))
  | case5 entered roots node next label rest stack hnext ih =>
    exact ih hroots fun hold => hleft (isLeft_of_follow hold _)
  | case6 entered roots node next label rest stack hnext hback ih => exact ih hroots hleft
  | case7 entered roots node next label rest stack hnext hback ih => exact ih hroots hleft

theorem nodup_leaveOrder_trace (nodes : List α) (edges : α → List (α × ε)) :
    (leaveOrder (trace nodes edges)).Nodup :=
  nodup_leaveOrder nodes (.start nodes edges)

/-- **Every node is left**, and nothing else. -/
theorem mem_leaveOrder_trace {x : α} : x ∈ leaveOrder (trace nodes edges) ↔ x ∈ nodes := by
  refine ⟨fun h => (mem_of_mem_leaveOrder (.start nodes edges) h).1, fun h => ?_⟩
  exact mem_leaveOrder_of_mem_roots h h fun hleft => List.not_mem_nil hleft.1

/-! ### Back edges -/

theorem pathFrom_head? (x : α) (stack : List (Frame α ε)) :
    (pathFrom x stack).head? = some x := rfl

theorem pathFrom_getLast? {node next : α} {rest : List (α × ε)} :
    (pathFrom next ((node, rest) :: stack)).getLast? = some node := by
  by_cases h : node = next
  · simp [pathFrom, h]
  · simp [pathFrom, h, List.getLast?_cons]

/-- The path from an active node to the top of the stack is one of edges. -/
theorem Coherent.isChain_pathFrom (h : Coherent nodes edges entered stack) {x : α}
    (hx : x ∈ active stack) : (pathFrom x stack).IsChain (Linked nodes edges) := by
  obtain ⟨above, below, hsplit, hx⟩ := List.eq_append_cons_of_mem hx
  have htake : (active stack).takeWhile (· ≠ x) = above := by
    rw [hsplit, List.takeWhile_append_of_pos]
    · simp
    · intro y hy
      have hne : y ≠ x := fun heq => hx (heq ▸ hy)
      simpa using hne
  have hpath : pathFrom x stack = (above ++ [x]).reverse := by
    rw [← htake, List.reverse_append]
    rfl
  rw [hpath, List.isChain_reverse]
  exact h.linked.prefix ⟨below, by rw [hsplit, List.append_assoc, List.singleton_append]⟩

/-- No node is twice on the path from an active one to the top of the stack. -/
theorem nodup_pathFrom (h : (active stack).Nodup) (x : α) : (pathFrom x stack).Nodup := by
  refine List.nodup_cons.mpr ⟨fun hx => ?_, ?_⟩
  · have hne := List.mem_takeWhile_imp (List.mem_reverse.mp hx)
    simp at hne
  · exact List.nodup_reverse.mpr (h.sublist (List.takeWhile_sublist _))

/-- A back edge is met at the top of the stack and leads to a node on it. -/
theorem exists_of_mem_backEdges (h : Coherent nodes edges entered stack) {path : List α}
    {label : ε} (hback : (path, label) ∈ backEdges (traceFrom nodes edges entered roots stack)) :
    ∃ entered node next rest stack, Coherent nodes edges entered
        ((node, (next, label) :: rest) :: stack) ∧
      next ∈ active ((node, rest) :: stack) ∧ path = pathFrom next ((node, rest) :: stack) := by
  fun_induction traceFrom nodes edges entered roots stack with
  | case1 => exact absurd hback List.not_mem_nil
  | case2 entered root roots hroot ih => exact ih (h.enter hroot) hback
  | case3 entered root roots hroot ih => exact ih h hback
  | case4 entered roots node stack ih => exact ih h.leave hback
  | case5 entered roots node next label' rest stack hnext ih => exact ih (h.follow hnext) hback
  | case6 entered roots node next label' rest stack hnext hactive ih =>
    rcases List.mem_cons.mp hback with heq | hback
    · obtain ⟨rfl, rfl⟩ := Prod.mk.inj heq
      exact ⟨entered, node, next, rest, stack, h, hactive, rfl⟩
    · exact ih h.skip hback
  | case7 entered roots node next label' rest stack hnext hactive ih => exact ih h.skip hback

/-- What a back edge closes is a circle. -/
theorem isCircle_of_mem_backEdges {path : List α} {label : ε}
    (hback : (path, label) ∈ backEdges (trace nodes edges)) :
    IsCircle nodes edges path label := by
  obtain ⟨entered, node, next, rest, stack, h, hactive, rfl⟩ :=
    exists_of_mem_backEdges (.start nodes edges) hback
  exact ⟨h.skip.isChain_pathFrom hactive, next, node, pathFrom_head? _ _, pathFrom_getLast?,
    h.entered_subset (h.skip.active_subset hactive), h.edge_mem⟩

/-- The path that a back edge closes is nowhere twice. -/
theorem nodup_of_mem_backEdges {path : List α} {label : ε}
    (hback : (path, label) ∈ backEdges (trace nodes edges)) : path.Nodup := by
  obtain ⟨entered, node, next, rest, stack, h, -, rfl⟩ :=
    exists_of_mem_backEdges (.start nodes edges) hback
  exact nodup_pathFrom h.skip.nodup_active next

/-- The edges of a node that are still to be followed: all of them, before it is entered. -/
def remaining (edges : α → List (α × ε)) (stack : List (Frame α ε)) (x : α) : List (α × ε) :=
  (stack.lookup x).getD (edges x)

@[simp] theorem remaining_nil (x : α) : remaining edges [] x = edges x := rfl

@[simp] theorem remaining_self (node : α) (rest : List (α × ε)) :
    remaining edges ((node, rest) :: stack) node = rest := by
  simp [remaining]

theorem remaining_of_ne {x node : α} (h : x ≠ node) (rest : List (α × ε)) :
    remaining edges ((node, rest) :: stack) x = remaining edges stack x := by
  have hne : (x == node) = false := by simpa using h
  simp [remaining, List.lookup_cons, hne]

/-- Entering a node begins with all its edges. -/
theorem remaining_enter {x node : α} (hnode : node ∉ active stack) :
    remaining edges ((node, edges node) :: stack) x = remaining edges stack x := by
  by_cases h : x = node
  · subst h
    rw [remaining_self, remaining, List.lookup_eq_none_iff.mpr, Option.getD_none]
    intro frame hframe
    have hne : x ≠ frame.1 := fun heq => hnode (heq ▸ List.mem_map_of_mem hframe)
    simpa using hne
  · exact remaining_of_ne h _

/-- An edge that remains is the next one, or it remains when that has been dealt with. -/
theorem remaining_cons {x node : α} {e next : α × ε} {rest : List (α × ε)}
    (h : e ∈ remaining edges ((node, next :: rest) :: stack) x) :
    (x = node ∧ e = next) ∨ e ∈ remaining edges ((node, rest) :: stack) x := by
  by_cases hx : x = node
  · subst hx
    rw [remaining_self] at h ⊢
    exact (List.mem_cons.mp h).imp_left fun heq => ⟨rfl, heq⟩
  · rw [remaining_of_ne hx] at h ⊢
    exact .inr h

/-- **What comes first.** When a node is left, a remaining edge of it leads to a node left before,
or it is a back edge. -/
theorem left_before_or_back_from (h : Coherent nodes edges entered stack) {x y : α} {label : ε}
    {l₁ l₂ : List α} (horder : leaveOrder (traceFrom nodes edges entered roots stack) =
      l₁ ++ x :: l₂)
    (hedge : (y, label) ∈ remaining edges stack x) (hy : y ∈ nodes) :
    IsLeft entered stack y ∨ y ∈ l₁ ∨
      ∃ path, (path, label) ∈ backEdges (traceFrom nodes edges entered roots stack) ∧
        path.head? = some y ∧ path.getLast? = some x := by
  fun_induction traceFrom nodes edges entered roots stack generalizing l₁ with
  | case1 => exact absurd horder (by simp)
  | case2 entered root roots hroot ih =>
    have hedge : (y, label) ∈ remaining edges [(root, edges root)] x := by
      rwa [remaining_enter List.not_mem_nil]
    exact (ih (h.enter hroot) horder hedge).imp_left isLeft_of_enter
  | case3 entered root roots hroot ih => exact ih h horder hedge
  | case4 entered roots node stack ih =>
    rw [leaveOrder_leave] at horder
    cases l₁ with
    | nil =>
      obtain ⟨rfl, -⟩ := List.cons.inj horder
      rw [remaining_self] at hedge
      exact absurd hedge List.not_mem_nil
    | cons z l₁ =>
      rw [List.cons_append, List.cons.injEq] at horder
      obtain ⟨rfl, horder⟩ := horder
      have hx : x ∈ leaveOrder (traceFrom nodes edges entered roots stack) :=
        horder ▸ List.mem_append_cons_self
      have hne : x ≠ node := fun heq => h.not_mem_leaveOrder roots (heq ▸ hx)
      rw [remaining_of_ne hne] at hedge
      rcases ih h.leave horder hedge with hleft | hmem | hback
      · rcases isLeft_of_leave node hleft with heq | hleft
        · exact .inr (.inl (List.mem_cons.mpr (.inl heq)))
        · exact .inl hleft
      · exact .inr (.inl (List.mem_cons_of_mem _ hmem))
      · exact .inr (.inr hback)
  | case5 entered roots node next label' rest stack hnext ih =>
    rcases remaining_cons hedge with ⟨rfl, heq⟩ | hedge
    · -- The node entered now is on the stack above `x`, so it is left before it.
      obtain ⟨rfl, rfl⟩ := Prod.mk.inj heq
      have hsub := active_sublist nodes edges (y :: entered) roots
        ((y, edges y) :: (x, rest) :: stack)
      have hnodup := nodup_leaveOrder roots (h.follow hnext)
      rw [horder] at hsub hnodup
      exact .inr (.inl (mem_left_of_sublist hnodup (.trans (by simp) hsub)))
    · have hnot : next ∉ active ((node, rest) :: stack) := fun hmem =>
        (Graph.mem_fresh.mp hnext).2 (h.skip.active_subset hmem)
      rw [← remaining_enter hnot] at hedge
      exact (ih (h.follow hnext) horder hedge).imp_left (isLeft_of_follow · _)
  | case6 entered roots node next label' rest stack hnext hactive ih =>
    rcases remaining_cons hedge with ⟨rfl, heq⟩ | hedge
    · obtain ⟨rfl, rfl⟩ := Prod.mk.inj heq
      exact .inr (.inr ⟨_, List.mem_cons_self, pathFrom_head? _ _, pathFrom_getLast?⟩)
    · refine (ih h.skip horder hedge).imp_right (Or.imp_right ?_)
      rintro ⟨path, hmem, hpath⟩
      exact ⟨path, List.mem_cons_of_mem _ hmem, hpath⟩
  | case7 entered roots node next label' rest stack hnext hactive ih =>
    rcases remaining_cons hedge with ⟨rfl, heq⟩ | hedge
    · obtain ⟨rfl, rfl⟩ := Prod.mk.inj heq
      refine .inl ⟨?_, hactive⟩
      by_contra hnew
      exact hnext (Graph.mem_fresh.mpr ⟨hy, hnew⟩)
    · exact ih h.skip horder hedge

/-- **The order of a search.** What an edge leads to is left before its source, unless the edge is
a back edge. -/
theorem left_before_or_back {x y : α} {label : ε} {l₁ l₂ : List α}
    (horder : leaveOrder (trace nodes edges) = l₁ ++ x :: l₂) (hedge : (y, label) ∈ edges x)
    (hy : y ∈ nodes) :
    y ∈ l₁ ∨ ∃ path, (path, label) ∈ backEdges (trace nodes edges) ∧
      path.head? = some y ∧ path.getLast? = some x :=
  (left_before_or_back_from (.start nodes edges) horder hedge hy).resolve_left
    fun hleft => List.not_mem_nil hleft.1

/-- Without back edges, what an edge leads to comes earlier in the order than its source. A source
that is no node counts as coming last. -/
theorem idxOf_lt_of_linked (hback : backEdges (trace nodes edges) = []) {x y : α}
    (h : Linked nodes edges x y) :
    (leaveOrder (trace nodes edges)).idxOf y < (leaveOrder (trace nodes edges)).idxOf x := by
  obtain ⟨hy, label, hedge⟩ := h
  by_cases hx : x ∈ leaveOrder (trace nodes edges)
  · obtain ⟨l₁, l₂, horder, hnew⟩ := List.eq_append_cons_of_mem hx
    have hbefore : y ∈ l₁ := by
      refine (left_before_or_back horder hedge hy).resolve_right ?_
      rintro ⟨path, hpath, -⟩
      rw [hback] at hpath
      exact List.not_mem_nil hpath
    rw [horder, List.idxOf_append_of_mem hbefore, List.idxOf_append_of_notMem hnew,
      List.idxOf_cons_self]
    exact List.idxOf_lt_length_of_mem hbefore
  · rw [List.idxOf_eq_length hx]
    exact List.idxOf_lt_length_of_mem (mem_leaveOrder_trace.mpr hy)

/-- **The search meets a back edge exactly where edges make a circle.** -/
theorem backEdges_eq_nil_iff :
    backEdges (trace nodes edges) = [] ↔ ∀ x, ¬Relation.TransGen (Linked nodes edges) x x := by
  constructor
  · intro hback x hcircle
    have hdown := Relation.TransGen.lift (p := (· > ·)) (leaveOrder (trace nodes edges)).idxOf
      (fun _ _ => idxOf_lt_of_linked hback) x x hcircle
    rw [Relation.transGen_eq_self] at hdown
    exact lt_irrefl _ hdown
  · intro hacyclic
    refine List.eq_nil_iff_forall_not_mem.mpr fun (path, label) hback => ?_
    have hcircle := isCircle_of_mem_backEdges hback
    have ⟨_, first, _, hfirst, _⟩ := hcircle
    exact hacyclic first (hcircle.transGen_self (List.mem_of_mem_head? hfirst))

/-! ### Nodes in order -/

/-- A node whose edges lead to nodes that are left is left at once. -/
theorem traceFrom_leave_of_edges {root : α} {es : List (α × ε)}
    (h : ∀ e ∈ es, e.1 ∉ fresh nodes entered ∧ e.1 ≠ root) :
    traceFrom nodes edges entered roots [(root, es)] =
      .leave root :: traceFrom nodes edges entered roots [] := by
  induction es with
  | nil => rw [traceFrom]
  | cons e es ih =>
    obtain ⟨⟨hfresh, hne⟩, hes⟩ := List.forall_mem_cons.mp h
    have hactive : e.1 ∉ root :: ([] : List (Frame α ε)).map Prod.fst := by simpa using hne
    obtain ⟨next, label⟩ := e
    rw [traceFrom, if_neg hfresh, if_neg hactive, ih hes]

theorem traceFrom_of_sorted (hnodup : nodes.Nodup)
    (hedges : ∀ l₁ x l₂, nodes = l₁ ++ x :: l₂ → ∀ e ∈ edges x, e.1 ∈ nodes → e.1 ∈ l₁)
    {done : List α} (hnodes : nodes = done ++ roots) (hentered : ∀ x, x ∈ entered ↔ x ∈ done) :
    traceFrom nodes edges entered roots [] = roots.map .leave := by
  induction roots generalizing entered done with
  | nil => rw [traceFrom, List.map_nil]
  | cons root roots ih =>
    have hroot : root ∉ done := by
      rw [hnodes] at hnodup
      exact fun hmem => (List.nodup_cons.mp (List.nodup_middle.mp hnodup)).1
        (List.mem_append_left _ hmem)
    have hfresh : root ∈ fresh nodes entered := Graph.mem_fresh.mpr
      ⟨hnodes ▸ List.mem_append_cons_self, fun hmem => hroot ((hentered root).mp hmem)⟩
    rw [traceFrom, if_pos hfresh, traceFrom_leave_of_edges fun e he => ⟨fun hnew => ?_, ?_⟩,
      List.map_cons]
    · have hnodes' : nodes = (done ++ [root]) ++ roots := by
        rw [hnodes, List.append_assoc]
        rfl
      rw [ih hnodes' fun x => ?_]
      rw [List.mem_cons, List.mem_append, List.mem_singleton, hentered, or_comm]
    · obtain ⟨hmem, hnew⟩ := Graph.mem_fresh.mp hnew
      have hdone := hedges done root roots hnodes e he hmem
      exact hnew (List.mem_cons_of_mem _ ((hentered e.1).mpr hdone))
    · rintro rfl
      exact hroot (hedges done e.1 roots hnodes e he (hnodes ▸ List.mem_append_cons_self))

/-- **Nodes that are in order** already, each after what its edges lead to, are left in that order,
and no edge leads back. -/
theorem trace_of_sorted (hnodup : nodes.Nodup)
    (hedges : ∀ l₁ x l₂, nodes = l₁ ++ x :: l₂ → ∀ e ∈ edges x, e.1 ∈ nodes → e.1 ∈ l₁) :
    trace nodes edges = nodes.map .leave :=
  traceFrom_of_sorted hnodup hedges (List.nil_append _).symm fun _ => Iff.rfl

end DeclWeave.DepthFirst
