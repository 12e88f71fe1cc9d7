import DeclWeave.Proofs.TailPositions

/-!
# Stretches of a Scope

One list of locals runs through a body, and whether what a part of a form binds is forgotten after
it differs from head to head. `stretches` is the table of this: it cuts a form into the parts that
are checked in the scope around it and those in a scope of its own, with the places where they
stand. `freeNames` is one and the same walk over the stretches of every form, so what holds of a
walk is said once, for a stretch, and not for each head.

The first such thing is that a form is checked relative to its surroundings: with more names bound
around it, just these are no longer free, and what it binds is the same.

## Main results

* `freeNames_seq`: to check a form is to walk over its stretches.
* `inOrder_stretches`: the parts of a form are checked in the order of the text.
* `induction_parts`: induction over what is checked.
* `isRelative`: more names bound around a form.
-/

namespace DeclWeave.Form

/-! ### Stretches -/

/-- Parts of a form that are checked one after another, each with the path to it. -/
inductive Stretch where
  /-- In the scope around the form. -/
  | around (parts : List (List ℕ × Form))
  /-- In a scope of its own, which begins with some names bound. -/
  | enclosed (binders : List String) (parts : List (List ℕ × Form))

namespace Stretch

def parts : Stretch → List (List ℕ × Form)
  | .around parts => parts
  | .enclosed _ parts => parts

/-- The names bound at the start. -/
def binders : Stretch → List String
  | .around _ => []
  | .enclosed binders _ => binders

/-- The parts that are checked in the scope around the form. -/
def exposed : Stretch → List (List ℕ × Form)
  | .around parts => parts
  | .enclosed _ _ => []

end Stretch

/-- Forms with the paths to them, where the first one is the element of a given index. -/
def partsFrom (path : List ℕ) (i : ℕ) : List Form → List (List ℕ × Form)
  | [] => []
  | f :: fs => (path ++ [i], f) :: partsFrom path (i + 1) fs

def stretchesFn : List Form → List Stretch
  | .seq .square params _ :: body => [.enclosed (params.foldl bind []) (partsFrom [] 2 body)]
  | args => [.enclosed [] (partsFrom [] 1 args)]

def stretchesFor : List Form → List Stretch
  | binder :: source :: body =>
    [.around [([2], source)], .enclosed (bind [] binder) (partsFrom [] 3 body)]
  | args => [.around (partsFrom [] 1 args)]

def stretchesInvoke : List Form → List Stretch
  | target :: _ :: args => [.around (([1], target) :: partsFrom [] 3 args)]
  | args => [.around (partsFrom [] 1 args)]

/-- Whether a form is a case of the `switch` that it stands in. -/
def isArm : Form → Bool
  | .seq .round items _ => isCase items
  | _ => false

/-- What stands where a `switch` has its cases, one stretch each. -/
def stretchesCases (i : ℕ) : List Form → List Stretch
  | [] => []
  | f :: rest =>
    (if f.isArm then .enclosed [] (partsFrom [i] 1 f.elements.tail) else .around [([i], f)]) ::
      stretchesCases (i + 1) rest

def stretchesSwitch : List Form → List Stretch
  | [] => []
  | subject :: cases => .around [([1], subject)] :: stretchesCases 2 cases

/-- The stretches of a list with the given elements. -/
def stretchesList : List Form → List Stretch
  | .atom (.sym head) s :: args =>
    if head = "do" then [.enclosed [] (partsFrom [] 1 args)]
    else if head = "var" then [.around (partsFrom [] 2 args.tail)]
    else if head = "fn" then stretchesFn args
    else if head = "for" then stretchesFor args
    else if head = "get" then [.around (partsFrom [] 1 (args.take 1))]
    else if head = "invoke" then stretchesInvoke args
    else if head = "switch" then stretchesSwitch args
    else if plainHeads.contains head then [.around (partsFrom [] 1 args)]
    else [.around (partsFrom [] 0 (.atom (.sym head) s :: args))]
  | items => [.around (partsFrom [] 0 items)]

/-- The parts of a form that hold names, in the order in which they are checked. -/
def stretches : Form → List Stretch
  | .atom _ _ => []
  | .seq .square items _ => [.around (partsFrom [] 0 items)]
  | .seq .round items _ => stretchesList items

/-- The names that a form binds itself for the forms after it: that of a `var`. -/
def declared : Form → List String
  | .list (.sym head _ :: binder :: _) _ => if head = "var" then bind [] binder else []
  | _ => []

/-! ### The walk over the stretches -/

/-- The free names of a stretch, and the locals known after it. -/
def Stretch.check (locals : List String) : Stretch → List String × List String
  | .around parts => freeNamesAll locals (parts.map (·.2))
  | .enclosed binders parts =>
    Form.enclosed locals (freeNamesAll (binders ++ locals) (parts.map (·.2)))

/-- The free names of some stretches, each in the scope that the ones before leave. -/
def walk (locals : List String) : List Stretch → List String × List String
  | [] => ([], locals)
  | t :: ts =>
    let (names, after) := t.check locals
    let (more, after) := walk after ts
    (names ++ more, after)

variable {locals : List String} {name : String} {e f : Form} {fs : List Form} {t : Stretch}
  {ts : List Stretch} {part : List ℕ × Form}

theorem bind_eq_append (locals : List String) (f : Form) : bind locals f = bind [] f ++ locals := by
  rw [bind.eq_def, bind.eq_def]
  split <;> rfl

theorem foldl_bind_eq_append (locals : List String) (params : List Form) :
    params.foldl bind locals = params.foldl bind [] ++ locals := by
  induction params generalizing locals with
  | nil => rfl
  | cons f fs ih =>
    rw [List.foldl_cons, List.foldl_cons, ih (bind locals f), ih (bind [] f), bind_eq_append locals,
      List.append_assoc]

@[simp] theorem map_partsFrom (path : List ℕ) (i : ℕ) (fs : List Form) :
    (partsFrom path i fs).map (·.2) = fs := by
  induction fs generalizing i with
  | nil => rfl
  | cons f fs ih => rw [partsFrom, List.map_cons, ih]

theorem walk_cons (locals : List String) (t : Stretch) (ts : List Stretch) :
    walk locals (t :: ts) = ((t.check locals).1 ++ (walk (t.check locals).2 ts).1,
      (walk (t.check locals).2 ts).2) := rfl

@[simp] theorem walk_singleton (locals : List String) (t : Stretch) :
    walk locals [t] = t.check locals := by
  rw [walk_cons, walk, List.append_nil]

@[simp] theorem check_around_partsFrom (locals : List String) (path : List ℕ) (i : ℕ)
    (fs : List Form) :
    (Stretch.around (partsFrom path i fs)).check locals = freeNamesAll locals fs := by
  rw [Stretch.check, map_partsFrom]

@[simp] theorem check_enclosed_partsFrom (locals binders : List String) (path : List ℕ) (i : ℕ)
    (fs : List Form) : (Stretch.enclosed binders (partsFrom path i fs)).check locals =
      Form.enclosed locals (freeNamesAll (binders ++ locals) fs) := by
  rw [Stretch.check, map_partsFrom]

@[simp] theorem check_around_singleton (locals : List String) (path : List ℕ) (f : Form) :
    (Stretch.around [(path, f)]).check locals = freeNames locals f := by
  simp [Stretch.check, freeNamesAll]

theorem freeNamesFn_eq_walk (locals : List String) (args : List Form) :
    Form.enclosed locals (freeNamesFn locals args) = walk locals (stretchesFn args) := by
  match args with
  | .seq .square params s :: body =>
    rw [freeNamesFn, stretchesFn, walk_singleton, check_enclosed_partsFrom, foldl_bind_eq_append]
  | [] | .atom a s :: body | .seq .round items s :: body =>
    simp [freeNamesFn, stretchesFn]

theorem freeNamesFor_eq_walk (locals : List String) (args : List Form) :
    freeNamesFor locals args = walk locals (stretchesFor args) := by
  obtain _ | ⟨binder, _ | ⟨source, body⟩⟩ := args
  · simp [freeNamesFor, stretchesFor]
  · simp [freeNamesFor, stretchesFor]
  · rw [freeNamesFor, stretchesFor, walk_cons, walk_singleton, check_around_singleton,
      check_enclosed_partsFrom, ← bind_eq_append]
    rfl

theorem freeNamesFirst_eq_all (locals : List String) (args : List Form) :
    freeNamesFirst locals args = freeNamesAll locals (args.take 1) := by
  cases args <;> simp [freeNamesFirst, freeNamesAll]

theorem freeNamesInvoke_eq_walk (locals : List String) (args : List Form) :
    freeNamesInvoke locals args = walk locals (stretchesInvoke args) := by
  obtain _ | ⟨target, _ | ⟨slot, args⟩⟩ := args
  · simp [freeNamesInvoke, stretchesInvoke]
  · simp [freeNamesInvoke, stretchesInvoke]
  · rw [freeNamesInvoke, stretchesInvoke, walk_singleton, Stretch.check, List.map_cons,
      map_partsFrom, freeNamesAll]

/-- A case of a `switch` is a scope of its own, and what else stands there is none. -/
theorem freeNamesCases_eq_walk (locals : List String) (i : ℕ) (fs : List Form) :
    freeNamesCases locals fs = walk locals (stretchesCases i fs) := by
  induction fs generalizing locals i with
  | nil => rw [freeNamesCases, stretchesCases, walk]
  | cons f fs ih =>
    rw [stretchesCases, walk_cons, ← ih]
    cases f with
    | atom a s => simp [freeNamesCases, isArm]
    | seq b items s =>
      cases b with
      | square => simp [freeNamesCases, isArm]
      | round =>
        cases hcase : isCase items with
        | false => simp [freeNamesCases, isArm, hcase, freeNames]
        | true =>
          have hrest : freeNamesRest locals items = freeNamesAll locals items.tail := by
            cases items <;> simp [freeNamesRest, freeNamesAll]
          simp [freeNamesCases, isArm, hcase, hrest]

theorem freeNamesSwitch_eq_walk (locals : List String) (args : List Form) :
    freeNamesSwitch locals args = walk locals (stretchesSwitch args) := by
  cases args with
  | nil => rw [freeNamesSwitch, stretchesSwitch, walk]
  | cons subject cases =>
    rw [freeNamesSwitch, stretchesSwitch, walk_cons, check_around_singleton,
      ← freeNamesCases_eq_walk]

theorem declared_of_ne {head : String} (h : head ≠ "var") (args : List Form) (s s' : Span) :
    (Form.seq .round (.atom (.sym head) s :: args) s').declared = [] := by
  cases args <;> simp [declared, h]

/-- What a symbol at the head of a list stands for. -/
theorem freeNamesList_sym (locals : List String) (head : String) (s s' : Span) (args : List Form) :
    freeNamesList locals (.atom (.sym head) s :: args) =
      ((walk locals (stretchesList (.atom (.sym head) s :: args))).1,
        (Form.seq .round (.atom (.sym head) s :: args) s').declared ++
          (walk locals (stretchesList (.atom (.sym head) s :: args))).2) := by
  by_cases hvar : head = "var"
  · subst hvar
    cases args with
    | nil => simp [freeNamesList, freeNamesVar, stretchesList, declared, freeNamesAll]
    | cons binder init =>
      simp [freeNamesList, freeNamesVar, stretchesList, declared,
        bind_eq_append (freeNamesAll _ _).2]
  · rw [declared_of_ne hvar, List.nil_append, freeNamesList, stretchesList, if_neg hvar,
      if_neg hvar]
    split_ifs with hdo hfn hfor hget hinvoke hswitch hplain hbound
    · simp
    · rw [freeNamesFn_eq_walk]
    · rw [freeNamesFor_eq_walk]
    · rw [freeNamesFirst_eq_all, walk_singleton, check_around_partsFrom]
    · rw [freeNamesInvoke_eq_walk]
    · rw [freeNamesSwitch_eq_walk]
    · rw [walk_singleton, check_around_partsFrom]
    -- a call uses its head unless that is bound
    all_goals
      rw [walk_singleton, check_around_partsFrom, freeNamesAll, freeNames]
      simp only [hbound, if_true, if_false, Bool.false_eq_true, List.nil_append, List.cons_append]

/-- **The table of stretches**: to check a form is to walk over its stretches and then to bind the
name that it declares. -/
theorem freeNames_seq (locals : List String) (b : Bracket) (items : List Form) (s : Span) :
    freeNames locals (.seq b items s) =
      ((walk locals (Form.seq b items s).stretches).1,
        (Form.seq b items s).declared ++ (walk locals (Form.seq b items s).stretches).2) := by
  cases b with
  | square => simp [freeNames, stretches, declared]
  | round =>
    rw [freeNames, stretches]
    cases items with
    | nil => simp [freeNamesList, stretchesList, declared, freeNamesAll]
    | cons head args =>
      cases head with
      | seq b' items' s' => simp [freeNamesList, stretchesList, declared, freeNamesAll]
      | atom a s' =>
        cases a with
        | sym head => exact freeNamesList_sym locals head s' s args
        | _ => simp [freeNamesList, stretchesList, declared, freeNamesAll]

/-! ### Where the parts stand -/

/-- Whether all that stands below one path comes before all that stands below another. -/
def Precedes (p q : List ℕ) : Prop :=
  ∀ r s : List ℕ, p ++ r < q ++ s

theorem precedes_of_lt {i j : ℕ} (h : i < j) (p q : List ℕ) : Precedes (i :: p) (j :: q) :=
  fun _ _ => List.cons_lt_cons_iff.mpr (.inl h)

theorem Precedes.append_left {p q : List ℕ} (h : Precedes p q) (path : List ℕ) :
    Precedes (path ++ p) (path ++ q) := by
  intro r s
  rw [List.append_assoc, List.append_assoc]
  exact List.append_left_lt (h r s)

/-- Parts of some elements in the order in which they stand there, from the element `i` on. -/
structure InOrder (items : List Form) (i : ℕ) (parts : List (List ℕ × Form)) : Prop where
  pairwise : parts.Pairwise fun a b => Precedes a.1 b.1
  stands : ∀ part ∈ parts, ∃ j rest, part.1 = j :: rest ∧ i ≤ j ∧
    items[j]?.bind (·.sub? rest) = some part.2

namespace InOrder

variable {items : List Form} {i j : ℕ} {parts more : List (List ℕ × Form)}

theorem nil (items : List Form) (i : ℕ) : InOrder items i [] :=
  ⟨.nil, by simp⟩

theorem mono (h : InOrder items j parts) (hij : i ≤ j) : InOrder items i parts := by
  refine ⟨h.pairwise, fun part hpart => ?_⟩
  obtain ⟨k, rest, hpath, hk, hsub⟩ := h.stands part hpart
  exact ⟨k, rest, hpath, Nat.le_trans hij hk, hsub⟩

/-- Parts of one element, and then parts of later ones. -/
theorem append (hpairwise : parts.Pairwise fun a b => Precedes a.1 b.1)
    (hstands : ∀ part ∈ parts, ∃ rest, part.1 = i :: rest ∧
      items[i]?.bind (·.sub? rest) = some part.2)
    (h : InOrder items (i + 1) more) : InOrder items i (parts ++ more) := by
  refine ⟨List.pairwise_append.mpr ⟨hpairwise, h.pairwise, fun a ha b hb => ?_⟩,
    fun part hpart => ?_⟩
  · obtain ⟨p, hp, -⟩ := hstands a ha
    obtain ⟨k, q, hq, hk, -⟩ := h.stands b hb
    rw [hp, hq]
    exact precedes_of_lt hk p q
  · rcases List.mem_append.mp hpart with hpart | hpart
    · obtain ⟨rest, hpath, hsub⟩ := hstands part hpart
      exact ⟨i, rest, hpath, Nat.le_refl i, hsub⟩
    · exact (h.mono (Nat.le_succ i)).stands part hpart

theorem cons (hf : items[i]? = some f) (h : InOrder items (i + 1) parts) :
    InOrder items i (([i], f) :: parts) := by
  refine append (List.pairwise_singleton _ _) (fun part hpart => ?_) h
  obtain rfl := List.mem_singleton.mp hpart
  exact ⟨[], rfl, by rw [hf, Option.bind_some, sub?_nil]⟩

end InOrder

theorem getElem?_of_drop_eq_cons {items : List Form} {i : ℕ} (h : items.drop i = f :: fs) :
    items[i]? = some f ∧ items.drop (i + 1) = fs := by
  refine ⟨?_, by rw [← List.drop_drop, h, List.drop_one, List.tail_cons]⟩
  rw [← Nat.add_zero i, ← List.getElem?_drop, h, List.getElem?_cons_zero]

theorem inOrder_partsFrom {items : List Form} {i : ℕ} (h : items.drop i = fs) :
    InOrder items i (partsFrom [] i fs) := by
  induction fs generalizing i with
  | nil => exact .nil items i
  | cons f fs ih =>
    obtain ⟨hf, hfs⟩ := getElem?_of_drop_eq_cons h
    exact .cons hf (ih hfs)

theorem partsFrom_eq_map (path : List ℕ) (i : ℕ) (fs : List Form) :
    partsFrom path i fs = (partsFrom [] i fs).map fun part => (path ++ part.1, part.2) := by
  induction fs generalizing i with
  | nil => rfl
  | cons f fs ih => rw [partsFrom, partsFrom, List.map_cons, ih, List.nil_append]

theorem inOrder_stretchesCases {items : List Form} {i : ℕ} (h : items.drop i = fs) :
    InOrder items i ((stretchesCases i fs).flatMap (·.parts)) := by
  induction fs generalizing i with
  | nil => exact .nil items i
  | cons f fs ih =>
    obtain ⟨hf, hfs⟩ := getElem?_of_drop_eq_cons h
    rw [stretchesCases, List.flatMap_cons]
    split_ifs
    · -- The parts of a case stand below it as they do in it.
      have harm : InOrder f.elements 1 (partsFrom [] 1 f.elements.tail) :=
        inOrder_partsFrom List.drop_one
      rw [Stretch.parts, partsFrom_eq_map]
      refine .append ?_ (List.forall_mem_map.mpr fun part hpart => ?_) (ih hfs)
      · exact List.pairwise_map.mpr (harm.pairwise.imp fun h => h.append_left [i])
      · obtain ⟨j, rest, hpath, -, hsub⟩ := harm.stands part hpart
        refine ⟨part.1, rfl, ?_⟩
        rw [hf, Option.bind_some, hpath, sub?_cons, hsub]
    · exact .cons hf (ih hfs)

theorem inOrder_around {items : List Form} {i : ℕ} (h : items.drop i = fs) :
    InOrder items i ([Stretch.around (partsFrom [] i fs)].flatMap (·.parts)) := by
  rw [List.flatMap_singleton]
  exact inOrder_partsFrom h

theorem inOrder_enclosed {items : List Form} {i : ℕ} (binders : List String)
    (h : items.drop i = fs) :
    InOrder items i ([Stretch.enclosed binders (partsFrom [] i fs)].flatMap (·.parts)) := by
  rw [List.flatMap_singleton]
  exact inOrder_partsFrom h

theorem inOrder_stretchesFn (head : Form) (args : List Form) :
    InOrder (head :: args) 1 ((stretchesFn args).flatMap (·.parts)) := by
  match args with
  | .seq .square params s :: body => exact (inOrder_enclosed _ rfl).mono (Nat.le_succ 1)
  | [] | .atom a s :: body | .seq .round items s :: body => exact inOrder_enclosed _ rfl

theorem inOrder_stretchesFor (head : Form) (args : List Form) :
    InOrder (head :: args) 1 ((stretchesFor args).flatMap (·.parts)) := by
  obtain _ | ⟨binder, _ | ⟨source, body⟩⟩ := args
  · exact inOrder_around rfl
  · exact inOrder_around rfl
  · exact (InOrder.cons rfl (inOrder_enclosed _ rfl)).mono (Nat.le_succ 1)

theorem inOrder_stretchesInvoke (head : Form) (args : List Form) :
    InOrder (head :: args) 1 ((stretchesInvoke args).flatMap (·.parts)) := by
  obtain _ | ⟨target, _ | ⟨slot, args⟩⟩ := args
  · exact inOrder_around rfl
  · exact inOrder_around rfl
  · rw [stretchesInvoke, List.flatMap_singleton]
    exact .cons rfl ((inOrder_partsFrom rfl).mono (Nat.le_succ 2))

theorem inOrder_stretchesSwitch (head : Form) (args : List Form) :
    InOrder (head :: args) 1 ((stretchesSwitch args).flatMap (·.parts)) := by
  cases args with
  | nil => exact .nil _ 1
  | cons subject cases => exact .cons rfl (inOrder_stretchesCases rfl)

theorem inOrder_stretchesList (items : List Form) :
    InOrder items 0 ((stretchesList items).flatMap (·.parts)) := by
  match items with
  | .atom (.sym head) s :: args =>
    rw [stretchesList]
    split_ifs
    · exact (inOrder_enclosed [] rfl).mono (Nat.zero_le 1)
    · refine (inOrder_around ?_).mono (Nat.zero_le 2)
      rw [List.drop_succ_cons, List.drop_one]
    · exact (inOrder_stretchesFn _ args).mono (Nat.zero_le 1)
    · exact (inOrder_stretchesFor _ args).mono (Nat.zero_le 1)
    · cases args with
      | nil => exact .nil _ 0
      | cons target _ => exact (InOrder.cons rfl (.nil _ 2)).mono (Nat.zero_le 1)
    · exact (inOrder_stretchesInvoke _ args).mono (Nat.zero_le 1)
    · exact (inOrder_stretchesSwitch _ args).mono (Nat.zero_le 1)
    · exact (inOrder_around rfl).mono (Nat.zero_le 1)
    · exact inOrder_around rfl
  | [] | .atom .nil s :: args | .atom (.bool _) s :: args | .atom (.int _) s :: args
  | .atom (.float _) s :: args | .atom (.str _) s :: args | .atom (.keyword _) s :: args
  | .seq b items s :: args => exact inOrder_around rfl

/-- **The parts of a form** stand below it at their paths, and are checked in the order of these. -/
theorem inOrder_stretches (e : Form) : InOrder e.elements 0 (e.stretches.flatMap (·.parts)) := by
  match e with
  | .atom _ _ => exact .nil _ 0
  | .seq .square items _ => exact inOrder_around rfl
  | .seq .round items _ => exact inOrder_stretchesList items

theorem sub?_of_mem_parts (ht : t ∈ e.stretches) (hpart : part ∈ t.parts) :
    ∃ i rest, part.1 = i :: rest ∧ e.sub? part.1 = some part.2 := by
  obtain ⟨i, rest, hpath, -, hsub⟩ :=
    (inOrder_stretches e).stands part (List.mem_flatMap.mpr ⟨t, ht, hpart⟩)
  exact ⟨i, rest, hpath, by rwa [hpath, sub?_cons]⟩

theorem sizeOf_lt_of_mem_elements (h : f ∈ e.elements) : sizeOf f < sizeOf e := by
  cases e with
  | atom a s => exact absurd h List.not_mem_nil
  | seq b items s =>
    have hlt : sizeOf f < sizeOf items := List.sizeOf_lt_of_mem h
    rw [Form.seq.sizeOf_spec]
    omega

theorem sizeOf_lt_of_sub? {i : ℕ} {rest : List ℕ} (h : e.sub? (i :: rest) = some f) :
    sizeOf f < sizeOf e := by
  induction rest generalizing e i with
  | nil =>
    obtain ⟨g, hg, h⟩ := Option.bind_eq_some_iff.mp h
    obtain rfl := Option.some.inj h
    exact sizeOf_lt_of_mem_elements (List.mem_of_getElem? hg)
  | cons j rest ih =>
    obtain ⟨g, hg, h⟩ := Option.bind_eq_some_iff.mp h
    exact Nat.lt_trans (ih h) (sizeOf_lt_of_mem_elements (List.mem_of_getElem? hg))

/-- **Induction on parts**: what goes from the parts of a form to the form holds of all forms. -/
@[elab_as_elim]
theorem induction_parts {motive : Form → Prop} (atom : ∀ a s, motive (.atom a s))
    (seq : ∀ b items s, (∀ t ∈ (Form.seq b items s).stretches, ∀ part ∈ t.parts, motive part.2) →
      motive (.seq b items s)) (e : Form) : motive e := by
  cases e with
  | atom a s => exact atom a s
  | seq b items s =>
    refine seq b items s fun t ht part hpart => ?_
    have hlt : sizeOf part.2 < sizeOf (Form.seq b items s) := by
      obtain ⟨i, rest, hpath, hsub⟩ := sub?_of_mem_parts ht hpart
      exact sizeOf_lt_of_sub? (hpath ▸ hsub)
    exact induction_parts atom seq part.2
termination_by sizeOf e
decreasing_by exact hlt

/-! ### More names around a form -/

/-- What is found where further names are bound outside of all that was: these are not free, and
what is bound stays in front of them. -/
def beyond (outer : List String) (found : List String × List String) :
    List String × List String :=
  (found.1.filter (!outer.contains ·), found.2 ++ outer)

/-- A form is checked relative to what is bound around it. -/
def IsRelative (e : Form) : Prop :=
  ∀ inner outer, freeNames (inner ++ outer) e = beyond outer (freeNames inner e)

theorem IsRelative.all (h : ∀ f ∈ fs, f.IsRelative) (inner outer : List String) :
    freeNamesAll (inner ++ outer) fs = beyond outer (freeNamesAll inner fs) := by
  induction fs generalizing inner with
  | nil => rw [freeNamesAll, freeNamesAll, beyond, List.filter_nil]
  | cons f fs ih =>
    obtain ⟨hf, hfs⟩ := List.forall_mem_cons.mp h
    rw [freeNamesAll, freeNamesAll, hf]
    simp only [beyond, ih hfs, List.filter_append]

theorem IsRelative.check (h : ∀ part ∈ t.parts, part.2.IsRelative) (inner outer : List String) :
    t.check (inner ++ outer) = beyond outer (t.check inner) := by
  cases t with
  | around parts => exact IsRelative.all (List.forall_mem_map.mpr h) inner outer
  | enclosed binders parts =>
    have hparts : ∀ f ∈ parts.map (·.2), f.IsRelative := List.forall_mem_map.mpr h
    rw [Stretch.check, Stretch.check, ← List.append_assoc, IsRelative.all hparts]
    rfl

theorem IsRelative.walk (h : ∀ t ∈ ts, ∀ part ∈ t.parts, part.2.IsRelative)
    (inner outer : List String) : walk (inner ++ outer) ts = beyond outer (walk inner ts) := by
  induction ts generalizing inner with
  | nil => rfl
  | cons t ts ih =>
    obtain ⟨ht, hts⟩ := List.forall_mem_cons.mp h
    rw [walk_cons, walk_cons, IsRelative.check ht]
    simp only [beyond, ih hts, List.filter_append]

/-- **More names bound around a form**: they are no longer free in it, and nothing else changes. -/
theorem isRelative (e : Form) : e.IsRelative := by
  induction e using induction_parts with
  | atom a s =>
    intro inner outer
    cases a with
    | sym name =>
      by_cases hinner : name ∈ inner <;> by_cases houter : name ∈ outer <;>
        simp [freeNames, beyond, hinner, houter]
    | _ => simp [freeNames, beyond]
  | seq b items s ih =>
    intro inner outer
    rw [freeNames_seq, freeNames_seq, IsRelative.walk ih]
    simp only [beyond, List.append_assoc]

theorem mem_freeNames_iff :
    name ∈ (freeNames locals e).1 ↔ name ∈ (freeNames [] e).1 ∧ name ∉ locals := by
  have hrelative := e.isRelative [] locals
  rw [List.nil_append] at hrelative
  simp [hrelative, beyond]

end DeclWeave.Form
