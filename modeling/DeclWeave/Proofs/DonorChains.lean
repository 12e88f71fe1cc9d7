import DeclWeave.Proofs.SynthesisLocality
import Mathlib.Data.List.Nodup
import Mathlib.Logic.Function.Iterate

/-!
# The Order of a Donor Chain

The donors of a type are found by a loop over a stack of references: the topmost one is taken off,
and where it names a donor not seen before, what that donor implements is put on in its place.
Interfaces may implement each other in a circle, and with arguments that grow at each round, so
that no measure of the references themselves goes down. What does go down is what is on the stack
together with what the donors not seen yet can still put on it (`potential`).

`preorder` is the traversal that the loop stands for. It is recursive: a donor comes first, then
what is reached through what it implements, and then what is reached through the references after
it, each time without what has been seen. The references that it lists are those by which donors
are first reached, so that the arguments of a donor are the ones given there.

## Main results

* `Bindings.find?_ofParams`: a parameter is bound by its position.
* `pending_iterate_advance` and `found_iterate_advance`: within a number of rounds that is known
  beforehand the stack is empty, and what has been found then is the chain.
* `chainFrom_append`: on the stack, what is above is traversed first.
* `chain_eq_preorder`: the chain is the traversal, with each donor once and with its parameters
  bound by the reference that reaches it.
-/

namespace DeclWeave

/-! ### Positions of arguments -/

/-- A parameter is bound to the argument at its own position, or to none if there are too few. -/
theorem Bindings.find?_ofParams {params : List String} (h : params.Nodup) (args : List TypeRef)
    {i : ℕ} {param : String} (hparam : params[i]? = some param) :
    (ofParams params args).find? param = args[i]? := by
  induction params generalizing args i with
  | nil => exact nomatch hparam
  | cons first params ih =>
    obtain ⟨hfirst, hparams⟩ := List.nodup_cons.mp h
    cases args with
    | nil => rfl
    | cons arg args =>
      have hcons : (ofParams (first :: params) (arg :: args)).find? param =
          ((ofParams params args).find? param).or ([(first, arg)].lookup param) := by
        rw [find?, ofParams, ofList, List.zip_cons_cons, List.reverse_cons, List.lookup_append]
        rfl
      rw [hcons]
      cases i with
      | zero =>
        obtain rfl : first = param := Option.some.inj hparam
        simp [find?_ofParams_of_notMem hfirst]
      | succ i =>
        have hne : param ≠ first := by
          rintro rfl
          exact hfirst (List.mem_of_getElem? hparam)
        have hskip : (param == first) = false := by simpa using hne
        rw [ih hparams args hparam, List.lookup_cons, hskip]
        exact Option.or_none

/-! ### The traversal -/

/-- What a donor implements, with the arguments of a reference to it put in. -/
def DonorBank.parents (bank : DonorBank) (ref : TypeRef) : List TypeRef :=
  bank.interfaces.map (·.substitute (.ofParams bank.typeParams ref.args))

namespace DonorRegistry

open DeclWeave.Graph (fresh)

variable {r : DonorRegistry} {visited visited' : List String} {ref : TypeRef}
  {refs rest : List TypeRef}

/-- The references by which the donors that are not visited are first reached, depth-first. -/
def preorder (r : DonorRegistry) (visited : List String) (refs : List TypeRef) : List TypeRef :=
  match refs with
  | [] => []
  | ref :: rest =>
    if _hv : ref.name ∈ visited then r.preorder visited rest
    else
      match _h : r.find? ref.name with
      | none => r.preorder visited rest
      | some bank =>
        let inner := r.preorder (ref.name :: visited) (bank.parents ref)
        ref :: (inner ++ r.preorder (inner.map (·.name) ++ ref.name :: visited) rest)
termination_by ((fresh r.names visited).length, refs.length)
decreasing_by
  · exact Prod.Lex.right _ (by simp)
  · exact Prod.Lex.right _ (by simp)
  · exact Prod.Lex.left _ _
      (Graph.fresh_length_lt_cons (Graph.mem_fresh.mpr ⟨mem_names_of_find? _h, _hv⟩))
  · exact Prod.Lex.left _ _ (Graph.fresh_length_lt
      (fun _ hseen => List.mem_append_right _ (List.mem_cons_of_mem _ hseen))
      (Graph.mem_fresh.mpr ⟨mem_names_of_find? _h, _hv⟩)
      (List.mem_append_right _ List.mem_cons_self))

/-- The donor that a reference names, with the arguments of the reference; none if it is
rejected. -/
def donor? (r : DonorRegistry) (ref : TypeRef) : Option Donor :=
  match r.find? ref.name with
  | none => none
  | some bank => if bank.rejected then none else some ⟨bank, .ofParams bank.typeParams ref.args⟩

/-- The references on the paths from some given ones through what donors implement. -/
inductive Reaches (r : DonorRegistry) (refs : List TypeRef) : TypeRef → Prop where
  | given {ref : TypeRef} : ref ∈ refs → Reaches r refs ref
  | parent {child parent : TypeRef} {bank : DonorBank} : Reaches r refs child →
      r.find? child.name = some bank → parent ∈ bank.interfaces →
        Reaches r refs (parent.substitute (.ofParams bank.typeParams child.args))

/-- A donor bears the name under which it is found. -/
theorem name_of_find? {name : String} {bank : DonorBank} (h : r.find? name = some bank) :
    bank.name = name := by
  simpa using List.find?_some h

theorem donor?_eq_some_iff {d : Donor} : r.donor? ref = some d ↔
    r.find? ref.name = some d.bank ∧ d.bank.rejected = false ∧
      d.bindings = .ofParams d.bank.typeParams ref.args := by
  rw [donor?]
  cases hfind : r.find? ref.name with
  | none => simp
  | some bank =>
    dsimp only
    cases hrejected : bank.rejected with
    | true =>
      simp only [if_true, reduceCtorEq, Option.some.injEq, false_iff, not_and]
      rintro rfl hfalse
      exact absurd (hrejected.symm.trans hfalse) Bool.noConfusion
    | false =>
      simp only [Bool.false_eq_true, if_false, Option.some.injEq]
      constructor
      · rintro rfl
        exact ⟨rfl, hrejected, rfl⟩
      · rintro ⟨rfl, -, hbindings⟩
        rw [← hbindings]

theorem chainFrom_cons_of_find? {bank : DonorBank} (hv : ref.name ∉ visited)
    (h : r.find? ref.name = some bank) : r.chainFrom visited (ref :: rest) =
      (r.donor? ref).toList ++ r.chainFrom (ref.name :: visited) (bank.parents ref ++ rest) := by
  rw [chainFrom_of_find? hv h, donor?, h]
  dsimp only
  split <;> rfl

/-- Only whether donors are visited counts, in whatever order and whatever else is. -/
theorem chainFrom_congr_visited
    (h : ∀ name bank, r.find? name = some bank → (name ∈ visited ↔ name ∈ visited')) :
    r.chainFrom visited refs = r.chainFrom visited' refs := by
  fun_induction chainFrom r visited refs generalizing visited' with
  | case1 visited => rw [chainFrom]
  | case2 visited ref rest hv ih =>
    cases hfind : r.find? ref.name with
    | none => rw [chainFrom_of_find?_eq_none hfind, ih h]
    | some bank => rw [chainFrom_of_mem_visited ((h _ _ hfind).mp hv), ih h]
  | case3 visited ref rest hv hnone ih => rw [chainFrom_of_find?_eq_none hnone, ih h]
  | case4 visited ref rest hv bank hbank bindings parents =>
    rename_i ih
    have hv' : ref.name ∉ visited' := fun hmem => hv ((h _ _ hbank).mpr hmem)
    rw [chainFrom_of_find? hv' hbank, ih fun name bank' hbank' => ?_]
    rw [List.mem_cons, List.mem_cons, h name bank' hbank']

/-- **On the stack, what is above comes first**: what lies below is traversed when all that is
above has been, without what was seen there. -/
theorem chainFrom_append (r : DonorRegistry) (visited : List String) (refs rest : List TypeRef) :
    r.chainFrom visited (refs ++ rest) = (r.preorder visited refs).filterMap r.donor? ++
      r.chainFrom ((r.preorder visited refs).map (·.name) ++ visited) rest := by
  fun_induction preorder r visited refs generalizing rest with
  | case1 visited => rfl
  | case2 visited ref refs hv ih => rw [List.cons_append, chainFrom_of_mem_visited hv, ih]
  | case3 visited ref refs hv hnone ih =>
    rw [List.cons_append, chainFrom_of_find?_eq_none hnone, ih]
  | case4 visited ref refs hv bank hbank inner ihInner ihRest =>
    have hseen : r.chainFrom ((r.preorder (inner.map (·.name) ++ ref.name :: visited) refs).map
        (·.name) ++ (inner.map (·.name) ++ ref.name :: visited)) rest =
          r.chainFrom ((ref :: (inner ++ r.preorder (inner.map (·.name) ++ ref.name :: visited)
            refs)).map (·.name) ++ visited) rest := by
      refine chainFrom_congr_visited fun name _ _ => ?_
      simp only [List.map_cons, List.map_append, List.mem_append, List.mem_cons, List.cons_append]
      tauto
    have hhead : (ref :: (inner ++ r.preorder (inner.map (·.name) ++ ref.name :: visited)
        refs)).filterMap r.donor? = (r.donor? ref).toList ++ (inner.filterMap r.donor? ++
          (r.preorder (inner.map (·.name) ++ ref.name :: visited) refs).filterMap r.donor?) := by
      rw [List.filterMap_cons, List.filterMap_append]
      cases r.donor? ref <;> rfl
    rw [List.cons_append, chainFrom_cons_of_find? hv hbank, ihInner, ihRest, hseen, hhead]
    simp only [List.append_assoc, inner]

/-! ### What is traversed -/

/-- What is traversed is not visited before. -/
theorem name_notMem_of_mem_preorder (h : ref ∈ r.preorder visited refs) : ref.name ∉ visited := by
  fun_induction preorder r visited refs with
  | case1 => exact absurd h List.not_mem_nil
  | case2 visited first rest hv ih => exact ih h
  | case3 visited first rest hv hnone ih => exact ih h
  | case4 visited first rest hv bank hbank inner ihInner ihRest =>
    rcases List.mem_cons.mp h with rfl | h
    · exact hv
    · rcases List.mem_append.mp h with h | h
      · exact fun hmem => ihInner h (List.mem_cons_of_mem _ hmem)
      · exact fun hmem => ihRest h (List.mem_append_right _ (List.mem_cons_of_mem _ hmem))

/-- **No name is traversed twice.** -/
theorem nodup_preorder (r : DonorRegistry) (visited : List String) (refs : List TypeRef) :
    ((r.preorder visited refs).map (·.name)).Nodup := by
  fun_induction preorder r visited refs with
  | case1 => exact List.nodup_nil
  | case2 visited ref rest hv ih => exact ih
  | case3 visited ref rest hv hnone ih => exact ih
  | case4 visited ref rest hv bank hbank inner ihInner ihRest =>
    -- What comes later is new after `ref` and after all that is inside it.
    have hlater : ∀ later ∈ r.preorder (inner.map (·.name) ++ ref.name :: visited) rest,
        later.name ∉ inner.map (·.name) ∧ later.name ≠ ref.name := by
      intro later hlater
      have hnew := name_notMem_of_mem_preorder hlater
      rw [List.mem_append, List.mem_cons, not_or, not_or] at hnew
      exact ⟨hnew.1, hnew.2.1⟩
    rw [List.map_cons, List.map_append, List.nodup_cons]
    refine ⟨fun hmem => ?_, List.nodup_append.mpr ⟨ihInner, ihRest, ?_⟩⟩
    · rcases List.mem_append.mp hmem with hmem | hmem
      · obtain ⟨later, hlater, hname⟩ := List.mem_map.mp hmem
        exact name_notMem_of_mem_preorder hlater (hname ▸ List.mem_cons_self)
      · obtain ⟨later, hmem, hname⟩ := List.mem_map.mp hmem
        exact (hlater later hmem).2 hname
    · rintro name hname _ hname' rfl
      obtain ⟨later, hmem, rfl⟩ := List.mem_map.mp hname'
      exact (hlater later hmem).1 hname

/-- What is traversed lies on a path from what is given, with arguments put in along the path. -/
theorem reaches_of_mem_preorder {given : List TypeRef} (hrefs : ∀ ref ∈ refs, r.Reaches given ref)
    (h : ref ∈ r.preorder visited refs) : r.Reaches given ref := by
  fun_induction preorder r visited refs with
  | case1 => exact absurd h List.not_mem_nil
  | case2 visited first rest hv ih => exact ih (List.forall_mem_cons.mp hrefs).2 h
  | case3 visited first rest hv hnone ih => exact ih (List.forall_mem_cons.mp hrefs).2 h
  | case4 visited first rest hv bank hbank inner ihInner ihRest =>
    obtain ⟨hfirst, hrest⟩ := List.forall_mem_cons.mp hrefs
    rcases List.mem_cons.mp h with rfl | h
    · exact hfirst
    · rcases List.mem_append.mp h with h | h
      · refine ihInner (fun parent hparent => ?_) h
        obtain ⟨declared, hdeclared, rfl⟩ := List.mem_map.mp hparent
        exact .parent hfirst hbank hdeclared
      · exact ihRest hrest h

/-! ### The loop -/

/-- What the loop has at hand: the names seen, the stack of references with its top first, and the
donors found. -/
structure Walk where
  visited : List String
  pending : List TypeRef
  found : List Donor

/-- One round of the loop. -/
def advance (r : DonorRegistry) (w : Walk) : Walk :=
  match w.pending with
  | [] => w
  | ref :: rest =>
    if ref.name ∈ w.visited then { w with pending := rest }
    else
      match r.find? ref.name with
      | none => { w with visited := ref.name :: w.visited, pending := rest }
      | some bank =>
        { visited := ref.name :: w.visited
          pending := bank.parents ref ++ rest
          found := w.found ++ (r.donor? ref).toList }

/-- **A round of the loop** changes nothing about what will have been found in the end. -/
theorem found_append_chainFrom_advance (r : DonorRegistry) (w : Walk) :
    (r.advance w).found ++ r.chainFrom (r.advance w).visited (r.advance w).pending =
      w.found ++ r.chainFrom w.visited w.pending := by
  obtain ⟨visited, pending, found⟩ := w
  cases pending with
  | nil => rfl
  | cons ref rest =>
    rw [advance]
    dsimp only
    by_cases hv : ref.name ∈ visited
    · rw [if_pos hv, chainFrom_of_mem_visited hv]
    · rw [if_neg hv]
      cases hfind : r.find? ref.name with
      | none =>
        rw [chainFrom_of_find?_eq_none hfind]
        dsimp only
        refine congrArg (found ++ ·) (chainFrom_congr_visited fun name bank hbank => ?_)
        have hne : name ≠ ref.name := by
          rintro rfl
          exact nomatch hfind.symm.trans hbank
        rw [List.mem_cons, or_iff_right hne]
      | some bank =>
        rw [chainFrom_cons_of_find? hv hfind]
        exact List.append_assoc _ _ _

/-- What is on the stack, with what the donors not seen yet can put on it. -/
def potential (r : DonorRegistry) (w : Walk) : ℕ :=
  w.pending.length + ((r.banks.filter (·.name ∉ w.visited)).flatMap (·.interfaces)).length

/-- A donor that is seen takes with it what it puts on the stack. -/
theorem length_unseen_add_le {bank : DonorBank} {banks : List DonorBank} (h : bank ∈ banks)
    (hnew : bank.name ∉ visited) :
    ((banks.filter (·.name ∉ bank.name :: visited)).flatMap (·.interfaces)).length +
        bank.interfaces.length ≤
      ((banks.filter (·.name ∉ visited)).flatMap (·.interfaces)).length := by
  have hfilter : banks.filter (·.name ∉ bank.name :: visited) =
      (banks.filter (·.name ∉ visited)).filter (·.name != bank.name) := by
    rw [List.filter_filter]
    refine List.filter_congr fun b _ => ?_
    simp [bne, Bool.beq_eq_decide_eq]
  have hmem : bank ∈ (banks.filter (·.name ∉ visited)).filter (!·.name != bank.name) :=
    List.mem_filter.mpr ⟨List.mem_filter.mpr ⟨h, by simpa using hnew⟩, by simp⟩
  -- The donors not seen before are those of other names and those of this one.
  have hparts := ((List.filter_append_perm (·.name != bank.name)
    (banks.filter (·.name ∉ visited))).flatMap_right (·.interfaces)).length_eq
  obtain ⟨above, below, hsplit⟩ := List.append_of_mem hmem
  rw [hsplit] at hparts
  simp only [List.flatMap_append, List.flatMap_cons, List.length_append] at hparts
  rw [hfilter]
  omega

/-- **A round of the loop** leaves less to do. -/
theorem potential_advance_lt {w : Walk} (h : w.pending ≠ []) :
    r.potential (r.advance w) < r.potential w := by
  obtain ⟨visited, pending, found⟩ := w
  obtain ⟨ref, rest, rfl⟩ := List.exists_cons_of_ne_nil h
  rw [advance]
  dsimp only
  by_cases hv : ref.name ∈ visited
  · rw [if_pos hv]
    simp [potential]
  · rw [if_neg hv]
    cases hfind : r.find? ref.name with
    | none =>
      have hsame : r.banks.filter (·.name ∉ ref.name :: visited) =
          r.banks.filter (·.name ∉ visited) := by
        refine List.filter_congr fun bank hbank => ?_
        have hne : bank.name ≠ ref.name := by
          simpa using List.find?_eq_none.mp hfind bank hbank
        simp [hne]
      simp only [potential, hsame, List.length_cons]
      omega
    | some bank =>
      have hname := name_of_find? hfind
      have hle := length_unseen_add_le (List.mem_of_find?_eq_some hfind) (hname ▸ hv)
      rw [hname] at hle
      simp only [potential, DonorBank.parents, List.length_append, List.length_map,
        List.length_cons]
      omega

/-- **The loop ends**: its stack is empty after as many rounds as there was to do. -/
theorem pending_iterate_advance {n : ℕ} {w : Walk} (h : r.potential w ≤ n) :
    (r.advance^[n] w).pending = [] := by
  induction n generalizing w with
  | zero =>
    have hlength : w.pending.length = 0 := by
      rw [potential] at h
      omega
    exact List.length_eq_zero_iff.mp hlength
  | succ n ih =>
    by_cases hpending : w.pending = []
    · have hfixed : r.advance w = w := by rw [advance, hpending]
      rw [Function.iterate_fixed hfixed, hpending]
    · rw [Function.iterate_succ_apply]
      have hlt := potential_advance_lt (r := r) hpending
      exact ih (by omega)

/-- What will have been found in the end is settled in every round. -/
theorem found_append_chainFrom_iterate (r : DonorRegistry) (w : Walk) (n : ℕ) :
    (r.advance^[n] w).found ++ r.chainFrom (r.advance^[n] w).visited (r.advance^[n] w).pending =
      w.found ++ r.chainFrom w.visited w.pending := by
  induction n generalizing w with
  | zero => rfl
  | succ n ih => rw [Function.iterate_succ_apply, ih, found_append_chainFrom_advance]

/-- **What the loop has found** when its stack is empty is what was still to be found at first. -/
theorem found_iterate_advance {n : ℕ} {w : Walk} (h : r.potential w ≤ n) :
    (r.advance^[n] w).found = w.found ++ r.chainFrom w.visited w.pending := by
  have hfound := found_append_chainFrom_iterate r w n
  rwa [pending_iterate_advance h, chainFrom, List.append_nil] at hfound

/-! ### The chain -/

/-- Rounds that are enough for any walk: one for each reference that is given or declared. -/
def rounds (r : DonorRegistry) (refs : List TypeRef) : ℕ :=
  refs.length + (r.banks.flatMap (·.interfaces)).length

theorem potential_start (r : DonorRegistry) (refs : List TypeRef) :
    r.potential ⟨[], refs, []⟩ = r.rounds refs := by
  simp [potential, rounds]

/-- The chain is what the traversal meets, without what is rejected. -/
theorem chain_eq_filterMap_preorder (r : DonorRegistry) (refs : List TypeRef) :
    r.chain refs = (r.preorder [] refs).filterMap r.donor? := by
  have happend := r.chainFrom_append [] refs []
  rwa [List.append_nil, chainFrom, List.append_nil] at happend

/-- The names of donors on a chain are names of the traversal, in its order. -/
theorem map_name_filterMap_donor?_sublist (r : DonorRegistry) (refs : List TypeRef) :
    ((refs.filterMap r.donor?).map (·.bank.name)).Sublist (refs.map (·.name)) := by
  induction refs with
  | nil => exact .slnil
  | cons ref refs ih =>
    rw [List.filterMap_cons]
    cases hdonor : r.donor? ref with
    | none => exact ih.cons _
    | some d =>
      rw [List.map_cons, List.map_cons, name_of_find? (donor?_eq_some_iff.mp hdonor).1]
      exact ih.cons_cons _

/-- **Donor chains.** The loop over the stack of references ends within a number of rounds known
beforehand, whatever circles there are among the donors, and then it has found the chain. The
chain is the depth-first traversal of the donors, without those that are rejected; no donor is on
it twice; and the parameters of each are bound by position to the arguments of the reference by
which the traversal first reaches it, which has the arguments of the path there put in. -/
theorem chain_eq_preorder (r : DonorRegistry) (refs : List TypeRef) :
    (r.advance^[r.rounds refs] ⟨[], refs, []⟩).pending = [] ∧
    (r.advance^[r.rounds refs] ⟨[], refs, []⟩).found = r.chain refs ∧
    r.chain refs = (r.preorder [] refs).filterMap r.donor? ∧
    ((r.chain refs).map (·.bank.name)).Nodup ∧
    ∀ d ∈ r.chain refs, ∃ ref ∈ r.preorder [] refs, r.Reaches refs ref ∧
      r.find? ref.name = some d.bank ∧ d.bank.rejected = false ∧
        d.bindings = .ofParams d.bank.typeParams ref.args := by
  have hrounds := (r.potential_start refs).le
  have hchain := r.chain_eq_filterMap_preorder refs
  refine ⟨pending_iterate_advance hrounds, found_iterate_advance hrounds, hchain, ?_, ?_⟩
  · rw [hchain]
    exact (r.nodup_preorder [] refs).sublist (r.map_name_filterMap_donor?_sublist _)
  · intro d hd
    rw [hchain] at hd
    obtain ⟨ref, href, hdonor⟩ := List.mem_filterMap.mp hd
    exact ⟨ref, href, reaches_of_mem_preorder (fun _ => .given) href,
      donor?_eq_some_iff.mp hdonor⟩

/-- A donor without members. -/
def emptyBank (name : String) (typeParams : List String) (interfaces : List TypeRef)
    (rejected : Bool) : DonorBank :=
  { name, typeParams, interfaces, span := {}, members := [], demands := [], rejected }

/-- `Coll` and `Seq` implement each other, with an argument that grows in each round. `Base` is
reached through `Seq` first, and a second time through `Bag`, which is rejected. -/
def grownCircle : DonorRegistry :=
  ⟨[emptyBank "Coll" ["T"] [⟨"Seq", [.named "T"]⟩, ⟨"Bag", [.named "T"]⟩] false,
    emptyBank "Seq" ["X"] [⟨"Coll", [⟨"List", [.named "X"]⟩]⟩, ⟨"Base", [.named "X"]⟩] false,
    emptyBank "Bag" ["Y"] [⟨"Base", [⟨"List", [.named "Y"]⟩]⟩, .named "Extra"] true,
    emptyBank "Base" ["U"] [] false,
    emptyBank "Extra" [] [] false]⟩

/-- The way through `Seq` decides what `Base` is given, and what is behind `Bag` is reached. -/
theorem chain_grownCircle :
    (grownCircle.chain [⟨"Coll", [.named "Int"]⟩]).map
        (fun d => (d.bank.name, d.bindings.entries)) =
      [("Coll", [("T", .named "Int")]), ("Seq", [("X", .named "Int")]),
        ("Base", [("U", .named "Int")]), ("Extra", [])] := by
  obtain ⟨-, hfound, -⟩ := chain_eq_preorder grownCircle [⟨"Coll", [.named "Int"]⟩]
  rw [← hfound]
  rfl

end DonorRegistry

end DeclWeave
