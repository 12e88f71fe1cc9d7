import DeclWeave.Form.Walk
import DeclWeave.Proofs.InitializedStorage
import DeclWeave.Proofs.ShieldedScopes

/-!
# Accesses of Computed Fields

A field loses its storage where all its accessors are given and none of them mentions it. Mentions
are looked for in the expressions as they were written. The bodies that are emitted have returns
inserted and shields taken off, so an access of the field in a body comes from a list that may be
shielded in any of its three places.

Behind a shielded head or a shielded member the search still meets the name of the field as a bare
symbol. Behind a shielded receiver it does not: `(get (no-sugar this) f)` has the member slot of an
access to another object, which does not count, and becomes `(get this f)`. So a body without
storage accesses its field exactly where its expression has a list of this kind.

## Main results

* `Form.hasNode_stripShields`, `Form.hasNode_insertReturns`: where the nodes of a finished body
  come from.
* `Form.hasNode_isAccess_finish`: the accesses of a member in a body that was not found to
  mention it.
* `PropertySpec.accesses_iff_of_not_hasStorage`: the accesses of a field without storage.
-/

namespace DeclWeave

namespace Form

/-! ### Nodes -/

/-- Some node of a form, at whatever depth, has a property. -/
def HasNode (p : Form → Prop) (f : Form) : Prop :=
  ∃ node ∈ f.nodes, p node.2

instance (p : Form → Prop) [DecidablePred p] (f : Form) : Decidable (HasNode p f) :=
  inferInstanceAs (Decidable (∃ node ∈ f.nodes, p node.2))

variable {p q : Form → Prop} {f : Form} {member : String}

mutual

/-- A node is there at whatever depth the walk begins. -/
theorem exists_nodesAt_iff (depth : ℕ) :
    ∀ (f : Form) (start : ℕ), (∃ node ∈ nodesAt start f, p node.2) ↔
      ∃ node ∈ nodesAt depth f, p node.2
  | .atom a s, start => by simp [nodesAt]
  | .seq b items s, start => by
    simp only [nodesAt, List.mem_cons, exists_eq_or_imp]
    exact or_congr_right (exists_nodesOfAll_iff (depth + 1) items (start + 1))

theorem exists_nodesOfAll_iff (depth : ℕ) :
    ∀ (fs : List Form) (start : ℕ), (∃ node ∈ nodesOfAll start fs, p node.2) ↔
      ∃ node ∈ nodesOfAll depth fs, p node.2
  | [], start => by simp [nodesOfAll]
  | f :: fs, start => by
    simp only [nodesOfAll, List.mem_append, or_and_right, exists_or]
    exact or_congr (exists_nodesAt_iff depth f start) (exists_nodesOfAll_iff depth fs start)

end

theorem exists_nodesOfAll_iff_hasNode (depth : ℕ) {fs : List Form} :
    (∃ node ∈ nodesOfAll depth fs, p node.2) ↔ ∃ f ∈ fs, HasNode p f := by
  induction fs with
  | nil => simp [nodesOfAll]
  | cons f fs ih =>
    simp only [nodesOfAll, List.mem_append, List.mem_cons, or_and_right, exists_or, exists_eq_left]
    rw [ih, HasNode, nodes, exists_nodesAt_iff 0 f depth]

@[simp] theorem hasNode_atom {a : Atom} {s : Span} : HasNode p (.atom a s) ↔ p (.atom a s) := by
  simp [HasNode, nodes, nodesAt]

theorem hasNode_seq {b : Bracket} {items : List Form} {s : Span} :
    HasNode p (.seq b items s) ↔ p (.seq b items s) ∨ ∃ f ∈ items, HasNode p f := by
  rw [HasNode, nodes, nodesAt, ← exists_nodesOfAll_iff_hasNode (0 + 1)]
  simp only [List.mem_cons, exists_eq_or_imp]

/-! ### Where the nodes of a finished body come from -/

mutual

/-- **Without shields**, a form has the nodes that were no shields, with their own shields off. -/
theorem hasNode_stripShields (hatom : ∀ a s, ¬p (.atom a s)) : ∀ f : Form,
    HasNode p f.stripShields ↔ HasNode (fun g => g.isShield = false ∧ p g.stripShields) f
  | .atom a s => by simp [stripShields, hatom]
  | .seq b items s => by
    have hitems := hasNode_stripShieldsAll hatom items
    cases hshield : isShield (.seq b items s) with
    | false => rw [stripShields_seq hshield, hasNode_seq, hasNode_seq, hitems, hshield,
        stripShields_seq hshield, and_iff_right rfl]
    | true =>
      cases b with
      | square => exact absurd hshield (by simp [isShield])
      | round =>
        obtain ⟨t, inner, rfl⟩ := exists_of_isShield hshield
        rw [hasNode_seq, hshield, ← hitems]
        simp [shieldHead, stripShields, hatom]

theorem hasNode_stripShieldsAll (hatom : ∀ a s, ¬p (.atom a s)) : ∀ fs : List Form,
    (∃ f ∈ fs.map stripShields, HasNode p f) ↔
      ∃ f ∈ fs, HasNode (fun g => g.isShield = false ∧ p g.stripShields) f
  | [] => by simp
  | f :: fs => by
    rw [List.map_cons, List.exists_mem_cons_iff, List.exists_mem_cons_iff,
      hasNode_stripShields hatom f, hasNode_stripShieldsAll hatom fs]

end

/-- The heads of the lists that insertion of returns makes, or changes an element of. -/
def returningHeads : List String := ["return", "do", "if", "switch", "case", "default"]

/-- A property that no atom has, and no list with such a head. -/
structure IgnoresReturns (q : Form → Prop) : Prop where
  atom : ∀ a s, ¬q (.atom a s)
  list : ∀ head ∈ returningHeads, ∀ h rest s, ¬q (.list (.sym head h :: rest) s)

namespace IgnoresReturns

variable (hq : IgnoresReturns q)

include hq

theorem hasNode_list {head : String} (hhead : head ∈ returningHeads) {h s : Span}
    {rest : List Form} : HasNode q (.list (.sym head h :: rest) s) ↔ ∃ f ∈ rest, HasNode q f := by
  rw [Form.list, hasNode_seq, List.exists_mem_cons_iff, Form.sym, hasNode_atom]
  exact (or_iff_right (hq.list head hhead h rest s)).trans (or_iff_right (hq.atom _ _))

theorem hasNode_ret {s : Span} : HasNode q (ret f s) ↔ HasNode q f := by
  rw [ret, call, hq.hasNode_list (by decide)]
  simp

end IgnoresReturns

mutual

/-- **With returns inserted**, a form has the same nodes of such a property. -/
theorem hasNode_insertReturns (hq : IgnoresReturns q) : ∀ f : Form,
    HasNode q f.insertReturns ↔ HasNode q f
  | .atom a s => by
    cases a with
    | nil =>
      rw [insertReturns, call, hq.hasNode_list (by decide), hasNode_atom]
      simp [hq.atom]
    | bool value => exact hq.hasNode_ret
    | int n => exact hq.hasNode_ret
    | float x => exact hq.hasNode_ret
    | str text => exact hq.hasNode_ret
    | sym name => exact hq.hasNode_ret
    | keyword name => exact hq.hasNode_ret
  | .seq .square items s => hq.hasNode_ret
  | .seq .round [] s => hq.hasNode_ret
  | .seq .round (.seq b items t :: rest) s => hq.hasNode_ret
  | .seq .round (.atom a t :: rest) s => by
    cases a with
    | sym head =>
      rw [insertReturns]
      split_ifs with hdo hif hswitch
      · rw [hq.hasNode_list (by simp [hdo, returningHeads]), hasNode_returnLast hq]
        exact (hq.hasNode_list (by simp [hdo, returningHeads])).symm
      · rw [hq.hasNode_list (by simp [hif, returningHeads]), hasNode_returnBranches hq]
        exact (hq.hasNode_list (by simp [hif, returningHeads])).symm
      · rw [hq.hasNode_list (by simp [hswitch, returningHeads]), hasNode_returnCases hq]
        exact (hq.hasNode_list (by simp [hswitch, returningHeads])).symm
      · rfl
      · exact hq.hasNode_ret
    | nil => exact hq.hasNode_ret
    | bool value => exact hq.hasNode_ret
    | int n => exact hq.hasNode_ret
    | float x => exact hq.hasNode_ret
    | str text => exact hq.hasNode_ret
    | keyword name => exact hq.hasNode_ret

theorem hasNode_returnLast (hq : IgnoresReturns q) : ∀ fs : List Form,
    (∃ f ∈ returnLast fs, HasNode q f) ↔ ∃ f ∈ fs, HasNode q f
  | [] => by simp [returnLast]
  | [f] => by simp [returnLast, hasNode_insertReturns hq f]
  | f :: g :: rest => by
    rw [returnLast, List.exists_mem_cons_iff, List.exists_mem_cons_iff (l := g :: rest),
      hasNode_returnLast hq (g :: rest)]

theorem hasNode_returnBranches (hq : IgnoresReturns q) : ∀ fs : List Form,
    (∃ f ∈ returnBranches fs, HasNode q f) ↔ ∃ f ∈ fs, HasNode q f
  | [] => by simp [returnBranches]
  | [f] => by simp [returnBranches]
  | [f, yes] => by simp [returnBranches, hasNode_insertReturns hq yes]
  | f :: yes :: no :: rest => by
    simp [returnBranches, hasNode_insertReturns hq yes, hasNode_insertReturns hq no]

theorem hasNode_returnCases (hq : IgnoresReturns q) : ∀ fs : List Form,
    (∃ f ∈ returnCases fs, HasNode q f) ↔ ∃ f ∈ fs, HasNode q f
  | [] => by simp [returnCases]
  | f :: fs => by
    rw [returnCases, List.exists_mem_cons_iff, List.exists_mem_cons_iff,
      hasNode_returnEachCase hq fs]

theorem hasNode_returnEachCase (hq : IgnoresReturns q) : ∀ fs : List Form,
    (∃ f ∈ returnEachCase fs, HasNode q f) ↔ ∃ f ∈ fs, HasNode q f
  | [] => by simp [returnEachCase]
  | .atom a s :: rest => by
    rw [returnEachCase, List.exists_mem_cons_iff, List.exists_mem_cons_iff,
      hasNode_returnEachCase hq rest]
    simp
  | .seq .square items s :: rest => by
    rw [returnEachCase, List.exists_mem_cons_iff, List.exists_mem_cons_iff,
      hasNode_returnEachCase hq rest]
    simp
  | .seq .round items s :: rest => by
    rw [returnEachCase, List.exists_mem_cons_iff, List.exists_mem_cons_iff,
      hasNode_returnEachCase hq rest, hasNode_returnCase hq items s]

theorem hasNode_returnCase (hq : IgnoresReturns q) : ∀ (fs : List Form) (s : Span),
    HasNode q (.seq .round (returnCase fs) s) ↔ HasNode q (.seq .round fs s)
  | [], s => by rw [returnCase]; simp
  | .seq _ _ _ :: rest, s => by rw [returnCase]; simp
  | .atom a t :: rest, s => by
    cases a with
    | sym head =>
      rw [returnCase]
      split_ifs with hcase hdefault
      · exact (hq.hasNode_list (by simp [hcase, returningHeads])).trans
          ((hasNode_returnAfterFirst hq rest).trans
            (hq.hasNode_list (by simp [hcase, returningHeads])).symm)
      · exact (hq.hasNode_list (by simp [hdefault, returningHeads])).trans
          ((hasNode_returnLast hq rest).trans
            (hq.hasNode_list (by simp [hdefault, returningHeads])).symm)
      · rfl
    | nil => rfl
    | bool value => rfl
    | int n => rfl
    | float x => rfl
    | str text => rfl
    | keyword name => rfl

theorem hasNode_returnAfterFirst (hq : IgnoresReturns q) : ∀ fs : List Form,
    (∃ f ∈ returnAfterFirst fs, HasNode q f) ↔ ∃ f ∈ fs, HasNode q f
  | [] => by simp [returnAfterFirst]
  | f :: fs => by
    rw [returnAfterFirst, List.exists_mem_cons_iff, List.exists_mem_cons_iff,
      hasNode_returnLast hq fs]

end

/-! ### Accesses -/

/-- Whether a form accesses a member of the receiver. -/
def isAccess (member : String) : Form → Bool
  | .list [head, receiver, slot] _ =>
    head.isSymbol "get" && receiver.isSymbol "this" && slot.isSymbol member
  | _ => false

/-- Whether a form accesses a member of the receiver, with shields on the receiver. -/
def isShieldedAccess (member : String) : Form → Bool
  | .list [head, receiver, slot] _ =>
    head.isSymbol "get" && (receiver.isShield && receiver.stripShields.isSymbol "this") &&
      slot.isSymbol member
  | _ => false

theorem isSymbol_iff {name : String} :
    f.isSymbol name = true ↔ ∃ s, f = .atom (.sym name) s := by
  rw [isSymbol, beq_iff_eq, symbol?.eq_def]
  split
  · simp
  · rename_i hsym
    simpa using fun s => hsym name s

theorem exists_of_isAccess (h : f.isAccess member = true) : ∃ head receiver slot s,
    f = .seq .round [head, receiver, slot] s ∧ head.isSymbol "get" = true ∧
      receiver.isSymbol "this" = true ∧ slot.isSymbol member = true := by
  rw [isAccess.eq_def] at h
  split at h
  · simp only [Bool.and_eq_true] at h
    exact ⟨_, _, _, _, rfl, h.1.1, h.1.2, h.2⟩
  · exact absurd h (by simp)

theorem exists_of_isShieldedAccess (h : f.isShieldedAccess member = true) :
    ∃ head receiver slot s, f = .seq .round [head, receiver, slot] s ∧
      head.isSymbol "get" = true ∧ receiver.isShield = true ∧
      receiver.stripShields.isSymbol "this" = true ∧ slot.isSymbol member = true := by
  rw [isShieldedAccess.eq_def] at h
  split at h
  · simp only [Bool.and_eq_true] at h
    exact ⟨_, _, _, _, rfl, h.1.1, h.1.2.1, h.1.2.2, h.2⟩
  · exact absurd h (by simp)

/-- Whether a form is an access once its shields are off. -/
def BecomesAccess (member : String) (f : Form) : Prop :=
  f.isShield = false ∧ f.stripShields.isAccess member = true

/-- A list becomes an access if each of its three places does its part. -/
theorem becomesAccess_iff : f.BecomesAccess member ↔ ∃ head receiver slot s,
    f = .seq .round [head, receiver, slot] s ∧ head.stripShields.isSymbol "get" = true ∧
      receiver.stripShields.isSymbol "this" = true ∧ slot.stripShields.isSymbol member = true := by
  constructor
  · rintro ⟨hshield, haccess⟩
    obtain ⟨head, receiver, slot, s, hstrip, hhead, hreceiver, hslot⟩ := exists_of_isAccess haccess
    cases f with
    | atom a t =>
      rw [stripShields] at hstrip
      exact absurd hstrip (by simp)
    | seq b items t =>
      rw [stripShields_seq hshield] at hstrip
      obtain ⟨rfl, hitems, rfl⟩ := Form.seq.inj hstrip
      obtain ⟨head', receiver', slot', rfl⟩ : ∃ x y z, items = [x, y, z] :=
        List.length_eq_three.mp (by simpa using congrArg List.length hitems)
      simp only [List.map_cons, List.map_nil, List.cons.injEq, and_true] at hitems
      obtain ⟨rfl, rfl, rfl⟩ := hitems
      exact ⟨head', receiver', slot', t, rfl, hhead, hreceiver, hslot⟩
  · rintro ⟨head, receiver, slot, s, rfl, hhead, hreceiver, hslot⟩
    have hshield : (seq .round [head, receiver, slot] s).isShield = false := by simp [isShield]
    refine ⟨hshield, ?_⟩
    rw [stripShields_seq hshield]
    simp [isAccess, hhead, hreceiver, hslot]

theorem ignoresReturns_becomesAccess (member : String) : IgnoresReturns (BecomesAccess member) where
  atom a s h := by
    obtain ⟨head, receiver, slot, t, heq, -⟩ := becomesAccess_iff.mp h
    exact absurd heq (by simp)
  list head hhead t rest s h := by
    obtain ⟨head', receiver, slot, t', heq, hget, -⟩ := becomesAccess_iff.mp h
    obtain ⟨-, hitems, -⟩ := Form.seq.inj heq
    obtain ⟨rfl, -⟩ := List.cons.inj hitems
    rw [sym, stripShields] at hget
    obtain ⟨_, hsym⟩ := isSymbol_iff.mp hget
    simp only [Form.atom.injEq, Atom.sym.injEq] at hsym
    rw [hsym.1] at hhead
    exact absurd hhead (by decide)

/-! ### Mentions -/

theorem mentionsAny_iff {name : String} {fs : List Form} :
    mentionsAny name fs = true ↔ ∃ f ∈ fs, f.mentions name = true := by
  induction fs with
  | nil => simp [mentionsAny]
  | cons f fs ih => simp [mentionsAny, ih]

/-- A list that is no access through a symbol mentions what its elements mention. -/
theorem mentions_of_mem {name : String} {b : Bracket} {items : List Form} {s : Span}
    (hf : f ∈ items) (hseq : f.symbol? = none) (h : f.mentions name = true) :
    (seq b items s).mentions name = true := by
  have hany : mentionsAny name items = true := mentionsAny_iff.mpr ⟨f, hf, h⟩
  rw [mentions.eq_def]
  split
  · rename_i heq; exact absurd heq (by simp)
  · rename_i heq; exact absurd heq (by simp)
  · rename_i heq
    obtain ⟨-, rfl, -⟩ := Form.seq.inj heq
    exact hany
  · rename_i head receiver member t rest s' heq
    obtain ⟨-, rfl, -⟩ := Form.seq.inj heq
    have hplace : f = head ∨ f = receiver ∨ f ∈ rest := by
      rcases List.mem_cons.mp hf with hhead | hf
      · exact .inl hhead
      rcases List.mem_cons.mp hf with hreceiver | hf
      · exact .inr (.inl hreceiver)
      rcases List.mem_cons.mp hf with rfl | hrest
      · exact absurd hseq (by simp [symbol?])
      · exact .inr (.inr hrest)
    split_ifs with hget
    · rcases hplace with rfl | rfl | hrest
      · simp [isSymbol, hseq] at hget
      · simp [h]
      · simp [mentionsAny_iff.mpr ⟨f, hrest, h⟩]
    · rcases hplace with rfl | rfl | hrest
      · simp [h]
      · simp [h]
      · simp [mentionsAny_iff.mpr ⟨f, hrest, h⟩]
  · rename_i heq
    obtain ⟨-, rfl, -⟩ := Form.seq.inj heq
    exact hany

/-- A symbol is mentioned behind its shields. -/
theorem mentions_of_isSymbol_stripShields {name : String} : ∀ {f : Form},
    f.stripShields.isSymbol name = true → f.mentions name = true
  | .atom a s, h => by
    rw [stripShields] at h
    obtain ⟨_, heq⟩ := isSymbol_iff.mp h
    obtain ⟨rfl, -⟩ := Form.atom.inj heq
    simp [mentions]
  | .seq b items s, h => by
    cases hshield : isShield (.seq b items s) with
    | false =>
      rw [stripShields_seq hshield] at h
      exact absurd h (by simp [isSymbol, symbol?])
    | true =>
      cases b with
      | square => exact absurd hshield (by simp [isShield])
      | round =>
        obtain ⟨t, inner, rfl⟩ := exists_of_isShield hshield
        rw [shieldHead, stripShields] at h
        have hinner := mentions_of_isSymbol_stripShields h
        simp [mentions, mentionsAny, hinner]

theorem HasNode.mono (h : HasNode p f) (hpq : ∀ g, p g → q g) : HasNode q f := by
  obtain ⟨node, hnode, hp⟩ := h
  exact ⟨node, hnode, hpq _ hp⟩

mutual

/-- The lists in a form that does not mention a name do not mention it either. -/
theorem HasNode.of_not_mentions {name : String} (hatom : ∀ a s, ¬p (.atom a s)) : ∀ {f : Form},
    HasNode p f → f.mentions name = false → HasNode (fun g => p g ∧ g.mentions name = false) f
  | .atom a s, h, _ => absurd (hasNode_atom.mp h) (hatom a s)
  | .seq b items s, h, hf => by
    rw [hasNode_seq] at h ⊢
    refine h.imp (fun hroot => ⟨hroot, hf⟩) fun hitem => ?_
    refine HasNode.exists_of_not_mentions hatom hitem fun f hmem hsymbol => ?_
    rw [Bool.eq_false_iff] at hf ⊢
    exact fun hmentions => hf (mentions_of_mem hmem hsymbol hmentions)

theorem HasNode.exists_of_not_mentions {name : String} (hatom : ∀ a s, ¬p (.atom a s)) :
    ∀ {fs : List Form}, (∃ f ∈ fs, HasNode p f) →
      (∀ f ∈ fs, f.symbol? = none → f.mentions name = false) →
        ∃ f ∈ fs, HasNode (fun g => p g ∧ g.mentions name = false) f
  | [], h, _ => absurd h (by simp)
  | .atom a s :: fs, h, hfs => by
    rw [List.exists_mem_cons_iff] at h ⊢
    refine .inr (HasNode.exists_of_not_mentions hatom (h.resolve_left fun hnode => ?_)
      fun f hf => hfs f (List.mem_cons_of_mem _ hf))
    exact hatom a s (hasNode_atom.mp hnode)
  | .seq b items s :: fs, h, hfs => by
    rw [List.exists_mem_cons_iff] at h ⊢
    refine h.imp (fun hnode => ?_) fun hrest => ?_
    · exact HasNode.of_not_mentions hatom hnode (hfs _ List.mem_cons_self rfl)
    · exact HasNode.exists_of_not_mentions hatom hrest fun f hf =>
        hfs f (List.mem_cons_of_mem _ hf)

end

/-- A form keeps being a symbol when its shields are taken off, or it has one. -/
theorem isSymbol_or_isShield {name : String} (h : f.stripShields.isSymbol name = true) :
    f.isSymbol name = true ∨ f.isShield = true := by
  cases f with
  | atom a s =>
    rw [stripShields] at h
    exact .inl h
  | seq b items s =>
    cases hshield : isShield (.seq b items s) with
    | true => exact .inr rfl
    | false =>
      rw [stripShields_seq hshield] at h
      exact absurd h (by simp [isSymbol, symbol?])

theorem stripShields_of_isSymbol {name : String} (h : f.isSymbol name = true) :
    f.stripShields.isSymbol name = true := by
  obtain ⟨s, rfl⟩ := isSymbol_iff.mp h
  rwa [stripShields]

theorem becomesAccess_of_isShieldedAccess (h : f.isShieldedAccess member = true) :
    f.BecomesAccess member := by
  obtain ⟨head, receiver, slot, s, rfl, hhead, -, hreceiver, hslot⟩ := exists_of_isShieldedAccess h
  exact becomesAccess_iff.mpr ⟨head, receiver, slot, s, rfl, stripShields_of_isSymbol hhead,
    hreceiver, stripShields_of_isSymbol hslot⟩

/-- **What becomes an access unmentioned** has its shields on the receiver. -/
theorem isShieldedAccess_of_becomesAccess (h : f.BecomesAccess member)
    (hf : f.mentions member = false) : f.isShieldedAccess member = true := by
  obtain ⟨head, receiver, slot, s, rfl, hhead, hreceiver, hslot⟩ := becomesAccess_iff.mp h
  -- A shielded member is mentioned behind its shields.
  have hmember : slot.isSymbol member = true := by
    rcases isSymbol_or_isShield hslot with hsymbol | hshield
    · exact hsymbol
    · have hnone : slot.symbol? = none := by
        cases slot with
        | atom a t => exact absurd hshield (by simp [isShield])
        | seq b items t => rfl
      have hmentions : (seq .round [head, receiver, slot] s).mentions member = true :=
        mentions_of_mem (by simp) hnone (mentions_of_isSymbol_stripShields hslot)
      exact absurd hmentions (by simp [hf])
  obtain ⟨t, rfl⟩ := isSymbol_iff.mp hmember
  rw [mentions] at hf
  -- Behind a shielded head, the member slot is a symbol like others.
  have hget : head.isSymbol "get" = true := by
    rcases isSymbol_or_isShield hhead with hsymbol | hshield
    · exact hsymbol
    · cases head with
      | atom a t => exact absurd hshield (by simp [isShield])
      | seq b items t => simp [isSymbol, symbol?] at hf
  rw [if_pos (by simp [hget])] at hf
  simp only [beq_self_eq_true, Bool.and_true, Bool.or_eq_false_iff] at hf
  have hshield : receiver.isShield = true :=
    (isSymbol_or_isShield hreceiver).resolve_left (by simp [hf.1.1])
  simp [isShieldedAccess, hget, hshield, hreceiver, hmember]

/-- **Accesses in a finished body.** Where an expression was not found to mention a member, its body
accesses it just if the expression has a list that does so with shields on the receiver. -/
theorem hasNode_isAccess_finish (hf : f.mentions member = false) (optedOut : Bool) :
    HasNode (·.isAccess member = true) (f.finish optedOut) ↔
      HasNode (·.isShieldedAccess member = true) f := by
  have hatom : ∀ a s, ¬(Form.atom a s).isAccess member = true := by simp [isAccess]
  have hignores := ignoresReturns_becomesAccess member
  have hfinish : HasNode (·.isAccess member = true) (f.finish optedOut) ↔
      HasNode (BecomesAccess member) f := by
    rw [finish]
    split
    · exact hasNode_stripShields hatom f
    · exact (hasNode_stripShields hatom _).trans (hasNode_insertReturns hignores f)
  rw [hfinish]
  constructor
  · intro h
    refine (h.of_not_mentions hignores.atom hf).mono fun g hg => ?_
    exact isShieldedAccess_of_becomesAccess hg.1 hg.2
  · intro h
    exact h.mono fun g => becomesAccess_of_isShieldedAccess

end Form

/-! ### Fields without storage -/

namespace PropertySpec

variable {p : PropertySpec} {field a : Member} {registry : NameRegistry}

/-- Where a property has no storage, its accessors are given and do not mention it. -/
theorem exists_customBodies_of_not_hasStorage (hmode : p.mode ≠ .calculated)
    (hstorage : (p.property field).hasStorage = false) :
    ∃ bodies, p.customBodies? = some bodies ∧
      ∀ body ∈ bodies, body.mentions field.name = false := by
  rw [hasStorage_property, Bool.not_eq_false', computes] at hstorage
  cases hbodies : p.customBodies? with
  | none =>
    rw [hbodies] at hstorage
    exact absurd (beq_iff_eq.mp hstorage) hmode
  | some bodies =>
    rw [hbodies, Bool.and_eq_true, List.all_eq_true] at hstorage
    exact ⟨bodies, rfl, fun body hbody => by simpa using hstorage.2 body hbody⟩

/-- **Accesses of a field without storage.** An accessor of a readonly or readwrite field that is
left no storage has the body that was given for it. It accesses the field exactly where it was
given with shields on the receiver of an access. -/
theorem accesses_iff_of_not_hasStorage (hmode : p.mode ≠ .calculated)
    (hstorage : (p.apply field registry).field.hasStorage = false)
    (ha : a ∈ (p.apply field registry).added) :
    ∃ given body, (a.name = getterName field.name ∧ p.getter? = some given ∨
        a.name = setterName field.name ∧ p.setter? = some given) ∧ a.body = some body ∧
      (body.HasNode (·.isAccess field.name = true) ↔
        given.HasNode (·.isShieldedAccess field.name = true)) := by
  rw [field_apply] at hstorage
  obtain ⟨bodies, hbodies, hmentions⟩ := exists_customBodies_of_not_hasStorage hmode hstorage
  have hname : (field.withType field.inferredType).name = field.name := rfl
  rw [hname] at hmentions
  obtain ⟨shape, inlined⟩ := p
  cases shape with
  | calculated => exact absurd rfl hmode
  | readonly getter =>
    cases getter with
    | none => exact absurd hbodies (by simp [customBodies?])
    | some getter =>
      obtain rfl : [getter] = bodies := Option.some.inj hbodies
      obtain rfl | ⟨_, _, hshape, -⟩ := eq_of_mem_added_apply ha
      · exact ⟨getter, _, .inl ⟨rfl, rfl⟩, rfl,
          Form.hasNode_isAccess_finish (hmentions getter (by simp)) field.sugar.optOut⟩
      · exact absurd hshape (by simp)
  | readwrite getter assignment =>
    cases getter with
    | none => exact absurd hbodies (by simp [customBodies?])
    | some getter =>
      cases assignment with
      | direct => exact absurd hbodies (by simp [customBodies?])
      | guarded value => exact absurd hbodies (by simp [customBodies?])
      | custom setter =>
        obtain rfl : [getter, setter] = bodies := Option.some.inj hbodies
        obtain rfl | ⟨_, _, hshape, rfl⟩ := eq_of_mem_added_apply ha
        · exact ⟨getter, _, .inl ⟨rfl, rfl⟩, rfl,
            Form.hasNode_isAccess_finish (hmentions getter (by simp)) field.sugar.optOut⟩
        · obtain ⟨rfl, rfl⟩ := PropertyShape.readwrite.inj hshape
          exact ⟨setter, _, .inr ⟨rfl, rfl⟩, rfl,
            Form.hasNode_isAccess_finish (hmentions setter (by simp)) field.sugar.optOut⟩

/-- A field that is read through a shielded receiver, and written to another object. -/
def gaugeRequest : AccessorRequest :=
  let receiver : Form := .list [.sym shieldHead {}, .sym "this" {}] {}
  { modes := [.readwrite]
    getter := some (.get receiver "level" {})
    setter := some (.assign (.get (.sym "other" {}) "level" {}) (.sym setterParam {}) {}) }

def gaugeField : Member :=
  { Member.bareField "level" {} with directives := [.accessor gaugeRequest] }

/-- What is asked for goes together. -/
def gaugeSpec : PropertySpec :=
  ⟨.readwrite gaugeRequest.getter (.custom (gaugeRequest.setter.getD (.nil {}))), false⟩

/-- The getter accesses the field, as it was given with a shield; the setter does not. -/
theorem accesses_iff_of_not_hasStorage_gauge :
    gaugeSpec.mode ≠ .calculated ∧
    (gaugeSpec.apply gaugeField ⟨"Gauge", []⟩).field.hasStorage = false ∧
    ∃ getter setter reads writes,
      (gaugeSpec.apply gaugeField ⟨"Gauge", []⟩).added = [getter, setter] ∧
      getter.body = some reads ∧ reads.HasNode (·.isAccess "level" = true) ∧
      setter.body = some writes ∧ ¬writes.HasNode (·.isAccess "level" = true) := by
  have hmode : gaugeSpec.mode ≠ .calculated := by decide
  have hstorage : (gaugeSpec.apply gaugeField ⟨"Gauge", []⟩).field.hasStorage = false := by decide
  have hnames : (gaugeSpec.apply gaugeField ⟨"Gauge", []⟩).added.map (·.name) =
      [getterName "level", setterName "level"] := by decide
  obtain ⟨getter, setter, hadded⟩ : ∃ getter setter,
      (gaugeSpec.apply gaugeField ⟨"Gauge", []⟩).added = [getter, setter] :=
    List.length_eq_two.mp (by decide)
  simp only [hadded, List.map_cons, List.map_nil, List.cons.injEq, and_true] at hnames
  have hdiffer : getterName "level" ≠ setterName "level" := by decide
  obtain ⟨given, reads, hgiven, hreads, hget⟩ :=
    accesses_iff_of_not_hasStorage hmode hstorage (a := getter) (by simp [hadded])
  obtain ⟨given', writes, hgiven', hwrites, hset⟩ :=
    accesses_iff_of_not_hasStorage hmode hstorage (a := setter) (by simp [hadded])
  have hgetter : gaugeSpec.getter? = some given := by
    rcases hgiven with ⟨-, hgiven⟩ | ⟨hname, -⟩
    · exact hgiven
    · exact absurd (hnames.1.symm.trans hname) hdiffer
  have hsetter : gaugeSpec.setter? = some given' := by
    rcases hgiven' with ⟨hname, -⟩ | ⟨-, hgiven'⟩
    · exact absurd (hname.symm.trans hnames.2) hdiffer
    · exact hgiven'
  obtain rfl := Option.some.inj hgetter
  obtain rfl := Option.some.inj hsetter
  exact ⟨hmode, hstorage, getter, setter, reads, writes, hadded, hreads, hget.mpr (by decide),
    hwrites, mt hset.mp (by decide)⟩

/-- **Storage that is lost.** A property that is well requested is left no storage, although the
body of its getter accesses it. -/
theorem apply_losesAccessedStorage :
    PropertySpec.ofRequest gaugeField gaugeRequest = .ok gaugeSpec ∧
    gaugeSpec.mode = .readwrite ∧
    (gaugeSpec.apply gaugeField ⟨"Gauge", []⟩).field.property.map (·.storage) = some .none ∧
    ∃ getter ∈ (gaugeSpec.apply gaugeField ⟨"Gauge", []⟩).added, ∃ body,
      getter.name = getterName "level" ∧ getter.body = some body ∧
      body.text = "(return (get this level))" ∧ body.HasNode (·.isAccess "level" = true) := by
  refine ⟨by cbv, by decide, by decide, ?_⟩
  exact ⟨_, List.mem_cons_self, _, rfl, rfl, by cbv, by decide⟩

end PropertySpec

end DeclWeave
