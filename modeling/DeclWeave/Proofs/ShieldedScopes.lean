import DeclWeave.Body.Scope
import DeclWeave.Body.TailReturn
import Mathlib.Data.List.Basic

/-!
# Scopes Behind Shields

The names in a body are checked before its shields are taken off, and taking them off can change
what the body binds: a shield may stand where the head of a list, the parameters of a function or a
case of a switch would be looked at. Where no shield stands in such a place, the body without
shields uses no name that it did not use before, and binds all that it did.

## Main results

* `Form.keeps_of_keepsScopes`: with its shields off, such a form uses no more names.
* `Form.unresolvedNames_stripShields_subset`: and none that does not resolve.
-/

namespace DeclWeave.Form

/-! ### Shields that scopes can see -/

/-- Whether a form is shielded. -/
def isShield : Form → Bool
  | .seq .round [.atom (.sym "no-sugar") _, _] _ => true
  | _ => false

/-- Whether no shield stands at the head of a list with the given elements, in the place of a
function's parameters or of a switch's case. -/
def opensPlain : List Form → Bool
  | .atom (.sym head) _ :: args =>
    (head != "fn" || !args.head?.any isShield) && (head != "switch" || !args.tail.any isShield)
  | f :: _ => !f.isShield
  | [] => true

mutual

/-- Whether no shield of a form changes what the form binds. -/
def keepsScopes : Form → Bool
  | .atom _ _ => true
  | .seq b items _ => (b == .square || opensPlain items) && keepsScopesAll items

/-- Whether no shield of some forms changes what they bind. -/
def keepsScopesAll : List Form → Bool
  | [] => true
  | f :: fs => keepsScopes f && keepsScopesAll fs

end

theorem keepsScopesAll_iff {fs : List Form} :
    keepsScopesAll fs = true ↔ ∀ f ∈ fs, f.keepsScopes = true := by
  induction fs with
  | nil => simp [keepsScopesAll]
  | cons f fs ih => simp [keepsScopesAll, ih]

/-! ### Taking shields off -/

theorem stripShieldsAll_eq_map (fs : List Form) : stripShieldsAll fs = fs.map stripShields := by
  induction fs with
  | nil => rfl
  | cons f fs ih => rw [stripShieldsAll, ih, List.map_cons]

theorem exists_of_isShield {items : List Form} {s : Span}
    (h : isShield (.seq .round items s) = true) :
    ∃ h inner, items = [.atom (.sym shieldHead) h, inner] := by
  rw [isShield.eq_def] at h
  split at h
  · rename_i heq
    exact ⟨_, _, (Form.seq.inj heq).2.1⟩
  · contradiction

/-- A form that is not shielded keeps its shape. -/
theorem stripShields_seq {b : Bracket} {items : List Form} {s : Span}
    (h : isShield (.seq b items s) = false) :
    (Form.seq b items s).stripShields = .seq b (items.map stripShields) s := by
  rw [← stripShieldsAll_eq_map, stripShields.eq_def]
  split
  · exact absurd ‹_› (by simp)
  · rename_i heq
    obtain ⟨rfl, rfl, -⟩ := Form.seq.inj heq
    exact absurd h (by simp [isShield])
  · rename_i heq
    obtain ⟨rfl, rfl, rfl⟩ := Form.seq.inj heq
    rfl

/-- A vector is never a shield. -/
theorem stripShields_square (items : List Form) (s : Span) :
    (Form.seq .square items s).stripShields = .seq .square (items.map stripShields) s :=
  stripShields_seq rfl

/-- What opens plainly is a `case` or a `default` as long as its shields are on. -/
theorem isCase_map_stripShields {items : List Form} (h : opensPlain items = true) :
    isCase (items.map stripShields) = isCase items := by
  match items with
  | [] => rfl
  | .atom a _ :: _ => rw [List.map_cons, stripShields]; cases a <;> rfl
  | .seq b inner s :: _ =>
    have hf : isShield (.seq b inner s) = false := by simpa [opensPlain] using h
    rw [List.map_cons, stripShields_seq hf]
    rfl

/-! ### What is bound -/

theorem subset_bind (locals : List String) (f : Form) : locals ⊆ bind locals f := by
  rw [bind.eq_def]
  split
  · exact List.subset_cons_self _ _
  · exact List.subset_cons_self _ _
  · exact List.Subset.refl _

variable {locals locals' : List String}

theorem bind_subset (hlocals : locals ⊆ locals') (f : Form) :
    bind locals f ⊆ bind locals' f.stripShields := by
  rw [bind.eq_def]
  split
  · exact List.cons_subset_cons _ hlocals
  · refine List.Subset.trans (List.cons_subset_cons _ hlocals) ?_
    rw [stripShields_square, List.map_cons, stripShields]
    exact List.Subset.refl _
  · exact List.Subset.trans hlocals (subset_bind locals' _)

theorem foldl_bind_subset (hlocals : locals ⊆ locals') (params : List Form) :
    params.foldl bind locals ⊆ (params.map stripShields).foldl bind locals' := by
  induction params generalizing locals locals' with
  | nil => exact hlocals
  | cons f fs ih =>
    rw [List.map_cons, List.foldl_cons, List.foldl_cons]
    exact ih (bind_subset hlocals f)

/-- With shields taken off, no more names are used, and no fewer are bound. -/
structure Covers (found found' : List String × List String) : Prop where
  names_subset : found'.1 ⊆ found.1
  locals_subset : found.2 ⊆ found'.2

variable {found found' : List String × List String} {names names' : List String}
  {f : Form} {fs : List Form}

theorem Covers.enclosed (h : Covers found found') (hlocals : locals ⊆ locals') :
    Covers (Form.enclosed locals found) (Form.enclosed locals' found') :=
  ⟨h.names_subset, hlocals⟩

theorem Covers.append (hnames : names' ⊆ names) (h : Covers found found') :
    Covers (names ++ found.1, found.2) (names' ++ found'.1, found'.2) := by
  refine ⟨fun name hname => ?_, h.locals_subset⟩
  rcases List.mem_append.mp hname with hname | hname
  · exact List.mem_append_left _ (hnames hname)
  · exact List.mem_append_right _ (h.names_subset hname)

theorem Covers.nil (hlocals : locals ⊆ locals') : Covers ([], locals) ([], locals') :=
  ⟨List.Subset.refl _, hlocals⟩

/-- A name that is bound is not used, and stays so where more is bound. -/
theorem unbound_subset (hlocals : locals ⊆ locals') (name : String) :
    (if locals'.contains name then [] else [name]) ⊆
      if locals.contains name then [] else [name] := by
  by_cases hname : name ∈ locals
  · simp [hname, hlocals hname]
  · rw [if_neg (c := locals.contains name = true) (by simpa using hname)]
    split
    · exact List.nil_subset _
    · exact List.Subset.refl _

/-- A form covers what it becomes, whatever is bound around it. -/
def Keeps (f : Form) : Prop :=
  ∀ ⦃locals locals' : List String⦄, locals ⊆ locals' →
    Covers (freeNames locals f) (freeNames locals' f.stripShields)

theorem keeps_atom (a : Atom) (s : Span) : (Form.atom a s).Keeps := by
  intro locals locals' hlocals
  rw [stripShields]
  cases a with
  | sym name =>
    rw [freeNames, freeNames]
    exact ⟨unbound_subset hlocals name, hlocals⟩
  | _ => simpa only [freeNames] using Covers.nil hlocals

/-! ### The parts of a list

Each lemma is about the elements after a head that binds in its own way. -/

theorem covers_freeNamesAll (hfs : ∀ f ∈ fs, f.Keeps) (hlocals : locals ⊆ locals') :
    Covers (freeNamesAll locals fs) (freeNamesAll locals' (fs.map stripShields)) := by
  induction fs generalizing locals locals' with
  | nil =>
    rw [List.map_nil, freeNamesAll, freeNamesAll]
    exact .nil hlocals
  | cons f fs ih =>
    obtain ⟨hf, hfs⟩ := List.forall_mem_cons.mp hfs
    rw [List.map_cons, freeNamesAll, freeNamesAll]
    exact .append (hf hlocals).names_subset (ih hfs (hf hlocals).locals_subset)

theorem covers_freeNamesVar (hfs : ∀ f ∈ fs, f.Keeps) (hlocals : locals ⊆ locals') :
    Covers (freeNamesVar locals fs) (freeNamesVar locals' (fs.map stripShields)) := by
  cases fs with
  | nil => simpa only [List.map_nil, freeNamesVar] using Covers.nil hlocals
  | cons binder init =>
    have hinit := covers_freeNamesAll (List.forall_mem_cons.mp hfs).2 hlocals
    rw [List.map_cons, freeNamesVar, freeNamesVar]
    exact ⟨hinit.names_subset, bind_subset hinit.locals_subset binder⟩

/-- The parameters stay in their place unless they are shielded. -/
theorem covers_freeNamesFn (hfs : ∀ f ∈ fs, f.Keeps) (hhead : fs.head?.any isShield = false)
    (hlocals : locals ⊆ locals') :
    Covers (freeNamesFn locals fs) (freeNamesFn locals' (fs.map stripShields)) := by
  have hall := covers_freeNamesAll hfs hlocals
  match fs with
  | [] => simpa only [List.map_nil, freeNamesFn] using hall
  | .seq .square params s :: body =>
    rw [List.map_cons, stripShields_square, freeNamesFn, freeNamesFn]
    exact covers_freeNamesAll (List.forall_mem_cons.mp hfs).2 (foldl_bind_subset hlocals params)
  | .atom a s :: body =>
    simpa only [List.map_cons, stripShields, freeNamesFn] using hall
  | .seq .round items s :: body =>
    have hf : isShield (.seq .round items s) = false := by simpa using hhead
    simpa only [List.map_cons, stripShields_seq hf, freeNamesFn] using hall

theorem covers_freeNamesFor (hfs : ∀ f ∈ fs, f.Keeps) (hlocals : locals ⊆ locals') :
    Covers (freeNamesFor locals fs) (freeNamesFor locals' (fs.map stripShields)) := by
  match fs with
  | [] | [_] =>
    simpa only [List.map_cons, List.map_nil, freeNamesFor] using covers_freeNamesAll hfs hlocals
  | binder :: source :: body =>
    obtain ⟨-, hsource, hbody⟩ := by simpa only [List.forall_mem_cons] using hfs
    have hafter := (hsource hlocals).locals_subset
    have hcovers := covers_freeNamesAll hbody (bind_subset hafter binder)
    rw [List.map_cons, List.map_cons, freeNamesFor, freeNamesFor]
    exact ⟨(Covers.append (hsource hlocals).names_subset hcovers).names_subset, hafter⟩

theorem covers_freeNamesFirst (hfs : ∀ f ∈ fs, f.Keeps) (hlocals : locals ⊆ locals') :
    Covers (freeNamesFirst locals fs) (freeNamesFirst locals' (fs.map stripShields)) := by
  cases fs with
  | nil => simpa only [List.map_nil, freeNamesFirst] using Covers.nil hlocals
  | cons target _ =>
    rw [List.map_cons, freeNamesFirst, freeNamesFirst]
    exact hfs target List.mem_cons_self hlocals

theorem covers_freeNamesInvoke (hfs : ∀ f ∈ fs, f.Keeps) (hlocals : locals ⊆ locals') :
    Covers (freeNamesInvoke locals fs) (freeNamesInvoke locals' (fs.map stripShields)) := by
  match fs with
  | [] | [_] =>
    simpa only [List.map_cons, List.map_nil, freeNamesInvoke] using covers_freeNamesAll hfs hlocals
  | target :: _ :: args =>
    obtain ⟨htarget, -, hargs⟩ := by simpa only [List.forall_mem_cons] using hfs
    rw [List.map_cons, List.map_cons, freeNamesInvoke, freeNamesInvoke]
    exact .append (htarget hlocals).names_subset
      (covers_freeNamesAll hargs (htarget hlocals).locals_subset)

theorem covers_freeNamesRest (hfs : ∀ f ∈ fs, f.Keeps) (hlocals : locals ⊆ locals') :
    Covers (freeNamesRest locals fs) (freeNamesRest locals' (fs.map stripShields)) := by
  cases fs with
  | nil => simpa only [List.map_nil, freeNamesRest] using Covers.nil hlocals
  | cons _ rest =>
    rw [List.map_cons, freeNamesRest, freeNamesRest]
    exact covers_freeNamesAll (List.forall_mem_cons.mp hfs).2 hlocals

/-- The elements of a sequence. -/
def elements : Form → List Form
  | .atom _ _ => []
  | .seq _ items _ => items

theorem opensPlain_of_keepsScopes {items : List Form} {s : Span}
    (h : keepsScopes (.seq .round items s) = true) : opensPlain items = true := by
  rw [keepsScopes, Bool.and_eq_true, Bool.or_eq_true] at h
  exact h.1.resolve_left (by decide)

/-- A case stays one unless it is shielded, or its head is. -/
theorem covers_freeNamesCases (hfs : ∀ f ∈ fs, f.Keeps)
    (hinner : ∀ f ∈ fs, ∀ g ∈ f.elements, g.Keeps) (hplain : ∀ f ∈ fs, f.isShield = false)
    (hscopes : ∀ f ∈ fs, f.keepsScopes = true) (hlocals : locals ⊆ locals') :
    Covers (freeNamesCases locals fs) (freeNamesCases locals' (fs.map stripShields)) := by
  induction fs generalizing locals locals' with
  | nil =>
    rw [List.map_nil, freeNamesCases, freeNamesCases]
    exact .nil hlocals
  | cons f fs ih =>
    rw [List.forall_mem_cons] at hfs hinner hplain hscopes
    have hf := hfs.1 hlocals
    cases f with
    | atom a s =>
      have hmore := Covers.append hf.names_subset
        (ih hfs.2 hinner.2 hplain.2 hscopes.2 hf.locals_subset)
      simpa only [List.map_cons, stripShields, freeNamesCases] using hmore
    | seq b items s =>
      cases b with
      | square =>
        have hmore := Covers.append hf.names_subset
          (ih hfs.2 hinner.2 hplain.2 hscopes.2 hf.locals_subset)
        simpa only [List.map_cons, stripShields_square, freeNamesCases] using hmore
      | round =>
        have hopens : opensPlain items = true := opensPlain_of_keepsScopes hscopes.1
        rw [stripShields_seq hplain.1, freeNames, freeNames] at hf
        rw [List.map_cons, stripShields_seq hplain.1, freeNamesCases, freeNamesCases,
          isCase_map_stripShields hopens]
        cases isCase items with
        | true =>
          have hcase := (covers_freeNamesRest hinner.1 hlocals).enclosed hlocals
          exact .append hcase.names_subset (ih hfs.2 hinner.2 hplain.2 hscopes.2 hlocals)
        | false =>
          exact .append hf.names_subset (ih hfs.2 hinner.2 hplain.2 hscopes.2 hf.locals_subset)

theorem covers_freeNamesSwitch (hfs : ∀ f ∈ fs, f.Keeps)
    (hinner : ∀ f ∈ fs, ∀ g ∈ f.elements, g.Keeps) (hplain : fs.tail.any isShield = false)
    (hscopes : ∀ f ∈ fs, f.keepsScopes = true) (hlocals : locals ⊆ locals') :
    Covers (freeNamesSwitch locals fs) (freeNamesSwitch locals' (fs.map stripShields)) := by
  cases fs with
  | nil => simpa only [List.map_nil, freeNamesSwitch] using Covers.nil hlocals
  | cons subject cases =>
    rw [List.forall_mem_cons] at hfs hinner hscopes
    have hsubject := hfs.1 hlocals
    have hcases : ∀ f ∈ cases, f.isShield = false := by simpa using hplain
    rw [List.map_cons, freeNamesSwitch, freeNamesSwitch]
    exact .append hsubject.names_subset
      (covers_freeNamesCases hfs.2 hinner.2 hcases hscopes.2 hsubject.locals_subset)

/-! ### Whole forms -/

/-- A shield binds nothing of its own. -/
theorem freeNames_shield (locals : List String) (h s : Span) (inner : Form) :
    freeNames locals (.seq .round [.atom (.sym shieldHead) h, inner] s) =
      freeNames locals inner := by
  simp [freeNames, freeNamesList, freeNamesAll, shieldHead, plainHeads]

/-- A list whose head is a symbol binds as its head says, with its shields on and off. -/
theorem covers_freeNamesList_sym {head : String} {s : Span} (hfs : ∀ f ∈ fs, f.Keeps)
    (hinner : ∀ f ∈ fs, ∀ g ∈ f.elements, g.Keeps) (hscopes : ∀ f ∈ fs, f.keepsScopes = true)
    (hplain : opensPlain (.atom (.sym head) s :: fs) = true) (hlocals : locals ⊆ locals') :
    Covers (freeNamesList locals (.atom (.sym head) s :: fs))
      (freeNamesList locals' (.atom (.sym head) s :: fs.map stripShields)) := by
  simp only [opensPlain, Bool.and_eq_true, Bool.or_eq_true, bne_iff_ne, Bool.not_eq_true'] at hplain
  have hall := covers_freeNamesAll hfs hlocals
  rw [freeNamesList, freeNamesList]
  split_ifs with hdo hvar hfn hfor hget hinvoke hswitch hplainHead hbound hbound'
  · exact hall.enclosed hlocals
  · exact covers_freeNamesVar hfs hlocals
  · have hhead : fs.head?.any isShield = false := hplain.1.resolve_left (absurd hfn)
    exact (covers_freeNamesFn hfs hhead hlocals).enclosed hlocals
  · exact covers_freeNamesFor hfs hlocals
  · exact covers_freeNamesFirst hfs hlocals
  · exact covers_freeNamesInvoke hfs hlocals
  · have htail : fs.tail.any isShield = false := hplain.2.resolve_left (absurd hswitch)
    exact covers_freeNamesSwitch hfs hinner htail hscopes hlocals
  · exact hall
  -- a call uses its head unless that is bound
  all_goals
    have hcall := Covers.append (unbound_subset hlocals head) hall
    simp only [*, if_true, if_false, Bool.false_eq_true] at hcall
    exact hcall

theorem covers_freeNamesList (hfs : ∀ f ∈ fs, f.Keeps)
    (hinner : ∀ f ∈ fs, ∀ g ∈ f.elements, g.Keeps) (hscopes : ∀ f ∈ fs, f.keepsScopes = true)
    (hplain : opensPlain fs = true) (hlocals : locals ⊆ locals') :
    Covers (freeNamesList locals fs) (freeNamesList locals' (fs.map stripShields)) := by
  have hall := covers_freeNamesAll hfs hlocals
  match fs with
  | [] => simpa only [List.map_nil, freeNamesList] using Covers.nil hlocals
  | .atom (.sym head) s :: args =>
    rw [List.forall_mem_cons] at hfs hinner hscopes
    rw [List.map_cons, stripShields]
    exact covers_freeNamesList_sym hfs.2 hinner.2 hscopes.2 hplain hlocals
  | .atom .nil s :: args | .atom (.bool _) s :: args | .atom (.int _) s :: args
  | .atom (.float _) s :: args | .atom (.str _) s :: args | .atom (.keyword _) s :: args =>
    simpa only [List.map_cons, stripShields, freeNamesList, freeNamesAll] using hall
  | .seq b items s :: args =>
    have hf : isShield (.seq b items s) = false := by simpa [opensPlain] using hplain
    simpa only [List.map_cons, stripShields_seq hf, freeNamesList, freeNamesAll] using hall

theorem keeps_seq {b : Bracket} {s : Span} (hfs : ∀ f ∈ fs, f.Keeps)
    (hinner : ∀ f ∈ fs, ∀ g ∈ f.elements, g.Keeps)
    (hscopes : keepsScopes (.seq b fs s) = true) : (Form.seq b fs s).Keeps := by
  intro locals locals' hlocals
  have hall := covers_freeNamesAll hfs hlocals
  cases b with
  | square => simpa only [stripShields_square, freeNames] using hall
  | round =>
    cases hshield : isShield (.seq .round fs s) with
    | false =>
      have hitems := hscopes
      rw [keepsScopes, Bool.and_eq_true, keepsScopesAll_iff] at hitems
      rw [stripShields_seq hshield, freeNames, freeNames]
      exact covers_freeNamesList hfs hinner hitems.2 (opensPlain_of_keepsScopes hscopes) hlocals
    | true =>
      obtain ⟨h, inner, rfl⟩ := exists_of_isShield hshield
      have hcovers : Covers (freeNames locals inner) (freeNames locals' inner.stripShields) :=
        hfs inner (by simp) hlocals
      rwa [freeNames_shield, shieldHead, stripShields]

mutual

theorem keeps_of_keepsScopes : ∀ {f : Form}, f.keepsScopes = true →
    f.Keeps ∧ ∀ g ∈ f.elements, g.Keeps
  | .atom a s, _ => ⟨keeps_atom a s, fun _ hg => absurd hg (List.not_mem_nil)⟩
  | .seq b items s, h => by
    have hitems :=
      keepsAll_of_keepsScopesAll (Bool.and_eq_true_iff.mp (by rwa [keepsScopes] at h)).2
    have hfs : ∀ f ∈ items, f.Keeps := fun f hf => (hitems f hf).1
    exact ⟨keeps_seq hfs (fun f hf => (hitems f hf).2) h, hfs⟩

theorem keepsAll_of_keepsScopesAll : ∀ {fs : List Form}, keepsScopesAll fs = true →
    ∀ f ∈ fs, f.Keeps ∧ ∀ g ∈ f.elements, g.Keeps
  | [], _ => fun _ hf => absurd hf (List.not_mem_nil)
  | f :: fs, h => by
    rw [keepsScopesAll, Bool.and_eq_true] at h
    exact List.forall_mem_cons.mpr ⟨keeps_of_keepsScopes h.1, keepsAll_of_keepsScopesAll h.2⟩

end

/-- A body that keeps its scopes has no more unresolved names without its shields. -/
theorem unresolvedNames_stripShields_subset {params : List String} {visible : String → Bool}
    {body : Form} (h : body.keepsScopes = true) :
    unresolvedNames params visible body.stripShields ⊆ unresolvedNames params visible body := by
  intro name hname
  simp only [unresolvedNames, List.mem_eraseDups, List.mem_filter] at hname ⊢
  have hkeeps := (keeps_of_keepsScopes h).1 (List.Subset.refl params)
  exact ⟨hkeeps.names_subset hname.1, hname.2⟩

end DeclWeave.Form
