import DeclWeave.Proofs.OpenScopes
import Mathlib.Data.List.Induction

/-!
# Names in Place

A name stands free at a place of a body if the symbol there is looked up and nothing in the body
binds it there: no scope around the place begins with it, and what is checked in the same scope
before the place does not leave it bound. `Free` says so by rules, stretch by stretch, and does not
speak of a list of locals that runs through the body.

The free names that are found are those that stand free, each as often as it does and in the order
of the places, which is that of the text. So what is unresolved depends on the names that are
visible or bound around the body only in that these are left out.

## Main results

* `inPlace_freeNames`: the free names of a form, against the places where they stand.
* `pairwise_eraseDups`: repetitions dropped, names are in the order of their first places.
* `unresolvedNames_filters`: unresolved names with more names visible or bound.
-/

namespace DeclWeave.Form

/-! ### Names that stand free -/

mutual

/-- Where a name stands free in a form. -/
inductive Free (name : String) : Form → List ℕ → Prop
  | sym (s : Span) : Free name (.atom (.sym name) s) []
  | inside {e : Form} {path : List ℕ} : FreeAlong name e.stretches path → Free name e path

/-- Where a name stands free in some stretches. -/
inductive FreeAlong (name : String) : List Stretch → List ℕ → Prop
  | here {t : Stretch} {ts : List Stretch} {path : List ℕ} :
      name ∉ t.binders → FreeAmong name t.parts path → FreeAlong name (t :: ts) path
  | later {t : Stretch} {ts : List Stretch} {path : List ℕ} :
      ¬t.Leaves name → FreeAlong name ts path → FreeAlong name (t :: ts) path

/-- Where a name stands free in the parts of a stretch that does not begin with it. -/
inductive FreeAmong (name : String) : List (List ℕ × Form) → List ℕ → Prop
  | here {step path : List ℕ} {f : Form} {parts : List (List ℕ × Form)} :
      Free name f path → FreeAmong name ((step, f) :: parts) (step ++ path)
  | later {part : List ℕ × Form} {parts : List (List ℕ × Form)} {path : List ℕ} :
      ¬part.2.Leaves name → FreeAmong name parts path → FreeAmong name (part :: parts) path

end

variable {name : String} {e : Form} {t : Stretch} {ts : List Stretch} {path : List ℕ}
  {part : List ℕ × Form} {parts : List (List ℕ × Form)}

theorem free_seq {b : Bracket} {items : List Form} {s : Span} :
    Free name (.seq b items s) path ↔ FreeAlong name (Form.seq b items s).stretches path :=
  ⟨fun h => by cases h; assumption, .inside⟩

theorem free_atom {a : Atom} {s : Span} :
    Free name (.atom a s) path ↔ a = .sym name ∧ path = [] := by
  constructor
  · intro h
    cases h with
    | sym => exact ⟨rfl, rfl⟩
    | inside h => exact absurd h (by rintro ⟨⟩)
  · rintro ⟨rfl, rfl⟩
    exact .sym s

theorem not_freeAlong_nil : ¬FreeAlong name [] path := by rintro ⟨⟩

theorem freeAlong_cons : FreeAlong name (t :: ts) path ↔
    (FreeAmong name t.parts path ∧ name ∉ t.binders) ∨
      (FreeAlong name ts path ∧ ¬t.Leaves name) := by
  constructor
  · rintro (⟨hbinders, h⟩ | ⟨hleaves, h⟩)
    · exact .inl ⟨h, hbinders⟩
    · exact .inr ⟨h, hleaves⟩
  · rintro (⟨h, hbinders⟩ | ⟨h, hleaves⟩)
    · exact .here hbinders h
    · exact .later hleaves h

theorem not_freeAmong_nil : ¬FreeAmong name [] path := by rintro ⟨⟩

theorem freeAmong_cons : FreeAmong name (part :: parts) path ↔
    (∃ rest, path = part.1 ++ rest ∧ Free name part.2 rest) ∨
      (FreeAmong name parts path ∧ ¬part.2.Leaves name) := by
  constructor
  · rintro (⟨h⟩ | ⟨hleaves, h⟩)
    · exact .inl ⟨_, rfl, h⟩
    · exact .inr ⟨h, hleaves⟩
  · rintro (⟨rest, rfl, h⟩ | ⟨h, hleaves⟩)
    · exact .here h
    · exact .later hleaves h

/-- What stands free among parts stands below the path to one of them. -/
theorem FreeAmong.exists_mem (h : FreeAmong name parts path) :
    ∃ part ∈ parts, ∃ rest, path = part.1 ++ rest ∧ Free name part.2 rest := by
  induction parts with
  | nil => exact absurd h not_freeAmong_nil
  | cons part parts ih =>
    rcases freeAmong_cons.mp h with hhere | ⟨hlater, -⟩
    · exact ⟨part, List.mem_cons_self, hhere⟩
    · obtain ⟨part', hpart', hfree⟩ := ih hlater
      exact ⟨part', List.mem_cons_of_mem _ hpart', hfree⟩

theorem FreeAlong.exists_mem (h : FreeAlong name ts path) :
    ∃ t ∈ ts, ∃ part ∈ t.parts, ∃ rest, path = part.1 ++ rest ∧ Free name part.2 rest := by
  induction ts with
  | nil => exact absurd h not_freeAlong_nil
  | cons t ts ih =>
    rcases freeAlong_cons.mp h with ⟨hhere, -⟩ | ⟨hlater, -⟩
    · exact ⟨t, List.mem_cons_self, hhere.exists_mem⟩
    · obtain ⟨t', ht', hfree⟩ := ih hlater
      exact ⟨t', List.mem_cons_of_mem _ ht', hfree⟩

/-- **What stands free is a symbol** of that name. -/
theorem Free.sub?_eq (h : Free name e path) : ∃ s, e.sub? path = some (.sym name s) := by
  induction e using induction_parts generalizing path with
  | atom a s =>
    obtain ⟨rfl, rfl⟩ := free_atom.mp h
    exact ⟨s, rfl⟩
  | seq b items s ih =>
    obtain ⟨t, ht, part, hpart, rest, rfl, hfree⟩ := (free_seq.mp h).exists_mem
    obtain ⟨i, step, hpath, hsub⟩ := sub?_of_mem_parts ht hpart
    obtain ⟨s, hrest⟩ := ih t ht part hpart hfree
    exact ⟨s, by rw [sub?_append, hsub, Option.bind_some, hrest]⟩

/-! ### Names in the order of their places -/

/-- Names in the order of the places where they stand, each as often as it does. -/
def InPlace (names : List String) (stands : String → List ℕ → Prop) : Prop :=
  ∃ found : List (List ℕ × String), found.map (·.2) = names ∧
    found.Pairwise (·.1 < ·.1) ∧ ∀ path name, (path, name) ∈ found ↔ stands name path

namespace InPlace

variable {names more : List String} {stands stands' : String → List ℕ → Prop}

theorem congr (h : InPlace names stands)
    (hstands : ∀ name path, stands' name path ↔ stands name path) : InPlace names stands' := by
  obtain ⟨found, hnames, hsorted, hfound⟩ := h
  exact ⟨found, hnames, hsorted, fun path name => (hfound path name).trans (hstands name path).symm⟩

theorem nil (h : ∀ name path, ¬stands name path) : InPlace [] stands :=
  ⟨[], rfl, .nil, fun path name => by simp [h name path]⟩

theorem append (h : InPlace names stands) (h' : InPlace more stands')
    (hbefore : ∀ name path name' path', stands name path → stands' name' path' → path < path') :
    InPlace (names ++ more) (fun name path => stands name path ∨ stands' name path) := by
  obtain ⟨found, rfl, hsorted, hfound⟩ := h
  obtain ⟨found', rfl, hsorted', hfound'⟩ := h'
  refine ⟨found ++ found', List.map_append, List.pairwise_append.mpr ⟨hsorted, hsorted', ?_⟩, ?_⟩
  · exact fun a ha b hb => hbefore a.2 a.1 b.2 b.1 ((hfound _ _).mp ha) ((hfound' _ _).mp hb)
  · intro path name
    rw [List.mem_append, hfound, hfound']

/-- Names left out, and the places where they stand. -/
theorem filter (h : InPlace names stands) (p : String → Bool) :
    InPlace (names.filter p) (fun name path => stands name path ∧ p name = true) := by
  obtain ⟨found, rfl, hsorted, hfound⟩ := h
  refine ⟨found.filter (p ·.2), ?_, hsorted.filter _, fun path name => ?_⟩
  · rw [List.filter_map]
    rfl
  · rw [List.mem_filter, hfound]

/-- The same names, a step further down. -/
theorem below (h : InPlace names stands) (step : List ℕ) :
    InPlace names (fun name path => ∃ rest, path = step ++ rest ∧ stands name rest) := by
  obtain ⟨found, rfl, hsorted, hfound⟩ := h
  refine ⟨found.map fun a => (step ++ a.1, a.2), by simp, ?_, fun path name => ?_⟩
  · exact List.pairwise_map.mpr (hsorted.imp List.append_left_lt)
  · simp only [List.mem_map, Prod.exists, Prod.mk.injEq]
    constructor
    · rintro ⟨rest, _, hmem, rfl, rfl⟩
      exact ⟨rest, rfl, (hfound _ _).mp hmem⟩
    · rintro ⟨rest, rfl, hstands⟩
      exact ⟨rest, name, (hfound _ _).mpr hstands, rfl, rfl⟩

theorem mem_iff (h : InPlace names stands) : name ∈ names ↔ ∃ path, stands name path := by
  obtain ⟨found, rfl, -, hfound⟩ := h
  simp [hfound]

end InPlace

/-! ### Free names in place -/

theorem not_contains_iff {names : List String} : (!names.contains name) = true ↔ name ∉ names := by
  simp

theorem inPlace_freeNamesAll
    (h : ∀ part ∈ parts, InPlace (freeNames [] part.2).1 fun name path => Free name part.2 path)
    (hsorted : parts.Pairwise fun a b => Precedes a.1 b.1) :
    InPlace (freeNamesAll [] (parts.map (·.2))).1 fun name path => FreeAmong name parts path := by
  induction parts with
  | nil =>
    rw [List.map_nil, freeNamesAll]
    exact .nil fun _ _ => not_freeAmong_nil
  | cons part parts ih =>
    obtain ⟨hpart, hparts⟩ := List.forall_mem_cons.mp h
    obtain ⟨hbefore, hsorted⟩ := List.pairwise_cons.mp hsorted
    have hmore : (freeNamesAll (freeNames [] part.2).2 (parts.map (·.2))).1 =
        (freeNamesAll [] (parts.map (·.2))).1.filter (!(freeNames [] part.2).2.contains ·) :=
      congrArg Prod.fst (IsRelative.all (fun f _ => f.isRelative) [] (freeNames [] part.2).2)
    rw [List.map_cons, freeNamesAll]
    dsimp only
    rw [hmore]
    refine ((hpart.below part.1).append ((ih hparts hsorted).filter _) ?_).congr ?_
    · rintro name _ name' path' ⟨rest, rfl, -⟩ ⟨hlater, -⟩
      obtain ⟨part', hpart', rest', rfl, -⟩ := hlater.exists_mem
      exact hbefore part' hpart' rest rest'
    · intro name path
      rw [not_contains_iff, mem_locals_freeNames_iff, freeAmong_cons]

theorem inPlace_check
    (h : ∀ part ∈ t.parts, InPlace (freeNames [] part.2).1 fun name path => Free name part.2 path)
    (hsorted : t.parts.Pairwise fun a b => Precedes a.1 b.1) :
    InPlace (t.check []).1 fun name path => FreeAmong name t.parts path ∧ name ∉ t.binders := by
  have hall := inPlace_freeNamesAll h hsorted
  cases t with
  | around parts => exact hall.congr fun name path => and_iff_left List.not_mem_nil
  | enclosed binders parts =>
    have hcheck : ((Stretch.enclosed binders parts).check []).1 =
        (freeNamesAll [] (parts.map (·.2))).1.filter (!binders.contains ·) := by
      rw [Stretch.check, List.append_nil]
      exact congrArg Prod.fst (IsRelative.all (fun f _ => f.isRelative) [] binders)
    rw [hcheck]
    refine (hall.filter _).congr fun name path => ?_
    rw [not_contains_iff]
    rfl

theorem inPlace_walk
    (h : ∀ t ∈ ts, ∀ part ∈ t.parts,
      InPlace (freeNames [] part.2).1 fun name path => Free name part.2 path)
    (hsorted : (ts.flatMap (·.parts)).Pairwise fun a b => Precedes a.1 b.1) :
    InPlace (walk [] ts).1 fun name path => FreeAlong name ts path := by
  induction ts with
  | nil => exact .nil fun _ _ => not_freeAlong_nil
  | cons t ts ih =>
    obtain ⟨ht, hts⟩ := List.forall_mem_cons.mp h
    rw [List.flatMap_cons] at hsorted
    obtain ⟨hsorted, hsorted', hbefore⟩ := List.pairwise_append.mp hsorted
    have hmore : (walk (t.check []).2 ts).1 =
        (walk [] ts).1.filter (!(t.check []).2.contains ·) :=
      congrArg Prod.fst (IsRelative.walk (fun _ _ part _ => part.2.isRelative) [] (t.check []).2)
    rw [walk_cons, hmore]
    refine ((inPlace_check ht hsorted).append ((ih hts hsorted').filter _) ?_).congr ?_
    · rintro name path name' path' ⟨hhere, -⟩ ⟨hlater, -⟩
      obtain ⟨part, hpart, rest, rfl, -⟩ := hhere.exists_mem
      obtain ⟨t', ht', part', hpart', rest', rfl, -⟩ := hlater.exists_mem
      exact hbefore part hpart part' (List.mem_flatMap.mpr ⟨t', ht', hpart'⟩) rest rest'
    · intro name path
      rw [not_contains_iff, mem_locals_check_iff, freeAlong_cons]

theorem inPlace_atom (a : Atom) (s : Span) :
    InPlace (freeNames [] (.atom a s)).1 fun name path => Free name (.atom a s) path := by
  cases a with
  | sym name =>
    refine ⟨[([], name)], by simp [freeNames], List.pairwise_singleton _ _, fun path name' => ?_⟩
    simp only [free_atom, List.mem_singleton, Prod.mk.injEq, Atom.sym.injEq]
    rw [and_comm, eq_comm (a := name)]
  | _ =>
    simp only [freeNames]
    exact .nil fun name path hfree => Atom.noConfusion (free_atom.mp hfree).1

/-- **The free names of a form** are those that stand free in it, in the order of their places. -/
theorem inPlace_freeNames (e : Form) :
    InPlace (freeNames [] e).1 fun name path => Free name e path := by
  induction e using induction_parts with
  | atom a s => exact inPlace_atom a s
  | seq b items s ih =>
    rw [freeNames_seq]
    exact (inPlace_walk ih (inOrder_stretches _).pairwise).congr fun _ _ => free_seq

/-! ### Repetitions -/

theorem eraseDups_concat (names : List String) (name : String) :
    (names ++ [name]).eraseDups =
      if name ∈ names then names.eraseDups else names.eraseDups ++ [name] := by
  rw [List.eraseDups_append]
  split_ifs with hname <;> simp [List.removeAll, hname, List.eraseDups_cons]

theorem nodup_eraseDups (names : List String) : names.eraseDups.Nodup := by
  induction names using List.reverseRecOn with
  | nil => exact .nil
  | append_singleton names name ih =>
    rw [eraseDups_concat]
    split_ifs with hname
    · exact ih
    · refine List.pairwise_append.mpr ⟨ih, List.pairwise_singleton _ _, fun a ha b hb => ?_⟩
      obtain rfl := List.mem_singleton.mp hb
      rintro rfl
      exact hname (List.mem_eraseDups.mp ha)

theorem eraseDups_filter (p : String → Bool) (names : List String) :
    (names.filter p).eraseDups = names.eraseDups.filter p := by
  induction names using List.reverseRecOn with
  | nil => rfl
  | append_singleton names name ih =>
    rw [List.filter_append, eraseDups_concat]
    by_cases hp : p name = true
    · rw [List.filter_singleton, hp, cond_true, eraseDups_concat]
      simp only [List.mem_filter, hp, and_true]
      split_ifs <;> simp [ih, hp]
    · split_ifs <;> simp [ih, hp]

/-- Where names stand one after another, one place of what is met first is before all places of what
is met later. -/
theorem pairwise_eraseDups {found : List (List ℕ × String)}
    (hsorted : found.Pairwise (·.1 < ·.1)) :
    (found.map (·.2)).eraseDups.Pairwise fun a b =>
      ∃ p, (p, a) ∈ found ∧ ∀ q, (q, b) ∈ found → p < q := by
  induction found using List.reverseRecOn with
  | nil => exact .nil
  | append_singleton found last ih =>
    obtain ⟨hsorted, -, hlast⟩ := List.pairwise_append.mp hsorted
    replace hlast := fun a ha => hlast a ha last (List.mem_singleton_self _)
    -- What was in order stays so, since the new place is behind all others.
    have hpairwise := (ih hsorted).imp fun {a b} ⟨p, hp, hbefore⟩ =>
      show ∃ p, (p, a) ∈ found ++ [last] ∧ ∀ q, (q, b) ∈ found ++ [last] → p < q by
        refine ⟨p, List.mem_append_left _ hp, fun q hq => ?_⟩
        rcases List.mem_append.mp hq with hq | hq
        · exact hbefore q hq
        · obtain rfl := List.mem_singleton.mp hq
          exact hlast _ hp
    rw [List.map_append, List.map_singleton, eraseDups_concat]
    split_ifs with hname
    · exact hpairwise
    · refine List.pairwise_append.mpr ⟨hpairwise, List.pairwise_singleton _ _, fun a ha b hb => ?_⟩
      obtain rfl := List.mem_singleton.mp hb
      obtain ⟨⟨p, a⟩, hp, rfl⟩ := List.mem_map.mp (List.mem_eraseDups.mp ha)
      refine ⟨p, List.mem_append_left _ hp, fun q hq => ?_⟩
      rcases List.mem_append.mp hq with hq | hq
      · exact absurd (List.mem_map_of_mem hq) hname
      · rw [← List.mem_singleton.mp hq] at hlast
        exact hlast _ hp

/-! ### Unresolved names -/

/-- Where a name stands in a body that is not resolved: it is none of the parameters, is not
visible, and stands free. -/
def Unresolved (params : List String) (visible : String → Bool) (body : Form) (name : String)
    (path : List ℕ) : Prop :=
  Free name body path ∧ name ∉ params ∧ visible name = false

theorem unresolvedNames_append (params more : List String) (visible : String → Bool) (body : Form) :
    unresolvedNames (params ++ more) visible body =
      (unresolvedNames params (fun _ => false) body).filter fun name =>
        !visible name && !more.contains name := by
  rw [unresolvedNames, unresolvedNames, body.isRelative, beyond, eraseDups_filter,
    eraseDups_filter, eraseDups_filter, List.filter_filter]
  simp

/-- With more names visible, these are left out. -/
theorem unresolvedNames_or (params : List String) (visible more : String → Bool) (body : Form) :
    unresolvedNames params (fun name => visible name || more name) body =
      (unresolvedNames params visible body).filter (!more ·) := by
  rw [unresolvedNames, unresolvedNames, ← eraseDups_filter, List.filter_filter]
  simp only [Bool.not_or, Bool.and_comm]

theorem inPlace_unresolved (params : List String) (visible : String → Bool) (body : Form) :
    InPlace ((freeNames params body).1.filter (!visible ·)) (body.Unresolved params visible) := by
  have hfree : (freeNames params body).1 =
      (freeNames [] body).1.filter (!params.contains ·) :=
    congrArg Prod.fst (body.isRelative [] params)
  rw [hfree]
  refine (((inPlace_freeNames body).filter _).filter _).congr fun name path => ?_
  rw [not_contains_iff, Bool.not_eq_true', and_assoc]
  rfl

theorem mem_unresolvedNames_iff {params : List String} {visible : String → Bool} {body : Form} :
    name ∈ unresolvedNames params visible body ↔
      ∃ path s, body.sub? path = some (.sym name s) ∧ body.Unresolved params visible name path := by
  rw [unresolvedNames, List.mem_eraseDups, (inPlace_unresolved params visible body).mem_iff]
  constructor
  · rintro ⟨path, h⟩
    obtain ⟨s, hs⟩ := h.1.sub?_eq
    exact ⟨path, s, hs, h⟩
  · rintro ⟨path, -, -, h⟩
    exact ⟨path, h⟩

theorem pairwise_unresolvedNames (params : List String) (visible : String → Bool) (body : Form) :
    (unresolvedNames params visible body).Pairwise fun a b =>
      ∃ p, body.Unresolved params visible a p ∧
        ∀ q, body.Unresolved params visible b q → p < q := by
  obtain ⟨found, hnames, hsorted, hfound⟩ := inPlace_unresolved params visible body
  rw [unresolvedNames, ← hnames]
  simpa only [hfound] using pairwise_eraseDups hsorted

/-- **What is unresolved depends on what is visible by leaving out.** With more parameters and other
names visible, the unresolved names of a body are those with nothing visible, in their order, but
for the further parameters and the visible names. None is listed twice; listed are those that stand
unresolved at some place, in the order of the first such places; and with more names visible, none
is added. -/
theorem unresolvedNames_filters (params more : List String) (visible : String → Bool)
    (body : Form) :
    let found := unresolvedNames (params ++ more) visible body
    found = (unresolvedNames params (fun _ => false) body).filter (fun name =>
        !visible name && !more.contains name) ∧
      found.Nodup ∧
      (∀ name, name ∈ found ↔ ∃ path s, body.sub? path = some (.sym name s) ∧
        body.Unresolved (params ++ more) visible name path) ∧
      found.Pairwise (fun a b => ∃ p, body.Unresolved (params ++ more) visible a p ∧
        ∀ q, body.Unresolved (params ++ more) visible b q → p < q) ∧
      ∀ visible' : String → Bool,
        (unresolvedNames (params ++ more) (fun name => visible name || visible' name) body).Sublist
          found := by
  refine ⟨unresolvedNames_append params more visible body, nodup_eraseDups _,
    fun name => mem_unresolvedNames_iff, pairwise_unresolvedNames _ visible body,
    fun visible' => ?_⟩
  rw [unresolvedNames_or]
  exact List.filter_sublist

end DeclWeave.Form
