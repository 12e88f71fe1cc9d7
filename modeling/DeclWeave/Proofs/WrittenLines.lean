import DeclWeave.Decl.Printer
import DeclWeave.Proofs.WrittenForms

/-!
# Written Lines

Declarations are printed over several lines. Their text is read as forms: the blanks that lay it out
mean nothing, so what is read is each declaration's form. `Form.told` is what the characters of a
form tell about it, which is everything but where it stands and which infinite number stands in it.

## Main results

* `Form.readAll_lines`: lines of forms, read into an open bracket.
* `Form.readAll_list_lines`: a list over several lines.
* `TypeDecl.readAll_print`: the form of a printed declaration.
* `TypeDecl.exists_readAll_eq`: the forms of printed declarations.
-/

namespace DeclWeave

/-! ### What characters tell -/

namespace Form

/-- What the characters of a form tell about it. -/
def told (f : Form) : Form :=
  f.respelled.respan {}

theorem map_respan_respelledAll (fs : List Form) :
    (respelledAll fs).map (respan {}) = fs.map told := by
  rw [respelledAll_eq_map, List.map_map]
  rfl

theorem told_seq (b : Bracket) (items : List Form) (s : Span) :
    told (.seq b items s) = .seq b (items.map told) {} := by
  rw [told, respelled, respan, respanAll_eq_map, map_respan_respelledAll]

mutual

theorem respan_respan (s t : Span) : ∀ f : Form, (f.respan t).respan s = f.respan s
  | .atom _ _ => rfl
  | .seq _ items _ => by rw [respan, respan, respan, respanAll_respanAll s t items]

theorem respanAll_respanAll (s t : Span) :
    ∀ fs : List Form, respanAll s (respanAll t fs) = respanAll s fs
  | [] => rfl
  | f :: fs => by
    rw [respanAll, respanAll, respanAll, respan_respan s t f, respanAll_respanAll s t fs]

end

/-- Forms that their characters tell all about stand nowhere in particular. -/
theorem map_respan_of_map_told {fs : List Form} (h : fs.map told = fs) :
    fs.map (respan {}) = fs := by
  have hrespan : respan {} ∘ told = told := funext fun f => respan_respan {} {} f.respelled
  rw [← h, List.map_map, hrespan]

theorem chars_told (f : Form) : f.told.chars = f.chars := by
  rw [told, chars_respan, chars_respelled]

variable {f g : Form} {s s' : Span} {a : Atom} {b : Bracket} {items : List Form}

theorem exists_of_respan_eq_atom (h : g.respan s = .atom a s') : ∃ t, g = .atom a t := by
  cases g with
  | atom a' t =>
    obtain ⟨rfl, -⟩ := Form.atom.inj h
    exact ⟨t, rfl⟩
  | seq b items t => exact absurd h (by simp [respan])

theorem exists_of_respan_eq_seq (h : g.respan s = .seq b items s') :
    ∃ items' t, g = .seq b items' t ∧ items'.map (respan s) = items := by
  cases g with
  | atom a' t => exact absurd h (by simp [respan])
  | seq b' items' t =>
    rw [respan, respanAll_eq_map] at h
    obtain ⟨rfl, rfl, -⟩ := Form.seq.inj h
    exact ⟨items', t, rfl, rfl⟩

theorem exists_of_map_respan_eq_atom_cons {gs fs : List Form}
    (h : gs.map (respan s) = .atom a s' :: fs) :
    ∃ t rest, gs = .atom a t :: rest ∧ rest.map (respan s) = fs := by
  obtain ⟨first, rest, rfl, hfirst, hrest⟩ := List.map_eq_cons_iff.mp h
  obtain ⟨t, rfl⟩ := exists_of_respan_eq_atom hfirst
  exact ⟨t, rest, rfl, hrest⟩

theorem exists_of_map_respan_eq_pair {gs : List Form}
    (h : gs.map (respan s) = [.atom a s', f]) :
    ∃ t g, gs = [.atom a t, g] ∧ g.respan s = f := by
  obtain ⟨t, rest, rfl, hrest⟩ := exists_of_map_respan_eq_atom_cons h
  obtain ⟨g, none, rfl, hg, hnone⟩ := List.map_eq_cons_iff.mp hrest
  obtain rfl := List.map_eq_nil_iff.mp hnone
  exact ⟨t, g, rfl, hg⟩

theorem keyword?_respan (s : Span) (f : Form) : (f.respan s).keyword? = f.keyword? := by
  cases f with
  | atom a t => cases a <;> rfl
  | seq b items t => rfl

theorem keyword?_told (f : Form) : f.told.keyword? = f.keyword? := by
  cases f with
  | atom a t =>
    cases a with
    | float x =>
      rw [told, respelled, Atom.respelled]
      split <;> rfl
    | nil => rfl
    | bool value => rfl
    | int n => rfl
    | str text => rfl
    | sym name => rfl
    | keyword name => rfl
  | seq b items t => rfl

theorem head?_respan (s : Span) (f : Form) : (f.respan s).head? = f.head? := by
  cases f with
  | atom a t => rfl
  | seq b items t =>
    cases b with
    | square => rfl
    | round =>
      cases items with
      | nil => rfl
      | cons f items =>
        cases f with
        | atom a t => cases a <;> rfl
        | seq b items t => rfl

/-- No number is written as the head of a block. -/
theorem head?_eq_do_of_told (h : f.told.head? = some "do") : f.head? = some "do" := by
  rw [told, head?_respan] at h
  cases f with
  | atom a t => exact absurd h (by simp [respelled, head?])
  | seq b items t =>
    cases b with
    | square => exact absurd h (by simp [respelled, head?])
    | round =>
      cases items with
      | nil => exact absurd h (by simp [respelled, respelledAll, head?])
      | cons f items =>
        cases f with
        | seq b items t => exact absurd h (by simp [respelled, respelledAll, head?])
        | atom a t =>
          cases a with
          | float x =>
            rw [respelled, respelledAll, respelled, Atom.respelled] at h
            split at h
            · cases hnegative : x.negative <;>
                exact absurd h (by simp [hnegative, head?, Decimal.signedInfinity])
            · exact absurd h (by simp [head?])
          | nil => exact h
          | bool value => exact h
          | int n => exact h
          | str text => exact h
          | sym name => exact h
          | keyword name => exact h

end Form

/-! ### Text over several lines -/

namespace Form

open Reader (Frame deliver feed)

/-- Text between forms that means nothing: no word goes on into it, and a reader goes on after
it. -/
structure IsGap (gap : List Char) : Prop where
  endsWord (rest : List Char) : EndsWord (gap ++ rest)
  readAll_append (stack : List Frame) (p : Pos) (rest : List Char) : ∃ p' : Pos,
    Reader.readAll stack (tokensFrom p (gap ++ rest)) = Reader.readAll stack (tokensFrom p' rest)

/-- A line break and a margin, which may be empty. -/
def margin (indent : Nat) : List Char :=
  '\n' :: List.replicate indent ' '

theorem isGap_margin (indent : Nat) : IsGap (margin indent) where
  endsWord rest := endsWord_cons.mpr (by decide)
  readAll_append stack p rest := by
    have hblank : ∀ c ∈ margin indent, isBlank c = true := by
      refine List.forall_mem_cons.mpr ⟨by decide, fun c hc => ?_⟩
      rw [List.eq_of_mem_replicate hc]
      decide
    exact ⟨_, by rw [tokensFrom_blanks hblank]⟩

/-- The characters of some forms, after a line break and a margin. -/
def lineChars (indent : Nat) (fs : List Form) : List Char :=
  '\n' :: List.replicate indent ' ' ++ charsOfAll fs

/-- The characters of forms after a gap. -/
def gappedChars (line : List Char × List Form) : List Char :=
  line.1 ++ charsOfAll line.2

theorem endsWord_lines {lines : List (List Char × List Form)} (h : ∀ line ∈ lines, IsGap line.1)
    {rest : List Char} (hrest : EndsWord rest) : EndsWord (lines.flatMap gappedChars ++ rest) := by
  cases lines with
  | nil => exact hrest
  | cons line lines =>
    rw [List.flatMap_cons, gappedChars, List.append_assoc, List.append_assoc]
    exact (h line List.mem_cons_self).endsWord _

/-- **Lines of forms**, a gap before each, are read into the innermost open bracket. -/
theorem readAll_lines {lines : List (List Char × List Form)} (hgap : ∀ line ∈ lines, IsGap line.1)
    (h : ∀ line ∈ lines, AllAtomsOfAll Atom.IsSpelled line.2) (top : Frame) (stack : List Frame)
    (p : Pos) {rest : List Char} (hrest : EndsWord rest) :
    ∃ (gs : List Form) (p' : Pos),
      gs.map (respan {}) = (lines.flatMap (·.2)).map (respan {}) ∧
      Reader.readAll (top :: stack) (tokensFrom p (lines.flatMap gappedChars ++ rest)) =
        Reader.readAll ({ top with done := gs.reverse ++ top.done } :: stack)
          (tokensFrom p' rest) := by
  induction lines generalizing top p with
  | nil => exact ⟨[], p, rfl, rfl⟩
  | cons line lines ih =>
    obtain ⟨hline, hlines⟩ := List.forall_mem_cons.mp h
    obtain ⟨hgap, hgaps⟩ := List.forall_mem_cons.mp hgap
    obtain ⟨p₁, hp₁⟩ := hgap.readAll_append (top :: stack) p
      (charsOfAll line.2 ++ (lines.flatMap gappedChars ++ rest))
    obtain ⟨gs, p₂, hgs, hread⟩ := readAll_charsOfAll line.2 hline top stack p₁ _
      (endsWord_lines hgaps hrest)
    obtain ⟨gs', p₃, hgs', hreads⟩ := ih hgaps hlines { top with done := gs.reverse ++ top.done } p₂
    refine ⟨gs ++ gs', p₃, ?_, ?_⟩
    · rw [List.map_append, hgs', ← respanAll_eq_map, hgs, respanAll_eq_map, List.flatMap_cons,
        List.map_append]
    · rw [List.flatMap_cons, gappedChars, List.append_assoc, List.append_assoc, hp₁, hread, hreads,
        List.reverse_append, List.append_assoc]

/-- **A list over several lines** is read as its form, wherever the lines begin. -/
theorem readAll_list_lines {head : List Form} {lines : List (List Char × List Form)}
    (hgap : ∀ line ∈ lines, IsGap line.1) (hhead : AllAtomsOfAll Atom.IsScanned head)
    (hlines : ∀ line ∈ lines, AllAtomsOfAll Atom.IsScanned line.2) (p : Pos) (rest : List Char) :
    ∃ (g : Form) (p' : Pos),
      g.respan {} = told (.list (head ++ lines.flatMap (·.2)) {}) ∧
      Reader.readAll [] (tokensFrom p
          ('(' :: (charsOfAll head ++ (lines.flatMap gappedChars ++ ')' :: rest)))) =
        (Reader.readAll [] (tokensFrom p' rest)).map (g :: ·) := by
  -- What is read is what the characters spell.
  let spelled := lines.map fun line => (line.1, respelledAll line.2)
  have hgap' : ∀ line ∈ spelled, IsGap line.1 := List.forall_mem_map.mpr hgap
  have hlines' : ∀ line ∈ spelled, AllAtomsOfAll Atom.IsSpelled line.2 :=
    List.forall_mem_map.mpr fun line hline => (hlines line hline).isSpelled_respelledAll
  have hline : ∀ line : List Char × List Form,
      gappedChars (line.1, respelledAll line.2) = gappedChars line := fun line => by
    rw [gappedChars, gappedChars, charsOfAll_respelledAll]
  have hchars : spelled.flatMap gappedChars = lines.flatMap gappedChars := by
    rw [List.flatMap_map, funext hline]
  have hforms : (spelled.flatMap (·.2)).map (respan {}) = (lines.flatMap (·.2)).map told := by
    simp only [spelled, List.flatMap_map, List.map_flatMap, map_respan_respelledAll]
  obtain ⟨s₁, p₁, hopen⟩ := tokensFrom_cons (by decide) (scan_openChar .round _) p
  obtain ⟨gs, p₂, hgs, hread⟩ := readAll_charsOfAll _ hhead.isSpelled_respelledAll
    ⟨.round, s₁, []⟩ [] p₁ _ (endsWord_lines hgap' (endsWord_closeChar .round rest))
  obtain ⟨gs', p₃, hgs', hreads⟩ := readAll_lines hgap' hlines'
    ⟨.round, s₁, gs.reverse ++ []⟩ [] p₂ (endsWord_closeChar .round rest)
  obtain ⟨s₄, p₄, hclose⟩ := tokensFrom_cons (by decide) (scan_closeChar .round rest) p₃
  rw [charsOfAll_respelledAll, hchars] at hread
  rw [hchars] at hreads
  refine ⟨.list (gs ++ gs') (s₁.cover s₄), p₄, ?_, ?_⟩
  · have hhead' : gs.map (respan {}) = head.map told := by
      rw [← respanAll_eq_map, hgs, respanAll_eq_map, map_respan_respelledAll]
    rw [Form.list, Form.list, told_seq, respan, respanAll_eq_map, List.map_append, hhead', hgs',
      hforms, List.map_append]
  · rw [List.drop_zero] at hopen hclose
    refine (congrArg _ hopen).trans ?_
    rw [readAll_cons_of_feed rfl, map_none_append]
    refine hread.trans (hreads.trans ((congrArg _ hclose).trans ?_))
    have hfeed : feed [⟨.round, s₁, gs'.reverse ++ (gs.reverse ++ [])⟩] ⟨.closing .round, s₄⟩ =
        .ok ([], some (.list (gs ++ gs') (s₁.cover s₄))) := by
      rw [feed]
      simp [deliver, Form.list]
    exact readAll_cons_of_feed hfeed

end Form

namespace TypeDecl

open Form (gappedChars isGap_margin lineChars margin told)

/-- What stands on the lines of a declaration: its options, then its members. -/
def lineForms (d : TypeDecl) : List (List Form) :=
  d.optionForms ++ d.members.map fun m => [m.toForm]

/-- What stands on its first line. -/
def headForms (d : TypeDecl) : List Form :=
  [.sym d.kind.headWord {}, .sym d.name {}]

theorem toForm_eq (d : TypeDecl) : d.toForm = .list (d.headForms ++ d.lineForms.flatten) {} := by
  have hmembers : (d.members.map fun m => [m.toForm]).flatten = d.members.map (·.toForm) := by
    rw [← List.flatMap_def, ← List.map_eq_flatMap]
  rw [toForm, lineForms, List.flatten_append, hmembers, headForms, List.append_assoc]

theorem intercalate_cons (sep line : List Char) (lines : List (List Char)) :
    sep.intercalate (line :: lines) = line ++ lines.flatMap (sep ++ ·) := by
  induction lines generalizing line with
  | nil => simp
  | cons line' lines ih =>
    rw [List.intercalate_cons_cons, ih, List.flatMap_cons, List.append_assoc, List.append_assoc]

variable {layout : PrintLayout}

/-- The characters of a declaration without notes. -/
def plainChars (indent : Nat) (d : TypeDecl) : List Char :=
  '(' :: (Form.charsOfAll d.headForms ++ (d.lineForms.flatMap (lineChars indent) ++ [')']))

/-- The text of a declaration without notes. -/
theorem toList_print (h : layout.annotate = false) (d : TypeDecl) :
    (d.print layout).toList = d.plainChars layout.indent := by
  have hmember : ∀ m, memberLines layout m =
      [List.replicate layout.indent ' ' ++ Form.charsOfAll [m.toForm]] := by
    intro m
    rw [memberLines, h]
    split <;> rfl
  have hlines : d.lines layout = ('(' :: Form.charsOfAll d.headForms) ::
      d.lineForms.map fun fs => List.replicate layout.indent ' ' ++ Form.charsOfAll fs := by
    rw [lines, lineForms, List.map_append, List.map_map, funext hmember, ← List.map_eq_flatMap]
    rfl
  rw [print, String.toList_ofList, hlines, intercalate_cons, List.flatMap_map, List.append_assoc]
  rfl

theorem print_eq (h : layout.annotate = false) :
    print layout = fun d => String.ofList (d.plainChars layout.indent) := by
  funext d
  rw [← toList_print h, String.ofList_toList]

/-- A declaration on lines of its own is read as its form. -/
theorem readAll_lines {d : TypeDecl} (h : d.toForm.AllAtoms Atom.IsScanned)
    {lines : List (List Char × List Form)} (hgap : ∀ line ∈ lines, Form.IsGap line.1)
    (hlines : lines.map (·.2) = d.lineForms) (p : Pos) (rest : List Char) :
    ∃ (g : Form) (p' : Pos), g.respan {} = d.toForm.told ∧
      Reader.readAll [] (tokensFrom p ('(' :: (Form.charsOfAll d.headForms ++
          (lines.flatMap gappedChars ++ ')' :: rest)))) =
        (Reader.readAll [] (tokensFrom p' rest)).map (g :: ·) := by
  have hflatten : lines.flatMap (·.2) = d.lineForms.flatten := by rw [List.flatMap_def, hlines]
  rw [toForm_eq, ← hflatten] at h ⊢
  obtain ⟨hhead, hforms⟩ := List.forall_mem_append.mp (Form.allAtomsOfAll_iff.mp h)
  exact Form.readAll_list_lines hgap (Form.allAtomsOfAll_iff.mpr hhead)
    (fun line hline => Form.allAtomsOfAll_iff.mpr fun f hf =>
      hforms f (List.mem_flatMap.mpr ⟨line, hline, hf⟩)) p rest

/-- **A printed declaration** is read as its form. -/
theorem readAll_print (hlayout : layout.annotate = false) {d : TypeDecl}
    (h : d.toForm.AllAtoms Atom.IsScanned) (p : Pos) (rest : List Char) :
    ∃ (g : Form) (p' : Pos), g.respan {} = d.toForm.told ∧
      Reader.readAll [] (tokensFrom p ((d.print layout).toList ++ rest)) =
        (Reader.readAll [] (tokensFrom p' rest)).map (g :: ·) := by
  have hgap : ∀ line ∈ d.lineForms.map fun fs => (margin layout.indent, fs),
      Form.IsGap line.1 :=
    List.forall_mem_map.mpr fun _ _ => isGap_margin layout.indent
  have hlines : (d.lineForms.map fun fs => (margin layout.indent, fs)).map (·.2) = d.lineForms := by
    rw [List.map_map]
    exact List.map_id d.lineForms
  have hread := readAll_lines h hgap hlines p rest
  rw [List.flatMap_map] at hread
  rw [toList_print hlayout, plainChars, List.cons_append, List.append_assoc, List.append_assoc]
  exact hread

/-- Declarations, each after an empty line. -/
theorem readAll_prints (hlayout : layout.annotate = false) {ds : List TypeDecl}
    (h : ∀ d ∈ ds, d.toForm.AllAtoms Atom.IsScanned) (p : Pos) :
    ∃ gs : List Form, gs.map (Form.respan {}) = ds.map (·.toForm.told) ∧
      Reader.readAll []
        (tokensFrom p (ds.flatMap fun d => ['\n', '\n'] ++ (d.print layout).toList)) = .ok gs := by
  induction ds generalizing p with
  | nil => exact ⟨[], rfl, by rw [List.flatMap_nil, tokensFrom_nil]; rfl⟩
  | cons d ds ih =>
    obtain ⟨hd, hds⟩ := List.forall_mem_cons.mp h
    have hblank : ∀ c ∈ ['\n', '\n'], isBlank c = true := List.all_eq_true.mp (by decide)
    obtain ⟨g, p₂, hg, hread⟩ := readAll_print hlayout hd (p.afterAll ['\n', '\n'])
      (ds.flatMap fun d => ['\n', '\n'] ++ (d.print layout).toList)
    obtain ⟨gs, hgs, hreads⟩ := ih hds p₂
    refine ⟨g :: gs, by rw [List.map_cons, List.map_cons, hg, hgs], ?_⟩
    rw [List.flatMap_cons, List.append_assoc, tokensFrom_blanks hblank, hread, hreads]
    rfl

/-- **Printed declarations**, an empty line between each two, are read as their forms. -/
theorem exists_readAll_eq (hlayout : layout.annotate = false) {ds : List TypeDecl}
    (h : ∀ d ∈ ds, d.toForm.AllAtoms Atom.IsScanned) :
    ∃ gs : List Form, gs.map (Form.respan {}) = ds.map (·.toForm.told) ∧
      Form.readAll ("\n\n".intercalate (ds.map (·.print layout))) = .ok gs := by
  cases ds with
  | nil =>
    refine ⟨[], rfl, Form.readAll_eq_ok_iff.mpr ?_⟩
    rw [tokens, String.toList_intercalate]
    exact (congrArg _ (tokensFrom_nil .start)).trans rfl
  | cons d ds =>
    obtain ⟨hd, hds⟩ := List.forall_mem_cons.mp h
    obtain ⟨g, p, hg, hread⟩ := readAll_print hlayout hd .start
      (ds.flatMap fun d => ['\n', '\n'] ++ (d.print layout).toList)
    obtain ⟨gs, hgs, hreads⟩ := readAll_prints hlayout hds p
    refine ⟨g :: gs, by rw [List.map_cons, List.map_cons, hg, hgs], ?_⟩
    rw [Form.readAll_eq_ok_iff, tokens, String.toList_intercalate, List.map_cons, List.map_cons,
      intercalate_cons, List.map_map, List.flatMap_map]
    exact hread.trans (by rw [hreads]; rfl)

end TypeDecl

end DeclWeave
