import DeclWeave.Proofs.NestedBrackets
import DeclWeave.Proofs.ReadableExpansions

/-!
# Layouts of Declarations

A layout says how far the lines of a declaration are indented, if at all, and whether notes stand
above its members. It carries no meaning: a declaration that was read from a source, or comes of an
expansion of what was read, has the same tokens in any layout, comments left out.

A line begins after a gap, which is a line break and a margin, or a note between two of these. A
note is the one text in a declaration that was not scanned, and it has no line break, so it is over
where its line is. What is left is the form of the declaration, and the reader tells its tokens.

## Main results

* `TypeDecl.readAll_print_noted`: a declaration printed in any layout is read as its form.
* `TypeDecl.significantLexemes_print`: the tokens of a printed declaration are those of its form.
* `Expansion.significantLexemes_print_eq`: they do not depend on the layout.
-/

namespace DeclWeave

/-! ### Gaps with notes -/

namespace Form

theorem IsGap.append {gap gap' : List Char} (h : IsGap gap) (h' : IsGap gap') :
    IsGap (gap ++ gap') where
  endsWord rest := by
    rw [List.append_assoc]
    exact h.endsWord _
  readAll_append stack p rest := by
    obtain ⟨p₁, hp₁⟩ := h.readAll_append stack p (gap' ++ rest)
    obtain ⟨p₂, hp₂⟩ := h'.readAll_append stack p₁ rest
    exact ⟨p₂, by rw [List.append_assoc, hp₁, hp₂]⟩

/-- A comment is over where its line is. -/
theorem IsGap.comment {text gap : List Char} (htext : '\n' ∉ text) (h : IsGap ('\n' :: gap)) :
    IsGap (';' :: text ++ '\n' :: gap) where
  endsWord rest := endsWord_cons.mpr (by decide)
  readAll_append stack p rest := by
    have hline : (text ++ '\n' :: (gap ++ rest)).takeWhile (· != '\n') = text := by
      rw [List.takeWhile_append_of_pos fun c hc => bne_iff_ne.mpr (ne_of_mem_of_not_mem hc htext)]
      exact List.append_nil text
    have hscan : Lexeme.scan ';' (text ++ '\n' :: (gap ++ rest)) =
        (.comment (String.ofList (';' :: text)), text.length) := by
      simp [Lexeme.scan, hline]
    obtain ⟨s, p₁, htokens⟩ := tokensFrom_cons (by decide) hscan p
    obtain ⟨p₂, hp₂⟩ := h.readAll_append stack p₁ rest
    refine ⟨p₂, ?_⟩
    rw [List.drop_left] at htokens
    rw [List.append_assoc, List.cons_append, List.cons_append, htokens, readAll_cons_of_feed rfl,
      map_none_append]
    exact hp₂

end Form

/-! ### Notes -/

/-- A text without a line break. -/
def IsOneLine (text : String) : Prop :=
  '\n' ∉ text.toList

instance : DecidablePred IsOneLine := fun text =>
  inferInstanceAs (Decidable ('\n' ∉ text.toList))

theorem IsOneLine.append {s t : String} (hs : IsOneLine s) (ht : IsOneLine t) :
    IsOneLine (s ++ t) := by
  rw [IsOneLine, String.toList_append, List.mem_append, not_or]
  exact ⟨hs, ht⟩

theorem Access.isOneLine_noteName (a : Access) : IsOneLine a.noteName := by
  cases a <;> decide

theorem Storage.isOneLine_noteName (s : Storage) : IsOneLine s.noteName := by
  cases s <;> decide

theorem PropertyAccess.isOneLine_note (a : PropertyAccess) : IsOneLine a.note := by
  have hread := (IsOneLine.append (s := "property read=") (by decide) a.read.isOneLine_noteName)
  have hwrite := (hread.append (t := " write=") (by decide)).append a.write.isOneLine_noteName
  exact (hwrite.append (t := " storage=") (by decide)).append a.storage.isOneLine_noteName

theorem Origin.isOneLine_noteName {o : Origin} : ∀ text ∈ o.noteName?, IsOneLine text := by
  cases o <;> simp [noteName?] <;> decide

/-- **A note** is on one line. -/
theorem Member.isOneLine_note (m : Member) : ∀ text ∈ m.note?, IsOneLine text := by
  have horigin := m.origin.isOneLine_noteName
  have hproperty : ∀ text ∈ m.property.map (·.note), IsOneLine text := by
    intro text htext
    obtain ⟨a, -, rfl⟩ := Option.map_eq_some_iff.mp htext
    exact a.isOneLine_note
  intro text htext
  rw [note?] at htext
  split at htext
  · exact hproperty text htext
  · rename_i origin horigin' _
    obtain rfl := Option.some.inj htext
    exact horigin origin horigin'
  · rename_i origin property horigin' hproperty'
    obtain rfl := Option.some.inj htext
    exact ((horigin origin horigin').append (t := ", ") (by decide)).append
      (hproperty property hproperty')

/-! ### Printed lines -/

namespace TypeDecl

open Form (IsGap gappedChars isGap_margin lexemes margin told)

variable {layout : PrintLayout} {d : TypeDecl}

/-- What a layout puts before a line: the note, where there is one and notes are printed, on a line
of its own, and a margin. -/
def gap (layout : PrintLayout) (note : Option String) : List Char :=
  match note with
  | some text =>
    if layout.annotate then
      margin layout.indent ++ (';' :: (' ' :: text.toList) ++ margin layout.indent)
    else margin layout.indent
  | none => margin layout.indent

theorem isGap_gap {note : Option String} (h : ∀ text ∈ note, IsOneLine text) :
    IsGap (gap layout note) := by
  have hmargin := isGap_margin layout.indent
  cases note with
  | none => exact hmargin
  | some text =>
    rw [gap]
    split
    · have htext : '\n' ∉ ' ' :: text.toList :=
        List.not_mem_cons_of_ne_of_not_mem (by decide) (h text rfl)
      exact hmargin.append (hmargin.comment htext)
    · exact hmargin

/-- What stands on the lines of a declaration, each with its note. -/
def notedForms (d : TypeDecl) : List (Option String × List Form) :=
  d.optionForms.map (fun option => (none, option)) ++ d.members.map fun m => (m.note?, [m.toForm])

theorem map_notedForms (d : TypeDecl) : d.notedForms.map (·.2) = d.lineForms := by
  rw [notedForms, lineForms, List.map_append, List.map_map, List.map_map]
  exact congrArg (· ++ _) (List.map_id d.optionForms)

theorem isOneLine_of_mem_notedForms {line : Option String × List Form} (h : line ∈ d.notedForms) :
    ∀ text ∈ line.1, IsOneLine text := by
  rcases List.mem_append.mp h with h | h
  · obtain ⟨option, -, rfl⟩ := List.mem_map.mp h
    simp
  · obtain ⟨m, -, rfl⟩ := List.mem_map.mp h
    exact m.isOneLine_note

/-- The lines of a declaration in a layout, each after its gap. -/
def gappedLines (layout : PrintLayout) (d : TypeDecl) : List (List Char × List Form) :=
  d.notedForms.map fun line => (gap layout line.1, line.2)

theorem flatMap_memberLines (layout : PrintLayout) (m : Member) :
    (memberLines layout m).flatMap (['\n'] ++ ·) =
      gappedChars (gap layout m.note?, [m.toForm]) := by
  rw [memberLines]
  cases m.note? with
  | none => simp [gappedChars, gap, margin, Form.charsOfAll]
  | some text => cases h : layout.annotate <;> simp [gappedChars, gap, margin, Form.charsOfAll, h]

/-- The texts of declarations, in any layout. -/
theorem print_eq_gappedLines (layout : PrintLayout) : print layout = fun d =>
    String.ofList ('(' :: (Form.charsOfAll d.headForms ++
      ((d.gappedLines layout).flatMap gappedChars ++ [')']))) := by
  funext d
  have hlines : d.lines layout = ('(' :: Form.charsOfAll d.headForms) ::
      (d.optionForms.map (List.replicate layout.indent ' ' ++ Form.charsOfAll ·) ++
        d.members.flatMap (memberLines layout)) := rfl
  rw [print, hlines, intercalate_cons, List.flatMap_append, List.flatMap_map, List.flatMap_assoc,
    funext (flatMap_memberLines layout), gappedLines, notedForms, List.map_append, List.map_map,
    List.map_map, List.flatMap_append, List.flatMap_map, List.flatMap_map, List.cons_append,
    List.cons_append, List.append_assoc, List.append_assoc, List.append_assoc]
  rfl

/-- **A declaration printed in any layout** is read as its form. -/
theorem readAll_print_noted (layout : PrintLayout) (h : d.toForm.AllAtoms Atom.IsScanned) (p : Pos)
    (rest : List Char) :
    ∃ (g : Form) (p' : Pos), g.respan {} = d.toForm.told ∧
      Reader.readAll [] (tokensFrom p ((d.print layout).toList ++ rest)) =
        (Reader.readAll [] (tokensFrom p' rest)).map (g :: ·) := by
  have hgap : ∀ line ∈ d.gappedLines layout, IsGap line.1 := List.forall_mem_map.mpr
    fun line hline => isGap_gap (isOneLine_of_mem_notedForms hline)
  have hlines : (d.gappedLines layout).map (·.2) = d.lineForms := by
    rw [gappedLines, List.map_map]
    exact d.map_notedForms
  rw [print_eq_gappedLines, String.toList_ofList, List.cons_append, List.append_assoc,
    List.append_assoc]
  exact readAll_lines h hgap hlines p rest

end TypeDecl

/-! ### Tokens -/

namespace Form

mutual

theorem lexemes_respan (s : Span) : ∀ f : Form, (f.respan s).lexemes = f.lexemes
  | .atom _ _ => rfl
  | .seq _ items _ => by rw [respan, lexemes, lexemes, lexemesOfAll_respanAll s items]

theorem lexemesOfAll_respanAll (s : Span) :
    ∀ fs : List Form, lexemesOfAll (respanAll s fs) = lexemesOfAll fs
  | [] => rfl
  | f :: fs => by
    rw [respanAll, lexemesOfAll, lexemesOfAll, lexemes_respan s f, lexemesOfAll_respanAll s fs]

end

end Form

/-- What the tokens of a text are, comments left out. -/
def significantLexemes (source : String) : List Lexeme :=
  ((tokens source).map (·.lexeme)).filter (!·.isTrivia)

theorem significantLexemes_eq {source : String} {forms : List Form}
    (h : Form.readAll source = .ok forms) :
    significantLexemes source = Form.lexemesOfAll forms ++ [.endOfInput] := by
  have hlaid : Laid [] source.toList (tokens source) := laid_tokensFrom rfl
  obtain ⟨before, htokens, hbefore⟩ := hlaid.exists_append
  have hread := Form.readAll_eq_ok_iff.mp h
  rw [htokens] at hread
  rw [Reader.lexemesOfAll_readAll rfl (fun t ht => (hbefore t ht).1) hread, significantLexemes,
    htokens, List.map_append, List.filter_append]
  rfl

/-- **The tokens of a printed declaration** are those of its form, in any layout. -/
theorem TypeDecl.significantLexemes_print {d : TypeDecl} (h : d.toForm.AllAtoms Atom.IsScanned)
    (layout : PrintLayout) :
    significantLexemes (d.print layout) = d.toForm.told.lexemes ++ [.endOfInput] := by
  obtain ⟨g, p, hg, hread⟩ := readAll_print_noted layout h .start []
  rw [List.append_nil, tokensFrom_nil] at hread
  have hforms : Form.readAll (d.print layout) = .ok [g] := Form.readAll_eq_ok_iff.mpr hread
  rw [significantLexemes_eq hforms, Form.lexemesOfAll, Form.lexemesOfAll, List.append_nil, ← hg,
    Form.lexemes_respan]

/-! ### Declarations of sources -/

namespace TypeDecl

/-- A declaration that is read from a form of a source text. -/
def IsOfSource (d : TypeDecl) : Prop :=
  ∃ source forms, Form.readAll source = .ok forms ∧ ∃ f ∈ forms, SourceUnit.readDecl f = .ok d

theorem IsOfSource.isScanned {d : TypeDecl} (h : d.IsOfSource) : d.IsScanned := by
  obtain ⟨source, forms, hforms, f, hf, hread⟩ := h
  exact isScanned_readDecl (Form.isScanned_of_readAll hforms hf) d hread

theorem isOfSource_of_ofSource {source : String} {u : SourceUnit}
    (h : SourceUnit.ofSource source = .ok u) : ∀ d ∈ u.types, d.IsOfSource := by
  obtain ⟨forms, hforms, h⟩ := Outcome.bind_eq_ok.mp h
  intro d hd
  obtain ⟨f, hf, hread⟩ := SourceUnit.exists_readDecl_of_ofForms h hd
  exact ⟨source, forms, hforms, f, hf, hread⟩

end TypeDecl

namespace Expansion

/-- **Layout carries no meaning.** A declaration that was read from a source, or that an expansion
of such declarations yields, has the same tokens but for comments, however far its lines are
indented and whether or not notes stand above its members. -/
theorem significantLexemes_print_eq {u : SourceUnit} (hu : ∀ d ∈ u.types, d.IsOfSource)
    (settings : Settings) {d : TypeDecl} (hd : d ∈ u.types ∨ d ∈ (expand settings u).decls)
    (layout layout' : PrintLayout) :
    significantLexemes (d.print layout) = significantLexemes (d.print layout') := by
  have hscanned : d.IsScanned := by
    rcases hd with hd | hd
    · exact (hu d hd).isScanned
    · obtain ⟨plan, hplan, rfl⟩ := List.mem_map.mp hd
      exact isScanned_of_mem_plans (fun d hd => (hu d hd).isScanned) hplan
  have hform := TypeDecl.isScanned_toForm hscanned
  rw [TypeDecl.significantLexemes_print hform, TypeDecl.significantLexemes_print hform]

/-- A method that is spliced into a class, with a string that looks like a note. -/
def splicedSource : String :=
  "(interface: D (method: m [] \"a;\\nb\")) (class: C :implements [D])"

/-- The method has a note above it in the wide layout, and no other tokens than in the narrow. -/
theorem significantLexemes_print_spliced :
    let settings : Settings := { requireOptIn := false }
    let narrow : PrintLayout := { indent := 0, annotate := false }
    let wide : PrintLayout := { indent := 1 }
    ∃ u, SourceUnit.ofSource splicedSource = .ok u ∧
      (expand settings u).decls.map (fun d => (d.print narrow, d.print wide)) =
        [("(interface: D\n(method: m [] :public true))",
            "(interface: D\n (method: m [] :public true))"),
          ("(class: C\n:implements [D]\n(method: m [] :public true \"a;\\nb\"))",
            "(class: C\n :implements [D]\n ; spliced\n (method: m [] :public true \"a;\\nb\"))")] ∧
      ∀ d ∈ (expand settings u).decls,
        significantLexemes (d.print narrow) = significantLexemes (d.print wide) := by
  intro settings narrow wide
  have hprints : (SourceUnit.ofSource splicedSource >>= fun u =>
      .ok ((expand settings u).decls.map fun d => (d.print narrow, d.print wide))) =
        .ok [("(interface: D\n(method: m [] :public true))",
            "(interface: D\n (method: m [] :public true))"),
          ("(class: C\n:implements [D]\n(method: m [] :public true \"a;\\nb\"))",
            "(class: C\n :implements [D]\n ; spliced\n (method: m [] :public true \"a;\\nb\"))")] := by
    simp only [TypeDecl.print_eq_gappedLines]
    cbv
  obtain ⟨u, hu, hresult⟩ := Outcome.bind_eq_ok.mp hprints
  exact ⟨u, hu, Except.ok.inj hresult, fun d hd =>
    significantLexemes_print_eq (TypeDecl.isOfSource_of_ofSource hu) settings (.inr hd) narrow wide⟩

end Expansion

end DeclWeave
