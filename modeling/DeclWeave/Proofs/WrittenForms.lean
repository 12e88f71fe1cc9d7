import DeclWeave.Form.Reader
import DeclWeave.Proofs.Outcome
import DeclWeave.Proofs.SpelledAtoms

/-!
# Written Forms

A form that was read is written in characters that read as the same form, at other places. It is
enough that the atoms of the form are spelled, and reading makes few others: so what is shown by
induction on a form is shown of all that is ever read. The others are numbers too large for a finite
value; `Form.respelled` puts in their place the words that they are written as.

The induction goes along the text. Reading the characters of a form, with whatever brackets open
and whatever text after them, hands on one form that is equal up to spans, and then goes on with
that text.

## Main results

* `Form.readAll_chars`: what reading does with the characters of a form.
* `Form.isSpelled_of_readAll`: the atoms of forms that were read are spelled.
* `Form.readAll_text`: forms survive printing.
-/

namespace DeclWeave

open Outcome (bind_eq_ok)

/-! ### Tokens -/

section Tokens

variable {p : Pos} {c : Char} {cs : List Char} {lexeme : Lexeme} {n : Nat}

/-- A blank moves what comes after it. -/
theorem tokensFrom_blank (h : isBlank c = true) (p : Pos) (cs : List Char) :
    tokensFrom p (c :: cs) = tokensFrom (p.after c) cs := by
  have hdrop : (c :: cs).dropWhile isBlank = cs.dropWhile isBlank :=
    List.dropWhile_cons_of_pos h
  have htake : (c :: cs).takeWhile isBlank = c :: cs.takeWhile isBlank :=
    List.takeWhile_cons_of_pos h
  rw [tokensFrom, tokensFrom, htake, Pos.afterAll_cons]
  dsimp only
  split
  · rename_i hnil
    rw [hdrop] at hnil
    split
    · rfl
    · rename_i hcons
      exact absurd (hnil.symm.trans hcons) (by simp)
  · rename_i d ds hcons
    rw [hdrop] at hcons
    split
    · rename_i hnil
      exact absurd (hnil.symm.trans hcons) (by simp)
    · rename_i e es hcons'
      obtain ⟨rfl, rfl⟩ := List.cons.inj (hcons.symm.trans hcons')
      rfl

/-- Blanks move what comes after them. -/
theorem tokensFrom_blanks {blanks : List Char} (h : ∀ c ∈ blanks, isBlank c = true) (p : Pos)
    (cs : List Char) : tokensFrom p (blanks ++ cs) = tokensFrom (p.afterAll blanks) cs := by
  induction blanks generalizing p with
  | nil => rfl
  | cons c blanks ih =>
    obtain ⟨hc, hblanks⟩ := List.forall_mem_cons.mp h
    rw [List.cons_append, tokensFrom_blank hc, ih hblanks, Pos.afterAll_cons]

/-- The first token of a text that starts with one. -/
theorem tokensFrom_cons (hblank : isBlank c = false) (hscan : Lexeme.scan c cs = (lexeme, n))
    (p : Pos) : ∃ s p', tokensFrom p (c :: cs) = ⟨lexeme, s⟩ :: tokensFrom p' (cs.drop n) := by
  have hdrop : (c :: cs).dropWhile isBlank = c :: cs :=
    List.dropWhile_cons_of_neg (by simp [hblank])
  rw [tokensFrom]
  dsimp only
  split
  · rename_i hnil
    exact absurd (hdrop.symm.trans hnil) (by simp)
  · rename_i d ds hcons
    obtain ⟨rfl, rfl⟩ := List.cons.inj (hdrop.symm.trans hcons)
    rw [hscan]
    exact ⟨_, _, rfl⟩

theorem tokensFrom_nil (p : Pos) : tokensFrom p [] = [⟨.endOfInput, .between p p⟩] := by
  rw [tokensFrom]
  rfl

/-- The characters of an atom of a token spell an atom. -/
theorem isScanned_of_mem_tokensFrom {t : Token} (ht : t ∈ tokensFrom p cs) {a : Atom}
    (ha : t.lexeme = .atom a) : a.IsScanned := by
  fun_induction tokensFrom p cs with
  | case1 p cs first hnil =>
    obtain rfl := List.mem_singleton.mp ht
    exact absurd ha (by simp)
  | case2 p cs first c rest hcons lexeme n hscan last ih =>
    rcases List.mem_cons.mp ht with rfl | ht
    · have hblank : isBlank c = false := by
        have hne : cs.dropWhile isBlank ≠ [] := by simp [hcons]
        have hhead := List.head_dropWhile_not isBlank hne
        simpa [hcons] using hhead
      exact Lexeme.isScanned_of_scan hblank (by rw [hscan]; exact ha)
    · exact ih ht

end Tokens

namespace Form

open Reader (Frame deliver feed)

mutual

/-- Every atom of a form satisfies a property. -/
def AllAtoms (P : Atom → Prop) : Form → Prop
  | .atom a _ => P a
  | .seq _ items _ => AllAtomsOfAll P items

/-- Every atom of some forms satisfies a property. -/
def AllAtomsOfAll (P : Atom → Prop) : List Form → Prop
  | [] => True
  | f :: fs => AllAtoms P f ∧ AllAtomsOfAll P fs

end

theorem allAtomsOfAll_iff {P : Atom → Prop} {fs : List Form} :
    AllAtomsOfAll P fs ↔ ∀ f ∈ fs, f.AllAtoms P := by
  induction fs with
  | nil => simp [AllAtomsOfAll]
  | cons f fs ih => simp [AllAtomsOfAll, ih]

/-- A form without floating point numbers. -/
def IsFloatFree (f : Form) : Prop :=
  f.AllAtoms fun a => ∀ x, a ≠ .float x

mutual

theorem AllAtoms.imp_of {P Q R : Atom → Prop} (h : ∀ a, P a → Q a → R a) :
    ∀ {f : Form}, f.AllAtoms P → f.AllAtoms Q → f.AllAtoms R
  | .atom _ _, hP, hQ => h _ hP hQ
  | .seq _ _ _, hP, hQ => AllAtomsOfAll.imp_of h hP hQ

theorem AllAtomsOfAll.imp_of {P Q R : Atom → Prop} (h : ∀ a, P a → Q a → R a) :
    ∀ {fs : List Form}, AllAtomsOfAll P fs → AllAtomsOfAll Q fs → AllAtomsOfAll R fs
  | [], _, _ => trivial
  | _ :: _, ⟨hP, hPs⟩, ⟨hQ, hQs⟩ => ⟨hP.imp_of h hQ, AllAtomsOfAll.imp_of h hPs hQs⟩

end

/-! ### Respelled forms -/

mutual

/-- The form that the characters of a form spell. -/
def respelled : Form → Form
  | .atom a s => .atom a.respelled s
  | .seq b items s => .seq b (respelledAll items) s

/-- The forms that the characters of some forms spell. -/
def respelledAll : List Form → List Form
  | [] => []
  | f :: fs => respelled f :: respelledAll fs

end

theorem respelledAll_eq_map (fs : List Form) : respelledAll fs = fs.map respelled := by
  induction fs with
  | nil => rfl
  | cons f fs ih => rw [respelledAll, ih, List.map_cons]

mutual

theorem chars_respelled : ∀ f : Form, f.respelled.chars = f.chars
  | .atom a _ => a.chars_respelled
  | .seq _ items _ => by rw [respelled, chars, chars, charsOfAll_respelledAll items]

theorem charsOfAll_respelledAll : ∀ fs : List Form, charsOfAll (respelledAll fs) = charsOfAll fs
  | [] => rfl
  | [f] => chars_respelled f
  | f :: g :: rest => by
    have ih := charsOfAll_respelledAll (g :: rest)
    rw [respelledAll] at ih
    rw [respelledAll, respelledAll, charsOfAll, chars_respelled f, ih, charsOfAll]

end

mutual

theorem AllAtoms.isSpelled_respelled :
    ∀ {f : Form}, f.AllAtoms Atom.IsScanned → f.respelled.AllAtoms Atom.IsSpelled
  | .atom _ _, h => h
  | .seq _ _ _, h => AllAtomsOfAll.isSpelled_respelledAll h

theorem AllAtomsOfAll.isSpelled_respelledAll :
    ∀ {fs : List Form}, AllAtomsOfAll Atom.IsScanned fs →
      AllAtomsOfAll Atom.IsSpelled (respelledAll fs)
  | [], _ => trivial
  | _ :: _, ⟨h, hs⟩ => ⟨h.isSpelled_respelled, AllAtomsOfAll.isSpelled_respelledAll hs⟩

end

/-! ### Reading what is written -/

section Reading

variable {stack : List Frame} {p : Pos} {cs : List Char} {lexeme : Lexeme}

/-- A token that is fed hands on what it completes, and reading goes on. -/
theorem readAll_cons_of_feed {t : Token} {ts : List Token} {stack' : List Frame}
    {completed : Option Form} (h : feed stack t = .ok (stack', completed)) :
    Reader.readAll stack (t :: ts) =
      (Reader.readAll stack' ts).map (completed.toList ++ ·) := by
  rw [Reader.readAll, h]
  rfl

theorem scan_openChar (b : Bracket) (cs : List Char) :
    Lexeme.scan b.openChar cs = (.opening b, 0) := by
  cases b <;> rfl

theorem scan_closeChar (b : Bracket) (cs : List Char) :
    Lexeme.scan b.closeChar cs = (.closing b, 0) := by
  cases b <;> rfl

theorem endsWord_closeChar (b : Bracket) (cs : List Char) : EndsWord (b.closeChar :: cs) := by
  rw [endsWord_cons]
  cases b <;> decide

/-- Where nothing is completed, reading just goes on. -/
theorem map_none_append (x : Except ReadFault (List Form)) :
    x.map ((none : Option Form).toList ++ ·) = x := by
  cases x <;> rfl

mutual

/-- **Reading the characters of a form** delivers the form, and goes on after it. -/
theorem readAll_chars : ∀ (f : Form), f.AllAtoms Atom.IsSpelled →
    ∀ (stack : List Frame) (p : Pos) (rest : List Char), EndsWord rest →
      ∃ g p', g.respan {} = f.respan {} ∧
        Reader.readAll stack (tokensFrom p (f.chars ++ rest)) =
          (Reader.readAll (deliver g stack).1 (tokensFrom p' rest)).map
            ((deliver g stack).2.toList ++ ·)
  | .atom a s, hspelled, stack, p, rest, hrest => by
    obtain ⟨c, cs, hchars, hblank, hscan⟩ := Atom.scansAs_chars hspelled
    obtain ⟨s', p', htokens⟩ := tokensFrom_cons hblank (hscan rest hrest) p
    refine ⟨.atom a s', p', rfl, ?_⟩
    rw [List.drop_left] at htokens
    rw [chars, hchars, List.cons_append, htokens]
    exact readAll_cons_of_feed rfl
  | .seq b items s, hspelled, stack, p, rest, hrest => by
    have hopenBlank : isBlank b.openChar = false := by cases b <;> decide
    have hcloseBlank : isBlank b.closeChar = false := by cases b <;> decide
    obtain ⟨s₁, p₁, hopen⟩ := tokensFrom_cons hopenBlank
      (scan_openChar b (charsOfAll items ++ b.closeChar :: rest)) p
    obtain ⟨gs, p₂, hgs, hitems⟩ := readAll_charsOfAll items hspelled ⟨b, s₁, []⟩ stack p₁
      (b.closeChar :: rest) (endsWord_closeChar b rest)
    obtain ⟨s₃, p₃, hclose⟩ := tokensFrom_cons hcloseBlank (scan_closeChar b rest) p₂
    refine ⟨.seq b gs (s₁.cover s₃), p₃, ?_, ?_⟩
    · rw [respan, respan, hgs]
    · rw [List.drop_zero] at hopen hclose
      rw [chars, List.cons_append, List.append_assoc, List.singleton_append, hopen,
        readAll_cons_of_feed rfl, map_none_append, hitems, hclose]
      refine readAll_cons_of_feed ?_
      rw [feed]
      simp

/-- The characters of some forms are read into the innermost open bracket. -/
theorem readAll_charsOfAll : ∀ (fs : List Form), AllAtomsOfAll Atom.IsSpelled fs →
    ∀ (top : Frame) (stack : List Frame) (p : Pos) (rest : List Char), EndsWord rest →
      ∃ gs p', respanAll {} gs = respanAll {} fs ∧
        Reader.readAll (top :: stack) (tokensFrom p (charsOfAll fs ++ rest)) =
          Reader.readAll ({ top with done := gs.reverse ++ top.done } :: stack)
            (tokensFrom p' rest)
  | [], _, top, stack, p, rest, _ => ⟨[], p, rfl, rfl⟩
  | [f], hspelled, top, stack, p, rest, hrest => by
    obtain ⟨g, p', hg, hread⟩ := readAll_chars f hspelled.1 (top :: stack) p rest hrest
    refine ⟨[g], p', by simp [hg], ?_⟩
    rw [charsOfAll, hread]
    exact map_none_append _
  | f :: f' :: fs, hspelled, top, stack, p, rest, hrest => by
    have hblank : EndsWord (' ' :: (charsOfAll (f' :: fs) ++ rest)) := by
      rw [endsWord_cons]
      decide
    obtain ⟨g, p₁, hg, hread⟩ := readAll_chars f hspelled.1 (top :: stack) p _ hblank
    obtain ⟨gs, p₂, hgs, hreads⟩ := readAll_charsOfAll (f' :: fs) hspelled.2
      { top with done := g :: top.done } stack (p₁.after ' ') rest hrest
    refine ⟨g :: gs, p₂, by rw [respanAll, respanAll, hg, hgs], ?_⟩
    rw [charsOfAll, List.append_assoc, List.cons_append, hread, tokensFrom_blank (by decide)]
    refine (map_none_append _).trans (hreads.trans ?_)
    rw [List.reverse_cons, List.append_assoc, List.singleton_append]

end

end Reading

/-! ### Atoms of what is read -/

/-- The atoms of all forms that open brackets hold satisfy a property. -/
def HoldAtoms (P : Atom → Prop) (stack : List Frame) : Prop :=
  ∀ frame ∈ stack, ∀ f ∈ frame.done, f.AllAtoms P

variable {P : Atom → Prop} {stack stack' : List Frame} {f : Form} {t : Token}

theorem allAtoms_deliver (hf : f.AllAtoms P) (hstack : HoldAtoms P stack) :
    HoldAtoms P (deliver f stack).1 ∧ ∀ g ∈ (deliver f stack).2, g.AllAtoms P := by
  cases stack with
  | nil => exact ⟨by simp [HoldAtoms, deliver], by simpa [deliver] using hf⟩
  | cons top stack =>
    obtain ⟨htop, hstack⟩ := List.forall_mem_cons.mp hstack
    refine ⟨List.forall_mem_cons.mpr ⟨List.forall_mem_cons.mpr ⟨hf, htop⟩, hstack⟩, ?_⟩
    simp [deliver]

/-- **A token** brings in no other atom than its own. -/
theorem allAtoms_feed {completed : Option Form} (h : feed stack t = .ok (stack', completed))
    (hatom : ∀ a, t.lexeme = .atom a → P a) (hstack : HoldAtoms P stack) :
    HoldAtoms P stack' ∧ ∀ g ∈ completed, g.AllAtoms P := by
  cases hlexeme : t.lexeme with
  | atom a =>
    obtain ⟨rfl, rfl⟩ : (deliver (.atom a t.span) stack).1 = stack' ∧
        (deliver (.atom a t.span) stack).2 = completed := by
      simpa [feed, hlexeme, Prod.ext_iff] using h
    exact allAtoms_deliver (hatom a hlexeme) hstack
  | opening b =>
    obtain ⟨rfl, rfl⟩ : ⟨b, t.span, []⟩ :: stack = stack' ∧ none = completed := by
      simpa [feed, hlexeme] using h
    exact ⟨List.forall_mem_cons.mpr ⟨by simp, hstack⟩, by simp⟩
  | closing b =>
    cases stack with
    | nil => exact absurd h (by simp [feed, hlexeme])
    | cons top rest =>
      obtain ⟨htop, hrest⟩ := List.forall_mem_cons.mp hstack
      simp only [feed, hlexeme] at h
      split at h
      · have hseq : (Form.seq b top.done.reverse (top.span.cover t.span)).AllAtoms P :=
          allAtomsOfAll_iff.mpr fun f hf => htop f (List.mem_reverse.mp hf)
        have hdeliver := Except.ok.inj h
        have hkept := allAtoms_deliver hseq hrest
        rw [hdeliver] at hkept
        exact hkept
      · exact absurd h (by simp)
  | invalid fault => exact absurd h (by simp [feed, hlexeme])
  | comment text =>
    obtain ⟨rfl, rfl⟩ : stack = stack' ∧ none = completed := by
      simpa [feed, hlexeme] using h
    exact ⟨hstack, by simp⟩
  | endOfInput =>
    cases stack with
    | nil =>
      obtain ⟨rfl, rfl⟩ : [] = stack' ∧ none = completed := by simpa [feed, hlexeme] using h
      exact ⟨hstack, by simp⟩
    | cons top rest => exact absurd h (by simp [feed, hlexeme])

/-- **Reading** makes no other atoms than those of the tokens. -/
theorem allAtoms_of_readAll {ts : List Token} {forms : List Form}
    (h : Reader.readAll stack ts = .ok forms)
    (hatoms : ∀ t ∈ ts, ∀ a, t.lexeme = .atom a → P a) (hstack : HoldAtoms P stack) :
    ∀ f ∈ forms, f.AllAtoms P := by
  induction ts generalizing stack forms with
  | nil =>
    obtain rfl := Except.ok.inj h
    simp
  | cons t ts ih =>
    obtain ⟨ht, hts⟩ := List.forall_mem_cons.mp hatoms
    obtain ⟨⟨stack', completed⟩, hfeed, h⟩ := bind_eq_ok.mp h
    obtain ⟨more, hmore, h⟩ := bind_eq_ok.mp h
    obtain rfl := Except.ok.inj h
    obtain ⟨hstack', hcompleted⟩ := allAtoms_feed hfeed ht hstack
    intro f hf
    rcases List.mem_append.mp hf with hf | hf
    · exact hcompleted f (by simpa using hf)
    · exact ih hmore hts hstack' f hf

/-! ### Printing and reading -/

theorem readAll_eq_ok_iff {source : String} {forms : List Form} :
    Form.readAll source = .ok forms ↔ Reader.readAll [] (tokens source) = .ok forms := by
  rw [Form.readAll]
  cases Reader.readAll [] (tokens source) <;> simp [Except.mapError]

/-- **The atoms of a form that was read** have been scanned. -/
theorem isScanned_of_readAll {source : String} {forms : List Form}
    (h : Form.readAll source = .ok forms) (hf : f ∈ forms) : f.AllAtoms Atom.IsScanned :=
  allAtoms_of_readAll (readAll_eq_ok_iff.mp h)
    (fun _ ht _ ha => isScanned_of_mem_tokensFrom ht ha) (by simp [HoldAtoms]) f hf

/-- They are spelled if none is a floating point number. -/
theorem isSpelled_of_readAll {source : String} {forms : List Form}
    (h : Form.readAll source = .ok forms) (hf : f ∈ forms) (hfloat : f.IsFloatFree) :
    f.AllAtoms Atom.IsSpelled :=
  (isScanned_of_readAll h hf).imp_of (fun _ => Atom.isSpelled_of_isScanned) hfloat

/-- A form of spelled atoms reads back from its text. -/
theorem readAll_text_of_isSpelled (h : f.AllAtoms Atom.IsSpelled) :
    ∃ g, Form.readAll f.text = .ok [g] ∧ g.respan {} = f.respan {} := by
  obtain ⟨g, p, hg, hread⟩ := readAll_chars f h [] .start [] endsWord_nil
  refine ⟨g, readAll_eq_ok_iff.mpr ?_, hg⟩
  rw [tokens, text, String.toList_ofList, ← List.append_nil f.chars, hread, tokensFrom_nil]
  rfl

/-- **Forms survive printing.** Each form of a source text, if it has no floating point number,
prints as a text that is read as just this form, at other places. -/
theorem readAll_text {source : String} {forms : List Form} (h : Form.readAll source = .ok forms)
    (hf : f ∈ forms) (hfloat : f.IsFloatFree) :
    ∃ g, Form.readAll f.text = .ok [g] ∧ g.respan {} = f.respan {} :=
  readAll_text_of_isSpelled (isSpelled_of_readAll h hf hfloat)

/-- Symbols that begin like numbers or hold colons, the least integer, and a string with
escapes. -/
def oddForm : Form :=
  .list [.vector [.sym "+" ⟨2, 3, 1, 3⟩, .sym "-.5" ⟨4, 7, 1, 5⟩, .sym "a:b" ⟨8, 11, 1, 9⟩]
      ⟨1, 12, 1, 2⟩,
    .atom (.int (-9223372036854775808)) ⟨13, 33, 1, 14⟩,
    .keyword ":5" ⟨46, 49, 2, 1⟩,
    .str "\t\"\\" ⟨49, 57, 2, 4⟩] ⟨0, 58, 1, 1⟩

/-- The odd form reads back from its text, which has no comment, comma or line break. -/
theorem readAll_text_odd :
    Form.readAll "([+ -.5 a:b],-9223372036854775808 ; the least\n::5\"\\t\\\"\\\\\")" = .ok [oddForm] ∧
    oddForm.text = "([+ -.5 a:b] -9223372036854775808 ::5 \"\\t\\\"\\\\\")" ∧
    ∃ g, Form.readAll oddForm.text = .ok [g] ∧ g.respan {} = oddForm.respan {} := by
  have hread : Form.readAll
      "([+ -.5 a:b],-9223372036854775808 ; the least\n::5\"\\t\\\"\\\\\")" = .ok [oddForm] := by
    cbv
  have hfloat : oddForm.IsFloatFree := by
    simp [IsFloatFree, oddForm, Form.list, Form.vector, Form.sym, Form.keyword, Form.str, AllAtoms,
      AllAtomsOfAll]
  exact ⟨hread, by cbv, readAll_text hread List.mem_cons_self hfloat⟩

end Form

end DeclWeave
