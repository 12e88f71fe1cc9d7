import Mathlib.Data.List.Induction
import Mathlib.Tactic.SplitIfs
import DeclWeave.Form.Lexer

/-!
# Where Tokens Lie

The tokens of a text tile it. Each stands on a stretch of the text between whole characters, they
follow one another without overlap, and nothing but blanks lies between them. All tokens but the
last take up some text; the last is the end of input, and stands at the end.

The induction goes with the lexer, over what it has read and what is left. `Laid read left ts` says
that `ts` are tokens of `left` at the places that `left` has behind `read`; from there every
property of the tokens is a short induction of its own.

## Main results

* `Pos.start_afterAll`: the place after a text, counted at once.
* `laid_tokensFrom`: the lexer lays its tokens along the text.
* `tiles_tokens`: the tokens of a text tile it.
-/

namespace DeclWeave

/-! ### Places -/

namespace Pos

/-- The place after a text: its size in bytes, one more than its line feeds, and one more than the
characters after the last of them. -/
def ofText (text : String) : Pos :=
  ⟨text.utf8ByteSize, 1 + text.toList.count '\n',
    1 + (text.toList.reverse.takeWhile (· != '\n')).length⟩

theorem ofText_singleton (text : String) (c : Char) :
    ofText (text ++ String.singleton c) = (ofText text).after c := by
  have hsize : (text ++ String.singleton c).utf8ByteSize = text.utf8ByteSize + c.utf8Size := by
    rw [String.utf8ByteSize_append, String.utf8ByteSize_singleton]
  simp only [ofText, hsize]
  by_cases hc : c = '\n'
  · simp [after, hc, Nat.add_assoc]
  · simp [after, hc, Nat.add_assoc]

/-- Counting character by character, from the start of a text, leads to the place after it. -/
theorem start_afterAll (cs : List Char) : start.afterAll cs = ofText (String.ofList cs) := by
  induction cs using List.reverseRecOn with
  | nil => simp [ofText, start]
  | append_singleton cs c ih =>
    rw [afterAll_append, ih, String.ofList_append, ← String.singleton_eq_ofList, ofText_singleton]
    rfl

theorem offset_lt_after (p : Pos) (c : Char) : p.offset < (p.after c).offset := by
  have hc := c.utf8Size_pos
  unfold after
  split <;> simp only <;> omega

theorem offset_le_afterAll (p : Pos) (cs : List Char) : p.offset ≤ (p.afterAll cs).offset := by
  induction cs generalizing p with
  | nil => exact Nat.le_refl _
  | cons c cs ih => exact Nat.le_trans (Nat.le_of_lt (offset_lt_after p c)) (ih _)

/-- Text takes up room. -/
theorem offset_lt_afterAll {cs : List Char} (h : cs ≠ []) (p : Pos) :
    p.offset < (p.afterAll cs).offset := by
  obtain ⟨c, cs, rfl⟩ := List.exists_cons_of_ne_nil h
  exact Nat.lt_of_lt_of_le (offset_lt_after p c) (offset_le_afterAll _ cs)

end Pos

/-! ### Lexemes -/

namespace Lexeme

theorem scanString_ne_endOfInput (text : List Char) (taken : Nat) (cs : List Char) :
    (scanString text taken cs).1 ≠ .endOfInput := by
  fun_induction scanString text taken cs <;> simp_all

theorem ofInteger_ne_endOfInput (negative : Bool) (digits : List Char) :
    ofInteger negative digits ≠ .endOfInput := by
  simp only [ofInteger]
  split_ifs <;> simp

theorem scanNumber_ne_endOfInput (negative : Bool) (cs : List Char) :
    (scanNumber negative cs).1 ≠ .endOfInput := by
  have hinteger := ofInteger_ne_endOfInput
  simp only [scanNumber]
  split
  · split_ifs
    · simp
    · exact hinteger _ _
  · exact hinteger _ _

/-- No character starts the end of input. -/
theorem scan_ne_endOfInput (c : Char) (cs : List Char) : (scan c cs).1 ≠ .endOfInput := by
  have hstring := scanString_ne_endOfInput [] 0 cs
  have hnumber := scanNumber_ne_endOfInput
  simp only [scan]
  split_ifs <;> simp [*]

end Lexeme

/-! ### Along the text -/

/-- `ts` are the tokens of `left` at the places that it has behind `read`: blanks before each of
them, and blanks before the end of input, which is the last. -/
inductive Laid : List Char → List Char → List Token → Prop
  | stop {read blanks : List Char} (hblanks : ∀ c ∈ blanks, isBlank c = true) :
      Laid read blanks [⟨.endOfInput, .between (Pos.start.afterAll (read ++ blanks))
        (Pos.start.afterAll (read ++ blanks))⟩]
  | token {read blanks text left : List Char} {lexeme : Lexeme} {ts : List Token}
      (hblanks : ∀ c ∈ blanks, isBlank c = true) (htext : text ≠ [])
      (hlexeme : lexeme ≠ .endOfInput) (hleft : Laid (read ++ blanks ++ text) left ts) :
      Laid read (blanks ++ text ++ left) (⟨lexeme, .between (Pos.start.afterAll (read ++ blanks))
        (Pos.start.afterAll (read ++ blanks ++ text))⟩ :: ts)

/-- The lexer lays its tokens along the text. -/
theorem laid_tokensFrom {p : Pos} {cs : List Char} :
    ∀ {read : List Char}, p = Pos.start.afterAll read → Laid read cs (tokensFrom p cs) := by
  have hblanks (cs : List Char) : ∀ c ∈ cs.takeWhile isBlank, isBlank c = true :=
    List.all_eq_true.mp List.all_takeWhile
  fun_induction tokensFrom p cs with
  | case1 p cs first =>
    rename_i hnil
    intro read hp
    have hcs : cs.takeWhile isBlank = cs := by
      simpa [hnil] using cs.takeWhile_append_dropWhile (p := isBlank)
    have hfirst : first = Pos.start.afterAll (read ++ cs) := by
      rw [Pos.afterAll_append, ← hp]
      exact congrArg p.afterAll hcs
    rw [hfirst]
    exact .stop (hcs ▸ hblanks cs)
  | case2 p cs first c rest hcons lexeme n hscan last =>
    rename_i ih
    intro read hp
    have hcs : cs.takeWhile isBlank ++ (c :: rest.take n) ++ rest.drop n = cs := by
      rw [List.append_assoc, List.cons_append, List.take_append_drop, ← hcons,
        List.takeWhile_append_dropWhile]
    have hfirst : first = Pos.start.afterAll (read ++ cs.takeWhile isBlank) := by
      rw [Pos.afterAll_append, ← hp]
    have hlast :
        last = Pos.start.afterAll (read ++ cs.takeWhile isBlank ++ (c :: rest.take n)) := by
      rw [Pos.afterAll_append, ← hfirst]
    have hlexeme : lexeme ≠ .endOfInput := by
      simpa [hscan] using Lexeme.scan_ne_endOfInput c rest
    have hlaid := Laid.token (hblanks cs) (List.cons_ne_nil c _) hlexeme (ih hlast)
    rwa [hcs, ← hfirst, ← hlast] at hlaid

/-! ### What lies along a text -/

section Laid

variable {read left : List Char} {ts : List Token}

/-- The end of input, and no other token, is last; it takes up no text, and every other does. -/
theorem Laid.exists_append (h : Laid read left ts) : ∃ before,
    ts = before ++ [⟨.endOfInput, .between (Pos.start.afterAll (read ++ left))
      (Pos.start.afterAll (read ++ left))⟩] ∧
    ∀ t ∈ before, t.lexeme ≠ .endOfInput ∧ t.span.start < t.span.stop := by
  induction h with
  | stop => exact ⟨[], rfl, by simp⟩
  | @token read blanks text left lexeme ts hblanks htext hlexeme hleft ih =>
    obtain ⟨before, hts, hbefore⟩ := ih
    have hroom := Pos.offset_lt_afterAll htext (Pos.start.afterAll (read ++ blanks))
    rw [← Pos.afterAll_append] at hroom
    refine ⟨⟨lexeme, .between _ _⟩ :: before, ?_,
      List.forall_mem_cons.mpr ⟨⟨hlexeme, hroom⟩, hbefore⟩⟩
    rw [hts]
    simp only [List.append_assoc, List.cons_append]

/-- Each token lies between two whole texts. -/
theorem Laid.exists_eq_append (h : Laid read left ts) {t : Token} (ht : t ∈ ts) :
    ∃ before text after, read ++ left = before ++ text ++ after ∧
      t.span = .between (Pos.start.afterAll before) (Pos.start.afterAll (before ++ text)) := by
  induction h with
  | @stop read blanks =>
    obtain rfl := List.mem_singleton.mp ht
    exact ⟨read ++ blanks, [], [], by simp, by simp⟩
  | @token read blanks text left lexeme ts hblanks htext hlexeme hleft ih =>
    rcases List.mem_cons.mp ht with rfl | ht
    · exact ⟨read ++ blanks, text, left, by simp, rfl⟩
    · simpa using ih ht

/-- No token starts before the text that it is a token of. -/
theorem Laid.offset_le (h : Laid read left ts) {t : Token} (ht : t ∈ ts) :
    (Pos.start.afterAll read).offset ≤ t.span.start := by
  induction h with
  | @stop read blanks =>
    obtain rfl := List.mem_singleton.mp ht
    rw [Pos.afterAll_append]
    exact Pos.offset_le_afterAll _ _
  | @token read blanks text left lexeme ts hblanks htext hlexeme hleft ih =>
    rcases List.mem_cons.mp ht with rfl | ht
    · rw [Pos.afterAll_append]
      exact Pos.offset_le_afterAll _ _
    · refine Nat.le_trans ?_ (ih ht)
      rw [List.append_assoc, Pos.afterAll_append]
      exact Pos.offset_le_afterAll _ _

/-- Each token stops before the next ones start. -/
theorem Laid.pairwise (h : Laid read left ts) :
    ts.Pairwise fun s t => s.span.stop ≤ t.span.start := by
  induction h with
  | stop => exact List.pairwise_singleton _ _
  | token hblanks htext hlexeme hleft ih =>
    exact List.pairwise_cons.mpr ⟨fun t ht => hleft.offset_le ht, ih⟩

end Laid

/-! ### What lies between tokens -/

/-- Nothing but white space and commas lies between two places of a text. -/
def BlankBetween (source : String) (first last : Nat) : Prop :=
  ∃ before gap after : String, source = before ++ gap ++ after ∧
    before.utf8ByteSize = first ∧ (before ++ gap).utf8ByteSize = last ∧
    ∀ c ∈ gap.toList, Text.isSpace c = true ∨ c = ','

/-- Blanks between two places of a text, character by character. -/
theorem blankBetween_afterAll {read blanks left : List Char} (h : ∀ c ∈ blanks, isBlank c = true) :
    BlankBetween (String.ofList (read ++ (blanks ++ left))) (Pos.start.afterAll read).offset
      (Pos.start.afterAll (read ++ blanks)).offset := by
  refine ⟨.ofList read, .ofList blanks, .ofList left, ?_, ?_, ?_, fun c hc => ?_⟩
  · simp only [String.ofList_append, String.append_assoc]
  · rw [Pos.start_afterAll]
    rfl
  · rw [Pos.start_afterAll, String.ofList_append]
    rfl
  · rw [String.toList_ofList] at hc
    simpa [isBlank] using h c hc

theorem Laid.parted {read left : List Char} {ts : List Token} (h : Laid read left ts) {s : Span}
    (hs : s.stop = (Pos.start.afterAll read).offset) :
    (s :: ts.map (·.span)).IsChain
      fun s t => BlankBetween (String.ofList (read ++ left)) s.stop t.start := by
  induction h generalizing s with
  | @stop read blanks hblanks =>
    have hgap : BlankBetween (String.ofList (read ++ (blanks ++ []))) _ _ :=
      blankBetween_afterAll hblanks
    rw [List.append_nil, ← hs] at hgap
    exact .cons_cons hgap (.singleton _)
  | @token read blanks text left lexeme ts hblanks htext hlexeme hleft ih =>
    have hgap : BlankBetween (String.ofList (read ++ (blanks ++ (text ++ left)))) _ _ :=
      blankBetween_afterAll hblanks
    have htail := ih (s := .between (Pos.start.afterAll (read ++ blanks))
      (Pos.start.afterAll (read ++ blanks ++ text))) rfl
    rw [← hs] at hgap
    simp only [List.append_assoc] at htail ⊢
    exact .cons_cons hgap htail

/-! ### Tokens tile a text -/

/-- Tokens that lie along a text, one after the other, with nothing but blanks between them. -/
structure Tiles (source : String) (ts : List Token) : Prop where
  /-- The end of input, and no other token, is last; it takes up no text, and every other does. -/
  ends : ∃ before last, ts = before ++ [last] ∧ last.lexeme = .endOfInput ∧
    last.span.start = source.utf8ByteSize ∧ last.span.stop = source.utf8ByteSize ∧
    ∀ t ∈ before, t.lexeme ≠ .endOfInput ∧ t.span.start < t.span.stop
  /-- Each token stands on some whole characters of the text, and its span tells which. -/
  placed : ∀ t ∈ ts, ∃ before text after : String, source = before ++ text ++ after ∧
    t.span = .between (.ofText before) (.ofText (before ++ text))
  /-- The tokens follow one another. -/
  ordered : ts.Pairwise fun s t => s.span.stop ≤ t.span.start
  /-- Between two tokens, and before the first, there are only blanks. -/
  parted : (Span.atStart :: ts.map (·.span)).IsChain fun s t => BlankBetween source s.stop t.start

/-- **Tokens tile the source.** -/
theorem tiles_tokens (source : String) : Tiles source (tokens source) := by
  have hlaid : Laid [] source.toList (tokens source) := laid_tokensFrom rfl
  have hsource : String.ofList source.toList = source := String.ofList_toList
  constructor
  · obtain ⟨before, hts, hbefore⟩ := hlaid.exists_append
    refine ⟨before, _, hts, rfl, ?_, ?_, hbefore⟩ <;>
      simp [Span.between, Pos.start_afterAll, Pos.ofText, hsource]
  · intro t ht
    obtain ⟨before, text, after, happend, hspan⟩ := hlaid.exists_eq_append ht
    refine ⟨.ofList before, .ofList text, .ofList after, ?_, ?_⟩
    · rw [← hsource, ← List.nil_append source.toList, happend, String.ofList_append,
        String.ofList_append]
    · rw [hspan, Pos.start_afterAll, Pos.start_afterAll, String.ofList_append]
  · exact hlaid.pairwise
  · simpa only [hsource, List.nil_append] using hlaid.parted (s := .atStart) rfl

end DeclWeave
