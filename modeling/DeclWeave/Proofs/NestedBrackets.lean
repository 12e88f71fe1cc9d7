import DeclWeave.Proofs.TokenSpans
import DeclWeave.Proofs.WrittenForms

/-!
# Nested Brackets

A text can be read if its brackets are nested and every token is one, and from the forms that were
read all its tokens but the comments can be told. `Lexeme.Nested` says what nesting is, without
a stack: each opening bracket stands before something nested and a closing bracket of its kind. The
reader, which has a stack, is compared with a walk that keeps only the open brackets (`Closes`), and
that walk with `Nested`.

What the reader holds is never less than what it has taken in: `held` writes out the brackets still
open with the forms after each, and every token either joins them or is handed out with a form.

## Main results

* `Lexeme.closes_iff_nested`: the walk that counts open brackets tells what is nested.
* `Reader.exists_readAll_iff`: the reader succeeds where that walk does.
* `Reader.lexemesOfAll_readAll`: the forms that were read have the lexemes of the tokens.
* `readAll_iff_nested_and_lexemes`: both, for the text of a source.
-/

namespace DeclWeave

open Outcome (bind_eq_ok)

/-! ### Nesting -/

namespace Lexeme

/-- Lexemes with each bracket matched by one of its kind, and nothing across. -/
inductive Nested : List Lexeme → Prop
  | nil : Nested []
  | other {l : Lexeme} {ls : List Lexeme} (hopening : ∀ b, l ≠ .opening b)
      (hclosing : ∀ b, l ≠ .closing b) (h : Nested ls) : Nested (l :: ls)
  | group (b : Bracket) {inside after : List Lexeme} (hinside : Nested inside)
      (hafter : Nested after) : Nested (.opening b :: (inside ++ .closing b :: after))

/-- The brackets open after a lexeme, if it may stand where `brackets` are open, the innermost
first. -/
def turn (brackets : List Bracket) : Lexeme → Option (List Bracket)
  | .opening b => some (b :: brackets)
  | .closing b =>
    match brackets with
    | top :: rest => if top = b then some rest else none
    | [] => none
  | _ => some brackets

/-- The lexemes close the brackets that are open, and all that they open. -/
def Closes (brackets : List Bracket) : List Lexeme → Prop
  | [] => brackets = []
  | l :: ls => ∃ brackets', turn brackets l = some brackets' ∧ Closes brackets' ls

theorem turn_closing (b : Bracket) (brackets : List Bracket) :
    turn (b :: brackets) (.closing b) = some brackets :=
  if_pos rfl

theorem exists_of_turn_closing {brackets brackets' : List Bracket} {b : Bracket}
    (h : turn brackets (.closing b) = some brackets') : brackets = b :: brackets' := by
  cases brackets with
  | nil => exact absurd h (by simp [turn])
  | cons top rest =>
    obtain ⟨rfl, rfl⟩ : top = b ∧ rest = brackets' := by simpa [turn] using h
    rfl

theorem turn_other {l : Lexeme} (hopening : ∀ b, l ≠ .opening b) (hclosing : ∀ b, l ≠ .closing b)
    (brackets : List Bracket) : turn brackets l = some brackets := by
  cases l with
  | opening b => exact absurd rfl (hopening b)
  | closing b => exact absurd rfl (hclosing b)
  | atom a => rfl
  | comment text => rfl
  | invalid fault => rfl
  | endOfInput => rfl

/-- What is nested leaves the brackets around it open. -/
theorem Nested.closes_append {ls : List Lexeme} (h : Nested ls) {brackets : List Bracket}
    {more : List Lexeme} (hmore : Closes brackets more) : Closes brackets (ls ++ more) := by
  induction h generalizing brackets more with
  | nil => exact hmore
  | other hopening hclosing _ ih => exact ⟨_, turn_other hopening hclosing brackets, ih hmore⟩
  | group b _ _ ihinside ihafter =>
    have hclosing : Closes (b :: brackets) (.closing b :: (_ ++ more)) :=
      ⟨_, turn_closing b brackets, ihafter hmore⟩
    refine ⟨b :: brackets, rfl, ?_⟩
    simpa only [List.append_eq, List.append_assoc, List.cons_append] using ihinside hclosing

/-- Nested lexemes up to each of the brackets that they close. -/
def NestedUnder : List Bracket → List Lexeme → Prop
  | [], ls => Nested ls
  | b :: brackets, ls => ∃ inside after, ls = inside ++ .closing b :: after ∧ Nested inside ∧
      NestedUnder brackets after

theorem NestedUnder.other {l : Lexeme} (hopening : ∀ b, l ≠ .opening b)
    (hclosing : ∀ b, l ≠ .closing b) {brackets : List Bracket} {ls : List Lexeme}
    (h : NestedUnder brackets ls) : NestedUnder brackets (l :: ls) := by
  cases brackets with
  | nil => exact Nested.other hopening hclosing h
  | cons b brackets =>
    obtain ⟨inside, after, rfl, hinside, hafter⟩ := h
    exact ⟨l :: inside, after, rfl, .other hopening hclosing hinside, hafter⟩

theorem NestedUnder.opening {b : Bracket} {brackets : List Bracket} {ls : List Lexeme}
    (h : NestedUnder (b :: brackets) ls) : NestedUnder brackets (.opening b :: ls) := by
  obtain ⟨inside, after, rfl, hinside, hafter⟩ := h
  cases brackets with
  | nil => exact .group b hinside hafter
  | cons top brackets =>
    obtain ⟨inside', after', rfl, hinside', hafter'⟩ := hafter
    refine ⟨.opening b :: (inside ++ .closing b :: inside'), after', ?_,
      .group b hinside hinside', hafter'⟩
    simp only [List.cons_append, List.append_assoc]

theorem NestedUnder.closing {b : Bracket} {brackets : List Bracket} {ls : List Lexeme}
    (h : NestedUnder brackets ls) : NestedUnder (b :: brackets) (.closing b :: ls) :=
  ⟨[], ls, rfl, .nil, h⟩

theorem nestedUnder_of_closes {brackets : List Bracket} {ls : List Lexeme}
    (h : Closes brackets ls) : NestedUnder brackets ls := by
  induction ls generalizing brackets with
  | nil =>
    obtain rfl : brackets = [] := h
    exact .nil
  | cons l ls ih =>
    obtain ⟨brackets', hturn, hls⟩ := h
    have hunder := ih hls
    cases l with
    | opening b =>
      obtain rfl := Option.some.inj hturn
      exact hunder.opening
    | closing b =>
      obtain rfl := exists_of_turn_closing hturn
      exact hunder.closing
    | _ =>
      obtain rfl := Option.some.inj hturn
      exact hunder.other (by simp) (by simp)

/-- **Counting open brackets** tells what is nested. -/
theorem closes_iff_nested {ls : List Lexeme} : Closes [] ls ↔ Nested ls := by
  refine ⟨fun h => nestedUnder_of_closes h, fun h => ?_⟩
  have hnil : Closes [] ([] : List Lexeme) := rfl
  simpa using h.closes_append hnil

end Lexeme

/-! ### The reader and the brackets -/

namespace Reader

variable {stack stack' : List Frame} {t : Token} {completed : Option Form}

@[simp] theorem map_bracket_deliver (f : Form) (stack : List Frame) :
    (deliver f stack).1.map (·.bracket) = stack.map (·.bracket) := by
  cases stack <;> rfl

/-- **A token** is taken in if it is one and may stand where it does. -/
theorem exists_feed_iff (ht : t.lexeme ≠ .endOfInput) {brackets : List Bracket} :
    (∃ stack' completed, feed stack t = .ok (stack', completed) ∧
      stack'.map (·.bracket) = brackets) ↔
    (∀ fault, t.lexeme ≠ .invalid fault) ∧
      t.lexeme.turn (stack.map (·.bracket)) = some brackets := by
  cases hlexeme : t.lexeme with
  | atom a =>
    have hfeed : feed stack t = .ok (deliver (.atom a t.span) stack) := by simp [feed, hlexeme]
    simp [hfeed, Lexeme.turn, Prod.ext_iff]
  | opening b => simp [feed, hlexeme, Lexeme.turn]
  | closing b =>
    cases stack with
    | nil => simp [feed, hlexeme, Lexeme.turn]
    | cons top rest =>
      by_cases hb : top.bracket = b
      · have hfeed : feed (top :: rest) t =
            .ok (deliver (.seq b top.done.reverse (top.span.cover t.span)) rest) := by
          simp [feed, hlexeme, hb]
        simp [hfeed, Lexeme.turn, hb, Prod.ext_iff]
      · simp [feed, hlexeme, Lexeme.turn, hb]
  | comment text => simp [feed, hlexeme, Lexeme.turn]
  | invalid fault => simp [feed, hlexeme]
  | endOfInput => exact absurd hlexeme ht

theorem exists_readAll_cons_iff {ts : List Token} :
    (∃ forms, readAll stack (t :: ts) = .ok forms) ↔
      ∃ stack' completed, feed stack t = .ok (stack', completed) ∧
        ∃ forms, readAll stack' ts = .ok forms := by
  constructor
  · rintro ⟨forms, h⟩
    obtain ⟨⟨stack', completed⟩, hfeed, h⟩ := bind_eq_ok.mp h
    obtain ⟨more, hmore, -⟩ := bind_eq_ok.mp h
    exact ⟨stack', completed, hfeed, more, hmore⟩
  · rintro ⟨stack', completed, hfeed, more, hmore⟩
    exact ⟨_, bind_eq_ok.mpr ⟨_, hfeed, bind_eq_ok.mpr ⟨more, hmore, rfl⟩⟩⟩

/-- **Tokens can be read** if each is one and all brackets that are opened are closed. -/
theorem exists_readAll_iff {before : List Token} {last : Token}
    (hlast : last.lexeme = .endOfInput) (hbefore : ∀ t ∈ before, t.lexeme ≠ .endOfInput) :
    (∃ forms, readAll stack (before ++ [last]) = .ok forms) ↔
      (∀ t ∈ before ++ [last], ∀ fault, t.lexeme ≠ .invalid fault) ∧
        Lexeme.Closes (stack.map (·.bracket)) ((before ++ [last]).map (·.lexeme)) := by
  induction before generalizing stack with
  | nil =>
    cases stack with
    | nil =>
      simp [readAll, feed, hlast, Lexeme.Closes, Lexeme.turn, bind, Except.bind, pure, Except.pure]
    | cons top rest => simp [readAll, feed, hlast, Lexeme.Closes, Lexeme.turn, bind, Except.bind]
  | cons t before ih =>
    obtain ⟨ht, hbefore⟩ := List.forall_mem_cons.mp hbefore
    rw [List.cons_append, exists_readAll_cons_iff, List.forall_mem_cons, List.map_cons]
    constructor
    · rintro ⟨stack', completed, hfeed, hmore⟩
      obtain ⟨hvalid, hturn⟩ := (exists_feed_iff ht).mp ⟨stack', completed, hfeed, rfl⟩
      obtain ⟨hvalids, hcloses⟩ := (ih hbefore).mp hmore
      exact ⟨⟨hvalid, hvalids⟩, _, hturn, hcloses⟩
    · rintro ⟨⟨hvalid, hvalids⟩, brackets, hturn, hcloses⟩
      obtain ⟨stack', completed, hfeed, rfl⟩ := (exists_feed_iff ht).mpr ⟨hvalid, hturn⟩
      exact ⟨stack', completed, hfeed, (ih hbefore).mpr ⟨hvalids, hcloses⟩⟩

end Reader

/-! ### Forms as lexemes -/

mutual

/-- The lexemes that a form is read from, without comments: a bracket on each side of its items. -/
def Form.lexemes : Form → List Lexeme
  | .atom a _ => [.atom a]
  | .seq b items _ => .opening b :: (lexemesOfAll items ++ [.closing b])

/-- The lexemes of forms, one after the other. -/
def Form.lexemesOfAll : List Form → List Lexeme
  | [] => []
  | f :: fs => f.lexemes ++ lexemesOfAll fs

end

theorem Form.lexemesOfAll_append (fs gs : List Form) :
    lexemesOfAll (fs ++ gs) = lexemesOfAll fs ++ lexemesOfAll gs := by
  induction fs with
  | nil => rfl
  | cons f fs ih => rw [List.cons_append, lexemesOfAll, lexemesOfAll, ih, List.append_assoc]

namespace Reader

open Form (lexemesOfAll lexemesOfAll_append)

variable {stack stack' : List Frame} {t : Token} {completed : Option Form}

/-- The lexemes that the open brackets hold, the outermost first. -/
def held : List Frame → List Lexeme
  | [] => []
  | top :: rest => held rest ++ .opening top.bracket :: lexemesOfAll top.done.reverse

/-- A completed form is handed out or held. -/
theorem held_deliver (f : Form) (stack : List Frame) :
    lexemesOfAll (deliver f stack).2.toList ++ held (deliver f stack).1 =
      held stack ++ f.lexemes := by
  cases stack with
  | nil => simp [deliver, held, lexemesOfAll]
  | cons top rest => simp [deliver, held, lexemesOfAll, lexemesOfAll_append]

/-- **A token** that is no comment is handed out or held. -/
theorem held_feed (ht : t.lexeme ≠ .endOfInput) (h : feed stack t = .ok (stack', completed)) :
    lexemesOfAll completed.toList ++ held stack' =
      held stack ++ [t.lexeme].filter (!·.isTrivia) := by
  cases hlexeme : t.lexeme with
  | atom a =>
    have hdeliver : deliver (.atom a t.span) stack = (stack', completed) := by
      simpa [feed, hlexeme] using h
    have hheld := held_deliver (.atom a t.span) stack
    rw [hdeliver] at hheld
    exact hheld
  | opening b =>
    obtain ⟨rfl, rfl⟩ : ⟨b, t.span, []⟩ :: stack = stack' ∧ none = completed := by
      simpa [feed, hlexeme] using h
    rfl
  | closing b =>
    cases stack with
    | nil => exact absurd h (by simp [feed, hlexeme])
    | cons top rest =>
      simp only [feed, hlexeme] at h
      split at h
      · rename_i hb
        have hheld := held_deliver (.seq b top.done.reverse (top.span.cover t.span)) rest
        rw [Except.ok.inj h] at hheld
        rw [hheld, held, hb, Form.lexemes]
        simp [Lexeme.isTrivia]
      · exact absurd h (by simp)
  | comment text =>
    obtain ⟨rfl, rfl⟩ : stack = stack' ∧ none = completed := by
      simpa [feed, hlexeme] using h
    simp [lexemesOfAll, Lexeme.isTrivia]
  | invalid fault => exact absurd h (by simp [feed, hlexeme])
  | endOfInput => exact absurd hlexeme ht

/-- **The forms that were read** have the lexemes of the tokens, comments left out. -/
theorem lexemesOfAll_readAll {before : List Token} {last : Token} {forms : List Form}
    (hlast : last.lexeme = .endOfInput) (hbefore : ∀ t ∈ before, t.lexeme ≠ .endOfInput)
    (h : readAll stack (before ++ [last]) = .ok forms) :
    lexemesOfAll forms = held stack ++ (before.map (·.lexeme)).filter (!·.isTrivia) := by
  induction before generalizing stack forms with
  | nil =>
    obtain ⟨⟨stack', completed⟩, hfeed, h⟩ := bind_eq_ok.mp h
    obtain rfl := Except.ok.inj h
    cases stack with
    | nil =>
      obtain ⟨rfl, rfl⟩ : [] = stack' ∧ none = completed := by simpa [feed, hlast] using hfeed
      rfl
    | cons top rest => exact absurd hfeed (by simp [feed, hlast])
  | cons t before ih =>
    obtain ⟨ht, hbefore⟩ := List.forall_mem_cons.mp hbefore
    obtain ⟨⟨stack', completed⟩, hfeed, h⟩ := bind_eq_ok.mp h
    obtain ⟨more, hmore, h⟩ := bind_eq_ok.mp h
    obtain rfl := Except.ok.inj h
    rw [lexemesOfAll_append, ih hbefore hmore, ← List.append_assoc, held_feed ht hfeed,
      List.append_assoc, ← List.filter_append, List.map_cons, List.singleton_append]

end Reader

/-! ### Reading a source -/

/-- **Nested brackets are read, and nothing is lost.** A source text can be read just if each of
its tokens is one and their brackets are nested; and the forms that are read from it, written out
with their brackets, are its tokens before the end of input, without the comments. -/
theorem readAll_iff_nested_and_lexemes (source : String) :
    ((∃ forms, Form.readAll source = .ok forms) ↔
      (∀ t ∈ tokens source, ∀ fault, t.lexeme ≠ .invalid fault) ∧
        Lexeme.Nested ((tokens source).map (·.lexeme))) ∧
    ∀ forms, Form.readAll source = .ok forms → Form.lexemesOfAll forms =
      (((tokens source).map (·.lexeme)).takeWhile (· ≠ .endOfInput)).filter (!·.isTrivia) := by
  have hlaid : Laid [] source.toList (tokens source) := laid_tokensFrom rfl
  obtain ⟨before, hts, hbefore⟩ := hlaid.exists_append
  have hbefore : ∀ t ∈ before, t.lexeme ≠ .endOfInput := fun t ht => (hbefore t ht).1
  have hmap : ((tokens source).map (·.lexeme)).takeWhile (· ≠ .endOfInput) =
      before.map (·.lexeme) := by
    rw [hts, List.map_append, List.takeWhile_append_of_pos (by simpa using hbefore)]
    simp
  simp only [Form.readAll_eq_ok_iff, hmap]
  rw [hts]
  refine ⟨?_, fun forms h => ?_⟩
  · rw [Reader.exists_readAll_iff rfl hbefore, List.map_nil, Lexeme.closes_iff_nested]
  · exact Reader.lexemesOfAll_readAll rfl hbefore h

/-- A comment in brackets of both kinds, and an atom after them. -/
def commentedText : String :=
  "(a [1 ; one)\n]) b"

/-- The commented text can be read, so it is nested; the forms are its tokens but the comment. -/
theorem lexemes_readAll_commented : ∃ forms, Form.readAll commentedText = .ok forms ∧
    Form.lexemesOfAll forms = [.opening .round, .atom (.sym "a"), .opening .square,
      .atom (.int 1), .closing .square, .closing .round, .atom (.sym "b")] ∧
    Lexeme.Nested ((tokens commentedText).map (·.lexeme)) := by
  obtain ⟨hiff, hlexemes⟩ := readAll_iff_nested_and_lexemes commentedText
  have hread : Form.readAll commentedText =
      .ok [.list [.sym "a" ⟨1, 2, 1, 2⟩,
        .vector [.atom (.int 1) ⟨4, 5, 1, 5⟩] ⟨3, 14, 1, 4⟩] ⟨0, 15, 1, 1⟩,
        .sym "b" ⟨16, 17, 2, 4⟩] := by
    cbv
  exact ⟨_, hread, (hlexemes _ hread).trans (by cbv), (hiff.mp ⟨_, hread⟩).2⟩

end DeclWeave
