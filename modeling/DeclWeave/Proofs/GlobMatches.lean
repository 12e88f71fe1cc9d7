import DeclWeave.Filter.Basic
import Mathlib.Data.List.Basic
import Mathlib.Data.List.Forall2

/-!
# What Globs Match

A text splits according to a glob if it consists of one piece for each character of the glob, and
every piece is what the character stands for. Two procedures have to come to the same: the rows that
a match is looked for with, and the expression that a glob amounts to, which stands between the two
ends of a text. Both are compared with `Glob.Matches`, in which no wildcard stands for a line feed;
in a text of one line that is no restriction.

A row holds an answer for every rest of a text. Each of the row functions turns the answers for a
glob into those for the glob with one more character in front, so the rows are followed along the
glob. The expression is followed along the members of its sequence, whatever its normal form joins.

## Main results

* `Pattern.reads_sequence`: the normal form of a sequence reads what its members read in turn.
* `Glob.isMatch_iff`, `Glob.finds_pattern_iff`: rows and expression match alike.
* `Filter.ofGlob_splits`: globs as filters of names.
-/

namespace DeclWeave

/-! ### What patterns read -/

namespace Pattern

/-- What is read by some rounds of reading, one after the other. What is read may depend on what
comes before it and on what follows. -/
def Rounds (reads : List Char → List Char → List Char → Prop) :
    Nat → List Char → List Char → List Char → Prop
  | 0, _, piece, _ => piece = []
  | n + 1, before, piece, after => ∃ first rest, piece = first ++ rest ∧
    reads before first (rest ++ after) ∧ Rounds reads n (before ++ first) rest after

/-- Whether a pattern reads a piece of a text, between what comes before it and what follows. -/
def Reads : Pattern → List Char → List Char → List Char → Prop
  | .empty, _, piece, _ => piece = []
  | .literal text, _, piece, _ => piece = text
  | .set s, _, piece, _ => ∃ c, piece = [c] ∧ s.contains c = true
  | .assertion a, before, piece, after =>
    piece = [] ∧ a.holds before.getLast? after.head? = true
  | .repetition p least most _, before, piece, after =>
    ∃ n, least ≤ n ∧ (∀ m ∈ most, n ≤ m) ∧ Rounds (Reads p) n before piece after
  | .group _ p, before, piece, after => Reads p before piece after
  | .seq p q, before, piece, after => ∃ first rest, piece = first ++ rest ∧
    Reads p before first (rest ++ after) ∧ Reads q (before ++ first) rest after
  | .alt p q, before, piece, after => Reads p before piece after ∨ Reads q before piece after

/-- Whether a pattern has a match somewhere in a text. -/
def Finds (p : Pattern) (text : List Char) : Prop :=
  ∃ before piece after, text = before ++ piece ++ after ∧ p.Reads before piece after

/-- What some patterns read in turn. -/
def ReadsAll : List Pattern → List Char → List Char → List Char → Prop
  | [], _, piece, _ => piece = []
  | p :: ps, before, piece, after => ∃ first rest, piece = first ++ rest ∧
    p.Reads before first (rest ++ after) ∧ ReadsAll ps (before ++ first) rest after

variable {p : Pattern} {ps qs : List Pattern} {before piece after : List Char}

theorem readsAll_singleton : ReadsAll [p] before piece after ↔ p.Reads before piece after := by
  simp [ReadsAll]

theorem readsAll_append : ReadsAll (ps ++ qs) before piece after ↔
    ∃ first rest, piece = first ++ rest ∧
      ReadsAll ps before first (rest ++ after) ∧ ReadsAll qs (before ++ first) rest after := by
  induction ps generalizing before piece with
  | nil => simp [ReadsAll]
  | cons p ps ih =>
    simp only [List.cons_append, ReadsAll, ih]
    constructor
    · rintro ⟨first, _, rfl, hp, second, rest, rfl, hps, hqs⟩
      exact ⟨first ++ second, rest, by simp, ⟨first, second, rfl, by simpa using hp, hps⟩,
        by simpa using hqs⟩
    · rintro ⟨_, rest, rfl, ⟨first, second, rfl, hp, hps⟩, hqs⟩
      exact ⟨first, second ++ rest, by simp, by simpa using hp, second, rest, rfl, hps,
        by simpa using hqs⟩

theorem readsAll_members : ReadsAll p.members before piece after ↔ p.Reads before piece after := by
  induction p generalizing before piece with
  | empty => simp [members, ReadsAll, Reads]
  | seq p q _ ihq => simp [members, ReadsAll, Reads, ihq]
  | _ => exact readsAll_singleton

theorem readsAll_flatMap_members :
    ReadsAll (ps.flatMap members) before piece after ↔ ReadsAll ps before piece after := by
  induction ps generalizing before piece with
  | nil => rfl
  | cons p ps ih => simp only [List.flatMap_cons, readsAll_append, readsAll_members, ih, ReadsAll]

/-- Literals side by side read what the joined literal reads. -/
theorem readsAll_consMember :
    ReadsAll (consMember p ps) before piece after ↔ ReadsAll (p :: ps) before piece after := by
  fun_cases consMember p ps with
  | case1 s t rest => simp [ReadsAll, Reads]
  | case2 => rfl

theorem readsAll_foldr_consMember :
    ReadsAll (ps.foldr consMember []) before piece after ↔ ReadsAll ps before piece after := by
  induction ps generalizing before piece with
  | nil => rfl
  | cons p ps ih => simp only [List.foldr_cons, readsAll_consMember, ReadsAll, ih]

theorem reads_ofMembers :
    (ofMembers ps).Reads before piece after ↔ ReadsAll ps before piece after := by
  fun_induction ofMembers ps generalizing before piece with
  | case1 => rfl
  | case2 p => exact readsAll_singleton.symm
  | case3 p ps _ ih => simp only [Reads, ReadsAll, ih]

/-- The normal form of a sequence reads what its members read in turn. -/
theorem reads_sequence :
    (sequence ps).Reads before piece after ↔ ReadsAll ps before piece after := by
  rw [sequence, reads_ofMembers, readsAll_foldr_consMember, readsAll_flatMap_members]

end Pattern

namespace Glob

/-! ### Splits -/

/-- What a character of a glob stands for: a star for any text, a question mark for any one
character, and every other for itself. -/
def StandsFor (p : Char) (piece : List Char) : Prop :=
  if p = '*' then True else if p = '?' then piece.length = 1 else piece = [p]

/-- Whether a text consists of pieces that the characters of a glob stand for, in turn. -/
def Splits (glob text : List Char) : Prop :=
  ∃ pieces, List.Forall₂ StandsFor glob pieces ∧ pieces.flatten = text

/-- What a character of a glob stands for in texts of several lines: no wildcard stands for a line
feed. -/
def Covers (p : Char) (piece : List Char) : Prop :=
  StandsFor p piece ∧ (p = '*' ∨ p = '?' → '\n' ∉ piece)

/-- Whether a text consists of pieces that the characters of a glob cover, in turn. -/
def Matches (glob text : List Char) : Prop :=
  ∃ pieces, List.Forall₂ Covers glob pieces ∧ pieces.flatten = text

variable {p c : Char} {glob piece text : List Char}

theorem covers_star : Covers '*' piece ↔ '\n' ∉ piece := by
  simp [Covers, StandsFor]

theorem covers_of_ne (hp : p ≠ '*') :
    Covers p piece ↔ ∃ c, piece = [c] ∧ admits p c = true := by
  by_cases hq : p = '?'
  · subst hq
    simp only [Covers, StandsFor, admits, List.length_eq_one_iff]
    aesop
  · simp [Covers, StandsFor, admits, hp, hq]

@[simp] theorem matches_nil : Matches [] text ↔ text = [] := by
  simp [Matches, eq_comm]

theorem matches_cons : Matches (p :: glob) text ↔
    ∃ piece rest, text = piece ++ rest ∧ Covers p piece ∧ Matches glob rest := by
  constructor
  · rintro ⟨_, hpieces, rfl⟩
    cases hpieces with
    | cons hp hglob => exact ⟨_, _, List.flatten_cons, hp, _, hglob, rfl⟩
  · rintro ⟨piece, _, rfl, hp, pieces, hglob, rfl⟩
    exact ⟨piece :: pieces, .cons hp hglob, List.flatten_cons⟩

/-- In a text of one line, wildcards stand for whatever they find. -/
theorem matches_iff_splits (h : '\n' ∉ text) : Matches glob text ↔ Splits glob text := by
  constructor
  · rintro ⟨pieces, hpieces, rfl⟩
    exact ⟨pieces, hpieces.imp fun _ _ hcovers => hcovers.1, rfl⟩
  · rintro ⟨pieces, hpieces, rfl⟩
    refine ⟨pieces, ?_, rfl⟩
    rw [List.forall₂_iff_zip] at hpieces ⊢
    exact ⟨hpieces.1, fun hmem => ⟨hpieces.2 hmem, fun _ hline =>
      h (List.mem_flatten_of_mem (List.of_mem_zip hmem).2 hline)⟩⟩

/-! ### Rows -/

/-- Whether a row answers a question about every rest of a text, the longest first. -/
def Answers (question : List Char → Prop) (text : List Char) (row : List Bool) : Prop :=
  List.Forall₂ (fun rest answer => answer = true ↔ question rest) text.tails row

variable {question : List Char → Prop} {row : List Bool}

theorem answers_nil : Answers question [] row ↔ ∃ b, row = [b] ∧ (b = true ↔ question []) := by
  simp [Answers, List.forall₂_cons_left_iff, and_comm]

theorem answers_cons : Answers question (c :: text) row ↔
    ∃ b later, row = b :: later ∧ (b = true ↔ question (c :: text)) ∧
      Answers question text later := by
  simp only [Answers, List.tails, List.forall₂_cons_left_iff]
  aesop

theorem Answers.headD (h : Answers question text row) :
    row.headD false = true ↔ question text := by
  cases text with
  | nil =>
    obtain ⟨b, rfl, hb⟩ := answers_nil.mp h
    exact hb
  | cons c text =>
    obtain ⟨b, later, rfl, hb, -⟩ := answers_cons.mp h
    exact hb

theorem Answers.congr {other : List Char → Prop} (h : Answers question text row)
    (heq : ∀ rest, question rest ↔ other rest) : Answers other text row :=
  h.imp fun _ _ hrest => hrest.trans (heq _)

theorem answers_emptyRow : Answers (· = []) text (emptyRow text) := by
  induction text with
  | nil => exact answers_nil.mpr ⟨true, rfl, by simp⟩
  | cons c text ih => exact answers_cons.mpr ⟨false, _, rfl, by simp, ih⟩

/-- A star is followed by its rest at once, or it stands for the next character too. -/
theorem answers_starRow (h : Answers question text row) :
    Answers (fun rest => ∃ piece later, rest = piece ++ later ∧ '\n' ∉ piece ∧ question later) text
      (starRow text row) := by
  induction text generalizing row with
  | nil =>
    obtain ⟨b, rfl, hb⟩ := answers_nil.mp h
    exact answers_nil.mpr ⟨b, rfl, by simp [hb]⟩
  | cons c text ih =>
    obtain ⟨b, later, rfl, hb, hlater⟩ := answers_cons.mp h
    refine answers_cons.mpr ⟨_, _, rfl, ?_, ih hlater⟩
    rw [Bool.or_eq_true, Bool.and_eq_true, (ih hlater).headD, hb, bne_iff_ne]
    constructor
    · rintro (hnow | ⟨hc, piece, rest, rfl, hpiece, hrest⟩)
      · exact ⟨[], _, rfl, by simp, hnow⟩
      · exact ⟨c :: piece, rest, rfl, by simp [hpiece, Ne.symm hc], hrest⟩
    · rintro ⟨piece, rest, heq, hpiece, hrest⟩
      cases piece with
      | nil => exact .inl (by rwa [heq])
      | cons d piece =>
        obtain ⟨rfl, rfl⟩ := List.cons.inj heq
        simp only [List.mem_cons, not_or] at hpiece
        exact .inr ⟨Ne.symm hpiece.1, piece, rest, rfl, hpiece.2, hrest⟩

theorem answers_charRow (h : Answers question text row) :
    Answers (fun rest => ∃ c later, rest = c :: later ∧ admits p c = true ∧ question later) text
      (charRow p text row) := by
  induction text generalizing row with
  | nil => exact answers_nil.mpr ⟨false, by simp [charRow], by simp⟩
  | cons c text ih =>
    obtain ⟨b, later, rfl, -, hlater⟩ := answers_cons.mp h
    refine answers_cons.mpr ⟨_, _, rfl, ?_, ih hlater⟩
    rw [Bool.and_eq_true, hlater.headD]
    simp

/-- The row of a glob says of every rest of the text whether the glob matches it. -/
theorem answers_row : Answers (Matches glob) text (Glob.row text glob) := by
  induction glob with
  | nil => exact answers_emptyRow.congr fun _ => matches_nil.symm
  | cons p glob ih =>
    rw [Glob.row]
    split
    case isTrue hp =>
      subst hp
      exact (answers_starRow ih).congr fun _ => by simp only [matches_cons, covers_star]
    case isFalse hp =>
      refine (answers_charRow ih).congr fun _ => ?_
      simp only [matches_cons, covers_of_ne hp]
      aesop

theorem isMatch_iff : isMatch glob text = true ↔ Matches glob text :=
  answers_row.headD

/-! ### Expressions -/

variable {before after : List Char}

theorem contains_complement_lineFeed :
    (Text.CharSet.single '\n').complement.contains c = true ↔ c ≠ '\n' := by
  have hline : c = '\n' ↔ c.toNat = 10 := Char.toNat_inj.symm
  have hlast : c.toNat < 0x110000 := by
    obtain h | h := c.valid
    · exact Nat.lt_trans h (by decide)
    · exact h.2
  have hranges : (Text.CharSet.single '\n').complement = ⟨[⟨0, 9⟩, ⟨11, 0x10FFFF⟩]⟩ := rfl
  simp only [hranges, Text.CharSet.contains, Text.inRanges, List.any_cons, List.any_nil,
    Bool.or_eq_true, Text.CharRange.contains_iff, ne_eq, hline, Bool.false_eq_true, or_false]
  omega

/-- Any number of characters that are no line feeds. -/
theorem rounds_any (before piece after : List Char) :
    (∃ n, Pattern.Rounds (Pattern.Reads (.set (Text.CharSet.single '\n').complement)) n before
      piece after) ↔ '\n' ∉ piece := by
  constructor
  · rintro ⟨n, hrounds⟩
    induction n generalizing before piece with
    | zero => simp [show piece = [] from hrounds]
    | succ n ih =>
      obtain ⟨_, rest, rfl, ⟨c, rfl, hc⟩, hrest⟩ := hrounds
      simp [ih _ _ hrest, Ne.symm (contains_complement_lineFeed.mp hc)]
  · intro hpiece
    induction piece generalizing before with
    | nil => exact ⟨0, rfl⟩
    | cons c piece ih =>
      simp only [List.mem_cons, not_or] at hpiece
      obtain ⟨n, hrounds⟩ := ih (before ++ [c]) hpiece.2
      exact ⟨n + 1, [c], piece, rfl,
        ⟨c, rfl, contains_complement_lineFeed.mpr (Ne.symm hpiece.1)⟩, hrounds⟩

/-- What one character of a glob amounts to reads what it covers, wherever it stands. -/
theorem reads_part : (part p).Reads before piece after ↔ Covers p piece := by
  rw [part]
  split
  case isTrue hstar =>
    subst hstar
    rw [covers_star, ← rounds_any before piece after]
    simp [Pattern.repeated, Pattern.onlyPlaces, Pattern.Reads]
  case isFalse hstar =>
    rw [covers_of_ne hstar]
    split
    case isTrue hquestion =>
      subst hquestion
      simp [Pattern.Reads, admits, contains_complement_lineFeed]
    case isFalse hquestion => simp [Pattern.Reads, admits, hquestion]

theorem readsAll_map_part :
    Pattern.ReadsAll (glob.map part) before piece after ↔ Matches glob piece := by
  induction glob generalizing before piece with
  | nil => simp [Pattern.ReadsAll]
  | cons p glob ih => simp only [List.map_cons, Pattern.ReadsAll, reads_part, ih, matches_cons]

/-- The expression of a glob reads whole texts only: its ends are those of the text. -/
theorem reads_pattern : (pattern glob).Reads before piece after ↔
    before = [] ∧ after = [] ∧ Matches glob piece := by
  simp only [pattern, Pattern.reads_sequence, List.cons_append, Pattern.ReadsAll,
    Pattern.readsAll_append, readsAll_map_part, Pattern.Reads, Assertion.holds]
  aesop

theorem finds_pattern_iff : (pattern glob).Finds text ↔ Matches glob text := by
  simp [Pattern.Finds, reads_pattern]

end Glob

namespace Filter

/-- The filter of a glob selects what the glob matches. -/
theorem selects_glob_iff {text name : String} {qualified : Option String} :
    (Filter.glob text).selects name qualified = true ↔
      Glob.Matches text.toList (subject name qualified (text.toList.contains '.')).toList := by
  rw [selects, Glob.isMatch_iff]

theorem ofGlob_eq_ok_iff {text : String} {F : Filter} :
    ofGlob text = .ok F ↔ text ≠ "" ∧ Glob.fits text.toList = true ∧ F = .glob text := by
  rw [ofGlob]
  split
  case isTrue h => simp [String.isEmpty_iff.mp h]
  case isFalse h =>
    have hne : text ≠ "" := fun heq => h (String.isEmpty_iff.mpr heq)
    split <;> simp [*, eq_comm]

/-- A glob that is not empty and small enough to be compiled is a filter. It selects a name of
unknown origin exactly if the name splits according to the glob, and a member exactly if its name
does or, where the glob has a dot, its qualified name. The expression of the glob finds a match in
the same texts. -/
theorem ofGlob_splits (p : String) (hp : p ≠ "") (hfits : Glob.fits p.toList = true) :
    ∃ f, ofGlob p = .ok f ∧
      (∀ n : String, '\n' ∉ n.toList →
        (f.selectsName n = true ↔ Glob.Splits p.toList n.toList)) ∧
      (∀ n o text : String, text = (if '.' ∈ p.toList then o ++ "." ++ n else n) →
        '\n' ∉ text.toList →
        (f.selectsMember n o = true ↔ Glob.Splits p.toList text.toList)) ∧
      ∀ text : List Char, '\n' ∉ text →
        ((Glob.pattern p.toList).Finds text ↔ Glob.Splits p.toList text) := by
  refine ⟨_, ofGlob_eq_ok_iff.mpr ⟨hp, hfits, rfl⟩, fun n hn => ?_, fun n o text htext hline => ?_,
    fun text hline => ?_⟩
  · have hsubject : subject n none (p.toList.contains '.') = n := by simp [subject]
    rw [selectsName, selects_glob_iff, hsubject, Glob.matches_iff_splits hn]
  · have hsubject : subject n (some (o ++ "." ++ n)) (p.toList.contains '.') = text := by
      simp [subject, htext]
    rw [selectsMember, selects_glob_iff, hsubject, Glob.matches_iff_splits hline]
  · rw [Glob.finds_pattern_iff, Glob.matches_iff_splits hline]

/-- The glob `a*.?`, the member `c` of `ab`, and a name that looks like it. -/
theorem ofGlob_splits_dotted : "a*.?" ≠ "" ∧ Glob.fits "a*.?".toList = true ∧
    ∃ f, ofGlob "a*.?" = .ok f ∧ f.selectsName "ab.c" = true ∧
      f.selectsMember "c" "ab" = true := by
  have hne : "a*.?" ≠ "" := by decide
  have hfits : Glob.fits "a*.?".toList = true := by decide
  have hsplits : Glob.Splits "a*.?".toList "ab.c".toList :=
    ⟨[['a'], ['b'], ['.'], ['c']], by simp [Glob.StandsFor], rfl⟩
  obtain ⟨f, hf, hname, hmember, -⟩ := ofGlob_splits "a*.?" hne hfits
  exact ⟨hne, hfits, f, hf, (hname "ab.c" (by decide)).mpr hsplits,
    (hmember "c" "ab" "ab.c" (by decide) (by decide)).mpr hsplits⟩

end Filter

end DeclWeave
