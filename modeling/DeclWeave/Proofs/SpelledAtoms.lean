import DeclWeave.Form.Lexer
import DeclWeave.Form.Printer
import DeclWeave.Proofs.WrittenNumbers

/-!
# Atoms and Their Spelling

An atom that was scanned is written in characters that are scanned as this atom again, whatever
comes after them, if only that goes on with no character of a symbol: so an atom ends just where
the blank or the bracket stands that the printer puts after it. There is one exception. A number too
large for a finite value is scanned as an infinite one, which is written as a word and scanned as a
symbol from then on; `Atom.respelled` is the atom that the characters of an atom spell.

`Atom.IsSpelled` is what scanning guarantees otherwise: an integer has 64 bits, and the text of a
symbol or a keyword is one that a scan takes up as a whole.

## Main results

* `Atom.scansAs_chars`: the characters of a spelled atom are scanned as the atom.
* `Lexeme.isScanned_of_scan`: the characters of an atom that was scanned spell one.
-/

namespace DeclWeave

open Decimal (Binary64 digitsOf integerChars literalNumber placePoint)

variable {c : Char} {cs word digits rest : List Char}

/-! ### Where words and numbers end -/

/-- A text does not go on with a character of a symbol. -/
def EndsWord (rest : List Char) : Prop :=
  ∀ c ∈ rest.head?, isSymbolChar c = false

theorem endsWord_nil : EndsWord [] := by
  simp [EndsWord]

theorem endsWord_cons : EndsWord (c :: cs) ↔ isSymbolChar c = false := by
  simp [EndsWord]

theorem isDigit_of_isSymbolChar_eq_false (h : isSymbolChar c = false) : c.isDigit = false := by
  rw [isSymbolChar, Bool.or_eq_false_iff, Bool.or_eq_false_iff] at h
  exact h.1.2

/-- A digit starts no symbol. -/
theorem isSymbolStart_of_isDigit (h : c.isDigit = true) : isSymbolStart c = false := by
  have hcode : 48 ≤ c.toNat ∧ c.toNat ≤ 57 := by
    simpa [Char.isDigit, UInt32.le_iff_toNat_le] using h
  have hmark : c ∉ symbolMarks := by
    intro hmem
    have hmarks : symbolMarks.all (!·.isDigit) = true := by decide
    exact absurd h (by simpa using List.all_eq_true.mp hmarks c hmem)
  have halpha : c.isAlpha = false := by
    have hupper : ¬(65 ≤ c.toNat ∧ c.toNat ≤ 90) := by omega
    have hlower : ¬(97 ≤ c.toNat ∧ c.toNat ≤ 122) := by omega
    simpa [Char.isAlpha, Char.isUpper, Char.isLower, UInt32.le_iff_toNat_le] using
      And.intro hupper hlower
  rw [isSymbolStart, Text.isLetter_ascii (by omega), halpha]
  simpa using hmark

theorem not_mark_of_isDigit (h : c.isDigit = true) :
    c ∉ ['(', ')', '[', ']', ';', ':', '"'] := by
  intro hmem
  have hmarks : ['(', ')', '[', ']', ';', ':', '"'].all (!·.isDigit) = true := by decide
  exact absurd h (by simpa using List.all_eq_true.mp hmarks c hmem)

/-- A digit separates no tokens. -/
theorem isBlank_of_isDigit (h : c.isDigit = true) : isBlank c = false := by
  have hcode : 48 ≤ c.toNat ∧ c.toNat ≤ 57 := by
    simpa [Char.isDigit, UInt32.le_iff_toNat_le] using h
  have hcomma : c ≠ ',' := by
    rintro rfl
    exact absurd h (by decide)
  have hspace : Text.isSpace c = false := by
    refine List.any_eq_false.mpr fun range hrange => ?_
    have hapart : ∀ r ∈ Text.spaceRanges, r.last < 48 ∨ 57 < r.first := by decide
    rw [Text.CharRange.contains_iff]
    have := hapart range hrange
    omega
  simp [isBlank, hspace, hcomma]

/-- What a class of characters takes of a text ends where the text goes on with none of it. -/
theorem takeWhile_append_eq {p : Char → Bool} (hword : ∀ d ∈ word, p d = true)
    (hrest : ∀ d ∈ rest.head?, p d = false) : (word ++ rest).takeWhile p = word := by
  rw [List.takeWhile_append_of_pos hword]
  cases rest with
  | nil => simp
  | cons d rest => rw [List.takeWhile_cons_of_neg (by simp [hrest d rfl]), List.append_nil]

theorem startsWithDigit_append (hrest : EndsWord rest) :
    startsWithDigit (word ++ rest) = startsWithDigit word := by
  cases word with
  | cons d word => rfl
  | nil =>
    cases rest with
    | nil => rfl
    | cons d rest => exact isDigit_of_isSymbolChar_eq_false (endsWord_cons.mp hrest)

/-! ### Scanning a text of a kind -/

namespace Lexeme

/-- A character that is no mark starts a number or a word. -/
theorem scan_of_not_mark (h : c ∉ ['(', ')', '[', ']', ';', ':', '"']) (cs : List Char) :
    scan c cs =
      if c.isDigit then ((scanNumber false (c :: cs)).1, (scanNumber false (c :: cs)).2 - 1)
      else if (c = '-' || c = '+') && startsWithDigit cs then scanNumber (c = '-') cs
      else if isSymbolStart c then
        (.atom (.ofWord (c :: cs.takeWhile isSymbolChar)), (cs.takeWhile isSymbolChar).length)
      else (.invalid (.unexpectedCharacter c), 0) := by
  simp only [List.mem_cons, List.not_mem_nil, or_false, not_or] at h
  obtain ⟨h₁, h₂, h₃, h₄, h₅, h₆, h₇⟩ := h
  rw [scan, if_neg h₁, if_neg h₂, if_neg h₃, if_neg h₄, if_neg h₅, if_neg h₆, if_neg h₇]

/-- Digits are scanned as an integer. -/
theorem scanNumber_digits (negative : Bool) (hdigits : ∀ d ∈ digits, d.isDigit = true)
    (hrest : EndsWord rest) :
    scanNumber negative (digits ++ rest) = (ofInteger negative digits, digits.length) := by
  have hwhole : (digits ++ rest).takeWhile Char.isDigit = digits :=
    takeWhile_append_eq hdigits fun d hd => isDigit_of_isSymbolChar_eq_false (hrest d hd)
  rw [scanNumber, hwhole, List.drop_left]
  dsimp only
  split
  · -- A point is a character of a symbol.
    exact absurd (endsWord_cons.mp hrest) (by decide)
  · rfl

/-- Digits around a point are scanned as a floating point number. -/
theorem scanNumber_point (negative : Bool) {d : Char} (hdigits : ∀ e ∈ digits, e.isDigit = true)
    (hfraction : ∀ e ∈ d :: cs, e.isDigit = true) (hrest : EndsWord rest) :
    scanNumber negative (digits ++ '.' :: d :: cs ++ rest) =
      (.atom (.float (.ofRatio negative (digitsValue (digits ++ d :: cs))
        (Nat.pow 10 (d :: cs).length))), (digits ++ '.' :: d :: cs).length) := by
  have hwhole : (digits ++ '.' :: d :: cs ++ rest).takeWhile Char.isDigit = digits := by
    rw [List.append_assoc]
    refine takeWhile_append_eq hdigits fun e he => ?_
    obtain rfl : '.' = e := by simpa using he
    decide
  have htail : (d :: (cs ++ rest)).takeWhile Char.isDigit = d :: cs := by
    rw [← List.cons_append]
    exact takeWhile_append_eq hfraction fun e he => isDigit_of_isSymbolChar_eq_false (hrest e he)
  have hd : d.isDigit = true := hfraction d List.mem_cons_self
  rw [scanNumber, hwhole, List.append_assoc, List.drop_left]
  simp only [List.cons_append, hd, if_true, htail, List.length_append, List.length_cons,
    Nat.add_comm, Nat.add_left_comm]

/-- The first characters of a symbol that is scanned as such. -/
structure IsWord (c : Char) (word : List Char) : Prop where
  isBlank_eq : isBlank c = false
  isSymbolStart_eq : isSymbolStart c = true
  isSymbolChar_eq : ∀ d ∈ word, isSymbolChar d = true
  /-- A sign before a digit would start a number. -/
  startsWithDigit_eq : c = '-' ∨ c = '+' → startsWithDigit word = false

theorem IsWord.not_mark (h : IsWord c word) : c ∉ ['(', ')', '[', ']', ';', ':', '"'] := by
  intro hmem
  have hmarks : ['(', ')', '[', ']', ';', ':', '"'].all (!isSymbolStart ·) = true := by decide
  exact absurd h.isSymbolStart_eq (by simpa using List.all_eq_true.mp hmarks c hmem)

/-- A word is scanned up to its end. -/
theorem scan_word (h : IsWord c word) (hrest : EndsWord rest) :
    scan c (word ++ rest) = (.atom (.ofWord (c :: word)), word.length) := by
  have hdigit : c.isDigit = false := by
    by_contra hdigit
    exact absurd h.isSymbolStart_eq
      (by simp [isSymbolStart_of_isDigit (Bool.not_eq_false _ ▸ hdigit)])
  have hsign : ((c = '-' || c = '+') && startsWithDigit (word ++ rest)) = false := by
    rw [startsWithDigit_append hrest]
    by_cases hc : c = '-' ∨ c = '+'
    · simp [h.startsWithDigit_eq hc]
    · simp [not_or.mp hc]
  rw [scan_of_not_mark h.not_mark, hdigit, hsign, h.isSymbolStart_eq,
    takeWhile_append_eq h.isSymbolChar_eq hrest]
  rfl

end Lexeme

/-! ### Spelled atoms -/

namespace Atom

/-- An atom that its own characters spell. -/
def IsSpelled : Atom → Prop
  | .nil | .bool _ | .str _ => True
  | .int n => -(integerLimit : Int) ≤ n ∧ n < integerLimit
  | .float x => x.isInfinite = false
  | .sym name => ∃ c word, name.toList = c :: word ∧ Lexeme.IsWord c word ∧
      ofWord (c :: word) = .sym name
  | .keyword name => name.toList ≠ [] ∧ ∀ c ∈ name.toList, isSymbolChar c = true

/-! ### Spelled atoms are scanned -/

theorem digitsValue_digitsOf (n : Nat) : digitsValue (digitsOf n) = n := by
  rw [digitsValue, ← Nat.ofDigitChars_eq_foldl]
  exact Nat.ofDigitChars_ten_toDigits

theorem exists_digitsOf_eq (n : Nat) :
    ∃ d ds, digitsOf n = d :: ds ∧ ∀ e ∈ d :: ds, e.isDigit = true := by
  obtain ⟨d, ds, hdigits⟩ := List.exists_cons_of_ne_nil (Nat.toDigits_ne_nil (n := n) (b := 10))
  refine ⟨d, ds, hdigits, fun e he => ?_⟩
  rw [← hdigits] at he
  exact Nat.isDigit_of_mem_toDigits (by decide) (by decide) he

/-- What a text is scanned as once its first character is taken. -/
def ScansAs (a : Atom) (chars : List Char) : Prop :=
  ∃ c cs, chars = c :: cs ∧ isBlank c = false ∧
    ∀ rest, EndsWord rest → Lexeme.scan c (cs ++ rest) = (.atom a, cs.length)

theorem scansAs_of_isWord (h : Lexeme.IsWord c word) : ScansAs (ofWord (c :: word)) (c :: word) :=
  ⟨c, word, rfl, h.isBlank_eq, fun _ hrest => Lexeme.scan_word h hrest⟩

theorem scansAs_keyword {name : String} (hname : name.toList ≠ [])
    (hchars : ∀ c ∈ name.toList, isSymbolChar c = true) :
    ScansAs (.keyword name) (chars (.keyword name)) := by
  refine ⟨':', name.toList, rfl, by decide, fun rest hrest => ?_⟩
  have hword : (name.toList ++ rest).takeWhile isSymbolChar = name.toList :=
    takeWhile_append_eq hchars hrest
  have hempty : name.toList.isEmpty = false := by simpa using hname
  simp [Lexeme.scan, hword, hempty]

/-- The digits of a natural number are scanned as the integer, unless they are too many. -/
theorem scansAs_natural {n : Nat} (hn : n < integerLimit) :
    ScansAs (.int n) (digitsOf n) := by
  obtain ⟨c, cs, hdigits, hall⟩ := exists_digitsOf_eq n
  have hc : c.isDigit = true := hall c List.mem_cons_self
  refine ⟨c, cs, hdigits, isBlank_of_isDigit hc, fun rest hrest => ?_⟩
  have hvalue : digitsValue (c :: cs) = n := hdigits ▸ digitsValue_digitsOf n
  rw [Lexeme.scan_of_not_mark (not_mark_of_isDigit hc), if_pos hc, ← List.cons_append,
    Lexeme.scanNumber_digits _ hall hrest]
  simp [Lexeme.ofInteger, hvalue, hn]

/-- A negative number is scanned as the integer, unless its digits are too many. -/
theorem scansAs_negative {n : Nat} (hn : n ≤ integerLimit) :
    ScansAs (.int (-n)) ('-' :: digitsOf n) := by
  obtain ⟨d, ds, hdigits, hall⟩ := exists_digitsOf_eq n
  refine ⟨'-', digitsOf n, rfl, by decide, fun rest hrest => ?_⟩
  have hvalue : digitsValue (d :: ds) = n := hdigits ▸ digitsValue_digitsOf n
  have hsign : startsWithDigit (d :: ds ++ rest) = true := hall d List.mem_cons_self
  rw [Lexeme.scan_of_not_mark (by decide), if_neg (by decide), hdigits, hsign,
    Lexeme.scanNumber_digits _ hall hrest]
  simp [Lexeme.ofInteger, hvalue, hn]

theorem digitsValue_append (ds es : List Char) :
    digitsValue (ds ++ es) = digitsValue ds * 10 ^ es.length + digitsValue es := by
  have hfrom : ∀ n, es.foldl (fun n d => 10 * n + (d.toNat - '0'.toNat)) n =
      n * 10 ^ es.length + digitsValue es := by
    induction es with
    | nil => simp [digitsValue]
    | cons e es ih =>
      intro n
      rw [digitsValue, List.foldl_cons, List.foldl_cons, ih, ih, List.length_cons, pow_succ]
      ring
  rw [digitsValue, List.foldl_append, hfrom, ← digitsValue]

theorem digitsValue_zeros (k : ℕ) : digitsValue (List.replicate k '0') = 0 := by
  have hzero : digitsValue ['0'] = 0 := by decide
  induction k with
  | zero => rfl
  | succ k ih =>
    rw [List.replicate_succ, ← List.singleton_append, digitsValue_append, ih, hzero, Nat.zero_mul]

/-- **Digits with a point placed** are digits on both sides of it, and stand for the same digits
scaled by a power of ten. -/
theorem exists_placePoint_eq (hne : digits ≠ []) (hdigits : ∀ d ∈ digits, d.isDigit = true)
    (before : ℤ) :
    ∃ whole d fraction, placePoint true digits before = whole ++ '.' :: d :: fraction ∧
      whole ≠ [] ∧ (∀ e ∈ whole, e.isDigit = true) ∧ (∀ e ∈ d :: fraction, e.isDigit = true) ∧
      (digitsValue (whole ++ d :: fraction) / (10 ^ (d :: fraction).length : ℕ) : ℚ) =
        digitsValue digits * 10 ^ (before - digits.length) := by
  have hscale : ∀ (n k : ℕ), (n / (10 ^ k : ℕ) : ℚ) = n * 10 ^ (-(k : ℤ)) := by
    intro n k
    rw [Nat.cast_pow, Nat.cast_ofNat, zpow_neg, zpow_natCast, div_eq_mul_inv]
  have hzeros : ∀ (k : ℕ), ∀ e ∈ List.replicate k '0', e.isDigit = true := by
    intro k e he
    rw [List.eq_of_mem_replicate he]
    decide
  have hzero : digitsValue ['0'] = 0 := by decide
  rw [placePoint]
  split_ifs with hbefore hlong hpoint
  · -- The point stands before all digits.
    obtain ⟨d, fraction, hfraction⟩ : ∃ d fraction,
        List.replicate (-before).toNat '0' ++ digits = d :: fraction :=
      List.exists_cons_of_ne_nil (by simp [hne])
    refine ⟨['0'], d, fraction, by rw [hfraction, List.singleton_append], by simp,
      List.all_eq_true.mp (by decide), ?_, ?_⟩
    · rw [← hfraction]
      exact List.forall_mem_append.mpr ⟨hzeros _, hdigits⟩
    · rw [← hfraction, digitsValue_append, digitsValue_append, digitsValue_zeros, hzero, hscale,
        Nat.zero_mul, Nat.zero_mul, Nat.zero_add, Nat.zero_add, List.length_append,
        List.length_replicate]
      congr 2
      omega
  · -- It stands after all digits, and zeros fill up.
    refine ⟨digits ++ List.replicate (before.toNat - digits.length) '0', '0', [], rfl,
      by simp [hne], List.forall_mem_append.mpr ⟨hdigits, hzeros _⟩,
      List.all_eq_true.mp (by decide), ?_⟩
    rw [digitsValue_append, digitsValue_append, digitsValue_zeros, hzero, hscale, Nat.add_zero,
      Nat.add_zero, List.length_replicate, Nat.cast_mul, Nat.cast_mul, Nat.cast_pow, Nat.cast_pow,
      ← zpow_natCast, ← zpow_natCast, mul_assoc, mul_assoc, Nat.cast_ofNat,
      ← zpow_add₀ (by norm_num), ← zpow_add₀ (by norm_num)]
    congr 2
    rw [List.length_singleton]
    omega
  · exact absurd rfl hpoint
  · -- It stands among the digits.
    obtain ⟨d, fraction, hfraction⟩ : ∃ d fraction, digits.drop before.toNat = d :: fraction :=
      List.exists_cons_of_ne_nil (by simpa using hlong)
    refine ⟨digits.take before.toNat, d, fraction, by rw [hfraction], ?_, ?_, ?_, ?_⟩
    · simp only [ne_eq, List.take_eq_nil_iff, hne, or_false]
      omega
    · exact fun e he => hdigits e (List.mem_of_mem_take he)
    · rw [← hfraction]
      exact fun e he => hdigits e (List.mem_of_mem_drop he)
    · rw [← hfraction, List.take_append_drop, hscale, List.length_drop]
      congr 2
      omega

/-- **The magnitude of a finite number** is written in digits around a point, whose value is rounded
to the number. -/
theorem exists_magnitude_eq {x : Binary64} (hfinite : x.isInfinite = false) :
    ∃ whole d fraction, literalNumber.magnitude x = whole ++ '.' :: d :: fraction ∧
      whole ≠ [] ∧ (∀ e ∈ whole, e.isDigit = true) ∧ (∀ e ∈ d :: fraction, e.isDigit = true) ∧
      .ofRatio x.negative (digitsValue (whole ++ d :: fraction))
        (Nat.pow 10 (d :: fraction).length) = x := by
  by_cases hzero : x.significand = 0
  · -- Zero has the digit zero on both sides.
    have hcode : x.code = 0 := x.significand_eq_zero_iff.mp hzero
    refine ⟨['0'], '0', [], ?_, by simp, List.all_eq_true.mp (by decide),
      List.all_eq_true.mp (by decide), ?_⟩
    · rw [Decimal.NumberFormat.magnitude, Binary64.shortest, if_pos hzero]
      rfl
    · rw [Binary64.ofRatio, if_pos (by decide), ← hcode]
  · have hcovers := x.covers_shortest literalNumber.tie hzero
    have hone : (1 : ℚ) ≤ x.significand := by exact_mod_cast Nat.one_le_iff_ne_zero.mpr hzero
    have hvalue : (x.shortest literalNumber.tie).value ≠ 0 := fun hvalue => by
      have hlow := hcovers.low
      rw [hvalue, zero_div] at hlow
      linarith [x.gapBelow_le]
    have hcoefficient : (x.shortest literalNumber.tie).coefficient ≠ 0 := fun hcoefficient =>
      hvalue (by rw [Decimal.Scaled.value, hcoefficient, Nat.cast_zero, zero_mul])
    obtain ⟨d, ds, hdigits, hall⟩ := exists_digitsOf_eq (x.shortest literalNumber.tie).coefficient
    obtain ⟨whole, e, fraction, hplace, hne, hwhole, hfraction, hscaled⟩ :=
      exists_placePoint_eq (List.cons_ne_nil d ds) hall
        ((d :: ds).length + (x.shortest literalNumber.tie).exponent)
    rw [← hdigits, digitsValue_digitsOf, add_sub_cancel_left, ← Decimal.Scaled.value] at hscaled
    refine ⟨whole, e, fraction, ?_, hne, hwhole, hfraction, ?_⟩
    · rw [Decimal.NumberFormat.magnitude]
      dsimp only
      rw [if_neg hcoefficient, hdigits]
      exact hplace
    · refine Binary64.ofRatio_eq hfinite ?_ (Nat.pow_pos (by decide)) ?_
      · refine Nat.pos_of_ne_zero fun hnum => hvalue ?_
        rw [← hscaled, hnum, Nat.cast_zero, zero_div]
      · rw [Nat.pow_eq, hscaled]
        exact hcovers

/-- The digits of a finite number stand around a point, and are rounded to the number. -/
theorem scansAs_float {x : Binary64} (h : x.isInfinite = false) :
    ScansAs (.float x) (chars (.float x)) := by
  obtain ⟨whole, d, fraction, hmagnitude, hne, hwhole, hfraction, hround⟩ := exists_magnitude_eq h
  obtain ⟨c, cs, rfl⟩ := List.exists_cons_of_ne_nil hne
  have hc : c.isDigit = true := hwhole c List.mem_cons_self
  have hscan : ∀ rest, EndsWord rest → Lexeme.scanNumber x.negative
      (c :: (cs ++ '.' :: d :: fraction) ++ rest) =
        (.atom (.float x), (c :: (cs ++ '.' :: d :: fraction)).length) := fun rest hrest => by
    have hpoint := Lexeme.scanNumber_point x.negative hwhole hfraction hrest
    rwa [hround] at hpoint
  rw [chars, Decimal.NumberFormat.write, if_neg (by simp [h]), hmagnitude]
  cases hnegative : x.negative with
  | false =>
    refine ⟨c, cs ++ '.' :: d :: fraction, rfl, isBlank_of_isDigit hc, fun rest hrest => ?_⟩
    rw [Lexeme.scan_of_not_mark (not_mark_of_isDigit hc), if_pos hc, ← List.cons_append,
      ← hnegative, hscan rest hrest]
    rfl
  | true =>
    refine ⟨'-', c :: (cs ++ '.' :: d :: fraction), rfl, by decide, fun rest hrest => ?_⟩
    have hsign : startsWithDigit (c :: (cs ++ '.' :: d :: fraction) ++ rest) = true := hc
    rw [Lexeme.scan_of_not_mark (by decide), if_neg (by decide), hsign, if_pos (by decide),
      decide_eq_true rfl, ← hnegative, hscan rest hrest]

/-- A string literal is scanned up to the quote that ends it, its escapes undone. -/
theorem scanString_escaped (text : List Char) (taken : Nat) (cs rest : List Char) :
    Lexeme.scanString text taken (cs.flatMap escapeChar ++ '"' :: rest) =
      (.atom (.str (String.ofList (text.reverse ++ cs))),
        taken + (cs.flatMap escapeChar).length + 1) := by
  induction cs generalizing text taken with
  | nil => simp [Lexeme.scanString]
  | cons c cs ih =>
    have hstep : Lexeme.scanString text taken (escapeChar c ++
        (cs.flatMap escapeChar ++ '"' :: rest)) =
          Lexeme.scanString (c :: text) (taken + (escapeChar c).length)
            (cs.flatMap escapeChar ++ '"' :: rest) := by
      rw [escapeChar]
      split_ifs with hquote hback hline htab hreturn
      · subst hquote; rfl
      · subst hback; rfl
      · subst hline; rfl
      · subst htab; rfl
      · subst hreturn; rfl
      · simp [Lexeme.scanString, hback]
    rw [List.flatMap_cons, List.append_assoc, hstep, ih]
    simp [Nat.add_assoc]

theorem scansAs_str (text : String) : ScansAs (.str text) (chars (.str text)) := by
  refine ⟨'"', text.toList.flatMap escapeChar ++ ['"'], rfl, by decide, fun rest _ => ?_⟩
  have hscan := scanString_escaped [] 0 text.toList rest
  rw [List.append_assoc, List.singleton_append]
  simpa [Lexeme.scan] using hscan

/-- **A spelled atom** is scanned from its characters. -/
theorem scansAs_chars {a : Atom} (h : a.IsSpelled) : ScansAs a a.chars := by
  cases a with
  | nil =>
    have hword : Lexeme.IsWord 'n' ['i', 'l'] :=
      ⟨by decide, by decide, List.all_eq_true.mp (by decide), by decide⟩
    exact scansAs_of_isWord hword
  | bool value =>
    cases value with
    | true =>
      have hword : Lexeme.IsWord 't' ['r', 'u', 'e'] :=
        ⟨by decide, by decide, List.all_eq_true.mp (by decide), by decide⟩
      exact scansAs_of_isWord hword
    | false =>
      have hword : Lexeme.IsWord 'f' ['a', 'l', 's', 'e'] :=
        ⟨by decide, by decide, List.all_eq_true.mp (by decide), by decide⟩
      exact scansAs_of_isWord hword
  | int n =>
    obtain ⟨hlow, hhigh⟩ := h
    rw [chars, integerChars]
    split
    · have hn : n = -(n.natAbs : Int) := by omega
      have hscans := scansAs_negative (n := n.natAbs) (by omega)
      rwa [← hn] at hscans
    · have hn : n = (n.natAbs : Int) := by omega
      have hscans := scansAs_natural (n := n.natAbs) (by omega)
      rwa [← hn] at hscans
  | float x => exact scansAs_float h
  | str text => exact scansAs_str text
  | sym name =>
    obtain ⟨c, word, hname, hword, hsym⟩ := h
    rw [chars, hname, ← hsym]
    exact scansAs_of_isWord hword
  | keyword name => exact scansAs_keyword h.1 h.2

end Atom

/-! ### Scanned atoms are spelled -/

namespace Atom

/-- The atom that the characters of an atom spell: an infinite number is written as a word. -/
def respelled : Atom → Atom
  | .float x => if x.isInfinite then .sym (Decimal.signedInfinity x.negative) else .float x
  | a => a

theorem chars_respelled (a : Atom) : a.respelled.chars = a.chars := by
  cases a with
  | float x =>
    rw [respelled, chars, Decimal.NumberFormat.write]
    split_ifs with h
    · rfl
    · rw [chars, Decimal.NumberFormat.write, if_neg h, if_pos ‹_›]
    · rw [chars, Decimal.NumberFormat.write, if_neg h, if_neg ‹_›]
  | nil => rfl
  | bool value => rfl
  | int n => rfl
  | str text => rfl
  | sym name => rfl
  | keyword name => rfl

/-- An atom as a text can have it: its characters spell an atom. -/
def IsScanned (a : Atom) : Prop :=
  a.respelled.IsSpelled

theorem isScanned_float (x : Binary64) : IsScanned (.float x) := by
  rw [IsScanned, respelled]
  split_ifs with h
  · cases x.negative with
    | false =>
      have hword : Lexeme.IsWord 'i' ['n', 'f'] :=
        ⟨by decide, by decide, List.all_eq_true.mp (by decide), by decide⟩
      exact ⟨'i', ['n', 'f'], rfl, hword, rfl⟩
    | true =>
      have hword : Lexeme.IsWord '-' ['i', 'n', 'f'] :=
        ⟨by decide, by decide, List.all_eq_true.mp (by decide), by decide⟩
      exact ⟨'-', ['i', 'n', 'f'], rfl, hword, rfl⟩
  · simpa [IsSpelled] using h

/-- Only infinite numbers are respelled. -/
theorem isSpelled_of_isScanned {a : Atom} (h : a.IsScanned) (hfloat : ∀ x, a ≠ .float x) :
    a.IsSpelled := by
  cases a with
  | float x => exact absurd rfl (hfloat x)
  | nil => exact h
  | bool value => exact h
  | int n => exact h
  | str text => exact h
  | sym name => exact h
  | keyword name => exact h

end Atom

namespace Lexeme

open Atom (IsSpelled IsScanned isScanned_float)

variable {a : Atom} {n : Nat}

theorem isScanned_of_ofInteger {negative : Bool} (h : ofInteger negative digits = .atom a) :
    a.IsScanned := by
  have hlimit : 0 < integerLimit := by decide
  rw [ofInteger] at h
  split at h <;> split at h
  · rename_i hvalue
    obtain rfl := Lexeme.atom.inj h
    constructor <;> omega
  · exact absurd h (by simp)
  · rename_i hvalue
    obtain rfl := Lexeme.atom.inj h
    constructor <;> omega
  · exact absurd h (by simp)

theorem isScanned_of_scanNumber {negative : Bool} (h : (scanNumber negative cs).1 = .atom a) :
    a.IsScanned := by
  rw [scanNumber] at h
  dsimp only at h
  split at h
  · split at h
    · exact Lexeme.atom.inj h ▸ isScanned_float _
    · exact isScanned_of_ofInteger h
  · exact isScanned_of_ofInteger h

theorem isScanned_of_scanString {text : List Char} {taken : Nat}
    (h : (scanString text taken cs).1 = .atom a) : a.IsScanned := by
  fun_induction scanString text taken cs with
  | case1 => exact absurd h (by simp)
  | case2 => exact Lexeme.atom.inj h ▸ trivial
  | case3 => exact absurd h (by simp)
  | case4 text taken c cs d hd ih => exact ih h
  | case5 => exact absurd h (by simp)
  | case6 text taken c cs _ _ _ ih => exact ih h

/-- A word denotes one of three literals, or the symbol that it names. -/
theorem ofWord_eq_or (word : List Char) :
    Atom.ofWord word = .nil ∨ (∃ value, Atom.ofWord word = .bool value) ∨
      Atom.ofWord word = .sym (String.ofList word) := by
  rw [Atom.ofWord]
  split
  · exact .inl rfl
  · exact .inr (.inl ⟨true, rfl⟩)
  · exact .inr (.inl ⟨false, rfl⟩)
  · exact .inr (.inr rfl)

theorem isScanned_ofWord (h : IsWord c word) : (Atom.ofWord (c :: word)).IsScanned := by
  rcases ofWord_eq_or (c :: word) with hatom | ⟨value, hatom⟩ | hatom
  · rw [hatom]
    trivial
  · rw [hatom]
    trivial
  · have hspelled := hatom
    rw [hatom]
    exact ⟨c, word, String.toList_ofList, h, hspelled⟩

theorem isScanned_of_scan_keyword (h : (scan ':' cs).1 = .atom a) : a.IsScanned := by
  have hchars : ∀ d ∈ cs.takeWhile isSymbolChar, isSymbolChar d = true := fun d hd =>
    List.all_eq_true.mp List.all_takeWhile d hd
  cases hword : cs.takeWhile isSymbolChar with
  | nil => exact absurd h (by simp [scan, hword])
  | cons d word =>
    obtain rfl : Atom.keyword (String.ofList (d :: word)) = a := by simpa [scan, hword] using h
    rw [hword] at hchars
    exact ⟨by simp, by simpa using hchars⟩

/-- **The characters of a scanned atom** spell an atom. -/
theorem isScanned_of_scan (hblank : isBlank c = false) (h : (scan c cs).1 = .atom a) :
    a.IsScanned := by
  by_cases hmark : c ∈ ['(', ')', '[', ']', ';', ':', '"']
  · simp only [List.mem_cons, List.not_mem_nil, or_false] at hmark
    rcases hmark with rfl | rfl | rfl | rfl | rfl | rfl | rfl
    · exact absurd h (by simp [scan])
    · exact absurd h (by simp [scan])
    · exact absurd h (by simp [scan])
    · exact absurd h (by simp [scan])
    · exact absurd h (by simp [scan])
    · exact isScanned_of_scan_keyword h
    · exact isScanned_of_scanString h
  · rw [scan_of_not_mark hmark] at h
    split_ifs at h with hdigit hsign hstart
    · exact isScanned_of_scanNumber h
    · exact isScanned_of_scanNumber h
    · rw [← Lexeme.atom.inj h]
      refine isScanned_ofWord ⟨hblank, hstart, fun d hd => ?_, fun hc => ?_⟩
      · exact List.all_eq_true.mp List.all_takeWhile d hd
      · -- A digit after the sign would have been scanned with it.
        have hnone : startsWithDigit cs = false := by
          by_contra hsome
          exact hsign (by simp [hc, hsome])
        cases cs with
        | nil => rfl
        | cons d cs =>
          by_cases hd : isSymbolChar d = true
          · rw [List.takeWhile_cons_of_pos hd]
            exact hnone
          · rw [List.takeWhile_cons_of_neg hd]
            rfl

end Lexeme

end DeclWeave
