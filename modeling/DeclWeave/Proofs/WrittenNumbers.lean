import DeclWeave.Decimal.Notation
import Mathlib

/-!
# Numbers and Their Spelling

A finite floating point number is written as a decimal that is rounded to this number when it is
read. The reals that are rounded to a value are those between the midpoints to its neighbours, the
midpoints themselves just for a value whose significand is even; just above a power of two the lower
midpoint is closer. `Binary64.Covers` says this of a rational, and both directions are about it: the
writer takes a decimal that is covered, and the reader rounds whatever is covered to the value.

## Main results

* `Binary64.ofRatio_eq`: what is covered is rounded to the value.
* `Binary64.covers_shortest`: the shortest decimal is covered.
-/

namespace DeclWeave.Decimal

/-! ### Powers -/

/-- The power of a base, with a factor for a negative exponent. -/
theorem pow_toNat {b : ℚ} (hb : b ≠ 0) (e : ℤ) : b ^ e.toNat = b ^ e * b ^ (-e).toNat := by
  rw [← zpow_natCast, ← zpow_natCast, ← zpow_add₀ hb]
  congr 1
  omega

theorem natCast_shiftLeft (n k : ℕ) : ((n <<< k : ℕ) : ℚ) = n * 2 ^ k := by
  rw [Nat.shiftLeft_eq]
  push_cast
  rfl

/-! ### Decimals as rationals -/

namespace Scaled

def value (d : Scaled) : ℚ :=
  d.coefficient * 10 ^ d.exponent

variable {d : Scaled} {n : ℕ} {p : ℤ}

/-- What is compared are the rationals, times a common denominator. -/
theorem exists_compareBinary_eq (d : Scaled) (n : ℕ) (p : ℤ) : ∃ (a b : ℕ) (k : ℚ), 0 < k ∧
    d.compareBinary n p = compare a b ∧ (a : ℚ) = d.value * k ∧ (b : ℚ) = n * 2 ^ p * k := by
  refine ⟨_, _, 10 ^ (-d.exponent).toNat * 2 ^ (-p).toNat, by positivity, rfl, ?_, ?_⟩
  · rw [natCast_shiftLeft, Nat.cast_mul, Nat.pow_eq, Nat.cast_pow, Nat.cast_ofNat,
      pow_toNat (by norm_num), value]
    ring
  · rw [Nat.cast_mul, natCast_shiftLeft, Nat.pow_eq, Nat.cast_pow, Nat.cast_ofNat,
      pow_toNat (b := 2) (by norm_num)]
    ring

theorem compareBinary_eq_lt_iff : d.compareBinary n p = .lt ↔ d.value < n * 2 ^ p := by
  obtain ⟨a, b, k, hk, hcompare, ha, hb⟩ := exists_compareBinary_eq d n p
  rw [hcompare, Nat.compare_eq_lt, ← mul_lt_mul_iff_left₀ hk, ← ha, ← hb, Nat.cast_lt]

theorem compareBinary_eq_gt_iff : d.compareBinary n p = .gt ↔ n * 2 ^ p < d.value := by
  obtain ⟨a, b, k, hk, hcompare, ha, hb⟩ := exists_compareBinary_eq d n p
  rw [hcompare, Nat.compare_eq_gt, ← mul_lt_mul_iff_left₀ hk, ← ha, ← hb, Nat.cast_lt]

theorem compareBinary_eq_eq_iff : d.compareBinary n p = .eq ↔ d.value = n * 2 ^ p := by
  obtain ⟨a, b, k, hk, hcompare, ha, hb⟩ := exists_compareBinary_eq d n p
  rw [hcompare, Nat.compare_eq_eq, ← mul_left_inj' hk.ne', ← ha, ← hb, Nat.cast_inj]

theorem value_normalizeWithin (fuel : ℕ) (d : Scaled) :
    (d.normalizeWithin fuel).value = d.value := by
  induction fuel generalizing d with
  | zero => rfl
  | succ fuel ih =>
    rw [normalizeWithin]
    split
    · rename_i hzero
      have hmod : d.coefficient % 10 = 0 := by simpa using (Bool.and_eq_true_iff.mp hzero).2
      have hcoefficient : (d.coefficient : ℚ) = (d.coefficient / 10 : ℕ) * 10 := by
        exact_mod_cast (Nat.div_mul_cancel (Nat.dvd_of_mod_eq_zero hmod)).symm
      rw [ih, value, value, hcoefficient, zpow_add_one₀ (by norm_num)]
      ring
    · rfl

end Scaled

/-! ### Rounding -/

/-- A natural number that is nearest is the one that is rounded to, if it is even where another one
is as near. -/
theorem roundHalfEven_eq {num den m : ℕ} (hden : 0 < den) (hlow : 2 * (m * den) ≤ 2 * num + den)
    (hhigh : 2 * num ≤ 2 * (m * den) + den)
    (htie : 2 * num + den = 2 * (m * den) ∨ 2 * num = 2 * (m * den) + den → m % 2 = 0) :
    roundHalfEven num den = m := by
  have hdiv : num / den * den + num % den = num := Nat.div_add_mod' num den
  have hmod : num % den < den := Nat.mod_lt num hden
  generalize hq : num / den = q at hdiv
  generalize hr : num % den = r at hdiv hmod
  have hcases : m = q ∨ m = q + 1 := by
    rcases lt_trichotomy m q with hlt | heq | hgt
    · have hmul : (m + 1) * den ≤ q * den := Nat.mul_le_mul_right den hlt
      rw [Nat.succ_mul] at hmul
      omega
    · exact .inl heq
    · refine .inr (Nat.le_antisymm ?_ hgt)
      by_contra hfar
      have hmul : (q + 2) * den ≤ m * den := Nat.mul_le_mul_right den (by omega)
      rw [Nat.add_mul] at hmul
      omega
  rw [roundHalfEven, hq, hr]
  rcases hcases with rfl | rfl
  · rcases lt_or_eq_of_le (show 2 * r ≤ den by omega) with hlt | heq
    · rw [Nat.compare_eq_lt.mpr hlt]
    · rw [Nat.compare_eq_eq.mpr heq]
      exact if_pos (htie (.inr (by omega)))
  · have hmul : (q + 1) * den = q * den + den := by rw [Nat.add_mul, Nat.one_mul]
    rw [hmul] at hlow hhigh htie
    rcases lt_or_eq_of_le (show den ≤ 2 * r by omega) with hlt | heq
    · rw [Nat.compare_eq_gt.mpr hlt]
    · rw [Nat.compare_eq_eq.mpr heq.symm]
      exact if_neg (by have := htie (.inl (by omega)); omega)

/-- The same of a rational, which is rounded to an integer at most a half away. -/
theorem roundHalfEven_of_near {num den m : ℕ} (hden : 0 < den) {v : ℚ} (hv : v = num / den)
    (hlow : m - 1 / 2 ≤ v) (hhigh : v ≤ m + 1 / 2)
    (htie : v = m - 1 / 2 ∨ v = m + 1 / 2 → m % 2 = 0) : roundHalfEven num den = m := by
  have hden' : (0 : ℚ) < den := by exact_mod_cast hden
  have hnum : v * den = num := by rw [hv, div_mul_cancel₀ _ hden'.ne']
  have hscaled := mul_le_mul_of_nonneg_right hlow hden'.le
  have hscaled' := mul_le_mul_of_nonneg_right hhigh hden'.le
  refine roundHalfEven_eq hden ?_ ?_ fun heq => htie (heq.imp (fun heq => ?_) fun heq => ?_)
  · have hle : (2 * (m * den) : ℚ) ≤ 2 * num + den := by linarith
    exact_mod_cast hle
  · have hle : (2 * num : ℚ) ≤ 2 * (m * den) + den := by linarith
    exact_mod_cast hle
  · have heq' : (2 * num + den : ℚ) = 2 * (m * den) := by exact_mod_cast heq
    refine mul_right_cancel₀ hden'.ne' ?_
    linarith
  · have heq' : (2 * num : ℚ) = 2 * (m * den) + den := by exact_mod_cast heq
    refine mul_right_cancel₀ hden'.ne' ?_
    linarith

namespace Binary64

variable {num den : ℕ}

/-- The binary logarithm of a quotient, rounded down. -/
theorem floorLog_spec (hnum : 0 < num) (hden : 0 < den) :
    (2 : ℚ) ^ floorLog num den ≤ num / den ∧ (num / den : ℚ) < 2 ^ (floorLog num den + 1) := by
  have hden' : (0 : ℚ) < den := by exact_mod_cast hden
  have hnumLow : (2 : ℚ) ^ num.log2 ≤ num := by exact_mod_cast Nat.log2_self_le hnum.ne'
  have hnumHigh : (num : ℚ) < 2 ^ (num.log2 + 1) := by exact_mod_cast Nat.lt_log2_self
  have hdenLow : (2 : ℚ) ^ den.log2 ≤ den := by exact_mod_cast Nat.log2_self_le hden.ne'
  have hdenHigh : (den : ℚ) < 2 ^ (den.log2 + 1) := by exact_mod_cast Nat.lt_log2_self
  -- The logarithms of both, rounded down, leave two candidates.
  have hhigh : (num / den : ℚ) < 2 ^ ((num.log2 : ℤ) - den.log2 + 1) := by
    rw [div_lt_iff₀ hden']
    calc (num : ℚ) < 2 ^ (num.log2 + 1) := hnumHigh
      _ = 2 ^ ((num.log2 : ℤ) - den.log2 + 1) * 2 ^ den.log2 := by
        rw [← zpow_natCast, ← zpow_natCast, ← zpow_add₀ two_ne_zero]
        congr 1
        push_cast
        ring
      _ ≤ 2 ^ ((num.log2 : ℤ) - den.log2 + 1) * den := by gcongr
  have hlow : (2 : ℚ) ^ ((num.log2 : ℤ) - den.log2 - 1) ≤ num / den := by
    rw [le_div_iff₀ hden']
    calc (2 : ℚ) ^ ((num.log2 : ℤ) - den.log2 - 1) * den
        ≤ 2 ^ ((num.log2 : ℤ) - den.log2 - 1) * 2 ^ (den.log2 + 1) := by gcongr
      _ = 2 ^ num.log2 := by
        rw [← zpow_natCast, ← zpow_natCast, ← zpow_add₀ two_ne_zero]
        congr 1
        push_cast
        ring
      _ ≤ num := hnumLow
  have htest : ∀ l : ℤ, den <<< l.toNat ≤ num <<< (-l).toNat ↔ (2 : ℚ) ^ l ≤ num / den := by
    intro l
    have hpos : (0 : ℚ) < 2 ^ (-l).toNat := by positivity
    have hcast : den <<< l.toNat ≤ num <<< (-l).toNat ↔
        ((den <<< l.toNat : ℕ) : ℚ) ≤ (num <<< (-l).toNat : ℕ) := Nat.cast_le.symm
    rw [hcast, natCast_shiftLeft, natCast_shiftLeft, pow_toNat two_ne_zero,
      le_div_iff₀ hden', ← mul_assoc, mul_le_mul_iff_left₀ hpos, mul_comm]
  rw [floorLog]
  split
  · exact ⟨(htest _).mp ‹_›, hhigh⟩
  · refine ⟨hlow, ?_⟩
    rw [sub_add_cancel]
    exact not_le.mp fun hle => absurd ((htest _).mpr hle) ‹_›

/-! ### Values -/

theorem leadingBit_eq : leadingBit = 4503599627370496 := rfl

variable (x : Binary64)

/-- A code counts the significands below it, exponent by exponent. -/
theorem code_eq : (x.code : ℤ) = (x.exponent + 1074) * leadingBit + x.significand := by
  rw [exponent, significand]
  rw [leadingBit_eq]
  split <;> omega

theorem significand_lt : x.significand < 2 * leadingBit := by
  rw [significand]
  rw [leadingBit_eq]
  split <;> omega

theorem exponent_ge : -1074 ≤ x.exponent := by
  rw [exponent]
  omega

/-- Above the least exponent, the leading bit is set. -/
theorem leadingBit_le_significand (h : -1074 < x.exponent) : leadingBit ≤ x.significand := by
  rw [exponent] at h
  rw [significand]
  rw [leadingBit_eq] at *
  split <;> omega

theorem narrowBelow_iff :
    x.narrowBelow = true ↔ x.significand = leadingBit ∧ -1074 < x.exponent := by
  simp only [narrowBelow, significand, exponent, Bool.and_eq_true, beq_iff_eq, decide_eq_true_eq]
  rw [leadingBit_eq]
  split <;> omega

theorem significand_eq_zero_iff : x.significand = 0 ↔ x.code = 0 := by
  rw [significand]
  rw [leadingBit_eq]
  split <;> omega

/-- The magnitude of a finite value. -/
def value (x : Binary64) : ℚ :=
  x.significand * 2 ^ x.exponent

/-- How far below a value a midpoint is, in units of its exponent. -/
def gapBelow (x : Binary64) : ℚ :=
  if x.narrowBelow then 1 / 4 else 1 / 2

/-- The rationals that are rounded to a finite value: from one midpoint to the other, and the
midpoints themselves if the significand is even. -/
structure Covers (x : Binary64) (v : ℚ) : Prop where
  low : x.significand - x.gapBelow ≤ v / 2 ^ x.exponent
  high : v / 2 ^ x.exponent ≤ x.significand + 1 / 2
  tie : v / 2 ^ x.exponent = x.significand - x.gapBelow ∨
    v / 2 ^ x.exponent = x.significand + 1 / 2 → x.significand % 2 = 0

/-! ### Reading -/

variable {x} {v : ℚ}

theorem gapBelow_le (x : Binary64) : x.gapBelow ≤ 1 / 2 := by
  rw [gapBelow]
  split <;> norm_num

/-- Above the least exponent, what is covered has a logarithm of its own, unless it is below a power
of two. -/
theorem Covers.floorLog_cases (hnum : 0 < num) (hden : 0 < den) (h : x.Covers (num / den)) :
    max (floorLog num den - 52) (-1074) = x.exponent ∨
      max (floorLog num den - 52) (-1074) = x.exponent - 1 ∧ x.narrowBelow = true ∧
        (num / den : ℚ) / 2 ^ x.exponent < leadingBit := by
  obtain ⟨hlow, hhigh⟩ := floorLog_spec hnum hden
  have hpos : (0 : ℚ) < 2 ^ x.exponent := by positivity
  have hexponent := x.exponent_ge
  -- The logarithm against one that is known.
  have hbelow : ∀ k : ℤ, (num / den : ℚ) / 2 ^ x.exponent < 2 ^ k →
      floorLog num den < x.exponent + k := by
    intro k hlt
    rw [div_lt_iff₀ hpos, ← zpow_add₀ two_ne_zero, add_comm] at hlt
    exact (zpow_lt_zpow_iff_right₀ one_lt_two).mp (hlow.trans_lt hlt)
  have habove : ∀ k : ℤ, 2 ^ k ≤ (num / den : ℚ) / 2 ^ x.exponent →
      x.exponent + k ≤ floorLog num den := by
    intro k hle
    rw [le_div_iff₀ hpos, ← zpow_add₀ two_ne_zero, add_comm] at hle
    have hlt := (zpow_lt_zpow_iff_right₀ one_lt_two).mp (hle.trans_lt hhigh)
    omega
  have hsignificand : (x.significand : ℚ) + 1 ≤ 2 * leadingBit := by
    exact_mod_cast x.significand_lt
  have hleading : (leadingBit : ℚ) = 2 ^ (52 : ℤ) := by
    rw [leadingBit_eq]
    norm_num
  have hupper : floorLog num den < x.exponent + 53 := by
    refine hbelow 53 (h.high.trans_lt ?_)
    have htwice : (2 : ℚ) ^ (53 : ℤ) = 2 * 2 ^ (52 : ℤ) := by norm_num
    rw [htwice, ← hleading]
    linarith
  rcases lt_or_eq_of_le hexponent with hlt | heq
  · have hset : (leadingBit : ℚ) ≤ x.significand := by
      exact_mod_cast x.leadingBit_le_significand hlt
    cases hnarrow : x.narrowBelow with
    | false =>
      have hne : x.significand ≠ leadingBit := fun heq => by
        rw [x.narrowBelow_iff.mpr ⟨heq, hlt⟩] at hnarrow
        exact absurd hnarrow (by decide)
      have hset' : (leadingBit : ℚ) + 1 ≤ x.significand := by
        have := x.leadingBit_le_significand hlt
        exact_mod_cast (show leadingBit + 1 ≤ x.significand by omega)
      have hlower := habove 52 (by linarith [h.low, x.gapBelow_le])
      omega
    | true =>
      have hhalf : (2 : ℚ) ^ (51 : ℤ) = leadingBit / 2 := by
        rw [leadingBit_eq]
        norm_num
      have hone : (1 : ℚ) ≤ leadingBit := by
        rw [leadingBit_eq]
        norm_num
      have hlower := habove 51 (by linarith [h.low, x.gapBelow_le])
      rcases lt_or_ge (floorLog num den) (x.exponent + 52) with hlog | hlog
      · refine .inr ⟨by omega, rfl, ?_⟩
        rw [div_lt_iff₀ hpos, hleading, ← zpow_add₀ two_ne_zero]
        refine hhigh.trans_le ?_
        exact zpow_le_zpow_right₀ one_le_two (by omega)
      · omega
  · omega

/-- **What is covered** is rounded to the value. -/
theorem ofRatio_eq (hfinite : x.isInfinite = false) (hnum : 0 < num) (hden : 0 < den)
    (h : x.Covers (num / den)) : ofRatio x.negative num den = x := by
  have hcode : x.code < infinityCode := by simpa [isInfinite] using hfinite
  have hexponent := x.exponent_ge
  -- Rounding at some exponent is rounding the quotient over its power.
  have hround : ∀ (q : ℤ) (m : ℕ), m - 1 / 2 ≤ (num / den : ℚ) / 2 ^ q →
      (num / den : ℚ) / 2 ^ q ≤ m + 1 / 2 →
      ((num / den : ℚ) / 2 ^ q = m - 1 / 2 ∨ (num / den : ℚ) / 2 ^ q = m + 1 / 2 → m % 2 = 0) →
      roundHalfEven (num <<< (-q).toNat) (den <<< q.toNat) = m := by
    intro q m hlow hhigh htie
    have hshift : 0 < den <<< q.toNat := by
      rw [Nat.shiftLeft_eq]
      positivity
    refine roundHalfEven_of_near hshift ?_ hlow hhigh htie
    rw [natCast_shiftLeft, natCast_shiftLeft, pow_toNat (e := q) two_ne_zero]
    have hden' : (den : ℚ) ≠ 0 := by exact_mod_cast hden.ne'
    have hq : (2 : ℚ) ^ q ≠ 0 := zpow_ne_zero q two_ne_zero
    have hpow : (2 : ℚ) ^ (-q).toNat ≠ 0 := pow_ne_zero _ two_ne_zero
    field_simp
  -- What is rounded to is put together with its exponent.
  have hjoin : ∀ (q : ℤ) (m : ℕ), -1074 ≤ q →
      (q + 1074) * leadingBit + m = (x.exponent + 1074) * leadingBit + x.significand →
      min ((q + 1074).toNat * leadingBit + m) infinityCode = x.code := by
    intro q m hq hsum
    have hnat : ((q + 1074).toNat : ℤ) = q + 1074 := Int.toNat_of_nonneg (by omega)
    have hcodeEq : (q + 1074).toNat * leadingBit + m = x.code := by
      zify
      rw [hnat, hsum, x.code_eq]
    rw [hcodeEq]
    omega
  rw [ofRatio, if_neg hnum.ne']
  dsimp only
  rcases h.floorLog_cases hnum hden with hq | ⟨hq, hnarrow, hbelow⟩
  · have hlow : x.significand - 1 / 2 ≤ (num / den : ℚ) / 2 ^ x.exponent := by
      linarith [h.low, x.gapBelow_le]
    rw [hq, hround x.exponent x.significand hlow h.high fun htie => h.tie (htie.imp_left ?_),
      hjoin _ _ hexponent rfl]
    intro heq
    linarith [h.low, x.gapBelow_le]
  · obtain ⟨hsignificand, hnormal⟩ := x.narrowBelow_iff.mp hnarrow
    have hhalf : (num / den : ℚ) / 2 ^ (x.exponent - 1) =
        2 * ((num / den : ℚ) / 2 ^ x.exponent) := by
      rw [zpow_sub_one₀ two_ne_zero]
      field_simp
    have hlow : (leadingBit : ℚ) - 1 / 4 ≤ (num / den : ℚ) / 2 ^ x.exponent := by
      have hlow := h.low
      rwa [gapBelow, if_pos hnarrow, hsignificand] at hlow
    rw [hq, hround (x.exponent - 1) (2 * leadingBit) ?_ ?_ fun _ => Nat.mul_mod_right 2 _,
      hjoin _ _ (by omega) ?_]
    · rw [hsignificand]
      push_cast
      ring
    · rw [hhalf]
      push_cast
      linarith
    · rw [hhalf]
      push_cast
      linarith

/-! ### Writing -/

/-- A decimal that reads back is covered. -/
theorem covers_of_readsBack {d : Scaled} (hne : x.significand ≠ 0)
    (h : x.readsBack d = true) : x.Covers d.value := by
  have hpos : (0 : ℚ) < 2 ^ x.exponent := by positivity
  have hscale : ∀ n : ℕ, (n : ℚ) * 2 ^ (x.exponent - 2) = n / 4 * 2 ^ x.exponent := by
    intro n
    rw [zpow_sub₀ two_ne_zero]
    norm_num
    ring
  -- The bounds that are tested are the midpoints, in quarters.
  have hlowBound : ((if x.narrowBelow then 4 * x.significand - 1 else 4 * x.significand - 2 : ℕ) : ℚ)
      / 4 = x.significand - x.gapBelow := by
    rw [gapBelow]
    split
    · rw [Nat.cast_sub (by omega)]
      push_cast
      ring
    · rw [Nat.cast_sub (by omega)]
      push_cast
      ring
  have hhighBound : ((4 * x.significand + 2 : ℕ) : ℚ) / 4 = x.significand + 1 / 2 := by
    push_cast
    ring
  simp only [readsBack, Bool.and_eq_true, Bool.or_eq_true, beq_iff_eq,
    Scaled.compareBinary_eq_gt_iff, Scaled.compareBinary_eq_lt_iff,
    Scaled.compareBinary_eq_eq_iff, hscale, hlowBound, hhighBound] at h
  rw [← lt_div_iff₀ hpos, ← div_lt_iff₀ hpos, ← div_eq_iff hpos.ne', ← div_eq_iff hpos.ne'] at h
  obtain ⟨hlow, hhigh⟩ := h
  refine ⟨?_, ?_, ?_⟩
  · rcases hlow with hlt | ⟨-, heq⟩
    · exact hlt.le
    · exact heq.ge
  · rcases hhigh with hlt | ⟨-, heq⟩
    · exact hlt.le
    · exact heq.le
  · rintro (heq | heq)
    · rcases hlow with hlt | ⟨heven, -⟩
      · exact absurd heq hlt.ne'
      · exact heven
    · rcases hhigh with hlt | ⟨heven, -⟩
      · exact absurd heq hlt.ne
      · exact heven

theorem covers_value (x : Binary64) : x.Covers x.value := by
  have hpos : (2 : ℚ) ^ x.exponent ≠ 0 := zpow_ne_zero _ two_ne_zero
  have hvalue : x.value / 2 ^ x.exponent = x.significand := mul_div_cancel_right₀ _ hpos
  have hgap : 0 < x.gapBelow := by
    rw [gapBelow]
    split <;> norm_num
  refine ⟨?_, ?_, ?_⟩ <;> rw [hvalue]
  · linarith
  · linarith
  · rintro (heq | heq) <;> linarith

theorem value_exact (x : Binary64) : x.exact.value = x.value := by
  rw [exact]
  split
  · rw [Scaled.value, natCast_shiftLeft, value, zpow_zero, mul_one, ← zpow_natCast]
    congr 2
    omega
  · have hten : (10 : ℚ) ^ x.exponent = 2 ^ x.exponent * 5 ^ x.exponent := by
      rw [← mul_zpow]
      norm_num
    have hfive : (5 : ℚ) ^ (-x.exponent).toNat * 5 ^ x.exponent = 1 := by
      rw [← zpow_natCast, ← zpow_add₀ (by norm_num)]
      rw [show ((-x.exponent).toNat : ℤ) + x.exponent = 0 by omega, zpow_zero]
    rw [Scaled.value, value, Nat.cast_mul, Nat.pow_eq, Nat.cast_pow, Nat.cast_ofNat, hten]
    calc (x.significand : ℚ) * 5 ^ (-x.exponent).toNat * (2 ^ x.exponent * 5 ^ x.exponent)
        = x.significand * 2 ^ x.exponent * (5 ^ (-x.exponent).toNat * 5 ^ x.exponent) := by ring
      _ = x.significand * 2 ^ x.exponent := by rw [hfive, mul_one]

/-- **The shortest decimal** of a finite value is covered. -/
theorem covers_shortest (tie : Tie) (hne : x.significand ≠ 0) :
    x.Covers (x.shortest tie).value := by
  have honGrid : ∀ (g : ℤ) (d : Scaled), x.onGrid tie g = some d → x.readsBack d = true := by
    intro g d hd
    unfold onGrid at hd
    dsimp only at hd
    split at hd
    · exact absurd hd (by simp)
    · exact Option.some.inj hd ▸ ‹_›
    · exact Option.some.inj hd ▸ ‹_›
    · split at hd
      · exact Option.some.inj hd ▸ ‹_›
      · exact Option.some.inj hd ▸ ‹_›
      · split at hd
        · exact Option.some.inj hd ▸ ‹_›
        · split at hd
          · exact Option.some.inj hd ▸ ‹_›
          · exact Option.some.inj hd ▸ ‹_›
  rw [shortest, if_neg hne]
  dsimp only
  rw [Scaled.normalize, Scaled.value_normalizeWithin]
  cases hfound : (List.range 17).findSome? fun (n : Nat) =>
      x.onGrid tie (x.scale - (n + 1 : Nat)) with
  | none =>
    rw [Option.getD_none, value_exact]
    exact x.covers_value
  | some d =>
    obtain ⟨n, -, hd⟩ := List.exists_of_findSome?_eq_some hfound
    exact covers_of_readsBack hne (honGrid _ _ hd)

end Binary64

end DeclWeave.Decimal
