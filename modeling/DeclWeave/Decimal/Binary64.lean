/-!
# Binary Floating Point Values

`Binary64` is the set of 64-bit binary floating point values without the not-a-numbers, which no
literal denotes. The magnitudes are numbered in increasing order: zero has code 0, its upper
neighbour code 1, and so on up to infinity. Every statement about a value is thereby a statement
about natural numbers.

`Binary64.ofRatio` rounds a quotient of naturals to the nearest value, a tie to the one whose
significand is even.
-/

namespace DeclWeave.Decimal

/-- A sign and the position of the magnitude in the sequence of all magnitudes. -/
structure Binary64 where
  negative : Bool
  code : Nat
  deriving DecidableEq, Repr, Inhabited

/-- The natural number nearest to `num / den`, the even one of two that are equally near. -/
def roundHalfEven (num den : Nat) : Nat :=
  let q := num / den
  match compare (2 * (num % den)) den with
  | .lt => q
  | .gt => q + 1
  | .eq => if q % 2 = 0 then q else q + 1

namespace Binary64

/-- The weight of the leading bit of a normal significand. -/
def leadingBit : Nat := 1 <<< 52

/-- The code of infinity: every finite magnitude has a smaller one. -/
def infinityCode : Nat := 2047 * leadingBit

/-- Whether the magnitude is infinite. -/
def isInfinite (x : Binary64) : Bool :=
  infinityCode ≤ x.code

/-- A finite magnitude is `significand * 2 ^ exponent`. -/
def significand (x : Binary64) : Nat :=
  if x.code < leadingBit then x.code else leadingBit + x.code % leadingBit

/-- The power of two that scales the significand. -/
def exponent (x : Binary64) : Int :=
  (max (x.code / leadingBit) 1 : Nat) - 1075

/-- Just above a power of two the gap to the value below is half the gap to the value above. -/
def narrowBelow (x : Binary64) : Bool :=
  x.code % leadingBit == 0 && 2 * leadingBit ≤ x.code

/-- The greatest power of two not above `num / den`, for a positive quotient. -/
def floorLog (num den : Nat) : Int :=
  let l : Int := (num.log2 : Int) - den.log2
  if den <<< l.toNat ≤ num <<< (-l).toNat then l else l - 1

/-- The value nearest to `num / den`; what exceeds every finite value becomes infinite. -/
def ofRatio (negative : Bool) (num den : Nat) : Binary64 :=
  if num = 0 then ⟨negative, 0⟩
  else
    let q : Int := max (floorLog num den - 52) (-1074)
    let m := roundHalfEven (num <<< (-q).toNat) (den <<< q.toNat)
    ⟨negative, min ((q + 1074).toNat * leadingBit + m) infinityCode⟩

example : ofRatio false 1 1 = ⟨false, 1023 * leadingBit⟩ := by decide +kernel
example : ofRatio false (2 ^ 53 + 1) 1 = ofRatio false (2 ^ 53) 1 := by decide +kernel
example : ofRatio true 1 (2 ^ 1074) = ⟨true, 1⟩ := by decide +kernel

end Binary64

end DeclWeave.Decimal
