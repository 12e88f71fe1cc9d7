import DeclWeave.Decimal.Shortest

/-!
# Writing Decimals

A `NumberFormat` records what a text format decides about floating point numbers: which exponents
are written positionally, whether a whole number keeps a point, how a tie between two shortest
decimals goes, and what stands for infinity. `NumberFormat.write` follows it.
-/

namespace DeclWeave.Decimal

/-- The decisions of a text format about floating point numbers. -/
structure NumberFormat where
  /-- Exponents of the leading digit from the first to below the second are written without an
  exponent; with no bounds all are. -/
  plain : Option (Int × Int)
  /-- Whether a whole number is written with a point and a zero after it. -/
  keepsPoint : Bool
  /-- Which of two equally near shortest decimals is taken. -/
  tie : Tie
  /-- The text of infinity, and of negative infinity when the flag is set. -/
  infinity : Bool → String

/-- The decimal digits of a natural number, most significant first. -/
def digitsOf (n : Nat) : List Char :=
  Nat.toDigits 10 n

/-- A decimal integer with a minus sign when it is negative. -/
def integerChars (n : Int) : List Char :=
  if n < 0 then '-' :: digitsOf n.natAbs else digitsOf n.natAbs

/-- Digits with a point after the first `before` of them, zeros filling either side. -/
def placePoint (keepsPoint : Bool) (digits : List Char) (before : Int) : List Char :=
  if before ≤ 0 then
    '0' :: '.' :: (List.replicate (-before).toNat '0' ++ digits)
  else if digits.length ≤ before.toNat then
    digits ++ List.replicate (before.toNat - digits.length) '0' ++
      (if keepsPoint then ['.', '0'] else [])
  else
    digits.take before.toNat ++ '.' :: digits.drop before.toNat

/-- Digits as one digit, a fraction and a signed power of ten. -/
def placeExponent (digits : List Char) (exponent : Int) : List Char :=
  let fraction := digits.drop 1
  let sign := if exponent < 0 then '-' else '+'
  digits.take 1 ++ (if fraction.isEmpty then [] else '.' :: fraction) ++
    'e' :: sign :: digitsOf exponent.natAbs

namespace NumberFormat

/-- The text of a finite magnitude. -/
def magnitude (f : NumberFormat) (x : Binary64) : List Char :=
  let d := x.shortest f.tie
  let digits := digitsOf d.coefficient
  if d.coefficient = 0 then placePoint f.keepsPoint digits 1
  else
    let before : Int := digits.length + d.exponent
    let isPlain := match f.plain with
      | none => true
      | some (low, high) => low ≤ before - 1 && before - 1 < high
    if isPlain then placePoint f.keepsPoint digits before
    else placeExponent digits (before - 1)

/-- The text of a value. -/
def write (f : NumberFormat) (x : Binary64) : List Char :=
  if x.isInfinite then (f.infinity x.negative).toList
  else if x.negative then '-' :: f.magnitude x
  else f.magnitude x

end NumberFormat

/-- Text of an infinite value: a minus sign for the negative one. -/
def signedInfinity (negative : Bool) : String :=
  if negative then "-inf" else "inf"

/-- The bare value: every digit in its place, no exponent, no point in a whole number. -/
def bareNumber : NumberFormat where
  plain := none
  keepsPoint := false
  tie := .up
  infinity := signedInfinity

/-- A number as declarations spell it: as the bare value, and a whole number keeps its point so
that it reads back as a floating point number. -/
def literalNumber : NumberFormat where
  plain := none
  keepsPoint := true
  tie := .up
  infinity := signedInfinity

example : literalNumber.write (.ofRatio false 1 10) = "0.1".toList := by decide +kernel
example : literalNumber.write (.ofRatio true 0 1) = "-0.0".toList := by decide +kernel
example : bareNumber.write (.ofRatio false 1 (2 ^ 25)) = "0.000000029802322387695313".toList := by
  decide +kernel

end DeclWeave.Decimal
