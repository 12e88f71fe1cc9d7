import DeclWeave.Decimal.Binary64

/-!
# Shortest Decimals

The reals that round to a floating point value form an interval around it, ends included exactly
when the significand is even. `Binary64.shortest` finds the decimal with the fewest digits in
that interval, and among those with equally many the one nearest to the value.

The search tries the grids of 1, 2, … 17 significant digits. On each it tests the two grid points
next to the value: if any point of the grid lies in the interval, one of these two does.
-/

namespace DeclWeave.Decimal

/-- The number `coefficient * 10 ^ exponent`. -/
structure Scaled where
  coefficient : Nat
  exponent : Int
  deriving DecidableEq, Repr, Inhabited

/-- Which of two equally near decimals is taken. -/
inductive Tie where
  | up
  | toEven
  deriving DecidableEq, Repr

/-- Compares `d` with `n * 2 ^ p`, exactly. -/
def Scaled.compareBinary (d : Scaled) (n : Nat) (p : Int) : Ordering :=
  compare ((d.coefficient * Nat.pow 10 d.exponent.toNat) <<< (-p).toNat)
    ((n <<< p.toNat) * Nat.pow 10 (-d.exponent).toNat)

/-- Moves the zeros at the end of the coefficient into the exponent, at most `fuel` of them. -/
def Scaled.normalizeWithin : Nat → Scaled → Scaled
  | 0, d => d
  | fuel + 1, d =>
    if d.coefficient != 0 && d.coefficient % 10 == 0 then
      normalizeWithin fuel ⟨d.coefficient / 10, d.exponent + 1⟩
    else d

/-- The same number with no zero at the end of its coefficient. A coefficient has fewer zeros
than bits, so none is left over. -/
def Scaled.normalize (d : Scaled) : Scaled :=
  d.normalizeWithin (d.coefficient.log2 + 1)

namespace Binary64

/-- Whether a decimal lies among the reals that round to the finite value `x`. -/
def readsBack (x : Binary64) (d : Scaled) : Bool :=
  let m := x.significand
  let low := d.compareBinary (if x.narrowBelow then 4 * m - 1 else 4 * m - 2) (x.exponent - 2)
  let high := d.compareBinary (4 * m + 2) (x.exponent - 2)
  let ends := m % 2 == 0
  (low == .gt || (ends && low == .eq)) && (high == .lt || (ends && high == .eq))

/-- The least power of ten above a finite non-zero magnitude. The estimate from the binary
logarithm is short of it by less than two. -/
def scale (x : Binary64) : Int :=
  let estimate := ((x.significand.log2 + x.exponent) * 30103).fdiv 100000
  let above (k : Int) : Bool :=
    Scaled.compareBinary ⟨1, k⟩ x.significand x.exponent == .gt
  if above (estimate - 1) then estimate - 1
  else if above estimate then estimate
  else if above (estimate + 1) then estimate + 1
  else estimate + 2

/-- The greatest multiple of `10 ^ g` not above the magnitude. -/
def gridBelow (x : Binary64) (g : Int) : Nat :=
  ((x.significand <<< x.exponent.toNat) * Nat.pow 10 (-g).toNat) /
    (Nat.pow 10 g.toNat <<< (-x.exponent).toNat)

/-- The nearer of the grid points next to the magnitude that read back, if one does. -/
def onGrid (tie : Tie) (x : Binary64) (g : Int) : Option Scaled :=
  let below : Scaled := ⟨x.gridBelow g, g⟩
  let above : Scaled := ⟨x.gridBelow g + 1, g⟩
  match x.readsBack below, x.readsBack above with
  | false, false => none
  | true, false => some below
  | false, true => some above
  | true, true =>
    match Scaled.compareBinary ⟨2 * below.coefficient + 1, g⟩ x.significand (x.exponent + 1) with
    | .gt => some below
    | .lt => some above
    | .eq =>
      match tie with
      | .up => some above
      | .toEven => if below.coefficient % 2 == 0 then some below else some above

/-- The exact decimal value of a finite magnitude. -/
def exact (x : Binary64) : Scaled :=
  if 0 ≤ x.exponent then ⟨x.significand <<< x.exponent.toNat, 0⟩
  else ⟨x.significand * Nat.pow 5 (-x.exponent).toNat, x.exponent⟩

/-- The decimal with the fewest digits that reads back as the finite magnitude of `x`. -/
def shortest (tie : Tie) (x : Binary64) : Scaled :=
  if x.significand = 0 then ⟨0, 0⟩
  else
    let k := x.scale
    let found := (List.range 17).findSome? fun (n : Nat) => x.onGrid tie (k - (n + 1 : Nat))
    (found.getD x.exact).normalize

end Binary64

end DeclWeave.Decimal
