/-!
# Ranges of Code Points

A property of characters that a standard publishes as data is kept as a list of closed ranges
of code points. The property itself is membership in one of them.
-/

namespace DeclWeave.Text

/-- The code points from `first` to `last`, both included. -/
structure CharRange where
  first : Nat
  last : Nat
  deriving Repr, DecidableEq

namespace CharRange

/-- A range holds a character when the character's code point lies between its ends. -/
def contains (r : CharRange) (c : Char) : Bool :=
  r.first ≤ c.toNat && c.toNat ≤ r.last

/-- The range of a single character. -/
def single (c : Char) : CharRange :=
  ⟨c.toNat, c.toNat⟩

theorem contains_iff {r : CharRange} {c : Char} :
    r.contains c = true ↔ r.first ≤ c.toNat ∧ c.toNat ≤ r.last := by
  simp [contains]

end CharRange

/-- Membership in one of several ranges. -/
def inRanges (ranges : List CharRange) (c : Char) : Bool :=
  ranges.any (·.contains c)

end DeclWeave.Text
