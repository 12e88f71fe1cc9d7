import DeclWeave.Text.CharSet

/-!
# Properties with one Value for each Code Point

A property such as the general category cuts the code points into runs of one value. The runs are
written as rows of text, each entry with the first code point of its run:

    41:Lu        this value up to the next entry
    100:Lu/Ll    the two values in turn

The code points are hexadecimal and ascend.
-/

namespace DeclWeave.Unicode

open DeclWeave.Text (CharRange CharSet)

/-- The code points from `first` to `last`. Those at an even distance from the first have one
value and the others another, which may be the same. -/
structure Run where
  first : Nat
  last : Nat
  evenValue : String
  oddValue : String
  deriving Repr, DecidableEq

namespace Run

/-- The ranges of a run whose values are wanted. -/
def ranges (wanted : String → Bool) (r : Run) : List CharRange :=
  match wanted r.evenValue, wanted r.oddValue with
  | true, true => [⟨r.first, r.last⟩]
  | true, false => CharSet.everySecond r.first r.last
  | false, true => if r.first < r.last then CharSet.everySecond (r.first + 1) r.last else []
  | false, false => []

end Run

/-- A property, as the runs of its values in ascending order. -/
structure Partition where
  runs : List Run
  deriving Repr

namespace Partition

/-- The first code point and the two values of an entry. -/
def readEntry (entry : String) : Nat × String × String :=
  match entry.splitOn ":" with
  | [first, values] =>
    match values.splitOn "/" with
    | [even, odd] => (CharSet.readHex first, even, odd)
    | _ => (CharSet.readHex first, values, values)
  | _ => (0, "", "")

/-- Lets every run end where the next one begins. -/
def close : List (Nat × String × String) → List Run
  | [] => []
  | [(first, even, odd)] => [⟨first, Text.lastCode, even, odd⟩]
  | (first, even, odd) :: (next, rest) :: more =>
    ⟨first, next - 1, even, odd⟩ :: close ((next, rest) :: more)

/-- The property that rows of text describe. -/
def ofRows (rows : List String) : Partition :=
  ⟨close (rows.flatMap fun row => (row.splitOn " ").map readEntry)⟩

/-- The code points whose value is wanted. -/
def part (p : Partition) (wanted : String → Bool) : CharSet :=
  ⟨CharRange.fuse (p.runs.flatMap (·.ranges wanted))⟩

end Partition

end DeclWeave.Unicode
