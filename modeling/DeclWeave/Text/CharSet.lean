import DeclWeave.Text.CharRange

/-!
# Sets of Characters

A set of characters is kept as ranges of code points in ascending order that neither meet nor
touch, so every set has one form. Ends of ranges are code points of characters: the numbers
after `0xD7FF` and before `0xE000`, which are no characters, are stepped over.

Sets that a standard publishes are written as rows of text, one entry for a range:

    41-5A    from the first code point to the last
    AA       a single code point
    100-12E/2    every second code point

The code points of a row are hexadecimal and ascend.
-/

namespace DeclWeave.Text

/-- The greatest code point. -/
def lastCode : Nat := 0x10FFFF

/-- The character code after another. -/
def codeAfter (n : Nat) : Nat :=
  if n = 0xD7FF then 0xE000 else n + 1

/-- The character code before another. -/
def codeBefore (n : Nat) : Nat :=
  if n = 0xE000 then 0xD7FF else n - 1

namespace CharRange

/-- The range between two ends, whichever comes first. -/
def ofEnds (a b : Nat) : CharRange :=
  if a ≤ b then ⟨a, b⟩ else ⟨b, a⟩

/-- Whether a range comes before another in ascending order. -/
def precedes (r s : CharRange) : Bool :=
  r.first < s.first || (r.first == s.first && r.last ≤ s.last)

/-- Whether two ranges share a code point. -/
def meets (r s : CharRange) : Bool :=
  r.first ≤ s.last && s.first ≤ r.last

/-- Joins neighbours that meet or touch, in a list in ascending order. -/
def fuse : List CharRange → List CharRange
  | [] => []
  | [r] => [r]
  | r :: s :: rest =>
    if s.first ≤ r.last + 1 then fuse (⟨r.first, max r.last s.last⟩ :: rest)
    else r :: fuse (s :: rest)
termination_by rs => rs.length

/-- The gaps between ranges in ascending order, the first of which comes after `last`. A gap
without characters is taken by its ends. -/
def gapsAfter (last : Nat) : List CharRange → List CharRange
  | [] => if last < lastCode then [⟨codeAfter last, lastCode⟩] else []
  | r :: rest => ofEnds (codeAfter last) (codeBefore r.first) :: gapsAfter r.last rest

/-- What two lists of ranges in ascending order have in common. -/
def common : List CharRange → List CharRange → List CharRange
  | r :: rs, s :: ss =>
    let rest := if r.last < s.last then common rs (s :: ss) else common (r :: rs) ss
    if r.meets s then ⟨max r.first s.first, min r.last s.last⟩ :: rest else rest
  | _, _ => []
termination_by rs ss => rs.length + ss.length

/-- What is left of a list of ranges without those of another, both in ascending order. -/
def without : List CharRange → List CharRange → List CharRange
  | [], _ => []
  | rs, [] => rs
  | r :: rs, s :: ss =>
    if s.last < r.first then without (r :: rs) ss
    else if r.last < s.first then r :: without rs (s :: ss)
    else
      let before := if r.first < s.first then [⟨r.first, codeBefore s.first⟩] else []
      if s.last < r.last then before ++ without (⟨codeAfter s.last, r.last⟩ :: rs) ss
      else before ++ without rs (s :: ss)
termination_by rs ss => rs.length + ss.length

end CharRange

/-- A set of characters, as ranges in ascending order that are apart from each other. -/
structure CharSet where
  ranges : List CharRange
  deriving Repr, DecidableEq, Inhabited

namespace CharSet

/-- Membership. -/
def contains (s : CharSet) (c : Char) : Bool :=
  inRanges s.ranges c

/-- The set of the characters in any of some ranges. -/
def ofRanges (rs : List CharRange) : CharSet :=
  ⟨CharRange.fuse (rs.mergeSort CharRange.precedes)⟩

def none : CharSet := ⟨[]⟩

def all : CharSet := ⟨[⟨0, lastCode⟩]⟩

def single (c : Char) : CharSet := ⟨[.single c]⟩

/-- The characters from `a` to `b`. -/
def between (a b : Char) : CharSet := ⟨[⟨a.toNat, b.toNat⟩]⟩

def isEmpty (s : CharSet) : Bool :=
  s.ranges.isEmpty

/-- Whether all characters of the set belong to ASCII. -/
def isAscii (s : CharSet) : Bool :=
  s.ranges.all (·.last < 128)

/-- The number of code points in the set. -/
def size (s : CharSet) : Nat :=
  s.ranges.foldl (fun n r => n + (r.last + 1 - r.first)) 0

/-- The characters of the set, in ascending order. -/
def toList (s : CharSet) : List Char :=
  s.ranges.flatMap fun r =>
    (List.range (r.last + 1 - r.first)).map fun i => Char.ofNat (r.first + i)

/-- The only character of a set that has just one. -/
def only? (s : CharSet) : Option Char :=
  match s.ranges with
  | [r] => if r.first = r.last then some (Char.ofNat r.first) else Option.none
  | _ => Option.none

def union (s t : CharSet) : CharSet :=
  ⟨CharRange.fuse (s.ranges.merge t.ranges CharRange.precedes)⟩

def unionAll (sets : List CharSet) : CharSet :=
  ofRanges (sets.flatMap ranges)

def inter (s t : CharSet) : CharSet :=
  ⟨CharRange.common s.ranges t.ranges⟩

/-- What is in the first set and not in the second. -/
def diff (s t : CharSet) : CharSet :=
  ⟨CharRange.without s.ranges t.ranges⟩

/-- What is in exactly one of two sets. -/
def symmDiff (s t : CharSet) : CharSet :=
  (s.union t).diff (s.inter t)

/-- Every character that is not in the set. -/
def complement (s : CharSet) : CharSet :=
  match s.ranges with
  | [] => all
  | r :: rest =>
    let rest := CharRange.gapsAfter r.last rest
    ⟨if 0 < r.first then ⟨0, codeBefore r.first⟩ :: rest else rest⟩

/-! ### Rows of text -/

/-- The number that hexadecimal digits denote. -/
def readHex (digits : String) : Nat :=
  digits.foldl (fun n d => 16 * n + digitValue d) 0
where
  digitValue (d : Char) : Nat :=
    if d.isDigit then d.toNat - '0'.toNat else d.toUpper.toNat - 'A'.toNat + 10

/-- Every second code point from the first to the last. -/
def everySecond (first last : Nat) : List CharRange :=
  (List.range ((last - first) / 2 + 1)).map fun i => ⟨first + 2 * i, first + 2 * i⟩

/-- The ranges of an entry of a row. -/
def readEntry (entry : String) : List CharRange :=
  match entry.splitOn "-" with
  | [first, last] =>
    match last.splitOn "/" with
    | [last, _] => everySecond (readHex first) (readHex last)
    | _ => [⟨readHex first, readHex last⟩]
  | _ => [⟨readHex entry, readHex entry⟩]

/-- The set that rows of text describe. -/
def ofRows (rows : List String) : CharSet :=
  ⟨rows.flatMap fun row => (row.splitOn " ").flatMap readEntry⟩

end CharSet

end DeclWeave.Text
