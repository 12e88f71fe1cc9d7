import DeclWeave.Text.CharSet

/-!
# UTF-8

The bytes of a character, and those of all characters of a range. A range of characters need not
be a range of bytes at every place, so it is cut into pieces that are: the characters of a piece
are written with the same number of bytes, and their bytes range independently of each other.
-/

namespace DeclWeave.Text

/-- The bytes that write the character with a code point. -/
def utf8Bytes (n : Nat) : List Nat :=
  if n < 0x80 then [n]
  else if n < 0x800 then [0xC0 + n / 64, 0x80 + n % 64]
  else if n < 0x10000 then [0xE0 + n / 4096, 0x80 + n / 64 % 64, 0x80 + n % 64]
  else [0xF0 + n / 262144, 0x80 + n / 4096 % 64, 0x80 + n / 64 % 64, 0x80 + n % 64]

/-- The bytes that write a text. -/
def utf8 (text : List Char) : List Nat :=
  text.flatMap fun c => utf8Bytes c.toNat

/-- The bytes from `first` to `last`, both included. -/
structure ByteRange where
  first : Nat
  last : Nat
  deriving Repr, DecidableEq

namespace CharRange

/-- Where a range has to be cut so that all characters have the same number of bytes: the last
code point of the first piece. -/
def lengthCut? (r : CharRange) : Option Nat :=
  [0x7F, 0x7FF, 0xFFFF].find? fun m => r.first ≤ m && m < r.last

/-- Where a range has to be cut so that the last bytes, worth `unit` code points in all, range
independently of those before them. -/
def unitCut? (r : CharRange) (unit : Nat) : Option Nat :=
  if r.first / unit = r.last / unit then none
  else if r.first % unit ≠ 0 then some (r.first / unit * unit + (unit - 1))
  else if r.last % unit ≠ unit - 1 then some (r.last / unit * unit - 1)
  else none

/-- Where a range has to be cut, if it has to. -/
def cut? (r : CharRange) : Option Nat :=
  if r.first ≤ 0xD7FF && 0xE000 ≤ r.last then some 0xD7FF
  else
    match r.lengthCut? with
    | some m => some m
    | none =>
      if r.last < 0x80 then none
      else [64, 4096, 262144].findSome? r.unitCut?

/-- The pieces of a range, in ascending order. -/
def pieces (r : CharRange) : List CharRange :=
  match r.cut? with
  | none => [r]
  | some m =>
    if r.first ≤ m ∧ m < codeAfter m ∧ codeAfter m ≤ r.last then
      pieces ⟨r.first, m⟩ ++ pieces ⟨codeAfter m, r.last⟩
    else [r]
termination_by r.last - r.first

/-- The ranges of the bytes of a piece. -/
def byteRanges (piece : CharRange) : List ByteRange :=
  List.zipWith ByteRange.mk (utf8Bytes piece.first) (utf8Bytes piece.last)

end CharRange

/-- The byte ranges of the pieces of a set, in ascending order. -/
def CharSet.byteRanges (s : CharSet) : List (List ByteRange) :=
  s.ranges.flatMap fun r => r.pieces.map (·.byteRanges)

end DeclWeave.Text
