import DeclWeave.Text.CharRange

/-!
# White Space

`isSpace` is the Unicode property *White_Space*, 25 code points. It is wider than the four
ASCII characters of `Char.isWhitespace`.
-/

namespace DeclWeave.Text

/-- The code points with the property *White_Space*. -/
def spaceRanges : List CharRange := [
  ⟨0x9, 0xD⟩, ⟨0x20, 0x20⟩, ⟨0x85, 0x85⟩, ⟨0xA0, 0xA0⟩, ⟨0x1680, 0x1680⟩, ⟨0x2000, 0x200A⟩,
  ⟨0x2028, 0x2029⟩, ⟨0x202F, 0x202F⟩, ⟨0x205F, 0x205F⟩, ⟨0x3000, 0x3000⟩]

/-- Whether a character is white space. -/
def isSpace (c : Char) : Bool :=
  inRanges spaceRanges c

theorem isSpace_of_isWhitespace {c : Char} (h : c.isWhitespace = true) : isSpace c = true := by
  simp only [Char.isWhitespace, Bool.or_eq_true, decide_eq_true_eq] at h
  rcases h with ((rfl | rfl) | rfl) | rfl <;> decide

end DeclWeave.Text
