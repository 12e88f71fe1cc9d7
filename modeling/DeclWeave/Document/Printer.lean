import DeclWeave.Decimal.Notation
import DeclWeave.Document.Basic

/-!
# Printing Documents

`Document.print` lays a document out over lines: each item of an array and each field of an
object stands on a line of its own, indented by two spaces more than the bracket that opens it.
An empty array or object is written as its brackets alone.
-/

namespace DeclWeave

namespace Document

/-- A hexadecimal digit for each half of a byte. -/
def byteDigits (n : Nat) : List Char :=
  [Nat.digitChar (n / 16 % 16), Nat.digitChar (n % 16)]

/-- How a character stands in a text: quotes, backslashes and control characters are escaped, the
common ones by a letter. -/
def escapedChar (c : Char) : List Char :=
  if c = '"' || c = '\\' then ['\\', c]
  else if 0x20 ≤ c.toNat then [c]
  else
    match c.toNat with
    | 0x08 => ['\\', 'b']
    | 0x09 => ['\\', 't']
    | 0x0a => ['\\', 'n']
    | 0x0c => ['\\', 'f']
    | 0x0d => ['\\', 'r']
    | n => '\\' :: 'u' :: '0' :: '0' :: byteDigits n

/-- A text between quotes. -/
def quoted (text : String) : List Char :=
  '"' :: (text.toList.flatMap escapedChar ++ ['"'])

/-- A number as a document spells it: magnitudes from `0.00001` to below `10 ^ 16` in full, with a
point in any case, and all others with an exponent. There is no infinite number. -/
def documentNumber : Decimal.NumberFormat where
  plain := some (-5, 16)
  keepsPoint := true
  tie := .toEven
  infinity := fun _ => "null"

/-- The start of a line at some depth. -/
def newLine (depth : Nat) : List Char :=
  '\n' :: List.replicate (2 * depth) ' '

/-- Items between brackets, each on a line of its own. -/
def bracketed (opening closing : Char) (depth : Nat) (items : List (List Char)) : List Char :=
  match items with
  | [] => [opening, closing]
  | items =>
    let lines := items.map fun item => newLine (depth + 1) ++ item
    opening :: ([','].intercalate lines ++ newLine depth ++ [closing])

mutual

/-- The characters of a document that begins at some depth. -/
def chars (depth : Nat) : Document → List Char
  | .null => "null".toList
  | .bool value => (if value then "true" else "false").toList
  | .int value => Decimal.integerChars value
  | .float value => documentNumber.write value
  | .text value => quoted value
  | .array items => bracketed '[' ']' depth (itemChars (depth + 1) items)
  | .object fields => bracketed '{' '}' depth (fieldChars (depth + 1) fields)

/-- The characters of the items of an array. -/
def itemChars (depth : Nat) : List Document → List (List Char)
  | [] => []
  | d :: ds => chars depth d :: itemChars depth ds

/-- The characters of the fields of an object. -/
def fieldChars (depth : Nat) : List (String × Document) → List (List Char)
  | [] => []
  | (key, d) :: rest => (quoted key ++ [':', ' '] ++ chars depth d) :: fieldChars depth rest

end

/-- A document laid out over lines. -/
def print (d : Document) : String :=
  String.ofList (d.chars 0)

example : documentNumber.write (.ofRatio false 1 100000) = "0.00001".toList := by decide +kernel
example : documentNumber.write (.ofRatio false 1 1000000) = "1e-6".toList := by decide +kernel
example : documentNumber.write (.ofRatio false (10 ^ 16) 1) = "1e+16".toList := by decide +kernel

end Document

end DeclWeave
