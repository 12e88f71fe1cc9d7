import DeclWeave.Form.Token
import DeclWeave.Text.Blank
import DeclWeave.Text.Letter

/-!
# From Text to Tokens

`Lexeme.scan` reads one lexeme from its first character and the text after it, and says how many
of the characters after the first it took. It knows nothing of positions: `tokens` derives every
span from the characters taken, so spans tile the text by construction. Blanks separate tokens;
a comma is a blank.

An escape that does not exist ends its string literal before the escaped character, which then
starts the next token.
-/

namespace DeclWeave

open Decimal (Binary64)

/-- Characters between tokens. -/
def isBlank (c : Char) : Bool :=
  Text.isSpace c || c == ','

/-- The marks that may stand in a symbol besides letters. -/
def symbolMarks : List Char :=
  ['_', '+', '-', '*', '/', '!', '?', '<', '>', '=', '&', '%', '$', '^', '.']

/-- Characters that can start a symbol. -/
def isSymbolStart (c : Char) : Bool :=
  Text.isLetter c || symbolMarks.contains c

/-- Characters that can stand in a symbol after the first. -/
def isSymbolChar (c : Char) : Bool :=
  isSymbolStart c || c.isDigit || c == ':'

/-- The atom that a symbol's text denotes: three words are literals. -/
def Atom.ofWord (word : List Char) : Atom :=
  match String.ofList word with
  | "nil" => .nil
  | "true" => .bool true
  | "false" => .bool false
  | name => .sym name

/-- The value of decimal digits. -/
def digitsValue (digits : List Char) : Nat :=
  digits.foldl (fun n d => 10 * n + (d.toNat - '0'.toNat)) 0

/-- The least magnitude that only a negative integer of 64 bits can have. -/
def integerLimit : Nat := 1 <<< 63

/-- The integer lexeme of a sign and digits: integers have 64 bits. -/
def Lexeme.ofInteger (negative : Bool) (digits : List Char) : Lexeme :=
  let n := digitsValue digits
  if negative then
    if n ≤ integerLimit then .atom (.int (-n)) else .invalid .integerTooSmall
  else
    if n < integerLimit then .atom (.int n) else .invalid .integerTooLarge

/-- The lexeme of an unsigned number text that starts with a digit, and its length. A point
belongs to the number only before a digit. -/
def Lexeme.scanNumber (negative : Bool) (cs : List Char) : Lexeme × Nat :=
  let whole := cs.takeWhile Char.isDigit
  match cs.drop whole.length with
  | '.' :: d :: rest =>
    if d.isDigit then
      let fraction := (d :: rest).takeWhile Char.isDigit
      (.atom (.float
          (.ofRatio negative (digitsValue (whole ++ fraction)) (Nat.pow 10 fraction.length))),
        whole.length + 1 + fraction.length)
    else (Lexeme.ofInteger negative whole, whole.length)
  | _ => (Lexeme.ofInteger negative whole, whole.length)

/-- The character that an escape stands for. -/
def unescape? : Char → Option Char
  | 'n' => some '\n'
  | 't' => some '\t'
  | 'r' => some '\r'
  | '\\' => some '\\'
  | '"' => some '"'
  | _ => none

/-- Reads the rest of a string literal after its opening quote. `text` is what has been read, in
reverse, and `taken` the number of characters that took. -/
def Lexeme.scanString (text : List Char) (taken : Nat) : List Char → Lexeme × Nat
  | [] => (.invalid .unterminatedString, taken)
  | '"' :: _ => (.atom (.str (String.ofList text.reverse)), taken + 1)
  | ['\\'] => (.invalid .unfinishedEscape, taken + 1)
  | '\\' :: c :: cs =>
    match unescape? c with
    | some d => scanString (d :: text) (taken + 2) cs
    | none => (.invalid (.invalidEscape c), taken + 1)
  | c :: cs => scanString (c :: text) (taken + 1) cs

/-- Whether a text goes on with a digit. -/
def startsWithDigit : List Char → Bool
  | d :: _ => d.isDigit
  | [] => false

/-- The lexeme that starts with `c` and goes on into `cs`, and how many characters of `cs` it
takes. `c` is no blank. -/
def Lexeme.scan (c : Char) (cs : List Char) : Lexeme × Nat :=
  if c = '(' then (.opening .round, 0)
  else if c = ')' then (.closing .round, 0)
  else if c = '[' then (.opening .square, 0)
  else if c = ']' then (.closing .square, 0)
  else if c = ';' then
    let text := cs.takeWhile (· != '\n')
    (.comment (String.ofList (';' :: text)), text.length)
  else if c = ':' then
    let word := cs.takeWhile isSymbolChar
    if word.isEmpty then (.invalid .missingKeywordName, 0)
    else (.atom (.keyword (String.ofList word)), word.length)
  else if c = '"' then scanString [] 0 cs
  else if c.isDigit then
    let (lexeme, n) := scanNumber false (c :: cs)
    (lexeme, n - 1)
  else if (c = '-' || c = '+') && startsWithDigit cs then scanNumber (c = '-') cs
  else if isSymbolStart c then
    let word := cs.takeWhile isSymbolChar
    (.atom (.ofWord (c :: word)), word.length)
  else (.invalid (.unexpectedCharacter c), 0)

/-- The tokens of a text that starts at a given place, up to and with the end of input. -/
def tokensFrom (p : Pos) (cs : List Char) : List Token :=
  let first := p.afterAll (cs.takeWhile isBlank)
  match _h : cs.dropWhile isBlank with
  | [] => [⟨.endOfInput, .between first first⟩]
  | c :: rest =>
    let (lexeme, n) := Lexeme.scan c rest
    let last := first.afterAll (c :: rest.take n)
    ⟨lexeme, .between first last⟩ :: tokensFrom last (rest.drop n)
termination_by cs.length
decreasing_by
  have hle : (cs.dropWhile isBlank).length ≤ cs.length := (List.dropWhile_sublist _).length_le
  simp only [_h, List.length_cons] at hle
  simp only [List.length_drop]
  omega

/-- The tokens of a text; the last is the end of input. -/
def tokens (source : String) : List Token :=
  tokensFrom .start source.toList

end DeclWeave
