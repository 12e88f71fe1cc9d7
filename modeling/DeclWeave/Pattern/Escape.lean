import DeclWeave.Pattern.Flags
import DeclWeave.Pattern.Property

/-!
# Escapes

What a backslash begins: code points in hexadecimal, properties, classes of characters,
assertions, and characters that would have a meaning of their own without it.
-/

namespace DeclWeave.Pattern

open Text (CharSet)

/-- What one escape or one plain character stands for. -/
inductive Primitive where
  | char (c : Char)
  | set (s : CharSet)
  | assertion (a : Assertion)

/-! ### Code points -/

/-- The value of a hexadecimal digit. -/
def hexValue? (c : Char) : Option Nat :=
  if c.isDigit then some (c.toNat - '0'.toNat)
  else if 'a' ≤ c && c ≤ 'f' then some (c.toNat - 'a'.toNat + 10)
  else if 'A' ≤ c && c ≤ 'F' then some (c.toNat - 'A'.toNat + 10)
  else none

/-- The character with a code point in hexadecimal digits. -/
def charOfHex? (digits : List Char) : Option Char := do
  let n ← digits.foldlM (fun n d => do return 16 * n + (← hexValue? d)) 0
  if digits.isEmpty then none
  else if n.isValidChar then some (Char.ofNat n)
  else none

/-- A number of hexadecimal digits. -/
def readDigits? (f : Flags) : Nat → List Char → Option (List Char × List Char)
  | 0, cs => some ([], cs)
  | _ + 1, [] => none
  | n + 1, d :: cs => do
    let _ ← hexValue? d
    let (digits, rest) ← readDigits? f n (skip f cs)
    return (d :: digits, rest)

/-- The rest of an escape of a code point: so many digits, or any number between braces. Without
Unicode two digits stand for a byte, which is a character only in ASCII. -/
def readHex? (f : Flags) (count : Nat) (cs : List Char) : Option (Primitive × List Char) :=
  match skip f cs with
  | '{' :: cs =>
    match spanSkipping f (· != '}') (skip f cs) with
    | (digits, _ :: rest) => do return (.char (← charOfHex? digits), skip f rest)
    | (_, []) => none
  | cs => do
    let (digits, rest) ← readDigits? f count cs
    let c ← charOfHex? digits
    if count = 2 && !f.unicode && 128 ≤ c.toNat then none else some (.char c, rest)

/-! ### Sets -/

/-- The set of a property. There are no properties without Unicode. -/
def property? (f : Flags) (negated : Bool) (name : List Char) : Option CharSet := do
  if !f.unicode then none
  let (s, opposite) ← Property.set? name
  f.foldAndNegate? (negated != opposite) s

/-- The rest of an escape of a property: one letter, or a name between braces. -/
def readProperty? (f : Flags) (negated : Bool) (cs : List Char) :
    Option (Primitive × List Char) :=
  match skip f cs with
  | '{' :: cs =>
    match spanSkipping f (· != '}') (skip f cs) with
    | (name, _ :: rest) => do return (.set (← property? f negated name), rest)
    | (_, []) => none
  | '\\' :: _ => none
  | c :: rest => do return (.set (← property? f negated [c]), skip f rest)
  | [] => none

def decimalDigits : CharSet := Unicode.categories ["Nd"]

def asciiDigits : CharSet := .between '0' '9'
def asciiLetters : CharSet := .unionAll [.between 'A' 'Z', .between 'a' 'z']
def asciiAlnum : CharSet := asciiLetters.union asciiDigits
def asciiWord : CharSet := asciiAlnum.union (.single '_')
def asciiSpace : CharSet := .unionAll [.between '\t' '\r', .single ' ']

/-- A set or its complement, in Unicode or in ASCII. These sets do not depend on case. Without
Unicode a complement would match parts of characters. -/
def classSet? (f : Flags) (negated : Bool) (unicode ascii : CharSet) : Option CharSet :=
  if f.unicode then some (if negated then unicode.complement else unicode)
  else if negated then none
  else some ascii

/-- The set of an escape of one letter. -/
def classOf? (f : Flags) : Char → Option CharSet
  | 'd' => classSet? f false decimalDigits asciiDigits
  | 'D' => classSet? f true decimalDigits asciiDigits
  | 's' => classSet? f false Unicode.whiteSpace asciiSpace
  | 'S' => classSet? f true Unicode.whiteSpace asciiSpace
  | 'w' => classSet? f false Unicode.wordCharacters asciiWord
  | 'W' => classSet? f true Unicode.wordCharacters asciiWord
  | _ => none

/-! ### Assertions -/

/-- The boundary with a name between braces, after `\b`. -/
def namedBoundary? (w : WordScope) (name : List Char) : Option Assertion :=
  match String.ofList name with
  | "start" => some (.wordStart w)
  | "end" => some (.wordEnd w)
  | "start-half" => some (.startHalf w)
  | "end-half" => some (.endHalf w)
  | _ => none

def isBoundaryNameChar (c : Char) : Bool :=
  c.isAlpha || c == '-'

/-- The word boundary, or a named one. What follows in braces and does not begin like a name is
left to be read as a repetition. -/
def readBoundary? (f : Flags) (cs : List Char) : Option (Primitive × List Char) :=
  match cs with
  | '{' :: inner =>
    match spanSkipping f isBoundaryNameChar (skip f inner) with
    | (_, []) => none
    | ([], _) => some (.assertion (.boundary f.scope), cs)
    | (name, '}' :: rest) => do return (.assertion (← namedBoundary? f.scope name), rest)
    | (_, _) => none
  | cs => some (.assertion (.boundary f.scope), cs)

/-! ### All escapes -/

/-- Characters with a meaning of their own in patterns. -/
def metaChars : List Char :=
  ['\\', '.', '+', '*', '?', '(', ')', '|', '[', ']', '{', '}', '^', '$', '#', '&', '-', '~']

/-- The control character of an escape of one letter. -/
def control? : Char → Option Char
  | 'a' => some (Char.ofNat 7)
  | 'f' => some (Char.ofNat 12)
  | 't' => some '\t'
  | 'n' => some '\n'
  | 'r' => some '\r'
  | 'v' => some (Char.ofNat 11)
  | _ => none

/-- The assertion of an escape of one character. -/
def assertion? (f : Flags) : Char → Option Assertion
  | 'A' => some .textStart
  | 'z' => some .textEnd
  | 'B' => some (.notBoundary f.scope)
  | '<' => some (.wordStart f.scope)
  | '>' => some (.wordEnd f.scope)
  | _ => none

/-- Whether a character stands for itself after a backslash. -/
def isEscapable (c : Char) : Bool :=
  metaChars.contains c || (c.toNat < 128 && !c.isAlphanum && c != '<' && c != '>')

/-- The rest of an escape, after its backslash. -/
def readEscape? (f : Flags) : List Char → Option (Primitive × List Char)
  | [] => none
  | c :: cs =>
    match c with
    | 'x' => readHex? f 2 cs
    | 'u' => readHex? f 4 cs
    | 'U' => readHex? f 8 cs
    | 'p' => readProperty? f false cs
    | 'P' => readProperty? f true cs
    | 'b' => readBoundary? f cs
    | c =>
      if isEscapable c then some (.char c, cs)
      else
        match control? c, assertion? f c, classOf? f c with
        | some c, _, _ => some (.char c, cs)
        | _, some a, _ => some (.assertion a, cs)
        | _, _, some s => some (.set s, cs)
        | _, _, _ => none

end DeclWeave.Pattern
