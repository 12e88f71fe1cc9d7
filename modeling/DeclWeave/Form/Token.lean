import DeclWeave.Decimal.Notation
import DeclWeave.Form.Span

/-!
# Tokens

The text of declarations is made of brackets, atoms and comments. `Atom` is what a single token
can denote; forms are built from the same atoms. A stretch that is none of these is kept in the
stream as an invalid lexeme with its reason, so that reading a text never stops short.
-/

namespace DeclWeave

open Decimal (Binary64)

/-- The two kinds of brackets. -/
inductive Bracket where
  | round
  | square
  deriving DecidableEq, Repr, Inhabited

namespace Bracket

def openChar : Bracket → Char
  | .round => '('
  | .square => '['

def closeChar : Bracket → Char
  | .round => ')'
  | .square => ']'

/-- The name of what the brackets enclose. -/
def sequenceName : Bracket → String
  | .round => "list"
  | .square => "vector"

end Bracket

/-- A literal, a symbol or a keyword. -/
inductive Atom where
  | nil
  | bool (value : Bool)
  | int (value : Int)
  | float (value : Binary64)
  | str (text : String)
  | sym (name : String)
  | keyword (name : String)
  deriving DecidableEq, Repr, Inhabited

namespace Atom

/-- The name of the kind of an atom, for messages. -/
def kindName : Atom → String
  | .nil => "nil"
  | .bool _ => "boolean"
  | .int _ => "integer"
  | .float _ => "float"
  | .str _ => "string"
  | .sym _ => "symbol"
  | .keyword _ => "keyword"

end Atom

/-- Why a stretch of text is no token. -/
inductive LexicalFault where
  | unexpectedCharacter (c : Char)
  | missingKeywordName
  | invalidEscape (c : Char)
  | unfinishedEscape
  | unterminatedString
  /-- An integer above the greatest 64-bit one. -/
  | integerTooLarge
  /-- An integer below the least 64-bit one. -/
  | integerTooSmall
  deriving DecidableEq, Repr

namespace LexicalFault

def message : LexicalFault → String
  | .unexpectedCharacter c => "unexpected character: " ++ c.toString
  | .missingKeywordName => "expected keyword name after ':'"
  | .invalidEscape c => "invalid escape sequence: \\" ++ c.toString
  | .unfinishedEscape => "unexpected end of input in string escape"
  | .unterminatedString => "unterminated string literal"
  | .integerTooLarge => "invalid integer: number too large to fit in target type"
  | .integerTooSmall => "invalid integer: number too small to fit in target type"

end LexicalFault

/-- What a token is. -/
inductive Lexeme where
  | opening (b : Bracket)
  | closing (b : Bracket)
  | atom (a : Atom)
  /-- A comment with its semicolon, up to the end of the line. -/
  | comment (text : String)
  | invalid (fault : LexicalFault)
  | endOfInput
  deriving DecidableEq, Repr

namespace Lexeme

/-- Trivia carries no meaning. -/
def isTrivia : Lexeme → Bool
  | .comment _ => true
  | _ => false

/-- The name of a lexeme, for messages. -/
def name : Lexeme → String
  | .opening .round => "'('"
  | .closing .round => "')'"
  | .opening .square => "'['"
  | .closing .square => "']'"
  | .atom a => a.kindName
  | .comment _ => "comment"
  | .invalid _ => "error"
  | .endOfInput => "end of input"

end Lexeme

/-- A lexeme and the text it was read from. -/
structure Token where
  lexeme : Lexeme
  span : Span
  deriving DecidableEq, Repr

end DeclWeave
