import DeclWeave.Pattern.Normal
import DeclWeave.Text.Blank
import DeclWeave.Unicode.Case

/-!
# Flags

Flags inside a pattern change what is meant by the text that follows, up to the end of the group.
With one of them blanks and comments in the text are skipped.
-/

namespace DeclWeave.Pattern

open Text (CharSet)

/-- The flags in force at a place of a pattern. -/
structure Flags where
  ignoreCase : Bool := false
  multiLine : Bool := false
  dotMatchesNewline : Bool := false
  /-- Repetitions prefer few rounds, and many where a question mark follows. -/
  swapGreed : Bool := false
  unicode : Bool := true
  /-- Blanks and comments in the pattern are skipped. -/
  extended : Bool := false
  /-- A carriage return ends a line too. -/
  returns : Bool := false
  deriving Repr, Inhabited

namespace Flags

/-- Switches one flag by its letter. -/
def switch? (f : Flags) (letter : Char) (on : Bool) : Option Flags :=
  match letter with
  | 'i' => some { f with ignoreCase := on }
  | 'm' => some { f with multiLine := on }
  | 's' => some { f with dotMatchesNewline := on }
  | 'U' => some { f with swapGreed := on }
  | 'u' => some { f with unicode := on }
  | 'x' => some { f with extended := on }
  | 'R' => some { f with returns := on }
  | _ => none

/-- Whose letters make up words. -/
def scope (f : Flags) : WordScope :=
  if f.unicode then .unicode else .ascii

/-- A set as it is meant when case may not matter. -/
def fold (f : Flags) (s : CharSet) : CharSet :=
  if !f.ignoreCase then s
  else if f.unicode then Unicode.anyCase s
  else Unicode.anyAsciiCase s

/-- A set as it is meant, or its complement. Case is looked at first, so a complement has no
character of either case. Without Unicode a complement would match parts of characters. -/
def foldAndNegate? (f : Flags) (negated : Bool) (s : CharSet) : Option CharSet :=
  if !negated then some (f.fold s)
  else if f.unicode then some (f.fold s).complement
  else none

/-- What a character stands for. -/
def character (f : Flags) (c : Char) : Pattern :=
  ofSet (f.fold (.single c))

/-- What a dot stands for. Without Unicode it would match parts of characters. -/
def dot? (f : Flags) : Option Pattern :=
  if !f.unicode then none
  else if f.dotMatchesNewline then some (.set .all)
  else if f.returns then some (.set (CharSet.unionAll [.single '\n', .single '\r']).complement)
  else some (.set (CharSet.single '\n').complement)

/-- What a caret stands for. -/
def caret (f : Flags) : Pattern :=
  .assertion (if f.multiLine then .lineStart f.returns else .textStart)

/-- What a dollar sign stands for. -/
def dollar (f : Flags) : Pattern :=
  .assertion (if f.multiLine then .lineEnd f.returns else .textEnd)

/-- A pattern repeated, with a question mark after it or not. -/
def repeated (f : Flags) (p : Pattern) (least : Nat) (most : Option Nat) (marked : Bool) :
    Pattern :=
  p.repeated least most (marked == f.swapGreed)

end Flags

/-- What a text goes on with after blanks and comments. A comment begins with a number sign and
ends with its line. -/
def skipBlanks (cs : List Char) : List Char :=
  go false cs
where
  /-- Inside a comment or not. -/
  go : Bool → List Char → List Char
    | _, [] => []
    | true, c :: cs => go (c != '\n') cs
    | false, c :: cs =>
      if c == '#' then go true cs else if Text.isSpace c then go false cs else c :: cs

/-- What a text goes on with; blanks and comments are skipped if the flag says so. -/
def skip (f : Flags) (cs : List Char) : List Char :=
  if f.extended then skipBlanks cs else cs

/-- The longest beginning of a text whose characters satisfy a test, and the rest. What the flag
says is skipped all along. -/
def spanSkipping (f : Flags) (test : Char → Bool) (cs : List Char) : List Char × List Char :=
  go false cs
where
  /-- Inside a comment or not. -/
  go : Bool → List Char → List Char × List Char
    | _, [] => ([], [])
    | true, c :: cs => go (c != '\n') cs
    | false, c :: cs =>
      if f.extended && c == '#' then go true cs
      else if f.extended && Text.isSpace c then go false cs
      else if test c then
        let (found, rest) := go false cs
        (c :: found, rest)
      else ([], c :: cs)

end DeclWeave.Pattern
