import DeclWeave.Text.CharSet
import DeclWeave.Unicode.Trait

/-!
# Patterns

A `Pattern` is a regular expression with assertions about the place in the text. It is kept in a
normal form (`DeclWeave.Pattern.Normal`): sequences and alternatives lean to the right and hold no
members that could be merged. Groups keep their number, and repetitions whether they prefer many
rounds, though neither has to do with what is matched.
-/

namespace DeclWeave

open Text (CharSet)

/-- Whose letters make up words. -/
inductive WordScope where
  | unicode
  | ascii
  deriving DecidableEq, Repr

namespace WordScope

/-- Whether a character belongs to words. -/
def contains (w : WordScope) (c : Char) : Bool :=
  if c.toNat < 128 then c.isAlphanum || c == '_'
  else
    match w with
    | .unicode => Unicode.wordCharacters.contains c
    | .ascii => false

/-- Whether there is a character and it belongs to words. -/
def holdsAt (w : WordScope) (c : Option Char) : Bool :=
  c.any w.contains

end WordScope

/-- A condition on a place in a text. -/
inductive Assertion where
  | textStart
  | textEnd
  /-- At the start of the text or after a line ending; with the flag, a carriage return is a line
  ending too and is not parted from a line feed after it. -/
  | lineStart (returns : Bool)
  | lineEnd (returns : Bool)
  /-- Between a character that belongs to words and none. -/
  | boundary (w : WordScope)
  | notBoundary (w : WordScope)
  /-- A character of a word follows and none comes before. -/
  | wordStart (w : WordScope)
  /-- A character of a word comes before and none follows. -/
  | wordEnd (w : WordScope)
  /-- No character of a word comes before. -/
  | startHalf (w : WordScope)
  /-- No character of a word follows. -/
  | endHalf (w : WordScope)
  deriving DecidableEq, Repr

namespace Assertion

/-- Whether the assertion holds at the place between two characters, of which the first is missing
at the start of the text and the second at its end. -/
def holds (before after : Option Char) : Assertion → Bool
  | .textStart => before.isNone
  | .textEnd => after.isNone
  | .lineStart false => before.isNone || before == some '\n'
  | .lineStart true =>
    before.isNone || before == some '\n' || (before == some '\r' && after != some '\n')
  | .lineEnd false => after.isNone || after == some '\n'
  | .lineEnd true =>
    after.isNone || after == some '\r' || (after == some '\n' && before != some '\r')
  | .boundary w => w.holdsAt before != w.holdsAt after
  | .notBoundary w => w.holdsAt before == w.holdsAt after
  | .wordStart w => !w.holdsAt before && w.holdsAt after
  | .wordEnd w => w.holdsAt before && !w.holdsAt after
  | .startHalf w => !w.holdsAt before
  | .endHalf w => !w.holdsAt after

end Assertion

/-- A regular expression. -/
inductive Pattern where
  | empty
  | literal (text : List Char)
  /-- Any one character of the set. -/
  | set (s : CharSet)
  | assertion (a : Assertion)
  /-- At least `least` times, and at most `most` times if there is a bound. -/
  | repetition (p : Pattern) (least : Nat) (most : Option Nat) (greedy : Bool)
  | group (number : Nat) (p : Pattern)
  | seq (p q : Pattern)
  | alt (p q : Pattern)
  deriving DecidableEq, Repr, Inhabited

namespace Pattern

/-- The least number of characters in a match, if anything can be matched for all one knows from
the sets in the pattern. -/
def minLength : Pattern → Option Nat
  | .empty => some 0
  | .literal text => some text.length
  | .set s => if s.isEmpty then none else some 1
  | .assertion _ => some 0
  | .repetition p least _ _ => p.minLength.map (· * least)
  | .group _ p => p.minLength
  | .seq p q => do return (← p.minLength) + (← q.minLength)
  | .alt p q => do return min (← p.minLength) (← q.minLength)

/-- Whether the pattern can be seen to match no character, only places. -/
def onlyPlaces : Pattern → Bool
  | .empty => true
  | .literal _ => false
  | .set _ => false
  | .assertion _ => true
  | .repetition p _ most _ => most.isSome && p.onlyPlaces
  | .group _ p => p.onlyPlaces
  | .seq p q => p.onlyPlaces && q.onlyPlaces
  | .alt p q => p.onlyPlaces && q.onlyPlaces

/-- Whether every match begins at the start of the text, as far as assertions show. -/
def startsText : Pattern → Bool
  | .assertion a => a == .textStart
  | .repetition p least _ _ => 0 < least && p.startsText
  | .group _ p => p.startsText
  | .seq p q => p.startsText || (p.onlyPlaces && q.startsText)
  | .alt p q => p.startsText && q.startsText
  | _ => false

/-- Whether every match ends at the end of the text, as far as assertions show. -/
def endsText : Pattern → Bool
  | .assertion a => a == .textEnd
  | .repetition p least _ _ => 0 < least && p.endsText
  | .group _ p => p.endsText
  | .seq p q => q.endsText || (q.onlyPlaces && p.endsText)
  | .alt p q => p.endsText && q.endsText
  | _ => false

/-- The number of the parts of a pattern. -/
def size : Pattern → Nat
  | .repetition p _ _ _ => p.size + 1
  | .group _ p => p.size + 1
  | .seq p q => p.size + q.size + 1
  | .alt p q => p.size + q.size + 1
  | _ => 1

end Pattern

end DeclWeave
