import DeclWeave.Unicode.Script
import DeclWeave.Unicode.Trait

/-!
# Where Text Is Cut

Unicode sorts characters into classes by which text is cut into what a reader takes for one
character (grapheme clusters), into words, and into sentences. The classes follow its rules, in the
edition 16.0. A character in no class has the class *Other*, which cannot be asked for.
-/

namespace DeclWeave.Unicode

open DeclWeave.Text (CharSet)

/-- A class of characters with its long and its short name, in small letters. -/
structure BreakClass where
  names : List String
  members : CharSet

/-! ### Grapheme clusters -/

/-- Korean syllables without a final consonant: one for each pair of a first consonant and a
vowel. -/
def openSyllables : CharSet :=
  ⟨(List.range 399).map fun i => ⟨0xAC00 + 28 * i, 0xAC00 + 28 * i⟩⟩

def syllables : CharSet :=
  .ofRows ["AC00-D7A3"]

/-- Controls break a cluster. Signs that stay with their neighbours are none. -/
def graphemeControl : CharSet :=
  (CharSet.union (categories ["Cc", "Cf", "Zl", "Zp"])
    ((categories ["Cn"]).inter defaultIgnorable)).diff
    (.unionAll [graphemeExtend, prependedConcatenationMark, joinControl, .ofRows ["A", "D"]])

/-- Spacing marks that stay with the character before them. -/
def graphemeSpacingMark : CharSet :=
  ((categories ["Mc"]).union (.ofRows ["E33 EB3"])).diff
    (graphemeExtend.union (.ofRows [
      "102B-102C 1038 1062-1064 1067-106D 1083 1087-108C 108F 109A-109C 1A61 1A63-1A64 AA7B",
      "AA7D 11720-11721"]))

def graphemeClasses : List BreakClass := [
  ⟨["control", "cn"], graphemeControl⟩,
  ⟨["cr"], .ofRows ["D"]⟩,
  ⟨["lf"], .ofRows ["A"]⟩,
  ⟨["extend", "ex"], graphemeExtend.union emojiModifier⟩,
  ⟨["l"], .ofRows ["1100-115F A960-A97C"]⟩,
  ⟨["v"], .ofRows ["1160-11A7 D7B0-D7C6 16D63 16D67-16D6A"]⟩,
  ⟨["t"], .ofRows ["11A8-11FF D7CB-D7FB"]⟩,
  ⟨["lv"], openSyllables⟩,
  ⟨["lvt"], syllables.diff openSyllables⟩,
  ⟨["prepend", "pp"], .ofRows [
    "600-605 6DD 70F 890-891 8E2 D4E 110BD 110CD 111C2-111C3 113D1 1193F 11941 11A84-11A89",
    "11D46 11F02"]⟩,
  ⟨["regionalindicator", "ri"], regionalIndicator⟩,
  ⟨["spacingmark", "sm"], graphemeSpacingMark⟩,
  ⟨["zwj"], .ofRows ["200D"]⟩]

/-! ### Words -/

/-- Characters that stay with the one before them, in words and in sentences. -/
def wordExtend : CharSet :=
  (graphemeExtend.union (categories ["Mc"])).union emojiModifier

def hebrewLetter : CharSet :=
  (script "Hebr").inter (categories ["Lo"])

def katakana : CharSet :=
  (script "Kana").union (.ofRows ["3031-3035 309B-309C 30A0 30FC FF70"])

/-- Scripts that are written without blanks between words. -/
def unspacedScripts : CharSet :=
  .unionAll (["Ahom", "Hira", "Khmr", "Lana", "Laoo", "Mymr", "Tale", "Talu", "Tavt", "Thai"].map
    script)

/-- Letters of words that are told by blanks. -/
def wordLetter : CharSet :=
  (alphabetic.diff
    (.unionAll [ideographic, katakana, unspacedScripts, wordExtend, hebrewLetter])).union
    (.ofRows [
      "B8 2C2-2C5 2D2-2D7 2DE-2DF 2E5-2EB 2ED 2EF-2FF 55A-55C 55E 58A 5F3 70F A708-A716",
      "A720-A721 A789-A78A AB5B"])

/-- Signs that do not show, apart from those with a class of their own. -/
def wordFormat : CharSet :=
  ((categories ["Cf"]).diff graphemeExtend).diff
    (.ofRows ["600-605 6DD 70F 890-891 8E2 200B 200D 110BD 110CD"])

def wordNumeric : CharSet :=
  (categories ["Nd"]).union (.ofRows ["600-605 66B 6DD 890-891 8E2 19DA 110BD 110CD"])

def wordClasses : List BreakClass := [
  ⟨["aletter", "le"], wordLetter⟩,
  ⟨["cr"], .ofRows ["D"]⟩,
  ⟨["doublequote", "dq"], .ofRows ["22"]⟩,
  ⟨["extend"], wordExtend⟩,
  ⟨["extendnumlet", "ex"], (categories ["Pc"]).union (.ofRows ["202F"])⟩,
  ⟨["format", "fo"], wordFormat⟩,
  ⟨["hebrewletter", "hl"], hebrewLetter⟩,
  ⟨["katakana", "ka"], katakana⟩,
  ⟨["lf"], .ofRows ["A"]⟩,
  ⟨["midletter", "ml"], .ofRows ["3A B7 387 55F 5F4 2027 FE13 FE55 FF1A"]⟩,
  ⟨["midnum", "mn"], .ofRows [
    "2C 3B 37E 589 60C-60D 66C 7F8 2044 FE50 FE54 FF0C FF1B"]⟩,
  ⟨["midnumlet", "mb"], .ofRows ["2E 2018-2019 2024 FE52 FF07 FF0E"]⟩,
  ⟨["newline", "nl"], .ofRows ["B-C 85 2028-2029"]⟩,
  ⟨["numeric", "nu"], wordNumeric⟩,
  ⟨["regionalindicator", "ri"], regionalIndicator⟩,
  ⟨["singlequote", "sq"], .ofRows ["27"]⟩,
  ⟨["wsegspace"], .ofRows ["20 1680 2000-2006 2008-200A 205F 3000"]⟩,
  ⟨["zwj"], .ofRows ["200D"]⟩]

/-! ### Sentences -/

/-- Full stops, which end a sentence only where what follows allows it. -/
def ambiguousStop : CharSet :=
  .ofRows ["2E 2024 FE52 FF0E"]

def sentenceExtend : CharSet :=
  (graphemeExtend.union (categories ["Mc"])).union (.ofRows ["200D"])

/-- Small letters, but not those of modern Georgian, which has no capitals in sentences. -/
def sentenceLower : CharSet :=
  (lowercase.diff graphemeExtend).diff (.ofRows ["10D0-10FA 10FD-10FF"])

def sentenceUpper : CharSet :=
  (uppercase.union (categories ["Lt"])).diff (.ofRows ["1C90-1CBA 1CBD-1CBF"])

def otherLetter : CharSet :=
  (alphabetic.diff (.unionAll [sentenceLower, sentenceUpper, sentenceExtend])).union
    (.ofRows ["5F3"])

def sentenceClose : CharSet :=
  (.unionAll [categories ["Pe", "Pf", "Pi", "Ps"], quotationMark,
    .ofRows [
      "275B-2760 2E00-2E01 2E06-2E08 2E0B 1F676-1F678"]] : CharSet).diff (.ofRows ["FF02 FF07"])

def sentenceClasses : List BreakClass := [
  ⟨["aterm", "at"], ambiguousStop⟩,
  ⟨["close", "cl"], sentenceClose⟩,
  ⟨["cr"], .ofRows ["D"]⟩,
  ⟨["extend", "ex"], sentenceExtend⟩,
  ⟨["format", "fo"], wordFormat.union (.ofRows ["70F 200B"]) |>.diff (.ofRows ["200D"])⟩,
  ⟨["lf"], .ofRows ["A"]⟩,
  ⟨["lower", "lo"], sentenceLower⟩,
  ⟨["numeric", "nu"], wordNumeric.union (.ofRows ["66C"])⟩,
  ⟨["oletter", "le"], otherLetter⟩,
  ⟨["scontinue", "sc"], .ofRows [
    "2C-2D 3A-3B 37E 55D 60C-60D 7F8 1802 1808 2013-2014 3001 FE10-FE11 FE13-FE14 FE31-FE32",
    "FE50-FE51 FE54-FE55 FE58 FE63 FF0C-FF0D FF1A-FF1B FF64"]⟩,
  ⟨["sep", "se"], .ofRows ["85 2028-2029"]⟩,
  ⟨["sp"], whiteSpace.diff (.ofRows ["A D 85 2028-2029"])⟩,
  ⟨["sterm", "st"], sentenceTerminal.diff ambiguousStop⟩,
  ⟨["upper", "up"], sentenceUpper⟩]

/-- The members of the class with a name. -/
def breakClass? (classes : List BreakClass) (name : String) : Option CharSet :=
  (classes.find? (·.names.contains name)).map (·.members)

end DeclWeave.Unicode
