import DeclWeave.Unicode.Age
import DeclWeave.Unicode.Segmentation

/-!
# Properties by Name

A pattern asks for a set of characters by the name of a property: a trait, a general category or a
group of them, or a script; or by a property and one of its values. Case, blanks, hyphens and
underscores in a name do not count, nor does a leading *is*, nor any character above ASCII.
-/

namespace DeclWeave.Pattern.Property

open Text (CharSet)

/-- The small letter of a capital of ASCII. -/
def smallLetter (c : Char) : Char :=
  if c.isUpper then c.toLower else c

/-- What counts of the letters of a name. -/
def countingLetters (name : List Char) : List Char :=
  (name.filter fun c => c.toNat < 128 && c != '_' && c != '-' && c != ' ').map smallLetter

/-- A name as it is looked up. The *is* of a name that goes on with nothing but *c* counts. -/
def looseName (name : List Char) : String :=
  match name with
  | i :: s :: rest =>
    if smallLetter i == 'i' && smallLetter s == 's' then
      if countingLetters rest == ['c'] then "isc" else String.ofList (countingLetters rest)
    else String.ofList (countingLetters name)
  | _ => String.ofList (countingLetters name)

/-- The characters of a script, by its name. -/
def script? (name : String) : Option CharSet :=
  (Unicode.scriptTag? name).map Unicode.script

/-- The set with a single name. -/
def namedSet? (name : String) : Option CharSet :=
  Unicode.trait? name <|> Unicode.category? name <|> script? name

/-- The set of the characters for which a property has a value. The characters of an age are all
that its edition knows. -/
def valueSet? (property value : String) : Option CharSet :=
  match property with
  | "gc" | "generalcategory" => Unicode.category? value
  | "sc" | "script" => script? value
  | "scx" | "scriptextensions" => (Unicode.scriptTag? value).map Unicode.scriptExtension
  | "age" => Unicode.knownIn? value
  | "gcb" | "graphemeclusterbreak" => Unicode.breakClass? Unicode.graphemeClasses value
  | "wb" | "wordbreak" => Unicode.breakClass? Unicode.wordClasses value
  | "sb" | "sentencebreak" => Unicode.breakClass? Unicode.sentenceClasses value
  | _ => none

/-- What stands before and after a sign, where it occurs first. -/
def splitAt? (sign : List Char) : List Char → Option (List Char × List Char)
  | [] => none
  | c :: cs =>
    if sign.isPrefixOf (c :: cs) then some ([], (c :: cs).drop sign.length)
    else (splitAt? sign cs).map fun (name, value) => (c :: name, value)

/-- The set that a name, or a name and a value, asks for, and whether its complement is meant. -/
def set? (name : List Char) : Option (CharSet × Bool) :=
  match splitAt? ['!', '='] name with
  | some (property, value) =>
    (valueSet? (looseName property) (looseName value)).map (·, true)
  | none =>
    match splitAt? [':'] name <|> splitAt? ['='] name with
    | some (property, value) =>
      (valueSet? (looseName property) (looseName value)).map (·, false)
    | none => (namedSet? (looseName name)).map (·, false)

end DeclWeave.Pattern.Property
