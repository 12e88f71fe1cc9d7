import DeclWeave.Pattern.Search

/-!
# Globs

In a glob `*` stands for any run of characters, `?` for any one character, and everything else
for itself. Neither wildcard stands for a line feed. A glob matches a name as a whole.

A match is looked for from the end of the glob: for every rest of it, a row says at which places
of the text it matches all that follows. So a glob with many stars takes no longer than any other
of its length.
-/

namespace DeclWeave.Glob

/-- Whether a character of a glob that is no star admits a character. -/
def admits (p c : Char) : Bool :=
  if p = '?' then c != '\n' else c == p

/-- The row of an empty glob, which matches at the end of a text only. -/
def emptyRow (text : List Char) : List Bool :=
  text.map (fun _ => false) ++ [true]

/-- The row of a glob that begins with a star, given the row of its rest. -/
def starRow : List Char → List Bool → List Bool
  | c :: cs, r :: rest =>
    let later := starRow cs rest
    (r || (c != '\n' && later.headD false)) :: later
  | _, rest => rest

/-- The row of a glob that begins with another character, given the row of its rest. -/
def charRow (p : Char) : List Char → List Bool → List Bool
  | c :: cs, _ :: rest => (admits p c && rest.headD false) :: charRow p cs rest
  | _, _ => [false]

/-- For every place of a text, the first first, whether the glob matches all that follows. -/
def row (text : List Char) : List Char → List Bool
  | [] => emptyRow text
  | p :: ps => if p = '*' then starRow text (row text ps) else charRow p text (row text ps)

/-- Whether a glob matches a text. -/
def isMatch (glob text : List Char) : Bool :=
  (row text glob).headD false

/-! ### Size -/

/-- What one character of a glob stands for. -/
def part (c : Char) : Pattern :=
  let any : Pattern := .set (Text.CharSet.single '\n').complement
  if c = '*' then any.repeated 0 none true
  else if c = '?' then any
  else .literal [c]

/-- The pattern that a glob amounts to. -/
def pattern (glob : List Char) : Pattern :=
  .sequence (.assertion .textStart :: glob.map part ++ [.assertion .textEnd])

/-- No character of a glob weighs more than the limit for automata allows for each of four
thousand. -/
def lengthThatFits : Nat := 4096

/-- Whether a glob is small enough to be compiled. -/
def fits (glob : List Char) : Bool :=
  glob.length ≤ lengthThatFits || (pattern glob).compile?.isSome

end DeclWeave.Glob
