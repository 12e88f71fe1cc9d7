import DeclWeave.Decimal.Binary64

/-!
# Documents

A `Document` is a value as JSON has it. The fields of an object keep their order.
-/

namespace DeclWeave

inductive Document where
  | null
  | bool (value : Bool)
  | int (value : Int)
  | float (value : Decimal.Binary64)
  | text (value : String)
  | array (items : List Document)
  | object (fields : List (String × Document))
  deriving Repr, Inhabited

namespace Document

def nat (n : Nat) : Document :=
  .int n

/-- A value that may be missing. -/
def optional {α : Type} (f : α → Document) : Option α → Document
  | some a => f a
  | none => .null

def texts (items : List String) : Document :=
  .array (items.map .text)

/-- A value under the name of its variant. -/
def tagged (tag : String) (content : Document) : Document :=
  .object [(tag, content)]

end Document

end DeclWeave
