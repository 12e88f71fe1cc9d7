import DeclWeave.Diagnostic.Fault
import DeclWeave.Form.Basic
import DeclWeave.Form.Lexer
import DeclWeave.Text.Lines

/-!
# From Tokens to Forms

The reader goes through the tokens once, from left to right, with a stack of the brackets that
are still open. An atom joins the innermost open sequence, a closing bracket of the right kind
completes it, and a form completed with no bracket open is a form of the text.

A reading fails at the first token that no form can go on with, or at the end, on the innermost
bracket still open.
-/

namespace DeclWeave

/-- Why tokens are no forms. -/
inductive ReadCause where
  | unexpectedEnd
  | unexpectedClosing (b : Bracket)
  | unterminated (b : Bracket)
  | lexical (fault : LexicalFault)
  /-- One form was asked for, and the text has none. -/
  | missingForm
  /-- One form was asked for, and the text has more. -/
  | tooManyForms (count : Nat)
  deriving DecidableEq, Repr

namespace ReadCause

def message : ReadCause → String
  | .unexpectedEnd => "unexpected end of input"
  | .unexpectedClosing b => "unexpected " ++ (Lexeme.closing b).name
  | .unterminated b => "unterminated " ++ b.sequenceName
  | .lexical fault => fault.message
  | .missingForm => "expected a form, found end of input"
  | .tooManyForms count => s!"expected one form, found {count}"

end ReadCause

/-- A cause and the text it is about. -/
structure ReadFault where
  cause : ReadCause
  span : Span
  deriving DecidableEq, Repr

namespace ReadFault

/-- The fault to report, without the line of source. -/
def toFault (f : ReadFault) : Fault :=
  ⟨.malformed f.cause.message f.span.line f.span.column "", none⟩

/-- The fault to report, with the line of source that it is about. -/
def toFaultIn (source : String) (f : ReadFault) : Fault :=
  let line := String.ofList (Text.lineAt (f.span.line - 1) source.toList)
  ⟨.malformed f.cause.message f.span.line f.span.column line, none⟩

end ReadFault

namespace Reader

/-- An open bracket: its kind, its span and the forms read since, the last first. -/
structure Frame where
  bracket : Bracket
  span : Span
  done : List Form
  deriving Repr

/-- Hands on a completed form: to the innermost open bracket, or out. -/
def deliver (f : Form) : List Frame → List Frame × Option Form
  | [] => ([], some f)
  | top :: rest => ({ top with done := f :: top.done } :: rest, none)

/-- Takes in one token; gives the brackets now open and the form that this completed. -/
def feed (stack : List Frame) (t : Token) : Except ReadFault (List Frame × Option Form) :=
  match t.lexeme with
  | .atom a => .ok (deliver (.atom a t.span) stack)
  | .opening b => .ok (⟨b, t.span, []⟩ :: stack, none)
  | .closing b =>
    match stack with
    | top :: rest =>
      if top.bracket = b then
        .ok (deliver (.seq b top.done.reverse (top.span.cover t.span)) rest)
      else .error ⟨.unexpectedClosing b, t.span⟩
    | [] => .error ⟨.unexpectedClosing b, t.span⟩
  | .invalid fault => .error ⟨.lexical fault, t.span⟩
  | .comment _ => .ok (stack, none)
  | .endOfInput =>
    match stack with
    | top :: _ => .error ⟨.unterminated top.bracket, top.span⟩
    | [] => .ok ([], none)

/-- All forms of a token stream that ends with the end of input. -/
def readAll (stack : List Frame) : List Token → Except ReadFault (List Form)
  | [] => .ok []
  | t :: ts => do
    let (stack, completed) ← feed stack t
    let forms ← readAll stack ts
    return completed.toList ++ forms

/-- The first form of a token stream; what follows it is not looked at. -/
def readFirst (stack : List Frame) : List Token → Except ReadFault Form
  | [] => .error ⟨.unexpectedEnd, {}⟩
  | t :: ts => do
    let (stack, completed) ← feed stack t
    match completed with
    | some form => return form
    | none =>
      if t.lexeme = .endOfInput then throw ⟨.unexpectedEnd, t.span⟩ else readFirst stack ts

end Reader

namespace Form

/-- All forms of a source text. -/
def readAll (source : String) : Except Fault (List Form) :=
  (Reader.readAll [] (tokens source)).mapError (·.toFaultIn source)

/-- The first form of a source text, whatever follows it. -/
def readFirst (source : String) : Except Fault Form :=
  (Reader.readFirst [] (tokens source)).mapError (·.toFaultIn source)

/-- The only form of a source text. -/
def readOne (source : String) : Except Fault Form := do
  match ← readAll source with
  | [form] => return form
  | [] => throw (ReadFault.toFault ⟨.missingForm, .atStart⟩)
  | first :: second :: rest =>
    throw (ReadFault.toFault ⟨.tooManyForms (first :: second :: rest).length, second.span⟩)

end Form

end DeclWeave
