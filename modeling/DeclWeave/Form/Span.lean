/-!
# Positions and Spans

A `Pos` is a place between two characters of a source text, known by its byte offset in UTF-8
and by its line and column, both counted from one. A `Span` is a stretch of text: the offsets of
its ends and the line and column of its start.
-/

namespace DeclWeave

/-- A place in a source text. -/
structure Pos where
  offset : Nat
  line : Nat
  column : Nat
  deriving DecidableEq, Repr, Inhabited

namespace Pos

/-- The start of every text. -/
def start : Pos := ⟨0, 1, 1⟩

/-- The place after one more character. -/
def after (p : Pos) (c : Char) : Pos :=
  if c = '\n' then ⟨p.offset + c.utf8Size, p.line + 1, 1⟩
  else ⟨p.offset + c.utf8Size, p.line, p.column + 1⟩

/-- The place after some more characters. -/
def afterAll (p : Pos) (cs : List Char) : Pos :=
  cs.foldl after p

@[simp] theorem afterAll_nil (p : Pos) : p.afterAll [] = p := rfl

@[simp] theorem afterAll_cons (p : Pos) (c : Char) (cs : List Char) :
    p.afterAll (c :: cs) = (p.after c).afterAll cs := rfl

theorem afterAll_append (p : Pos) (cs ds : List Char) :
    p.afterAll (cs ++ ds) = (p.afterAll cs).afterAll ds :=
  List.foldl_append

end Pos

/-- A stretch of source text. -/
structure Span where
  start : Nat := 0
  stop : Nat := 0
  line : Nat := 0
  column : Nat := 0
  deriving DecidableEq, Repr, Inhabited

namespace Span

/-- The stretch from one place to another. -/
def between (first last : Pos) : Span :=
  ⟨first.offset, last.offset, first.line, first.column⟩

/-- The empty stretch at the start of every text. -/
def atStart : Span := ⟨0, 0, 1, 1⟩

/-- The stretch from the start of `s` to the end of `t`. -/
def cover (s t : Span) : Span :=
  { s with stop := t.stop }

/-- The number of bytes in the stretch. -/
def length (s : Span) : Nat :=
  s.stop - s.start

def isEmpty (s : Span) : Bool :=
  s.start == s.stop

/-- The characters of a text between two byte offsets that fall between characters. -/
def cut (first last : Nat) : List Char → List Char
  | [] => []
  | c :: cs =>
    if last = 0 then []
    else if first = 0 then c :: cut 0 (last - c.utf8Size) cs
    else cut (first - c.utf8Size) (last - c.utf8Size) cs

/-- The text that a span covers. -/
def text (s : Span) (source : String) : String :=
  String.ofList (cut s.start s.stop source.toList)

end Span

end DeclWeave
