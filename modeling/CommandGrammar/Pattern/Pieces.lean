/-
# The pieces of a written pattern

The text of a pattern is cut into pieces before it is read, a backslash with the character after it
being one piece.  A reader looks one piece ahead, and a backslash with nothing after it is no piece:
whoever reads the piece in front of it is stuck there.

| text | pieces |
| --- | --- |
| `a\d` | `a`, `\d` |
| `a\` | stuck at `a` |
| `ab\` | `a`, stuck at `b` |
-/

namespace CommandGrammar
namespace Pattern

/-- A piece of a written pattern. -/
inductive Piece
  | plain (c : Char)
  /-- A backslash and the character after it. -/
  | escape (c : Char)
  /-- A backslash with nothing after it. -/
  | dangling
  /-- The piece in front of a dangling backslash. -/
  | stuck
  deriving DecidableEq, Repr

/-- A piece in front of others: it cannot be read if a dangling backslash comes next. -/
def Piece.before (p : Piece) : List Piece → List Piece
  | [.dangling] => [.stuck]
  | ps => p :: ps

/-- The pieces of a text. -/
def pieces : List Char → List Piece
  | [] => []
  | ['\\'] => [.dangling]
  | '\\' :: c :: rest => (Piece.escape c).before (pieces rest)
  | c :: rest => (Piece.plain c).before (pieces rest)

/-- Whether a text opens no group: every opening parenthesis is behind a backslash. -/
def IsFlat (s : String) : Prop := Piece.plain '(' ∉ pieces s.toList

instance : DecidablePred IsFlat := fun _ => inferInstanceAs (Decidable (Piece.plain '(' ∉ _))

/-- **A piece stands in front of others as it is**, if no backslash dangles behind it. -/
theorem Piece.before_of_not_mem {p : Piece} {ps : List Piece} (h : .dangling ∉ ps) :
    p.before ps = p :: ps := by
  unfold before
  split
  · exact absurd List.mem_cons_self h
  · rfl

/-- **Any character but a backslash is a piece.** -/
theorem pieces_cons {c : Char} (hc : c ≠ '\\') (cs : List Char) :
    pieces (c :: cs) = (Piece.plain c).before (pieces cs) := by
  rw [pieces]
  · exact fun h _ => hc h
  · exact fun _ _ h _ => hc h

end Pattern
end CommandGrammar
