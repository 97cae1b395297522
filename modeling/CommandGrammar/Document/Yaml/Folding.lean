/-
# Folded lines

A scalar may go over several lines.  A line break inside it is a space, unless empty lines follow:
then there is one line feed for each of them.  The blanks around a break are not part of the scalar.

| text | folds to |
| --- | --- |
| blanks without a break | themselves |
| blanks with one break | a space |
| blanks with more breaks | a line feed for every break after the first |

The line and paragraph separators are breaks that are kept, the next-line character is a line feed.
-/

import CommandGrammar.Document.Stamp
import CommandGrammar.Text.Hex

namespace CommandGrammar
namespace Document
namespace Yaml

open Stamp

/-- Whether a character ends a line. -/
def isBreak (c : Char) : Bool :=
  c == '\n' || c == '\x85' || c == '\u2028' || c == '\u2029'

/-- Whether nothing that can belong to a word begins a text. -/
def atGap : List Char → Bool
  | [] => true
  | c :: _ => isBreak c || isLineBlank c

/-- A line break in a scalar. -/
def breakChar (c : Char) : Char := if c == '\x85' then '\n' else c

/-- The breaks of a text, as they stand in a scalar. -/
def breaksOf (run : List Char) : List Char := (run.filter isBreak).map breakChar

/-- What a run of blanks and breaks inside a scalar folds to. -/
def foldRun (run : List Char) : List Char :=
  match breaksOf run with
  | [] => run
  | '\n' :: [] => [' ']
  | '\n' :: more => more
  | kept => kept

/-- **A run within a line is kept.** -/
theorem foldRun_of_blanks {run : List Char} (h : ∀ c ∈ run, isBreak c = false) :
    foldRun run = run := by
  have : breaksOf run = [] := by
    simp only [breaksOf, List.map_eq_nil_iff, List.filter_eq_nil_iff, Bool.not_eq_true]
    exact h
  simp [foldRun, this]

/-- Whether a text begins with a mark between documents: three dashes or three dots, then a gap. -/
def startsMark : List Char → Bool
  | '-' :: '-' :: '-' :: rest => atGap rest
  | '.' :: '.' :: '.' :: rest => atGap rest
  | _ => false

/-! ## Between quotes -/

/-- A part of a quoted scalar. -/
inductive Piece
  /-- A character that stands for itself, unless it is folded. -/
  | plain (c : Char)
  /-- A character that an escape stands for. -/
  | fixed (c : Char)
  /-- An escaped line break: the lines are joined. -/
  | joint
  deriving DecidableEq, Repr

/-- The pieces before those of the rest. -/
def withPieces (ps : List Piece) (r : Option (List Piece × List Char)) :
    Option (List Piece × List Char) :=
  r.map fun x => (ps ++ x.1, x.2)

/-- The pieces of a scalar between single quotes, and what follows the closing one. -/
def singleQuoted : List Char → Option (List Piece × List Char)
  | [] => none
  | '\x27' :: '\x27' :: rest => withPieces [.fixed '\x27'] (singleQuoted rest)
  | '\x27' :: rest => some ([], rest)
  | c :: rest =>
    if isBreak c && startsMark rest then none
    else withPieces [.plain c] (singleQuoted rest)

/-- The characters that have an escape of one letter. -/
def letterEscapes : List (Char × Char) :=
  [('0', '\x00'), ('a', '\x07'), ('b', '\x08'), ('t', '\t'), ('\t', '\t'), ('n', '\n'),
    ('v', '\x0b'), ('f', '\x0c'), ('r', '\r'), ('e', '\x1b'), (' ', ' '), ('\x22', '\x22'),
    ('\\', '\\'), ('/', '/'), ('N', '\x85'), ('_', '\u00a0'), ('L', '\u2028'), ('P', '\u2029')]

/-- The character with a hexadecimal code. -/
def coded? (digits : List Char) : Option Piece := do
  let n ← Text.hexNumber? digits
  if n.isValidChar then some (.fixed (Char.ofNat n)) else none

/-- The pieces of a scalar between double quotes, and what follows the closing one. -/
def doubleQuoted : List Char → Option (List Piece × List Char)
  | [] => none
  | '\x22' :: rest => some ([], rest)
  | '\\' :: 'x' :: a :: b :: rest => do
    let p ← coded? [a, b]
    withPieces [p] (doubleQuoted rest)
  | '\\' :: 'u' :: a :: b :: c :: d :: rest => do
    let p ← coded? [a, b, c, d]
    withPieces [p] (doubleQuoted rest)
  | '\\' :: 'U' :: a :: b :: c :: d :: e :: f :: g :: h :: rest => do
    let p ← coded? [a, b, c, d, e, f, g, h]
    withPieces [p] (doubleQuoted rest)
  | '\\' :: c :: rest =>
    if isBreak c then
      if startsMark rest then none else withPieces [.joint] (doubleQuoted rest)
    else do
      let e ← letterEscapes.lookup c
      withPieces [.fixed e] (doubleQuoted rest)
  | c :: rest =>
    if isBreak c && startsMark rest then none
    else withPieces [.plain c] (doubleQuoted rest)

/-- What a run folds to, after an escaped break or not. -/
def foldAfter (joined : Bool) (run : List Char) : List Char :=
  if joined then breaksOf run else foldRun run

/-- The text of pieces: `run` are the blanks and breaks just before, the last one first. -/
def foldPieces (joined : Bool) (run : List Char) : List Piece → List Char
  | [] => foldAfter joined run.reverse
  | .plain c :: ps =>
    if isBreak c || isLineBlank c then foldPieces joined (c :: run) ps
    else foldAfter joined run.reverse ++ c :: foldPieces false [] ps
  | .fixed c :: ps => foldAfter joined run.reverse ++ c :: foldPieces false [] ps
  | .joint :: ps => foldAfter joined run.reverse ++ foldPieces true [] ps

/-- The text of a quoted scalar. -/
def ofPieces (ps : List Piece) : String := String.ofList (foldPieces false [] ps)

end Yaml
end Document
end CommandGrammar
