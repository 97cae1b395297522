/-
# Patterns

The syntax of regular expressions, as a tree.  A pattern is matched from the start of a text and may
leave a rest; alternatives are tried from left to right, loops are greedy, lazy or possessive, and a
capture is kept for later references.

| node | written | matches |
| --- | --- | --- |
| `unit` | `a`, `.`, `[a-z]`, `\d` | one character |
| `anchor` | `^`, `$`, `\b`, … | nothing, at certain places |
| `seq`, `alt` | `xy`, `x|y` | one after the other, one or the other |
| `capture` | `(x)` | `x`, remembered |
| `loop` | `x*`, `x{2,5}?`, `x++` | `x` several times |
| `atomic` | `(?>x)` | the first way to match `x` only |
| `look` | `(?=x)`, `(?<!x)` | nothing, where `x` does or does not stand |
| `reference` | `\1` | what the group matched |
| `conditional` | `(?(1)x|y)` | `x` if the group has matched, else `y` |
-/

import CommandGrammar.Pattern.Folding
import CommandGrammar.Text.Blank
import CommandGrammar.Text.Digit
import CommandGrammar.Text.Word

namespace CommandGrammar
namespace Pattern

open Text

/-- The classes of characters that have an escape. -/
inductive Category
  | digit
  | blank
  | word
  deriving DecidableEq, Repr

/-- Whether a code point belongs to a class; of its ASCII part when `ascii`. -/
def Category.has (category : Category) (ascii : Bool) (n : Nat) : Bool :=
  let c := Char.ofNat n
  (!ascii || n < 128) &&
    match category with
    | .digit => isDecimalDigit c
    | .blank => if ascii then c == ' ' || (9 ≤ n && n ≤ 13) else isBlank c
    | .word => isWordChar c

/-- A part of a bracketed set. -/
inductive SetItem
  | code (n : Nat)
  | range (low high : Nat)
  | category (category : Category) (negated ascii : Bool)
  deriving DecidableEq, Repr

/-- A test of one character. -/
inductive Unit
  /-- Any character; a line feed only when `newlines`. -/
  | any (newlines : Bool)
  /-- One of, or none of, the items. -/
  | oneOf (negated : Bool) (items : List SetItem) (folding : Folding)
  deriving DecidableEq, Repr

/-- Places that match no character. -/
inductive Anchor
  /-- The start of the text, or of a line when `lines`. -/
  | start (lines : Bool)
  /-- The end of the text or before a line feed at its end; the end of a line when `lines`. -/
  | stop (lines : Bool)
  /-- The end of the text. -/
  | textEnd
  /-- A place with a word character on one side, or (`negated`) not; never in an empty text. -/
  | boundary (negated ascii : Bool)
  deriving DecidableEq, Repr

/-- In which order a loop tries its counts. -/
inductive Greed
  /-- The longest first. -/
  | greedy
  /-- The shortest first. -/
  | lazy
  /-- The longest only. -/
  | possessive
  deriving DecidableEq, Repr

/-- Patterns. -/
inductive Node
  | empty
  | unit (u : Unit)
  | anchor (a : Anchor)
  | seq (x y : Node)
  | alt (x y : Node)
  /-- A group that is not remembered. -/
  | group (x : Node)
  | capture (n : Nat) (x : Node)
  /-- `low` to `high` times; without bound when there is no `high`. -/
  | loop (greed : Greed) (low : Nat) (high : Option Nat) (x : Node)
  | atomic (x : Node)
  /-- `x` stands (`positive`) or does not stand ahead. -/
  | ahead (positive : Bool) (x : Node)
  /-- `x`, which matches exactly `width` characters, stands or does not stand behind. -/
  | behind (positive : Bool) (width : Nat) (x : Node)
  | reference (n : Nat) (folding : Folding)
  | conditional (n : Nat) (yes no : Node)
  deriving Repr

/-- The test of a code point by a set item. -/
def SetItem.has (folding : Folding) (n : Nat) : SetItem → Bool
  | .code c => folding.same c n
  | .range low high => folding.sameAsOneOf low high n
  | .category c negated ascii => c.has ascii (folding.lower n) != negated

/-- The test of a character. -/
def Unit.has (c : Char) : Unit → Bool
  | .any newlines => newlines || c != '\n'
  | .oneOf negated items folding => items.any (SetItem.has folding c.toNat) != negated

end Pattern
end CommandGrammar
