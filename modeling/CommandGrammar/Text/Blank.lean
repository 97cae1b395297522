/-
# Blank characters

The white space that separates words: the Unicode characters of bidirectional class `WS`, `B` or
`S` and the space separators.  It is wider than the ASCII set `Char.isWhitespace` (no-break spaces,
the ideographic space, the line and paragraph separators, the four information separators), which
`isBlank_of_isWhitespace` records.
-/

import CommandGrammar.Text.Table

namespace CommandGrammar
namespace Text

/-- The blank code points. -/
def blanks : Intervals :=
  [(0x9, 0xD), (0x1C, 0x20), (0x85, 0x85), (0xA0, 0xA0), (0x1680, 0x1680), (0x2000, 0x200A),
    (0x2028, 0x2029), (0x202F, 0x202F), (0x205F, 0x205F), (0x3000, 0x3000)]

/-- Whether a character separates words. -/
def isBlank (c : Char) : Bool := blanks.has c.toNat

/-- **ASCII white space is blank.** -/
theorem isBlank_of_isWhitespace {c : Char} (h : c.isWhitespace = true) : isBlank c = true := by
  simp only [Char.isWhitespace, Bool.or_eq_true, decide_eq_true_eq] at h
  rcases h with ((rfl | rfl) | rfl) | rfl <;> decide

/-- The text without the blanks at its left end. -/
def trimLeft (cs : List Char) : List Char := cs.dropWhile isBlank

/-- The text without the blanks at either end. -/
def trim (s : String) : String :=
  String.ofList (trimLeft (trimLeft s.toList).reverse).reverse

/-- The maximal runs of non-blank characters, in order; `run` is the current one, reversed. -/
def wordsFrom (run : List Char) : List Char → List String
  | [] => if run.isEmpty then [] else [String.ofList run.reverse]
  | c :: rest =>
    if isBlank c then
      if run.isEmpty then wordsFrom [] rest else String.ofList run.reverse :: wordsFrom [] rest
    else wordsFrom (c :: run) rest

/-- The maximal runs of non-blank characters of a text, in order. -/
def words (s : String) : List String := wordsFrom [] s.toList

end Text
end CommandGrammar
