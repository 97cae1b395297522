/-
# The usual host

Dates are written as in `Calendar.Reader`, and a pattern may have as many groups open at once as the
usual stack is deep.  The printable characters of ASCII have names: a letter is called by its
capital, as in `LATIN SMALL LETTER A`, and the others have names of their own; names are read in any
case.
-/

import CommandGrammar.Calendar.Reader
import CommandGrammar.Host

namespace CommandGrammar
namespace Host

open Pattern Text

/-- The characters that are no letters, with their names. -/
def characterNames : List (String × Char) := [
  ("SPACE", ' '), ("EXCLAMATION MARK", '!'), ("QUOTATION MARK", '"'), ("NUMBER SIGN", '#'),
  ("DOLLAR SIGN", '$'), ("PERCENT SIGN", '%'), ("AMPERSAND", '&'), ("APOSTROPHE", '\''),
  ("LEFT PARENTHESIS", '('), ("RIGHT PARENTHESIS", ')'), ("ASTERISK", '*'), ("PLUS SIGN", '+'),
  ("COMMA", ','), ("HYPHEN-MINUS", '-'), ("FULL STOP", '.'), ("SOLIDUS", '/'),
  ("DIGIT ZERO", '0'), ("DIGIT ONE", '1'), ("DIGIT TWO", '2'), ("DIGIT THREE", '3'),
  ("DIGIT FOUR", '4'), ("DIGIT FIVE", '5'), ("DIGIT SIX", '6'), ("DIGIT SEVEN", '7'),
  ("DIGIT EIGHT", '8'), ("DIGIT NINE", '9'), ("COLON", ':'), ("SEMICOLON", ';'),
  ("LESS-THAN SIGN", '<'), ("EQUALS SIGN", '='), ("GREATER-THAN SIGN", '>'),
  ("QUESTION MARK", '?'), ("COMMERCIAL AT", '@'), ("LEFT SQUARE BRACKET", '['),
  ("REVERSE SOLIDUS", '\\'), ("RIGHT SQUARE BRACKET", ']'), ("CIRCUMFLEX ACCENT", '^'),
  ("LOW LINE", '_'), ("GRAVE ACCENT", '`'), ("LEFT CURLY BRACKET", '\x7b'),
  ("VERTICAL LINE", '|'), ("RIGHT CURLY BRACKET", '\x7d'), ("TILDE", '~')]

/-- The letter that a name ends in, if one letter follows the beginning of the name. -/
def letterBehind? (start name : String) : Option Char :=
  if beginsWith start name then
    match (dropped start.length name).toList with
    | [c] => if c.isAlpha then some c else none
    | _ => none
  else none

/-- The character that goes by a name. -/
def characterNamed? (name : String) : Option Char :=
  let name := name.toLower
  match letterBehind? "latin small letter " name, letterBehind? "latin capital letter " name with
  | some c, _ => some c
  | none, some c => some c.toUpper
  | none, none => (characterNames.find? fun e => e.1.toLower == name).map Prod.snd

/-- The most groups that are open at once in pieces, in front of which so many are open. -/
def nesting : Nat → List Piece → Nat
  | n, [] => n
  | n, .plain '(' :: rest => nesting (n + 1) rest
  | 0, .plain ')' :: _ => 0
  | n + 1, .plain ')' :: rest => max (n + 1) (nesting n rest)
  | n, _ :: rest => nesting n rest

/-- **Without an opening parenthesis nothing is nested.** -/
theorem nesting_of_not_mem {ps : List Piece} (h : .plain '(' ∉ ps) : nesting 0 ps = 0 := by
  induction ps with
  | nil => rfl
  | cons p ps ih =>
    rw [List.mem_cons, not_or] at h
    unfold nesting
    split
    · rfl
    · rename_i heq
      cases heq
      exact absurd rfl h.1
    · rfl
    · contradiction
    · rename_i heq _ _
      cases heq
      exact ih h.2

/-- How many groups may be open at once. -/
def depth : Nat := 480

/-- The usual host. -/
def usual : Host where
  date? := Calendar.read?
  named? := characterNamed?
  bears s := nesting 0 (pieces s.toList) ≤ depth
  bears_of_isFlat s h := by
    rw [nesting_of_not_mem h]
    rfl

end Host
end CommandGrammar
