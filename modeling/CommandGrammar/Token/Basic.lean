/-
# Tokens of a command line

A token is a text and the span of the line that it was read from.  Quotes and escapes make the text
shorter than its span; a token of plain characters is its span.
-/

import CommandGrammar.Problem

namespace CommandGrammar

/-- A text and the half-open span `[start, stop)` of the line that it was read from. -/
structure Token where
  /-- What the token says. -/
  text : String
  /-- The offset of its first character in the line. -/
  start : Nat
  /-- The offset after its last character in the line. -/
  stop : Nat
  deriving DecidableEq, Repr, Inhabited

/-- The texts of tokens, in order. -/
def Token.texts (ts : List Token) : List String := ts.map Token.text

end CommandGrammar
