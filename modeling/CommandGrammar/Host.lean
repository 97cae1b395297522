/-
# Hosts

What a grammar takes from the system that it runs on: how dates are written, how characters are
called, and how deep a pattern may be nested.  Everything else about a grammar holds on every host.

| part | asked by |
| --- | --- |
| `date?` | dates and times |
| `named?` | patterns, at `\N` with a name in braces |
| `bears` | patterns, before they are read |
-/

import CommandGrammar.Calendar.Moment
import CommandGrammar.Pattern.Pieces

namespace CommandGrammar

/-- A system that grammars run on. -/
structure Host where
  /-- The moment that a text writes, as seen from a present moment. -/
  date? : Moment → String → Option Moment
  /-- The character that goes by a name. -/
  named? : String → Option Char
  /-- Whether the stack is deep enough to read a written pattern. -/
  bears : String → Bool
  /-- What opens no group is read without going deeper. -/
  bears_of_isFlat : ∀ s, Pattern.IsFlat s → bears s = true

end CommandGrammar
