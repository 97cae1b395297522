/-
# Quoted texts

A text between quotes, so that every character can be told: a character that is not printable, a
backslash and the quote itself are escaped.  The quote is `'`, or `"` for a text that holds a `'`
and no `"`.

| character | written |
| --- | --- |
| backslash, the quote | backslash and the character |
| tab, line feed, carriage return | `\t`, `\n`, `\r` |
| not printable, below `U+0100` | `\xhh` |
| not printable, below `U+10000` | `\uhhhh` |
| not printable, above | `\Uhhhhhhhh` |
-/

import CommandGrammar.Text.Parts
import CommandGrammar.Text.Printable

namespace CommandGrammar
namespace Text

/-- A number in lowercase hexadecimal with at least `width` digits. -/
def hex (width n : Nat) : List Char :=
  let ds := Nat.toDigits 16 n
  List.replicate (width - ds.length) '0' ++ ds

/-- One character of a quoted text, between the quotes `q`. -/
def quoteChar (q c : Char) : List Char :=
  if c = '\\' ∨ c = q then ['\\', c]
  else if c = '\t' then ['\\', 't']
  else if c = '\n' then ['\\', 'n']
  else if c = '\r' then ['\\', 'r']
  else if isPrintable c then [c]
  else if c.toNat < 0x100 then ['\\', 'x'] ++ hex 2 c.toNat
  else if c.toNat < 0x10000 then ['\\', 'u'] ++ hex 4 c.toNat
  else ['\\', 'U'] ++ hex 8 c.toNat

/-- The quote that a text is put between. -/
def quoteFor (cs : List Char) : Char :=
  if cs.contains '\x27' && !cs.contains '\x22' then '\x22' else '\x27'

/-- A text between quotes. -/
def quoted (s : String) : String :=
  let q := quoteFor s.toList
  String.ofList (q :: s.toList.flatMap (quoteChar q) ++ [q])

/-- **A quote inside the text is always escaped.** -/
theorem quoteChar_self (q : Char) : quoteChar q q = ['\\', q] := by
  simp [quoteChar]

end Text
end CommandGrammar
