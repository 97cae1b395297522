/-
# The notation of records

Plain data in one line, for machines: how the records of a log are written, and how they are read
again.  A character outside the first plane may be written as two escaped units; a unit that is no
character stands for `U+FFFD`.

| written | datum |
| --- | --- |
| `null`, `true`, `false` | nothing, truth values |
| digits with a sign, no more | integer |
| any other number | real |
| `"` … `"` | text |
| `[` … `]` | list |
| keys with `:` between braces | mapping, in order |
-/

import CommandGrammar.Datum
import CommandGrammar.Text.Hex

namespace CommandGrammar
namespace Document
namespace Json

open Text

/-! ## Reading -/

/-- The blanks between the parts. -/
def isSpace (c : Char) : Bool := c == ' ' || c == '\t' || c == '\n' || c == '\r'

/-- What follows the blanks. -/
def skip (cs : List Char) : List Char := cs.dropWhile isSpace

/-- The characters that have an escape of one letter. -/
def shortEscapes : List (Char × Char) :=
  [('n', '\n'), ('t', '\t'), ('r', '\r'), ('b', '\x08'), ('f', '\x0c'), ('/', '/'), ('\\', '\\'),
    ('\x22', '\x22')]

/-- The units of a text up to its closing quote, and what follows it. -/
def units : List Char → Option (List Nat × List Char)
  | [] => none
  | '\x22' :: rest => some ([], rest)
  | '\\' :: 'u' :: a :: b :: c :: d :: rest => do
    let n ← hexNumber? [a, b, c, d]
    let (us, rest) ← units rest
    return (n :: us, rest)
  | '\\' :: e :: rest => do
    let c ← shortEscapes.lookup e
    let (us, rest) ← units rest
    return (c.toNat :: us, rest)
  | c :: rest => do
    let (us, rest) ← units rest
    return (c.toNat :: us, rest)

/-- The character that a unit is. -/
def unitChar (n : Nat) : Char := if n.isValidChar then Char.ofNat n else Char.ofNat 0xFFFD

/-- The characters that units stand for, two units of a pair for one. -/
def ofUnits : List Nat → List Char
  | [] => []
  | [n] => [unitChar n]
  | m :: n :: rest =>
    if 0xD800 ≤ m ∧ m < 0xDC00 ∧ 0xDC00 ≤ n ∧ n < 0xE000 then
      unitChar (0x10000 + (m - 0xD800) * 0x400 + (n - 0xDC00)) :: ofUnits rest
    else unitChar m :: ofUnits (n :: rest)

/-- The text up to its closing quote, and what follows it. -/
def text (cs : List Char) : Option (String × List Char) :=
  (units cs).map fun r => (String.ofList (ofUnits r.1), r.2)

/-- The characters of words and numbers. -/
def isWordChar (c : Char) : Bool := c.isAlphanum || c == '-' || c == '+' || c == '.'

/-- What a word or a number stands for. -/
def ofWord? (w : String) : Option Datum :=
  if w = "null" then some .nothing
  else if w = "true" then some (.truth true)
  else if w = "false" then some (.truth false)
  else
    match w.toInt? with
    | some n => some (.integer n)
    | none => (Binary64.read? w).map .real

mutual

/-- The datum that a text begins with, and what follows it; nested less deeply than the number. -/
def datum : Nat → List Char → Option (Datum × List Char)
  | 0, _ => none
  | n + 1, cs =>
    match skip cs with
    | '\x22' :: rest => do
      let (s, rest) ← text rest
      return (.text s, rest)
    | '[' :: rest =>
      match skip rest with
      | ']' :: rest => some (.list [], rest)
      | rest => do
        let (ds, rest) ← items n rest
        return (.list ds, rest)
    | '\x7b' :: rest =>
      match skip rest with
      | '\x7d' :: rest => some (.mapping [], rest)
      | rest => do
        let (es, rest) ← entries n rest
        return (.mapping es, rest)
    | rest => do
      let d ← ofWord? (String.ofList (rest.takeWhile isWordChar))
      return (d, rest.dropWhile isWordChar)

/-- The items up to the closing bracket. -/
def items : Nat → List Char → Option (List Datum × List Char)
  | 0, _ => none
  | n + 1, cs => do
    let (d, rest) ← datum n cs
    match skip rest with
    | ',' :: rest =>
      let (ds, rest) ← items n rest
      return (d :: ds, rest)
    | ']' :: rest => return ([d], rest)
    | _ => none

/-- The keys with what stands under them up to the closing brace. -/
def entries : Nat → List Char → Option (List (Datum × Datum) × List Char)
  | 0, _ => none
  | n + 1, cs => do
    let (k, rest) ← datum n cs
    match skip rest with
    | ':' :: rest =>
      let (d, rest) ← datum n rest
      match skip rest with
      | ',' :: rest =>
        let (es, rest) ← entries n rest
        return ((k, d) :: es, rest)
      | '\x7d' :: rest => return ([(k, d)], rest)
      | _ => none
    | _ => none

end

/-- The datum that a text writes. -/
def read? (s : String) : Option Datum := do
  let cs := s.toList
  let (d, rest) ← datum (cs.length + 1) cs
  if (skip rest).isEmpty then some d else none

/-! ## Writing -/

/-- A character between quotes. -/
def escaped (c : Char) : List Char :=
  if c = '\x22' ∨ c = '\\' then ['\\', c]
  else if c.toNat < 0x20 ∨ c.toNat = 0x7F then '\\' :: 'u' :: hex 4 c.toNat
  else [c]

/-- A text between quotes. -/
def quoted (s : String) : String :=
  String.ofList ('\x22' :: s.toList.flatMap escaped ++ ['\x22'])

mutual

/-- A datum in one line. -/
def write : Datum → String
  | .nothing => "null"
  | .truth b => if b then "true" else "false"
  | .integer n => toString n
  | .real x => x.text
  | .text s => quoted s
  | .other _ shown => quoted shown
  | .list ds => "[" ++ joined ", " (writeAll ds) ++ "]"
  | .mapping es => "\x7b" ++ joined ", " (writeEntries es) ++ "\x7d"

/-- Data, each in one line. -/
def writeAll : List Datum → List String
  | [] => []
  | d :: ds => write d :: writeAll ds

/-- Keys with what stands under them. -/
def writeEntries : List (Datum × Datum) → List String
  | [] => []
  | (k, d) :: es => (write k ++ ": " ++ write d) :: writeEntries es

end

/-- **A character below the surrogates is the unit of its own.** -/
theorem unitChar_toNat (c : Char) : unitChar c.toNat = c := by
  have h : c.toNat.isValidChar := c.valid
  simp [unitChar, h, Char.ofNat_toNat]

end Json
end Document
end CommandGrammar
