/-
# Reading numerals

The numerals that a person may type, over the decimal digits of any script:

| numeral | grammar |
| --- | --- |
| digits | `digit ('_'? digit)*` |
| integer | `[+-]? digits` |
| decimal | `[+-]? (digits ('.' digits?)? / '.' digits) ([eE] [+-]? digits)?` |
| no number, or none that ends | `[+-]? (inf / infinity / nan)`, in any case |

White space around a numeral is skipped.  The information separators `U+001C` to `U+001F` are blank
everywhere else but do not stand around a numeral.  An integer has at most `maxDigits` digits,
leading zeros counted.
-/

import CommandGrammar.Text.Blank
import CommandGrammar.Text.Digit

namespace CommandGrammar
namespace Numeral

open Text

/-- White space that may stand around a numeral. -/
def isPadding (c : Char) : Bool := isBlank c && !(0x1C ≤ c.toNat && c.toNat ≤ 0x1F)

/-- **Padding is blank.** -/
theorem isBlank_of_isPadding {c : Char} (h : isPadding c = true) : isBlank c = true := by
  simp only [isPadding, Bool.and_eq_true] at h
  exact h.1

/-- A text without the padding around it. -/
def unpad (cs : List Char) : List Char :=
  ((cs.dropWhile isPadding).reverse.dropWhile isPadding).reverse

/-- The digits that go on after a digit, and what follows them. -/
def moreDigits : List Char → List Nat × List Char
  | [] => ([], [])
  | '_' :: c :: rest =>
    match digitValue? c with
    | some d => (d :: (moreDigits rest).1, (moreDigits rest).2)
    | none => ([], '_' :: c :: rest)
  | c :: rest =>
    match digitValue? c with
    | some d => (d :: (moreDigits rest).1, (moreDigits rest).2)
    | none => ([], c :: rest)

/-- The digits a text begins with, and what follows them. -/
def digits : List Char → List Nat × List Char
  | [] => ([], [])
  | c :: rest =>
    match digitValue? c with
    | some d => (d :: (moreDigits rest).1, (moreDigits rest).2)
    | none => ([], c :: rest)

/-- The number that a list of digits writes, most significant first. -/
def ofDigits (ds : List Nat) : Nat := ds.foldl (fun n d => 10 * n + d) 0

/-- **A digit after the others is the last decimal place.** -/
theorem ofDigits_append_singleton (ds : List Nat) (d : Nat) :
    ofDigits (ds ++ [d]) = 10 * ofDigits ds + d := by
  simp [ofDigits]

/-- The sign a text begins with (`true` for a minus), and what follows it. -/
def sign : List Char → Bool × List Char
  | '-' :: rest => (true, rest)
  | '+' :: rest => (false, rest)
  | cs => (false, cs)

/-- How many digits an integer may have. -/
def maxDigits : Nat := 4300

/-- Why a text is not an integer. -/
inductive IntegerFault
  /-- The text is not an integer numeral. -/
  | malformed
  /-- The numeral has this many digits, more than `maxDigits`. -/
  | tooLong (count : Nat)
  deriving DecidableEq, Repr

/-- The integer that a text writes. -/
def readInteger (s : String) : Except IntegerFault Int :=
  let (negative, body) := sign (unpad s.toList)
  match digits body with
  | ([], _) => .error .malformed
  | (ds, []) =>
    if ds.length > maxDigits then .error (.tooLong ds.length)
    else .ok (if negative then -(ofDigits ds : Int) else ofDigits ds)
  | _ => .error .malformed

/-- A decimal numeral before rounding. -/
inductive Decimal
  /-- `± coefficient · 10 ^ exponent`, the coefficient written with the given digits. -/
  | finite (negative : Bool) (coefficient : List Nat) (exponent : Int)
  /-- `± inf`. -/
  | infinite (negative : Bool)
  /-- `nan`. -/
  | notANumber
  deriving DecidableEq, Repr

/-- The exponent a text ends with; a text that is not one has no reading. -/
def readExponent : List Char → Option Int
  | [] => some 0
  | c :: rest =>
    if c = 'e' ∨ c = 'E' then
      match digits (sign rest).2 with
      | ([], _) => none
      | (ds, []) => some (if (sign rest).1 then -(ofDigits ds : Int) else ofDigits ds)
      | _ => none
    else none

/-- The lowercase of an ASCII letter. -/
def lowerAscii (c : Char) : Char := c.toLower

/-- The decimal numeral that a text is. -/
def readDecimal (s : String) : Option Decimal :=
  let (negative, body) := sign (unpad s.toList)
  let word := String.ofList (body.map lowerAscii)
  if word = "inf" ∨ word = "infinity" then some (.infinite negative)
  else if word = "nan" then some .notANumber
  else
    let (whole, afterWhole) := digits body
    let (places, afterPlaces) :=
      match afterWhole with
      | '.' :: rest => digits rest
      | rest => ([], rest)
    if whole = [] ∧ places = [] then none
    else (readExponent afterPlaces).map fun e =>
      .finite negative (whole ++ places) (e - places.length)

end Numeral
end CommandGrammar
