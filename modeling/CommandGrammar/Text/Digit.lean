/-
# Digits

A decimal digit is a character of general category `Nd`.  Such characters come in runs of ten
whose values are `0` to `9` in order, so a table of the runs gives both the class and the value
(`digitValue?`).  The wider class `isDigit` also holds superscripts, subscripts and circled digits,
which no number may be written with.
-/

import CommandGrammar.Text.Table

namespace CommandGrammar
namespace Text

/-- The runs of decimal digits; the length of each is a multiple of ten. -/
def decimalDigits : Intervals :=
  [(0x30, 0x39), (0x660, 0x669), (0x6F0, 0x6F9), (0x7C0, 0x7C9), (0x966, 0x96F), (0x9E6, 0x9EF),
    (0xA66, 0xA6F), (0xAE6, 0xAEF), (0xB66, 0xB6F), (0xBE6, 0xBEF), (0xC66, 0xC6F),
    (0xCE6, 0xCEF), (0xD66, 0xD6F), (0xDE6, 0xDEF), (0xE50, 0xE59), (0xED0, 0xED9),
    (0xF20, 0xF29), (0x1040, 0x1049), (0x1090, 0x1099), (0x17E0, 0x17E9), (0x1810, 0x1819),
    (0x1946, 0x194F), (0x19D0, 0x19D9), (0x1A80, 0x1A89), (0x1A90, 0x1A99), (0x1B50, 0x1B59),
    (0x1BB0, 0x1BB9), (0x1C40, 0x1C49), (0x1C50, 0x1C59), (0xA620, 0xA629), (0xA8D0, 0xA8D9),
    (0xA900, 0xA909), (0xA9D0, 0xA9D9), (0xA9F0, 0xA9F9), (0xAA50, 0xAA59), (0xABF0, 0xABF9),
    (0xFF10, 0xFF19), (0x104A0, 0x104A9), (0x10D30, 0x10D39), (0x11066, 0x1106F),
    (0x110F0, 0x110F9), (0x11136, 0x1113F), (0x111D0, 0x111D9), (0x112F0, 0x112F9),
    (0x11450, 0x11459), (0x114D0, 0x114D9), (0x11650, 0x11659), (0x116C0, 0x116C9),
    (0x11730, 0x11739), (0x118E0, 0x118E9), (0x11950, 0x11959), (0x11C50, 0x11C59),
    (0x11D50, 0x11D59), (0x11DA0, 0x11DA9), (0x16A60, 0x16A69), (0x16AC0, 0x16AC9),
    (0x16B50, 0x16B59), (0x1D7CE, 0x1D7FF), (0x1E140, 0x1E149), (0x1E2F0, 0x1E2F9),
    (0x1E950, 0x1E959), (0x1FBF0, 0x1FBF9)]

/-- Digits that are not decimal digits: superscripts, subscripts, circled digits. -/
def otherDigits : Intervals :=
  [(0xB2, 0xB3), (0xB9, 0xB9), (0x1369, 0x1371), (0x19DA, 0x19DA), (0x2070, 0x2070),
    (0x2074, 0x2079), (0x2080, 0x2089), (0x2460, 0x2468), (0x2474, 0x247C), (0x2488, 0x2490),
    (0x24EA, 0x24EA), (0x24F5, 0x24FD), (0x24FF, 0x24FF), (0x2776, 0x277E), (0x2780, 0x2788),
    (0x278A, 0x2792), (0x10A40, 0x10A43), (0x10E60, 0x10E68), (0x11052, 0x1105A),
    (0x1F100, 0x1F10A)]

/-- The value of a code point as a decimal digit. -/
def digitValueIn : Intervals → Nat → Option Nat
  | [], _ => none
  | (a, b) :: rest, n =>
    if n < a then none else if n ≤ b then some ((n - a) % 10) else digitValueIn rest n

/-- The value of a decimal digit; `none` for every other character. -/
def digitValue? (c : Char) : Option Nat := digitValueIn decimalDigits c.toNat

/-- **A digit is worth less than ten.** -/
theorem digitValueIn_lt {t : Intervals} {n d : Nat} (h : digitValueIn t n = some d) : d < 10 := by
  induction t with
  | nil => simp [digitValueIn] at h
  | cons i rest ih =>
    obtain ⟨a, b⟩ := i
    unfold digitValueIn at h
    split at h
    · simp at h
    · split at h
      · simp only [Option.some.injEq] at h; omega
      · exact ih h

/-- Whether a character is a decimal digit of some script. -/
def isDecimalDigit (c : Char) : Bool := (digitValue? c).isSome

/-- Whether a character is a digit in the wide sense. -/
def isDigit (c : Char) : Bool := isDecimalDigit c || otherDigits.has c.toNat

end Text
end CommandGrammar
