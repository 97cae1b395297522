/-
# Double precision numbers

A double is a sign and `mantissa · 2 ^ exponent` with a mantissa below `2 ^ 53`, or an infinity, or
not a number.  A positive ratio is rounded to the nearest double, a tie to the even mantissa
(`ofRatio`): the exponent is the least one, not below `-1074`, for which the quotient has at most 53
bits, and one rounded division gives the mantissa.

| part | bound |
| --- | --- |
| mantissa | `< 2 ^ 53` |
| exponent | `-1074 ≤ e ≤ 971` |
-/

import CommandGrammar.Number.Numeral

namespace CommandGrammar

/-- The quotient `n / d` rounded to the nearest integer, a tie to the even one. -/
def roundDiv (n d : Nat) : Nat :=
  if 2 * (n % d) > d ∨ (2 * (n % d) = d ∧ (n / d) % 2 = 1) then n / d + 1 else n / d

/-- **Rounding errs by at most one half.** -/
theorem roundDiv_near (n : Nat) {d : Nat} (hd : 0 < d) :
    2 * n ≤ 2 * (roundDiv n d * d) + d ∧ 2 * (roundDiv n d * d) ≤ 2 * n + d := by
  have hn := Nat.div_add_mod n d
  have hr := Nat.mod_lt n hd
  have hm : n / d * d = d * (n / d) := Nat.mul_comm _ _
  unfold roundDiv
  split
  · rw [Nat.add_mul, hm]; omega
  · rw [hm]; omega

/-- A double precision number. -/
inductive Binary64
  /-- `± mantissa · 2 ^ exponent`. -/
  | finite (negative : Bool) (mantissa : Nat) (exponent : Int)
  /-- An infinity. -/
  | infinite (negative : Bool)
  /-- Not a number. -/
  | notANumber
  deriving DecidableEq, Repr

namespace Binary64

/-- The least exponent of a double. -/
def minExponent : Int := -1074

/-- The greatest exponent of a double. -/
def maxExponent : Int := 971

/-- The denominator and numerator of `n / d / 2 ^ e`. -/
def scaled (n d : Nat) (e : Int) : Nat × Nat :=
  if e ≥ 0 then (n, d * Nat.pow 2 e.toNat) else (n * Nat.pow 2 (-e).toNat, d)

/-- The exponent of the double nearest to `n / d`: the least for which the quotient keeps to 53
bits. -/
def exponentFor (n d : Nat) : Int :=
  let e := max minExponent ((Nat.log2 n : Int) - Nat.log2 d - 53)
  let (a, b) := scaled n d e
  if a / b < Nat.pow 2 53 then e else e + 1

/-- The double nearest to `± n / d`, for a positive `d`. -/
def ofRatio (negative : Bool) (n d : Nat) : Binary64 :=
  let e := exponentFor n d
  let (a, b) := scaled n d e
  let m := roundDiv a b
  let (m, e) := if m = Nat.pow 2 53 then (Nat.pow 2 52, e + 1) else (m, e)
  if e > maxExponent then .infinite negative
  else if m = 0 then .finite negative 0 minExponent else .finite negative m e

/-- How far the decimal exponent may be from the digits' own before the number is beyond every
double. -/
def decimalReach : Int := 400

/-- The double nearest to a decimal numeral. -/
def ofDecimal : Numeral.Decimal → Binary64
  | .infinite s => .infinite s
  | .notANumber => .notANumber
  | .finite s ds e =>
    let c := Numeral.ofDigits ds
    let size : Int := (ds.dropWhile (· == 0)).length + e
    if c = 0 ∨ size < -decimalReach then .finite s 0 minExponent
    else if size > decimalReach then .infinite s
    else if e ≥ 0 then ofRatio s (c * Nat.pow 10 e.toNat) 1
    else ofRatio s c (Nat.pow 10 (-e).toNat)

/-- The double that a text writes. -/
def read? (s : String) : Option Binary64 := (Numeral.readDecimal s).map ofDecimal

/-- Whether a double is less than zero; `-0.0` is not. -/
def isNegative : Binary64 → Bool
  | .finite s m _ => s && m != 0
  | .infinite s => s
  | .notANumber => false

/-- **Zero is not negative, whatever its sign.** -/
theorem isNegative_zero (s : Bool) (e : Int) : isNegative (.finite s 0 e) = false := by
  simp [isNegative]

end Binary64
end CommandGrammar
