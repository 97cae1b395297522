/-
# Letters that differ in case only

Two characters are the same letter for a pattern when their simple lowercases are equal or belong to
one class of `kindred`: letters whose common capital is written once, as the two small sigmas or the
long `ſ` and `s`.

| pattern letter | characters |
| --- | --- |
| `k` | `k`, `K`, the Kelvin sign |
| `s` | `s`, `S`, `ſ` |
| `i` | `i`, `I`, `İ`, `ı` |

In an ASCII-only part of a pattern just the 26 ASCII letters have a case.
-/

import CommandGrammar.Text.Case

namespace CommandGrammar
namespace Pattern

open Text

/-- Lowercase letters that share a capital without being each other's lowercase. -/
def kindred : List (List Nat) :=
  [[0x69, 0x131], [0x73, 0x17F], [0xB5, 0x3BC], [0x345, 0x3B9, 0x1FBE], [0x390, 0x1FD3],
    [0x3B0, 0x1FE3], [0x3B2, 0x3D0], [0x3B5, 0x3F5], [0x3B8, 0x3D1], [0x3BA, 0x3F0],
    [0x3C0, 0x3D6], [0x3C1, 0x3F1], [0x3C2, 0x3C3], [0x3C6, 0x3D5], [0x432, 0x1C80],
    [0x434, 0x1C81], [0x43E, 0x1C82], [0x441, 0x1C83], [0x442, 0x1C84, 0x1C85],
    [0x44A, 0x1C86], [0x463, 0x1C87], [0x1C88, 0xA64B], [0x1E61, 0x1E9B], [0xFB05, 0xFB06]]

/-- The code points that count as the lowercase `n`, itself first. -/
def kin (n : Nat) : List Nat :=
  match kindred.find? (·.contains n) with
  | some ns => n :: ns.filter (· != n)
  | none => [n]

/-- **A letter is of its own kin.** -/
theorem mem_kin_self (n : Nat) : n ∈ kin n := by
  unfold kin; split <;> simp

/-- How a part of a pattern compares letters. -/
inductive Folding
  /-- A letter is itself only. -/
  | exact
  /-- The 26 ASCII letters match in either case. -/
  | ascii
  /-- The letters of every script match in either case. -/
  | full
  deriving DecidableEq, Repr

namespace Folding

/-- The lowercase of a code point. -/
def lower (f : Folding) (n : Nat) : Nat :=
  match f with
  | .exact => n
  | .ascii => if 0x41 ≤ n ∧ n ≤ 0x5A then n + 32 else n
  | .full => (lowerShifts.image? n).getD n

/-- The lowercases that count as the lowercase of a code point. -/
def class? (f : Folding) (n : Nat) : List Nat :=
  match f with
  | .full => kin (f.lower n)
  | f => [f.lower n]

/-- Whether two code points are the same letter. -/
def same (f : Folding) (pattern subject : Nat) : Bool :=
  (f.class? pattern).contains (f.lower subject)

/-- **Every code point is the same letter as itself.** -/
theorem same_self (f : Folding) (n : Nat) : f.same n n = true := by
  cases f <;> simp [same, class?, lower, mem_kin_self]

/-- The code points whose simple lowercase is `n`, other than `n`. -/
def capitals (n : Nat) : List Nat :=
  lowerShifts.filterMap fun r =>
    let c := ((n : Int) - r.shift).toNat
    if r.first ≤ c ∧ c ≤ r.last ∧ (c - r.first) % r.step = 0 ∧ (c : Int) + r.shift = n then some c
    else none

/-- Whether a code point is the same letter as one of the interval `[low, high]`. -/
def sameAsOneOf (f : Folding) (low high subject : Nat) : Bool :=
  let within := fun n => low ≤ n && n ≤ high
  match f with
  | .exact => within subject
  | .ascii =>
    let n := f.lower subject
    within n || (0x61 ≤ n && n ≤ 0x7A && within (n - 32))
  | .full =>
    (kin (f.lower subject)).any fun n =>
      (within n && f.lower n == n) || (capitals n).any within

end Folding
end Pattern
end CommandGrammar
