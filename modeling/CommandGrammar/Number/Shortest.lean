/-
# The shortest decimal text of a double

A double is written with the fewest digits that read back as it; among the numerals of that length
the nearest is taken.  The reals that round to `m · 2 ^ e` form an interval whose ends are half way
to the neighbours, ends included when `m` is even.  For one digit, two digits, and so on the two
points of the decimal grid beside the value are tested, in exact arithmetic; if a point of a grid
lies in the interval, so does one of these two.

The text is positional while the first digit stands at most sixteen places before the point and at
most four after it, and scientific otherwise.

| double | text |
| --- | --- |
| `2.5` | `2.5` |
| `10 ^ 15` | `1000000000000000.0` |
| `10 ^ 16` | `1e+16` |
| `0.00001` | `1e-05` |
-/

import CommandGrammar.Number.Binary64

namespace CommandGrammar
namespace Binary64

/-- A nonnegative ratio: numerator and denominator. -/
structure Ratio where
  /-- The numerator. -/
  num : Nat
  /-- The denominator. -/
  den : Nat

/-- `n · 2 ^ e`. -/
def Ratio.binary (n : Nat) (e : Int) : Ratio :=
  if e ≥ 0 then ⟨n * Nat.pow 2 e.toNat, 1⟩ else ⟨n, Nat.pow 2 (-e).toNat⟩

/-- `n · 10 ^ p`. -/
def Ratio.decimal (n : Nat) (p : Int) : Ratio :=
  if p ≥ 0 then ⟨n * Nat.pow 10 p.toNat, 1⟩ else ⟨n, Nat.pow 10 (-p).toNat⟩

/-- Whether one ratio is less than another. -/
def Ratio.lt (x y : Ratio) : Bool := x.num * y.den < y.num * x.den

/-- The interval of the reals that round to `m · 2 ^ e`: its ends, and whether they belong to it. -/
def roundingInterval (m : Nat) (e : Int) : Ratio × Ratio × Bool :=
  let low :=
    if m = Nat.pow 2 52 ∧ e > minExponent then Ratio.binary (4 * m - 1) (e - 2)
    else Ratio.binary (2 * m - 1) (e - 1)
  (low, Ratio.binary (2 * m + 1) (e - 1), m % 2 == 0)

/-- Whether a ratio lies in an interval. -/
def inInterval (i : Ratio × Ratio × Bool) (x : Ratio) : Bool :=
  let (low, high, closed) := i
  if closed then !x.lt low && !high.lt x else low.lt x && x.lt high

/-- The least `k` in `start, start + 1, …` with `v < 10 ^ k`, looked for in `fuel` steps. -/
def magnitudeFrom (v : Ratio) : Nat → Int → Int
  | 0, k => k
  | fuel + 1, k => if v.lt (Ratio.decimal 1 k) then k else magnitudeFrom v fuel (k + 1)

/-- The number of places before the point: the least `k` with `v < 10 ^ k`. -/
def magnitude (v : Ratio) : Int :=
  let bits : Int := (Nat.log2 v.num : Int) - Nat.log2 v.den
  magnitudeFrom v 5 (bits * 30103 / 100000 - 1)

/-- The digits and decimal exponent at `10 ^ p`, if the grid of that step has a point in the
interval. -/
def gridPoint? (v : Ratio) (i : Ratio × Ratio × Bool) (p : Int) : Option Nat :=
  let unit := Ratio.decimal 1 p
  let n := v.num * unit.den
  let d := v.den * unit.num
  let below := n / d
  let near := roundDiv n d
  if inInterval i (Ratio.decimal near p) then some near
  else if inInterval i (Ratio.decimal below p) then some below
  else if inInterval i (Ratio.decimal (below + 1) p) then some (below + 1)
  else none

/-- The first grid with a hit, from coarse to fine. -/
def shortestFrom (v : Ratio) (i : Ratio × Ratio × Bool) : Nat → Int → Nat × Int
  | 0, p => (roundDiv (v.num * (Ratio.decimal 1 p).den) (v.den * (Ratio.decimal 1 p).num), p)
  | fuel + 1, p =>
    match gridPoint? v i p with
    | some c => (c, p)
    | none => shortestFrom v i fuel (p - 1)

/-- The shortest numeral `c · 10 ^ p` that reads back as `m · 2 ^ e`. -/
def shortest (m : Nat) (e : Int) : Nat × Int :=
  let v := Ratio.binary m e
  shortestFrom v (roundingInterval m e) 17 (magnitude v - 1)

/-- The number without its trailing zeros, and how many they were. -/
def stripZeros : Nat → Nat → Nat × Nat
  | 0, c => (c, 0)
  | fuel + 1, c =>
    if c % 10 = 0 ∧ c ≠ 0 then ((stripZeros fuel (c / 10)).1, (stripZeros fuel (c / 10)).2 + 1)
    else (c, 0)

/-- The text of a positive double with the digits of `c` and the first of them `places` places
before the point. -/
def layOut (c : Nat) (places : Int) : String :=
  let ds := (toString c).toList
  let zeros := fun (n : Int) => List.replicate n.toNat '0'
  if -4 < places ∧ places ≤ 16 then
    if places ≤ 0 then String.ofList (['0', '.'] ++ zeros (-places) ++ ds)
    else if places ≥ ds.length then
      String.ofList (ds ++ zeros (places - ds.length) ++ ['.', '0'])
    else String.ofList (ds.take places.toNat ++ ['.'] ++ ds.drop places.toNat)
  else
    let x := places - 1
    let size := (toString x.natAbs).toList
    let power := (if x < 0 then '-' else '+') :: (zeros (2 - size.length) ++ size)
    let fraction := ds.drop 1
    String.ofList
      (ds.take 1 ++ (if fraction.isEmpty then [] else '.' :: fraction) ++ ['e'] ++ power)

/-- The text of a double. -/
def text : Binary64 → String
  | .notANumber => "nan"
  | .infinite s => if s then "-inf" else "inf"
  | .finite s m e =>
    let body :=
      if m = 0 then "0.0"
      else
        let (c, p) := shortest m e
        let (c, z) := stripZeros 20 c
        layOut c (p + z + (toString c).length)
    if s then "-" ++ body else body

end Binary64
end CommandGrammar
