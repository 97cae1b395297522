/-
# Tables of code points

A property of characters is a list of disjoint intervals of code points in rising order, and a
case mapping is a list of arithmetic runs: every `step`-th code point from `first` to `last` is
moved by `shift`.  Both are looked up from the left, and a search ends at the first entry that
starts beyond the code point, so text in the first blocks is decided by the first few entries.

| table | entry | reading |
| --- | --- | --- |
| `Intervals` | `(a, b)` | every `n` with `a ≤ n ≤ b` has the property |
| `Shifts` | `⟨a, b, s, d⟩` | every `n = a + k s ≤ b` is mapped to `n + d` |
-/

namespace CommandGrammar
namespace Text

/-- Disjoint closed intervals of code points, in rising order. -/
abbrev Intervals := List (Nat × Nat)

/-- A code point lies in the table when one of the intervals holds it. -/
def Intervals.has : Intervals → Nat → Bool
  | [], _ => false
  | (a, b) :: rest, n =>
    if n < a then false else if n ≤ b then true else Intervals.has rest n

/-- **Membership is witnessed by an interval.** -/
theorem Intervals.exists_of_has {t : Intervals} {n : Nat} (h : t.has n = true) :
    ∃ i ∈ t, i.1 ≤ n ∧ n ≤ i.2 := by
  induction t with
  | nil => simp [Intervals.has] at h
  | cons i rest ih =>
    obtain ⟨a, b⟩ := i
    unfold Intervals.has at h
    split at h
    · simp at h
    · split at h
      · exact ⟨(a, b), by simp, by simp; omega⟩
      · obtain ⟨j, hj, hjn⟩ := ih h
        exact ⟨j, by simp [hj], hjn⟩

/-- One run of a case mapping: the code points `first, first + step, …, last` move by `shift`. -/
structure Shift where
  /-- The first code point of the run. -/
  first : Nat
  /-- The last code point of the run. -/
  last : Nat
  /-- The distance between neighbours of the run. -/
  step : Nat
  /-- What is added to each of them. -/
  shift : Int

/-- The runs of a case mapping, in rising order. -/
abbrev Shifts := List Shift

/-- The image of a code point under a case mapping, if the mapping moves it. -/
def Shifts.image? : Shifts → Nat → Option Nat
  | [], _ => none
  | r :: rest, n =>
    if n < r.first then none
    else if n ≤ r.last ∧ (n - r.first) % r.step = 0 then some (n + r.shift).toNat
    else Shifts.image? rest n

end Text
end CommandGrammar
