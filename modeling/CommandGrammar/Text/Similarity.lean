/-
# Similar words

How alike two words are, by the characters they share in order: the longest run that both have, the
longest runs before it and after it, and so on.  The likeness of two words is twice the number of
shared characters over the number of all characters, kept as a fraction.

In a long second word, characters that occur very often start no run, though a run may extend over
them.
-/

import CommandGrammar.Text.Parts

namespace CommandGrammar
namespace Text

/-- A run that two words share: its offset in each, and its length. -/
structure SharedRun where
  left : Nat
  right : Nat
  size : Nat
  deriving Repr

/-- The lengths of the runs that end in a character of the first word and at each place of the
second word, from those that end one character earlier. -/
def runsEnding (starts : Char → Bool) (c : Char) : List Char → Nat → List Nat → List Nat
  | [], _, _ => []
  | b :: bs, before, earlier =>
    (if c = b ∧ starts b then before + 1 else 0) ::
      runsEnding starts c bs (earlier.headD 0) earlier.tail

/-- The longer of a run and the runs that end at a place of the first word; the earlier on a tie. -/
def longerRun (best : SharedRun) (i : Nat) : Nat → List Nat → SharedRun
  | _, [] => best
  | j, k :: ks =>
    longerRun (if k > best.size then ⟨i + 1 - k, j + 1 - k, k⟩ else best) i (j + 1) ks

/-- The longest run of characters that may start one. -/
def longestFrom (starts : Char → Bool) (b : List Char) :
    Nat → List Nat → SharedRun → List Char → SharedRun
  | _, _, best, [] => best
  | i, earlier, best, c :: cs =>
    let here := runsEnding starts c b 0 earlier
    longestFrom starts b (i + 1) here (longerRun best i 0 here) cs

/-- How many characters two words share at their beginnings. -/
def sharedStart : List Char → List Char → Nat
  | a :: as, b :: bs => if a = b then sharedStart as bs + 1 else 0
  | _, _ => 0

/-- The longest run that two words share, extended on both sides. -/
def longestRun (starts : Char → Bool) (a b : List Char) : SharedRun :=
  let r := longestFrom starts b 0 [] ⟨0, 0, 0⟩ a
  let before := sharedStart (a.take r.left).reverse (b.take r.right).reverse
  let after := sharedStart (a.drop (r.left + r.size)) (b.drop (r.right + r.size))
  ⟨r.left - before, r.right - before, before + r.size + after⟩

/-- How many characters two words share, in at most `n` runs nested in each other. -/
def sharedWithin (starts : Char → Bool) : Nat → List Char → List Char → Nat
  | 0, _, _ => 0
  | n + 1, a, b =>
    let r := longestRun starts a b
    if r.size = 0 then 0
    else
      r.size + sharedWithin starts n (a.take r.left) (b.take r.right) +
        sharedWithin starts n (a.drop (r.left + r.size)) (b.drop (r.right + r.size))

/-- How long a word is in which frequent characters start no run. -/
def longWord : Nat := 200

/-- Whether a character of a word may start a run. -/
def mayStart (word : List Char) (c : Char) : Bool :=
  word.length < longWord || word.count c ≤ word.length / 100 + 1

/-- How many characters two words share; there are no more runs than characters. -/
def shared (a b : List Char) : Nat := sharedWithin (mayStart b) a.length a b

/-- A candidate and its likeness to a word, as twice the shared characters and all characters. -/
structure Likeness where
  candidate : String
  twiceShared : Nat
  total : Nat

/-- The likeness of a candidate to a word. -/
def likeness (word candidate : String) : Likeness :=
  let a := candidate.toList
  let b := word.toList
  ⟨candidate, 2 * shared a b, a.length + b.length⟩

/-- Whether the likeness is three fifths or more. -/
def Likeness.isClose (x : Likeness) : Bool := x.total = 0 || 3 * x.total ≤ 5 * x.twiceShared

/-- Whether one candidate comes before another: the more alike first, the later in order on a
tie. -/
def Likeness.comesFirst (x y : Likeness) : Bool :=
  let left := x.twiceShared * y.total
  let right := y.twiceShared * x.total
  right < left || (left == right && y.candidate ≤ x.candidate)

/-- The candidates that are close to a word, at most `n`, the most alike first. -/
def closest (n : Nat) (word : String) (candidates : List String) : List String :=
  let close := (candidates.map (likeness word)).filter Likeness.isClose
  ((close.mergeSort Likeness.comesFirst).take n).map Likeness.candidate

/-- **Only candidates are close.** -/
theorem mem_of_mem_closest {n : Nat} {word s : String} {candidates : List String}
    (h : s ∈ closest n word candidates) : s ∈ candidates := by
  simp only [closest, List.mem_map] at h
  obtain ⟨x, hx, rfl⟩ := h
  have hx := List.mem_mergeSort.1 (List.mem_of_mem_take hx)
  obtain ⟨hx, -⟩ := List.mem_filter.1 hx
  obtain ⟨c, hc, rfl⟩ := List.mem_map.1 hx
  exact hc

end Text
end CommandGrammar
