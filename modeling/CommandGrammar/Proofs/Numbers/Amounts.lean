/-
# Amounts

An amount is a count with the letters of a unit, in any case (`Duration.Amount`).

| text | duration |
| --- | --- |
| `2h30m`, `30M2H` | the sum of the amounts, in any order and case |
| `1h1h` | two hours: repeated units add up |

Amounts are not taken for a number, as they have a letter where a number has none
(`readDecimal_text`), and the letters `ms` are never read as minutes, since a digit or the end
stands behind the letters of an amount (`unitLetters?_append`).
-/

import CommandGrammar.Proofs.Numbers.Counts

namespace CommandGrammar
namespace Duration

open Text Numeral

/-- The ways to type the letters of a unit. -/
def TimeUnit.spellings : TimeUnit → List (List Char)
  | .week => [['w'], ['W']]
  | .day => [['d'], ['D']]
  | .hour => [['h'], ['H']]
  | .minute => [['m'], ['M']]
  | .second => [['s'], ['S']]
  | .millisecond => [['m', 's'], ['m', 'S'], ['M', 's'], ['M', 'S']]

/-- **A letter is its lowercase or the capital of it.** -/
theorem eq_or_eq_toUpper (c : Char) : c = c.toLower ∨ c = c.toLower.toUpper := by
  have hcapital : ∀ n < 91, 65 ≤ n → Char.ofNat n = (Char.ofNat n).toLower.toUpper := by decide
  by_cases h : 65 ≤ c.toNat ∧ c.toNat < 91
  · have hc := hcapital c.toNat h.2 h.1
    rw [Char.ofNat_toNat] at hc
    exact .inr hc
  · left
    unfold Char.toLower
    rw [dif_neg]
    rintro ⟨h1, h2⟩
    exact h ⟨h1, Nat.lt_succ_of_le h2⟩

/-- **The letters of a unit may be typed in any case.** -/
theorem mem_spellings {u : TimeUnit} {letters : List Char}
    (h : letters.map Char.toLower = u.letters.toList) : letters ∈ u.spellings := by
  have hone : ∀ l : Char, letters.map Char.toLower = [l] →
      letters = [l] ∨ letters = [l.toUpper] := by
    intro l hl
    obtain ⟨c, rest, rfl, rfl, hrest⟩ := List.map_eq_cons_iff.1 hl
    obtain rfl := List.map_eq_nil_iff.1 hrest
    rcases eq_or_eq_toUpper c with hc | hc
    · exact .inl (by rw [← hc])
    · exact .inr (by rw [← hc])
  cases u with
  | week => rcases hone 'w' h with rfl | rfl <;> decide
  | day => rcases hone 'd' h with rfl | rfl <;> decide
  | hour => rcases hone 'h' h with rfl | rfl <;> decide
  | minute => rcases hone 'm' h with rfl | rfl <;> decide
  | second => rcases hone 's' h with rfl | rfl <;> decide
  | millisecond =>
    obtain ⟨c, rest, rfl, hc, hrest⟩ := List.map_eq_cons_iff.1 h
    obtain ⟨d, rest, rfl, hd, hnil⟩ := List.map_eq_cons_iff.1 hrest
    obtain rfl := List.map_eq_nil_iff.1 hnil
    rcases eq_or_eq_toUpper c with hc' | hc' <;> rcases eq_or_eq_toUpper d with hd' | hd' <;>
      rw [hc', hd', hc, hd] <;> decide

/-- **No letter of a unit has a part in a number or a clock.** -/
theorem of_mem_spellings {u : TimeUnit} {letters : List Char} (h : letters ∈ u.spellings) :
    letters ≠ [] ∧ ∀ c ∈ letters, isDecimalDigit c = false ∧ isBlank c = false ∧
      c ∉ ['.', 'e', 'E', '_', ':'] := by
  have hall : ∀ letters ∈ u.spellings, letters ≠ [] ∧ letters.all (fun c =>
      !isDecimalDigit c && !isBlank c && !(['.', 'e', 'E', '_', ':'].contains c)) = true := by
    cases u <;> decide
  obtain ⟨hne, hletters⟩ := hall letters h
  refine ⟨hne, fun c hc => ?_⟩
  have hc := List.all_eq_true.1 hletters c hc
  rw [Bool.and_eq_true, Bool.and_eq_true, Bool.not_eq_true', Bool.not_eq_true',
    Bool.not_eq_true'] at hc
  refine ⟨hc.1.1, hc.1.2, fun hmem => ?_⟩
  rw [List.contains_iff_mem.2 hmem] at hc
  cases hc.2

/-- **A spelling of a unit, in any case, is read as the unit.** -/
theorem ofLetters?_of_mem_spellings {u : TimeUnit} {letters : List Char}
    (h : letters ∈ u.spellings) :
    TimeUnit.ofLetters? (lowercase (String.ofList letters)) = some u := by
  have hall : ∀ letters ∈ u.spellings,
      TimeUnit.ofLetters? (lowercase (String.ofList letters)) = some u := by
    cases u <;> decide +kernel
  exact hall letters h

/-- **Letters are read as one unit** if a digit or the end stands behind them. -/
theorem unitLetters?_append {u : TimeUnit} {letters rest : List Char} (h : letters ∈ u.spellings)
    (hrest : ∀ c, rest.head? = some c → isDecimalDigit c = true) :
    unitLetters? (letters ++ rest) = some (letters, rest) := by
  have hall : ∀ letters ∈ u.spellings, unitLetters? letters = some (letters, []) := by
    cases u <;> decide
  have hletters := hall letters h
  cases rest with
  | nil => rw [List.append_nil, hletters]
  | cons d more =>
    have hd : isLetterS d = false := by
      rw [Bool.eq_false_iff, Ne, isLetterS_iff]
      have hdigit := hrest d rfl
      rintro ((rfl | rfl) | rfl) <;> cases hdigit
    obtain ⟨-, ⟨c, rfl, hc⟩ | ⟨c, e, rfl, hms⟩⟩ := of_unitLetters? hletters
    · rw [List.singleton_append, unitLetters?, if_neg (by rw [hd]; simp), if_pos hc]
    · rw [List.cons_append, List.singleton_append, unitLetters?, if_pos hms]

/-- A count with a unit, as it is typed: the letters stand in any case. -/
structure Amount where
  count : Count
  unit : TimeUnit
  letters : List Char
  named : letters.map Char.toLower = unit.letters.toList

namespace Amount

/-- The microseconds of an amount. -/
def micros (a : Amount) : Nat := a.count.value * a.unit.micros

/-- The characters of an amount. -/
def typed (a : Amount) : List Char := a.count.digits ++ a.letters

/-- The amounts one after the other, as they are typed. -/
def text (as : List Amount) : String := String.ofList (as.flatMap typed)

/-- **The letters of an amount spell its unit.** -/
theorem mem_spellings (a : Amount) : a.letters ∈ a.unit.spellings :=
  Duration.mem_spellings a.named

/-- **Amounts have no blank, underscore or colon in them.** -/
theorem of_mem_typed {as : List Amount} {c : Char} (h : c ∈ as.flatMap typed) :
    isBlank c = false ∧ c ≠ '_' ∧ c ≠ ':' := by
  obtain ⟨a, -, hc⟩ := List.mem_flatMap.1 h
  rcases List.mem_append.1 hc with hc | hc
  · refine ⟨a.count.not_isBlank hc, ?_, ?_⟩ <;> rintro rfl
    · exact a.count.notMem (by decide) hc
    · exact a.count.notMem (by decide) hc
  · obtain ⟨-, hblank, hnot⟩ := (of_mem_spellings a.mem_spellings).2 c hc
    refine ⟨hblank, ?_, ?_⟩ <;> rintro rfl
    · exact hnot (by decide)
    · exact hnot (by decide)

/-- **Amounts begin with a digit.** -/
theorem isDecimalDigit_head {as : List Amount} {c : Char}
    (h : (as.flatMap typed).head? = some c) : isDecimalDigit c = true := by
  cases as with
  | nil => cases h
  | cons a as =>
    obtain ⟨d, rest, hdigits, hd⟩ := a.count.exists_cons
    rw [List.flatMap_cons, typed, hdigits] at h
    obtain rfl := Option.some.inj h
    exact hd

/-- **What an amount's letters begin with is one of them.** -/
theorem head_letters {a : Amount} {rest : List Char} {c : Char}
    (h : (a.letters ++ rest).head? = some c) : c ∈ a.letters := by
  have hne := (of_mem_spellings a.mem_spellings).1
  rw [List.head?_append_of_ne_nil _ hne] at h
  exact List.mem_of_mem_head? h

/-- **The digits of the first amount end at its letters.** -/
theorem span_cons (a : Amount) (rest : List Char) :
    (a.typed ++ rest).takeWhile isDecimalDigit = a.count.digits ∧
      (a.typed ++ rest).dropWhile isDecimalDigit = a.letters ++ rest := by
  rw [typed, List.append_assoc]
  refine a.count.span_append fun c hc => ?_
  exact ((of_mem_spellings a.mem_spellings).2 c (head_letters hc)).1

/-- **Amounts are found one by one.** -/
theorem unitCounts?_typed (as : List Amount) :
    unitCounts? (as.flatMap typed) = some (as.map fun a => (a.count.digits, a.letters)) := by
  induction as with
  | nil =>
    rw [unitCounts?]
    rfl
  | cons a as ih =>
    obtain ⟨c, more, hdigits, -⟩ := a.count.exists_cons
    obtain ⟨htake, hdrop⟩ := a.span_cons (as.flatMap typed)
    have hunit : unitLetters? (a.letters ++ as.flatMap typed) =
        some (a.letters, as.flatMap typed) :=
      unitLetters?_append a.mem_spellings fun c hc => isDecimalDigit_head hc
    rw [List.flatMap_cons, unitCounts?, htake, hdrop]
    rw [if_neg (by simp [typed, hdigits]), if_neg (by simp [hdigits])]
    split
    · rename_i hnone
      rw [hunit] at hnone
      cases hnone
    · rename_i letters rest hsome
      rw [hunit] at hsome
      obtain ⟨rfl, rfl⟩ := Prod.mk.inj (Option.some.inj hsome)
      rw [ih]
      rfl

/-- **Amounts add up.** -/
theorem countsMicros_typed (as : List Amount) :
    countsMicros (as.map fun a => (a.count.digits, a.letters)) = .ok (as.map micros).sum := by
  induction as with
  | nil => rfl
  | cons a as ih =>
    rw [List.map_cons, countsMicros, ofLetters?_of_mem_spellings a.mem_spellings]
    dsimp only
    rw [a.count.count_eq, ih]
    rfl

/-- **Amounts are no number.** -/
theorem readDecimal_text {as : List Amount} (h : as ≠ []) : readDecimal (text as) = none := by
  obtain ⟨a, as, rfl⟩ := List.exists_cons_of_ne_nil h
  obtain ⟨c, more, hdigits, hc⟩ := a.count.exists_cons
  obtain ⟨htake, hdrop⟩ := a.span_cons (as.flatMap typed)
  have hunpad : unpad (text (a :: as)).toList = a.typed ++ as.flatMap typed := by
    rw [text, String.toList_ofList, unpad_of_no_blank fun c hc => (of_mem_typed hc).1,
      List.flatMap_cons]
  have hcons : a.typed ++ as.flatMap typed = c :: (more ++ a.letters ++ as.flatMap typed) := by
    rw [typed, hdigits]
    simp
  have hsign : sign (c :: (more ++ a.letters ++ as.flatMap typed)) =
      (false, c :: (more ++ a.letters ++ as.flatMap typed)) := sign_of_isDecimalDigit hc
  have hunder : '_' ∉ a.typed ++ as.flatMap typed := by
    rw [← List.flatMap_cons]
    exact fun hmem => (of_mem_typed hmem).2.1 rfl
  obtain ⟨hne, hletter⟩ := of_mem_spellings a.mem_spellings
  obtain ⟨l, ls, hletters⟩ := List.exists_cons_of_ne_nil hne
  have hl := (hletter l (hletters ▸ List.mem_cons_self)).2.2
  rw [readDecimal_of_digit (by rw [hunpad, hcons]; exact hsign) (.inl hc), ← hcons]
  unfold finite?
  rw [digits_of_notMem hunder, htake, hdrop, hletters, List.cons_append]
  -- The letter behind the digits begins neither places nor an exponent.
  have hexponent : readExponent (l :: (ls ++ as.flatMap typed)) = none := by
    rw [readExponent, if_neg]
    rintro (rfl | rfl)
    · exact hl (by decide)
    · exact hl (by decide)
  dsimp only
  split
  · rename_i hpoint
    obtain ⟨rfl, -⟩ := List.cons.inj hpoint
    exact absurd (by decide) hl
  · rw [hexponent, Option.map_none, ite_self]

/-- **Amounts are not written as the empty text.** -/
theorem text_ne_empty {as : List Amount} (h : as ≠ []) : (text as).isEmpty = false := by
  obtain ⟨a, as, rfl⟩ := List.exists_cons_of_ne_nil h
  obtain ⟨c, more, hdigits, -⟩ := a.count.exists_cons
  rw [Bool.eq_false_iff, Ne, String.isEmpty_iff]
  intro hnil
  have hlist := congrArg String.toList hnil
  rw [text, String.toList_ofList, List.flatMap_cons, typed, hdigits] at hlist
  cases hlist

/-- **They are written without colons.** -/
theorem not_contains_colon (as : List Amount) : (text as).toList.contains ':' = false := by
  rw [Bool.eq_false_iff, Ne, List.contains_iff_mem, text, String.toList_ofList]
  exact fun hmem => (of_mem_typed hmem).2.2 rfl

/-- **Amounts are read as their sum, as far as it is within the bounds.** -/
theorem readUnits_text {as : List Amount} (h : as ≠ []) :
    readUnits (text as) = bounded (as.map micros).sum := by
  obtain ⟨a, as, rfl⟩ := List.exists_cons_of_ne_nil h
  unfold readUnits
  rw [text, String.toList_ofList, unitCounts?_typed]
  show (do bounded (← countsMicros ((a :: as).map _))) = _
  rw [countsMicros_typed]
  rfl

/-- **Amounts are read as their sum.** -/
theorem read_text {as : List Amount} (h : as ≠ []) :
    read (text as) = bounded (as.map micros).sum := by
  have htrim : trim (text as) = text as := trim_of_no_blank fun c hc => (of_mem_typed hc).1
  have hnumber : Binary64.read? (text as) = none := by
    rw [Binary64.read?, readDecimal_text h]
    rfl
  unfold read
  rw [htrim]
  dsimp only
  rw [text_ne_empty h, not_contains_colon, hnumber, readUnits_text h]
  rfl

end Amount

end Duration
end CommandGrammar
