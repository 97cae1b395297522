/-
# Counts

A count is typed in the digits of ASCII, up to 4300 of them (`Duration.Count`).  No digit is a
blank, a sign, an underscore or a colon, so nothing gets lost around a count, it ends where
something else begins, and it is read as the number that its digits write to the base of ten
(`count_eq`).
-/

import CommandGrammar.Proofs.Breakdowns.Durations
import CommandGrammar.Proofs.Numbers.Plain
import Mathlib.Data.List.Basic
import Mathlib.Data.Nat.Digits.Defs

namespace CommandGrammar

open Text

namespace Text

/-- **Nothing is dropped if no item fits.** -/
theorem dropWhile_of_all_not {p : Char → Bool} {cs : List Char} (h : ∀ c ∈ cs, p c = false) :
    cs.dropWhile p = cs := by
  cases cs with
  | nil => rfl
  | cons c rest => rw [List.dropWhile_cons, if_neg (by rw [h c List.mem_cons_self]; decide)]

/-- **A text without such characters loses none at its ends.** -/
theorem dropEnds_of_all_not {p : Char → Bool} {cs : List Char} (h : ∀ c ∈ cs, p c = false) :
    ((cs.dropWhile p).reverse.dropWhile p).reverse = cs := by
  rw [dropWhile_of_all_not h, dropWhile_of_all_not fun c hc => h c (List.mem_reverse.1 hc),
    List.reverse_reverse]

/-- **A text without blanks is trimmed to itself.** -/
theorem trim_of_no_blank {cs : List Char} (h : ∀ c ∈ cs, isBlank c = false) :
    trim (String.ofList cs) = String.ofList cs := by
  unfold trim trimLeft
  rw [String.toList_ofList, dropEnds_of_all_not h]

/-- **A text without cuts is one part.** -/
theorem cutAt_of_uncut {isCut : Char → Bool} {cs : List Char} (h : ∀ c ∈ cs, isCut c = false) :
    cutAt isCut cs = [cs] := by
  induction cs with
  | nil => rfl
  | cons c cs ih =>
    unfold cutAt
    rw [if_neg (by rw [h c List.mem_cons_self]; decide),
      ih fun d hd => h d (List.mem_cons_of_mem c hd)]

/-- **A part ends at the first cut.** -/
theorem cutAt_append {isCut : Char → Bool} {cs : List Char} {d : Char}
    (h : ∀ c ∈ cs, isCut c = false) (hd : isCut d = true) (rest : List Char) :
    cutAt isCut (cs ++ d :: rest) = cs :: cutAt isCut rest := by
  induction cs with
  | nil => rw [List.nil_append, cutAt, if_pos hd]
  | cons c cs ih =>
    rw [List.cons_append, cutAt, if_neg (by rw [h c List.mem_cons_self]; decide),
      ih fun e he => h e (List.mem_cons_of_mem c he)]

/-- **The digits of ASCII have the first places in the table.** -/
theorem digitValue?_of_isDigit {c : Char} (h : c.isDigit = true) :
    digitValue? c = some (c.toNat - '0'.toNat) := by
  delta Char.isDigit at h
  simp only [Bool.and_eq_true, decide_eq_true_eq, ge_iff_le, UInt32.le_iff_toNat_le] at h
  have hlow : 48 ≤ c.toNat := h.1
  have hhigh : c.toNat ≤ 57 := h.2
  unfold digitValue? decimalDigits digitValueIn
  rw [if_neg (by omega), if_pos (by omega)]
  exact congrArg some (Nat.mod_eq_of_lt (by omega))

/-- **A digit of ASCII is a decimal digit.** -/
theorem isDecimalDigit_of_isDigit {c : Char} (h : c.isDigit = true) : isDecimalDigit c = true := by
  unfold isDecimalDigit
  rw [digitValue?_of_isDigit h]
  rfl

end Text

namespace Numeral

/-- **Digits write a number to the base of ten.** -/
theorem ofDigits_reverse (ds : List Nat) : ofDigits ds.reverse = Nat.ofDigits 10 ds := by
  induction ds with
  | nil => rfl
  | cons d ds ih =>
    rw [List.reverse_cons, ofDigits_append_singleton, ih, Nat.ofDigits_cons, Nat.add_comm]

/-- **A text without blanks has no padding.** -/
theorem unpad_of_no_blank {cs : List Char} (h : ∀ c ∈ cs, isBlank c = false) : unpad cs = cs := by
  refine dropEnds_of_all_not fun c hc => ?_
  rw [isPadding, h c hc, Bool.false_and]

/-- **A text that begins with a digit has no sign.** -/
theorem sign_of_isDecimalDigit {c : Char} {rest : List Char} (h : isDecimalDigit c = true) :
    sign (c :: rest) = (false, c :: rest) := by
  refine sign_of_unsigned ?_ ?_ <;> rintro rfl <;> cases h

end Numeral

namespace Duration

open Numeral

/-- A count as it is typed: one to 4300 digits of ASCII. -/
structure Count where
  digits : List Char
  ne_nil : digits ≠ []
  length_le : digits.length ≤ 4300
  ascii : ∀ c ∈ digits, c.isDigit = true

namespace Count

variable (n : Count)

/-- The number that a count writes. -/
def value : Nat := Nat.ofDigits 10 (n.digits.reverse.map fun c => c.toNat - '0'.toNat)

/-- **A count is made of decimal digits.** -/
theorem isDecimalDigit {c : Char} (h : c ∈ n.digits) : isDecimalDigit c = true :=
  isDecimalDigit_of_isDigit (n.ascii c h)

/-- **None of them is blank.** -/
theorem not_isBlank {c : Char} (h : c ∈ n.digits) : isBlank c = false :=
  not_has_of_isDecimalDigit (by decide) (n.isDecimalDigit h)

/-- **What is no digit is not in a count.** -/
theorem notMem {c : Char} (h : Text.isDecimalDigit c = false) : c ∉ n.digits := fun hc => by
  rw [n.isDecimalDigit hc] at h
  cases h

/-- **None of its digits is a colon.** -/
theorem ne_colon {c : Char} (h : c ∈ n.digits) : (c == ':') = false :=
  beq_false_of_ne (by rintro rfl; exact n.notMem (by decide) h)

/-- **A count has a first digit.** -/
theorem exists_cons : ∃ c rest, n.digits = c :: rest ∧ Text.isDecimalDigit c = true := by
  cases hdigits : n.digits with
  | nil => exact absurd hdigits n.ne_nil
  | cons c rest => exact ⟨c, rest, rfl, n.isDecimalDigit (hdigits ▸ List.mem_cons_self)⟩

/-- **The digits of a count are its own.** -/
theorem filterMap_digitValue? :
    n.digits.filterMap digitValue? = n.digits.map fun c => c.toNat - '0'.toNat := by
  rw [← List.filterMap_eq_map]
  exact List.filterMap_congr fun c hc => digitValue?_of_isDigit (n.ascii c hc)

/-- **The digits of a count end where something else begins.** -/
theorem span_append {rest : List Char}
    (h : ∀ c, rest.head? = some c → Text.isDecimalDigit c = false) :
    (n.digits ++ rest).takeWhile Text.isDecimalDigit = n.digits ∧
      (n.digits ++ rest).dropWhile Text.isDecimalDigit = rest := by
  have hdigits : ∀ c ∈ n.digits, Text.isDecimalDigit c = true := fun _ => n.isDecimalDigit
  rw [List.takeWhile_append_of_pos hdigits, List.dropWhile_append_of_pos hdigits]
  cases rest with
  | nil => exact ⟨List.append_nil _, rfl⟩
  | cons c more =>
    have hc : ¬ Text.isDecimalDigit c = true := by rw [h c rfl]; decide
    rw [List.takeWhile_cons_of_neg hc, List.dropWhile_cons_of_neg hc]
    exact ⟨List.append_nil _, rfl⟩

/-- **A count is read as its number.** -/
theorem count_eq : count n.digits = .ok n.value := by
  obtain ⟨c, rest, hdigits, hc⟩ := n.exists_cons
  have hunder : '_' ∉ n.digits := n.notMem (by decide)
  have hall : n.digits.takeWhile Text.isDecimalDigit = n.digits ∧
      n.digits.dropWhile Text.isDecimalDigit = [] := by
    have hend := n.span_append fun c (hc : ([] : List Char).head? = some c) => by cases hc
    rwa [List.append_nil] at hend
  have hread : readInteger (String.ofList n.digits) = .ok (n.value : Int) := by
    unfold readInteger
    rw [String.toList_ofList, unpad_of_no_blank fun _ => n.not_isBlank, hdigits,
      sign_of_isDecimalDigit hc, ← hdigits]
    dsimp only
    rw [digits_of_notMem hunder, hall.1, hall.2, filterMap_digitValue?]
    split
    · rename_i hnil
      rw [hdigits] at hnil
      cases (Prod.mk.inj hnil).1
    · rename_i hds
      obtain ⟨rfl, -⟩ := Prod.mk.inj hds
      rw [if_neg (by rw [List.length_map]; exact Nat.not_lt.2 n.length_le)]
      have hvalue := ofDigits_reverse (n.digits.reverse.map fun c => c.toNat - '0'.toNat)
      rw [← List.map_reverse, List.reverse_reverse] at hvalue
      rw [hvalue]
      rfl
    · rename_i hrest
      exact absurd rfl (hrest _)
  unfold count
  rw [hread]
  rfl

end Count

end Duration
end CommandGrammar
