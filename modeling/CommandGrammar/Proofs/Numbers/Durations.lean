/-
# Durations are sums

A duration that is typed as amounts or as a clock is the sum of its parts, or it is refused if the
sum is out of range.

| text | duration |
| --- | --- |
| `2h30m`, `30M2H` | the sum of the amounts (`Amount.read_text`) |
| `1:30` | a minute and a half: the last count is in seconds, those left out in front are zero |
| `-5` | none, as it is negative; `-0` is no time |

A text with a minus in front is no clock and no amounts.  If it is a number, that is refused unless
it is zero (`eq_zero_of_dash`).
-/

import CommandGrammar.Proofs.Numbers.Amounts
import Mathlib.Algebra.BigOperators.Group.List.Basic

namespace CommandGrammar
namespace Duration

open Text Numeral

/-! ## Clocks -/

/-- Counts with colons between them, as they are typed. -/
def clockText (parts : List Count) : String :=
  joined ":" (parts.map fun n => String.ofList n.digits)

/-- **Two parts of a clock have a colon between them.** -/
theorem toList_clockText_cons_cons (n m : Count) (parts : List Count) :
    (clockText (n :: m :: parts)).toList = n.digits ++ ':' :: (clockText (m :: parts)).toList := by
  unfold clockText joined
  rw [List.map_cons, List.map_cons, String.intercalate_cons_cons, String.toList_append,
    String.toList_append, String.toList_ofList, List.append_assoc]
  rfl

/-- **The last part has its digits only.** -/
theorem toList_clockText_singleton (n : Count) : (clockText [n]).toList = n.digits := by
  unfold clockText joined
  rw [List.map_singleton, String.intercalate_singleton, String.toList_ofList]

/-- **A clock has no blank in it.** -/
theorem not_isBlank_of_mem_clockText : ∀ {parts : List Count} {c : Char},
    c ∈ (clockText parts).toList → isBlank c = false
  | [], _, h => absurd h List.not_mem_nil
  | [n], _, h => by
    rw [toList_clockText_singleton] at h
    exact n.not_isBlank h
  | n :: m :: parts, c, h => by
    rw [toList_clockText_cons_cons] at h
    rcases List.mem_append.1 h with h | h
    · exact n.not_isBlank h
    · rcases List.mem_cons.1 h with rfl | h
      · decide
      · exact not_isBlank_of_mem_clockText h

/-- **The parts of a clock are its counts.** -/
theorem cutAt_clockText : ∀ {parts : List Count}, parts ≠ [] →
    cutAt (· == ':') (clockText parts).toList = parts.map Count.digits
  | [], h => absurd rfl h
  | [n], _ => by
    rw [toList_clockText_singleton]
    exact cutAt_of_uncut fun c hc => n.ne_colon hc
  | n :: m :: parts, _ => by
    rw [toList_clockText_cons_cons, cutAt_append (fun c hc => n.ne_colon hc) rfl,
      cutAt_clockText (List.cons_ne_nil m parts)]
    rfl

/-- **Behind a result the next reading goes on.** -/
theorem ok_bind {α β : Type} (a : α) (next : α → Except Fault β) :
    (Except.ok a >>= next) = next a := rfl

/-- **The digits of counts are read as their values.** -/
theorem mapM_count (parts : List Count) :
    (parts.map Count.digits).mapM count = .ok (parts.map Count.value) := by
  induction parts with
  | nil => rfl
  | cons n parts ih =>
    rw [List.map_cons, List.mapM_cons, n.count_eq, ih]
    rfl

/-- **Counts are weighted from the last one on**, so that leading zeros may be left out. -/
theorem weighted_of_padded (weight : TimeUnit → Nat) {values : List Nat} {d h m s : Nat}
    (hpad : List.replicate (4 - values.length) 0 ++ values = [d, h, m, s]) :
    ((values.reverse.zip [TimeUnit.second, .minute, .hour, .day]).map
      fun p => p.1 * weight p.2).foldr (· + ·) 0 =
      d * weight .day + h * weight .hour + m * weight .minute + s * weight .second := by
  have hlength := congrArg List.length hpad
  rcases values with _ | ⟨a, _ | ⟨b, _ | ⟨c, _ | ⟨e, _ | ⟨x, rest⟩⟩⟩⟩⟩
  all_goals simp [List.replicate] at hlength hpad ⊢
  all_goals
    obtain ⟨rfl, rfl, rfl, rfl⟩ := hpad
    omega

/-- **The last count of a clock is in seconds, and missing counts are zero.** -/
theorem clockMicros_of_padded {values : List Nat} {d h m s : Nat}
    (hpad : List.replicate (4 - values.length) 0 ++ values = [d, h, m, s]) :
    clockMicros values = (d * 86400 + h * 3600 + m * 60 + s) * 1000000 := by
  have hweighted := weighted_of_padded TimeUnit.micros hpad
  have hday : TimeUnit.day.micros = 86400000000 := rfl
  have hhour : TimeUnit.hour.micros = 3600000000 := rfl
  have hminute : TimeUnit.minute.micros = 60000000 := rfl
  have hsecond : TimeUnit.second.micros = 1000000 := rfl
  rw [hday, hhour, hminute, hsecond] at hweighted
  unfold clockMicros
  rw [hweighted]
  omega

/-- **A clock of up to four parts is read as days, hours, minutes and seconds.** -/
theorem readClock_clockText {parts : List Count} (hne : parts ≠ []) (hhigh : parts.length ≤ 4)
    {d h m s : Nat}
    (hpad : List.replicate (4 - parts.length) 0 ++ parts.map Count.value = [d, h, m, s]) :
    readClock (clockText parts) = bounded ((d * 86400 + h * 3600 + m * 60 + s) * 1000000) := by
  have hdigits : (parts.map Count.digits).all (fun p => !p.isEmpty && p.all isDigit) = true := by
    rw [List.all_map, List.all_eq_true]
    intro n _
    have hall : n.digits.all isDigit = true := List.all_eq_true.2 fun c hc => by
      rw [isDigit, n.isDecimalDigit hc, Bool.true_or]
    simp [hall, n.ne_nil]
  unfold readClock
  rw [cutAt_clockText hne]
  dsimp only
  rw [hdigits, List.length_map, if_neg (not_or_intro (Nat.not_lt.2 hhigh) (by decide)),
    mapM_count, ok_bind, clockMicros_of_padded (by rw [List.length_map]; exact hpad)]

/-- **A clock is read as the sum of its parts.** -/
theorem read_clockText {parts : List Count} (hlow : 2 ≤ parts.length) (hhigh : parts.length ≤ 4)
    {d h m s : Nat}
    (hpad : List.replicate (4 - parts.length) 0 ++ parts.map Count.value = [d, h, m, s]) :
    read (clockText parts) = bounded ((d * 86400 + h * 3600 + m * 60 + s) * 1000000) := by
  have htrim : trim (clockText parts) = clockText parts := by
    have hblank : ∀ c ∈ (clockText parts).toList, isBlank c = false := fun _ =>
      not_isBlank_of_mem_clockText
    have htrim := trim_of_no_blank hblank
    rwa [String.ofList_toList] at htrim
  obtain ⟨n₁, n₂, rest, rfl⟩ : ∃ n₁ n₂ rest, parts = n₁ :: n₂ :: rest := by
    rcases parts with _ | ⟨n₁, _ | ⟨n₂, rest⟩⟩
    · cases hlow
    · exact absurd hlow (by simp)
    · exact ⟨n₁, n₂, rest, rfl⟩
  have hcolon : (clockText (n₁ :: n₂ :: rest)).toList.contains ':' = true := by
    rw [toList_clockText_cons_cons, List.contains_iff_mem]
    exact List.mem_append_right _ List.mem_cons_self
  have hempty : (clockText (n₁ :: n₂ :: rest)).isEmpty = false := by
    rw [Bool.eq_false_iff, Ne, String.isEmpty_iff]
    intro hnil
    rw [hnil] at hcolon
    cases hcolon
  unfold read
  rw [htrim]
  dsimp only
  rw [hempty, hcolon, readClock_clockText (List.cons_ne_nil _ _) hhigh hpad, if_neg (by decide),
    if_pos rfl]

/-! ## A minus in front -/

/-- **Nothing is rounded to nothing.** -/
theorem roundDiv_zero (d : Nat) : roundDiv 0 d = 0 := by simp [roundDiv]

/-- **Nothing is rounded to nothing.** -/
theorem ofRatio_zero (d : Nat) : Binary64.ofRatio false 0 d = .infinite false ∨
    Binary64.ofRatio false 0 d = .finite false 0 Binary64.minExponent := by
  have hscaled : ∀ e, (Binary64.scaled 0 d e).1 = 0 := fun e => by
    unfold Binary64.scaled
    split
    · rfl
    · exact Nat.zero_mul _
  have hcarry : ¬ 0 = Nat.pow 2 53 := by decide
  unfold Binary64.ofRatio
  dsimp only
  rw [hscaled, roundDiv_zero, if_neg hcarry]
  split
  · exact .inl rfl
  · exact .inr rfl

/-- **A number without a mantissa lasts no time.** -/
theorem secondsMicros_zero (e : Int) : secondsMicros 0 e = 0 := by
  unfold secondsMicros
  split
  · simp
  · dsimp only
    rw [Nat.zero_mod, Nat.zero_div, Nat.mul_zero]
    rcases ofRatio_zero (Nat.pow 2 (-e).toNat) with h | h <;> rw [h]
    · rfl
    · have hexp : ¬ Binary64.minExponent ≥ 0 := by decide
      dsimp only
      rw [if_neg hexp, roundDiv_zero]

/-- **What is rounded keeps its sign.** -/
theorem ofDecimal_finite (negative : Bool) (ds : List Nat) (e : Int) :
    Binary64.ofDecimal (.finite negative ds e) = .infinite negative ∨
      ∃ m e', Binary64.ofDecimal (.finite negative ds e) = .finite negative m e' := by
  have hratio : ∀ n d, Binary64.ofRatio negative n d = .infinite negative ∨
      ∃ m e', Binary64.ofRatio negative n d = .finite negative m e' := by
    intro n d
    unfold Binary64.ofRatio
    dsimp only
    split
    all_goals
      split
      · exact .inl rfl
      · split
        · exact .inr ⟨_, _, rfl⟩
        · exact .inr ⟨_, _, rfl⟩
  unfold Binary64.ofDecimal
  dsimp only
  split
  · exact .inr ⟨_, _, rfl⟩
  · split
    · exact .inl rfl
    · split
      · exact hratio _ _
      · exact hratio _ _

/-- **A number with a minus lasts no time, if it is a duration at all.** -/
theorem eq_zero_of_ofSeconds {s : String} {rest : List Char} {x : Binary64} {n : Nat}
    (hs : s.toList = '-' :: rest) (hx : Binary64.read? s = some x) (h : ofSeconds x = .ok n) :
    n = 0 := by
  obtain ⟨d, hd, rfl⟩ := Option.map_eq_some_iff.1 hx
  have hsign : sign ('-' :: unpadEnd rest) = (true, unpadEnd rest) := rfl
  rw [readDecimal_eq, hs, unpad_dash, hsign] at hd
  dsimp only at hd
  split at hd
  · cases hd
    cases h
  · split at hd
    · cases hd
      cases h
    · have hfinite : ∃ ds e, d = .finite true ds e := exists_of_finite? hd
      obtain ⟨ds, e, rfl⟩ := hfinite
      rcases ofDecimal_finite true ds e with hinf | ⟨m, e', hfin⟩
      · rw [hinf] at h
        cases h
      · rw [hfin] at h
        unfold ofSeconds at h
        split at h
        · cases h
        · rename_i hm
          obtain rfl : m = 0 := by simpa [Binary64.isNegative] using hm
          dsimp only at h
          rw [secondsMicros_zero] at h
          exact (lt_limit_of_bounded h).1

/-- **A clock has no minus in front.** -/
theorem readClock_dash {s : String} {rest : List Char} (hs : s.toList = '-' :: rest) :
    readClock s = .error (.badClock s) := by
  have hdash : isDigit '-' = false := by decide +kernel
  unfold readClock
  dsimp only
  rw [if_pos]
  right
  obtain ⟨part, parts, hparts⟩ : ∃ part parts,
      cutAt (· == ':') s.toList = ('-' :: part) :: parts := by
    rw [hs, cutAt, if_neg (by decide)]
    split
    · exact ⟨_, _, rfl⟩
    · exact ⟨_, _, rfl⟩
  rw [hparts]
  simp [hdash]

/-- **A text with a minus in front is no time at all, or no duration.** -/
theorem eq_zero_of_dash {s : String} {n : Nat} (h : read s = .ok n)
    (dash : (trim s).toList.head? = some '-') : n = 0 := by
  obtain ⟨rest, hrest⟩ : ∃ rest, (trim s).toList = '-' :: rest := by
    cases hlist : (trim s).toList with
    | nil => rw [hlist] at dash; cases dash
    | cons c rest =>
      rw [hlist] at dash
      obtain rfl := Option.some.inj dash
      exact ⟨rest, rfl⟩
  unfold read at h
  dsimp only at h
  split at h
  · cases h
  · split at h
    · rw [readClock_dash hrest] at h
      cases h
    · split at h
      · rename_i x hx
        exact eq_zero_of_ofSeconds hrest hx h
      · -- No count begins with a minus either.
        have hno : unitCounts? (trim s).toList = none := by
          rw [hrest, unitCounts?]
          rfl
        unfold readUnits at h
        rw [hno] at h
        cases h

/-! ## All forms -/

/-- **Durations are sums.**  Amounts in any order and case, repeated or not, last as long as all of
them together, and so does a clock of two to four counts, the last one in seconds and those left out
in front being zero; either is out of range from a billion days on.  Nothing lasts less than no
time: a text with a minus in front lasts none, if it is read at all. -/
theorem durations_are_sums :
    (∀ as : List Amount, as ≠ [] → read (Amount.text as) =
      if (as.map fun a => a.count.value * a.unit.micros).sum < 1000000000 * TimeUnit.micros .day
      then .ok (as.map fun a => a.count.value * a.unit.micros).sum else .error .outOfRange) ∧
    (∀ as bs : List Amount, as ≠ [] →
      (as.map fun a => (a.count.value, a.unit)).Perm (bs.map fun a => (a.count.value, a.unit)) →
      read (Amount.text as) = read (Amount.text bs)) ∧
    (∀ (parts : List Count) (d h m s : Nat), 2 ≤ parts.length → parts.length ≤ 4 →
      List.replicate (4 - parts.length) 0 ++ parts.map Count.value = [d, h, m, s] →
      read (clockText parts) =
        if (d * 86400 + h * 3600 + m * 60 + s) * 1000000 < 1000000000 * TimeUnit.micros .day
        then .ok ((d * 86400 + h * 3600 + m * 60 + s) * 1000000) else .error .outOfRange) ∧
    ∀ (text : String) (n : Nat), read text = .ok n →
      (trim text).toList.head? = some '-' → n = 0 := by
  refine ⟨fun as hne => Amount.read_text hne, ?_, ?_, fun _ _ => eq_zero_of_dash⟩
  · intro as bs hne hperm
    have hne' : bs ≠ [] := by
      rintro rfl
      exact hne (List.map_eq_nil_iff.1 (List.Perm.eq_nil hperm))
    have hsum := (hperm.map fun p => p.1 * p.2.micros).sum_eq
    rw [List.map_map, List.map_map] at hsum
    rw [Amount.read_text hne, Amount.read_text hne']
    exact congrArg bounded hsum
  · intro parts d h m s hlow hhigh hpad
    exact read_clockText hlow hhigh hpad

/-- Two hours and a half are read from their amounts in either order, and so is a clock of a minute
and a half; no time with a minus in front is read as well. -/
theorem amounts_and_a_clock_are_read :
    read "2h30M" = .ok 9000000000 ∧ read "30M2h" = read "2h30M" ∧ read "1:30" = .ok 90000000 ∧
      ∃ n, read "-0" = .ok n ∧ n = 0 := by
  let two : Count := ⟨['2'], by decide, by decide, by simp⟩
  let thirty : Count := ⟨['3', '0'], by decide, by decide, by simp⟩
  let one : Count := ⟨['1'], by decide, by decide, by simp⟩
  let hours : Amount := ⟨two, .hour, ['h'], by decide⟩
  let minutes : Amount := ⟨thirty, .minute, ['M'], by decide⟩
  have hsum := durations_are_sums.1 [hours, minutes] (by simp)
  have hswap := durations_are_sums.2.1 [minutes, hours] [hours, minutes] (by simp) (.swap _ _ _)
  have hclock := durations_are_sums.2.2.1 [one, thirty] 0 0 1 30 (by decide) (by decide) rfl
  have hzero : read "-0" = .ok 0 := by decide +kernel
  refine ⟨hsum.trans ?_, hswap, hclock.trans ?_, 0, hzero, ?_⟩
  · simp only [hours, minutes, two, thirty]
    decide +kernel
  · decide +kernel
  · exact durations_are_sums.2.2.2 "-0" 0 hzero (by decide)

end Duration
end CommandGrammar
