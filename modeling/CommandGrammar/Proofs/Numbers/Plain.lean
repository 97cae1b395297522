/-
# Plain numerals

A number can be typed in more ways than the form of a negative number allows (`isNegativeNumber`):
with underscores between its digits, with padding behind it, or as a word for what is no finite
number.  Where a numeral is plain, the two agree: it has the form of a number if and only if it is
read as a finite one (`Numeral.isNegativeNumber_iff`).

| token | read as | form of a number |
| --- | --- | --- |
| `-5`, `-2.5`, `-.5e3`, `-5` and a newline | a finite number | yes |
| `-1_000`, `-5` and a blank | a finite number | no |
| `-inf`, `-nan` | another number | no |
-/

import CommandGrammar.Flag
import CommandGrammar.Number.Binary64

namespace CommandGrammar

namespace Text

/-- **A code point lies in one of two tables at most** that have no interval in common. -/
theorem Intervals.not_has_of_apart {t u : Intervals} {n : Nat}
    (apart : ∀ i ∈ t, ∀ j ∈ u, i.2 < j.1 ∨ j.2 < i.1) (h : t.has n = true) : u.has n = false := by
  obtain ⟨i, hi, hin⟩ := Intervals.exists_of_has h
  rw [Bool.eq_false_iff]
  intro hu
  obtain ⟨j, hj, hjn⟩ := Intervals.exists_of_has hu
  have := apart i hi j hj
  omega

/-- **A code point has a value as a digit exactly if it is in the table.** -/
theorem isSome_digitValueIn (t : Intervals) (n : Nat) : (digitValueIn t n).isSome = t.has n := by
  induction t with
  | nil => rfl
  | cons i rest ih =>
    unfold digitValueIn Intervals.has
    split
    · rfl
    · split
      · rfl
      · exact ih

/-- **A digit is in no table that has no digits.** -/
theorem not_has_of_isDecimalDigit {u : Intervals} {c : Char}
    (apart : ∀ i ∈ decimalDigits, ∀ j ∈ u, i.2 < j.1 ∨ j.2 < i.1)
    (h : isDecimalDigit c = true) : u.has c.toNat = false := by
  have hdigit : decimalDigits.has c.toNat = true := by
    rw [← isSome_digitValueIn]
    exact h
  exact Intervals.not_has_of_apart apart hdigit

end Text

open Text

namespace Numeral

/-- **No digit is padding.** -/
theorem isPadding_of_isDecimalDigit {c : Char} (h : isDecimalDigit c = true) :
    isPadding c = false := by
  have hblank : isBlank c = false := not_has_of_isDecimalDigit (by decide) h
  simp [isPadding, hblank]

/-- **A digit has no other case.** -/
theorem lowerAscii_of_isDecimalDigit {c : Char} (h : isDecimalDigit c = true) :
    lowerAscii c = c := by
  have hcapital : Intervals.has [(0x41, 0x5A)] c.toNat = false :=
    not_has_of_isDecimalDigit (by decide) h
  unfold lowerAscii Char.toLower
  split
  · rename_i hc
    have h1 : (0x41 : Nat) ≤ c.toNat := hc.1
    have h2 : c.toNat ≤ (0x5A : Nat) := hc.2
    simp [Intervals.has] at hcapital
    omega
  · rfl

/-- **Without underscores, the digits of a text are those it begins with.** -/
theorem moreDigits_of_notMem : ∀ {cs : List Char}, '_' ∉ cs →
    moreDigits cs = ((cs.takeWhile isDecimalDigit).filterMap digitValue?,
      cs.dropWhile isDecimalDigit)
  | [], _ => rfl
  | c :: rest, h => by
    have hc : c ≠ '_' := fun heq => h (heq ▸ List.mem_cons_self)
    have hrest : '_' ∉ rest := fun hmem => h (List.mem_cons_of_mem c hmem)
    have ih := moreDigits_of_notMem hrest
    rw [moreDigits.eq_3 c rest fun _ _ heq _ => hc heq]
    cases hd : digitValue? c with
    | none =>
      have hdigit : isDecimalDigit c = false := by simp [isDecimalDigit, hd]
      simp [hdigit]
    | some d =>
      have hdigit : isDecimalDigit c = true := by simp [isDecimalDigit, hd]
      simp [hdigit, hd, ih]

/-- **Without underscores, the digits of a text are those in front.** -/
theorem digits_of_notMem {cs : List Char} (h : '_' ∉ cs) :
    digits cs = ((cs.takeWhile isDecimalDigit).filterMap digitValue?,
      cs.dropWhile isDecimalDigit) := by
  cases cs with
  | nil => rfl
  | cons c rest =>
    have hrest : '_' ∉ rest := fun hmem => h (List.mem_cons_of_mem c hmem)
    unfold digits
    cases hd : digitValue? c with
    | none =>
      have hdigit : isDecimalDigit c = false := by simp [isDecimalDigit, hd]
      simp [hdigit, hd]
    | some d =>
      have hdigit : isDecimalDigit c = true := by simp [isDecimalDigit, hd]
      simp [hdigit, hd, moreDigits_of_notMem hrest]

/-- **There are digits if the text begins with one.** -/
theorem filterMap_digitValue?_eq_nil {cs : List Char} (h : ∀ c ∈ cs, isDecimalDigit c = true) :
    cs.filterMap digitValue? = [] ↔ cs = [] := by
  constructor
  · intro hnil
    cases cs with
    | nil => rfl
    | cons c rest =>
      obtain ⟨d, hd⟩ := Option.isSome_iff_exists.1 (h c List.mem_cons_self)
      rw [List.filterMap_cons_some hd] at hnil
      cases hnil
  · rintro rfl
    rfl

/-- **A text without underscores is digits**, if it is not empty and each character is one. -/
theorem digits_eq_iff {cs : List Char} (h : '_' ∉ cs) :
    ((digits cs).1 ≠ [] ∧ (digits cs).2 = []) ↔ (cs ≠ [] ∧ ∀ c ∈ cs, isDecimalDigit c = true) := by
  have hcs := List.takeWhile_append_dropWhile (p := isDecimalDigit) (l := cs)
  rw [digits_of_notMem h]
  constructor
  · rintro ⟨hsome, hnone⟩
    have hnone : cs.dropWhile isDecimalDigit = [] := hnone
    rw [hnone, List.append_nil] at hcs
    have hall := List.all_eq_true.1 (List.all_takeWhile (p := isDecimalDigit) (l := cs))
    rw [hcs] at hall
    refine ⟨?_, hall⟩
    rintro rfl
    exact hsome rfl
  · rintro ⟨hsome, hall⟩
    have htake : (cs ++ []).takeWhile isDecimalDigit = _ := List.takeWhile_append_of_pos hall
    have hdrop : (cs ++ []).dropWhile isDecimalDigit = _ := List.dropWhile_append_of_pos hall
    rw [List.append_nil, List.takeWhile_nil, List.append_nil] at htake
    rw [List.append_nil, List.dropWhile_nil] at hdrop
    rw [htake, hdrop, Ne, filterMap_digitValue?_eq_nil hall]
    exact ⟨hsome, rfl⟩

/-- The finite number that a text without a sign and padding is. -/
def finite? (negative : Bool) (body : List Char) : Option Decimal :=
  let (whole, afterWhole) := digits body
  let (places, afterPlaces) :=
    match afterWhole with
    | '.' :: rest => digits rest
    | rest => ([], rest)
  if whole = [] ∧ places = [] then none
  else (readExponent afterPlaces).map fun e =>
    .finite negative (whole ++ places) (e - places.length)

/-- **What is read as a finite number is one.** -/
theorem exists_of_finite? {negative : Bool} {body : List Char} {d : Decimal}
    (h : finite? negative body = some d) : ∃ ds e, d = .finite negative ds e := by
  unfold finite? at h
  dsimp only at h
  split at h <;> split at h
  · cases h
  · obtain ⟨e, -, rfl⟩ := Option.map_eq_some_iff.1 h
    exact ⟨_, _, rfl⟩
  · cases h
  · obtain ⟨e, -, rfl⟩ := Option.map_eq_some_iff.1 h
    exact ⟨_, _, rfl⟩

/-- **A decimal is one of three words, or a finite number behind a sign.** -/
theorem readDecimal_eq (s : String) :
    readDecimal s =
      let body := (sign (unpad s.toList)).2
      let word := String.ofList (body.map lowerAscii)
      if word = "inf" ∨ word = "infinity" then some (.infinite (sign (unpad s.toList)).1)
      else if word = "nan" then some .notANumber
      else finite? (sign (unpad s.toList)).1 body := rfl

/-- **Without underscores there are none behind the sign.** -/
theorem notMem_sign {cs : List Char} (h : '_' ∉ cs) : '_' ∉ (sign cs).2 := by
  unfold sign
  split
  · exact fun hmem => h (List.mem_cons_of_mem _ hmem)
  · exact fun hmem => h (List.mem_cons_of_mem _ hmem)
  · exact h

/-- Whether a text is an exponent; it may be missing. -/
def isExponent : List Char → Bool
  | [] => true
  | c :: rest =>
    (c == 'e' || c == 'E') && !(sign rest).2.isEmpty && (sign rest).2.all isDecimalDigit

/-- What follows the digits of a text, with a point among them or not; none if there are none. -/
def afterDigits? (body : List Char) : Option (List Char) :=
  match body.dropWhile isDecimalDigit with
  | '.' :: rest =>
    if (body.takeWhile isDecimalDigit).isEmpty && (rest.takeWhile isDecimalDigit).isEmpty then none
    else some (rest.dropWhile isDecimalDigit)
  | rest => if (body.takeWhile isDecimalDigit).isEmpty then none else some rest

/-- **What begins with no sign is positive.** -/
theorem sign_of_unsigned {c : Char} {rest : List Char} (hminus : c ≠ '-') (hplus : c ≠ '+') :
    sign (c :: rest) = (false, c :: rest) :=
  sign.eq_3 _ (fun _ h => hminus (List.cons.inj h).1) fun _ h => hplus (List.cons.inj h).1

/-- **The form of a number is digits and an exponent.** -/
theorem isUnsignedNumber_eq (body : List Char) :
    isUnsignedNumber body = (afterDigits? body).any isExponent := by
  unfold isUnsignedNumber
  dsimp only
  split <;> rename_i hafter
  · have hafter : afterDigits? body = none := hafter
    rw [hafter]
    rfl
  · have hafter : afterDigits? body = some [] := hafter
    rw [hafter]
    rfl
  · rename_i c rest
    have hafter : afterDigits? body = some (c :: rest) := hafter
    rw [hafter, Option.any_some, isExponent]
    by_cases hc : (c == 'e' || c == 'E') = true
    · rw [if_pos hc, hc, Bool.true_and]
      rcases rest with _ | ⟨s, more⟩
      · rfl
      · by_cases hminus : s = '-'
        · subst hminus
          rfl
        · by_cases hplus : s = '+'
          · subst hplus
            rfl
          · rw [sign_of_unsigned hminus hplus]
            simp [hminus, hplus]
    · rw [if_neg hc, Bool.eq_false_iff.2 hc]
      rfl

/-- **Without underscores, an exponent is read exactly if it has the form of one.** -/
theorem isSome_readExponent : ∀ {rest : List Char}, '_' ∉ rest →
    (readExponent rest).isSome = isExponent rest
  | [], _ => rfl
  | c :: rest, h => by
    have hrest : '_' ∉ rest := fun hmem => h (List.mem_cons_of_mem c hmem)
    have hform : isExponent (c :: rest) = true ↔ (c = 'e' ∨ c = 'E') ∧
        (digits (sign rest).2).1 ≠ [] ∧ (digits (sign rest).2).2 = [] := by
      rw [digits_eq_iff (notMem_sign hrest)]
      simp [isExponent, and_assoc]
    rw [Bool.eq_iff_iff, hform, readExponent]
    by_cases hc : c = 'e' ∨ c = 'E'
    · rw [if_pos hc]
      rcases digits (sign rest).2 with ⟨_ | ⟨d, ds⟩, _ | ⟨c', more⟩⟩ <;> simp [hc]
    · simp [hc]

/-- **A text without underscores is a finite number if it has the form of one.** -/
theorem isSome_finite? (negative : Bool) {body : List Char} (h : '_' ∉ body) :
    (finite? negative body).isSome = isUnsignedNumber body := by
  have hwhole : (body.takeWhile isDecimalDigit).filterMap digitValue? = [] ↔
      body.takeWhile isDecimalDigit = [] :=
    filterMap_digitValue?_eq_nil (List.all_eq_true.1 List.all_takeWhile)
  have hafter : '_' ∉ body.dropWhile isDecimalDigit := fun hmem =>
    h ((List.dropWhile_suffix _).mem hmem)
  rw [isUnsignedNumber_eq]
  unfold finite? afterDigits?
  rw [digits_of_notMem h]
  generalize body.dropWhile isDecimalDigit = after at hafter
  by_cases hpoint : ∃ rest, after = '.' :: rest
  · obtain ⟨rest, rfl⟩ := hpoint
    have hrest : '_' ∉ rest := fun hmem => hafter (List.mem_cons_of_mem _ hmem)
    have hends : '_' ∉ rest.dropWhile isDecimalDigit := fun hmem =>
      hrest ((List.dropWhile_suffix _).mem hmem)
    have hplaces : (rest.takeWhile isDecimalDigit).filterMap digitValue? = [] ↔
        rest.takeWhile isDecimalDigit = [] :=
      filterMap_digitValue?_eq_nil (List.all_eq_true.1 List.all_takeWhile)
    simp only [digits_of_notMem hrest, hwhole, hplaces]
    by_cases hnone : body.takeWhile isDecimalDigit = [] ∧ rest.takeWhile isDecimalDigit = []
    · simp [hnone]
    · have hsome : ((body.takeWhile isDecimalDigit).isEmpty &&
          (rest.takeWhile isDecimalDigit).isEmpty) = false := by
        simpa using hnone
      rw [if_neg hnone, hsome, if_neg Bool.false_ne_true]
      simp [isSome_readExponent hends]
  · have hstays : ∀ c rest, after = c :: rest → c ≠ '.' := by
      rintro c rest hrest rfl
      exact hpoint ⟨rest, hrest⟩
    rcases after with _ | ⟨c, rest⟩
    · by_cases hnone : body.takeWhile isDecimalDigit = [] <;>
        simp [hnone, hwhole, isSome_readExponent]
    · have hc := hstays c rest rfl
      by_cases hnone : body.takeWhile isDecimalDigit = [] <;>
        simp [hnone, hwhole, hc, isSome_readExponent hafter]

/-- **A text that has digits begins with one, or with the point among them.** -/
theorem exists_append_of_afterDigits? {body rest : List Char} (h : afterDigits? body = some rest) :
    ∃ front, front ≠ [] ∧ body = front ++ rest ∧ ∀ c ∈ front, isDecimalDigit c = true ∨ c = '.' := by
  have hbody := List.takeWhile_append_dropWhile (p := isDecimalDigit) (l := body)
  have hdigits : ∀ {cs : List Char}, ∀ c ∈ cs.takeWhile isDecimalDigit,
      isDecimalDigit c = true ∨ c = '.' := fun c hc =>
      .inl (List.all_eq_true.1 List.all_takeWhile c hc)
  unfold afterDigits? at h
  split at h
  · rename_i more hafter
    split at h
    · cases h
    · obtain rfl := Option.some.inj h
      refine ⟨body.takeWhile isDecimalDigit ++ '.' :: more.takeWhile isDecimalDigit, by simp, ?_, ?_⟩
      · rw [List.append_assoc, List.cons_append, List.takeWhile_append_dropWhile, ← hafter, hbody]
      · intro c hc
        rcases List.mem_append.1 hc with hc | hc
        · exact hdigits c hc
        · rcases List.mem_cons.1 hc with rfl | hc
          · exact .inr rfl
          · exact hdigits c hc
  · split at h
    · cases h
    · rename_i hsome
      obtain rfl := Option.some.inj h
      exact ⟨body.takeWhile isDecimalDigit, by simpa using hsome, hbody.symm, hdigits⟩

/-- Whether a character may stand in a plain numeral. -/
def isPlain (c : Char) : Bool := isDecimalDigit c || ['.', 'e', 'E', '+', '-'].contains c

/-- **What may stand in a number is no padding.** -/
theorem not_isPadding_of_isPlain {c : Char} (h : isPlain c = true) : isPadding c = false := by
  rcases Bool.or_eq_true_iff.1 h with hdigit | hmark
  · exact isPadding_of_isDecimalDigit hdigit
  · have hall : ['.', 'e', 'E', '+', '-'].all (fun d => !isPadding d) = true := by decide
    simpa using List.all_eq_true.1 hall c (List.contains_iff_mem.1 hmark)

/-- **An exponent has only what may stand in a number.** -/
theorem isPlain_of_isExponent {rest : List Char} (h : isExponent rest = true) :
    ∀ c ∈ rest, isPlain c = true := by
  cases rest with
  | nil => exact fun _ hc => nomatch hc
  | cons mark rest =>
    simp only [isExponent, Bool.and_eq_true, List.all_eq_true] at h
    obtain ⟨⟨hmark, -⟩, hdigits⟩ := h
    have hsign : ∀ c ∈ rest, c = '-' ∨ c = '+' ∨ c ∈ (sign rest).2 := by
      unfold sign
      split <;> simp_all
    intro c hc
    rcases List.mem_cons.1 hc with rfl | hc
    · rcases Bool.or_eq_true_iff.1 hmark with hc | hc <;> rw [beq_iff_eq.1 hc] <;> decide
    · rcases hsign c hc with rfl | rfl | hc
      · decide
      · decide
      · simp [isPlain, hdigits c hc]

/-- **A text that has the form of a number** is written plainly and begins with a digit or a
point. -/
theorem of_isUnsignedNumber {body : List Char} (h : isUnsignedNumber body = true) :
    (∀ c ∈ body, isPlain c = true) ∧
      ∃ c more, body = c :: more ∧ (isDecimalDigit c = true ∨ c = '.') := by
  rw [isUnsignedNumber_eq] at h
  obtain ⟨rest, hrest, hexponent⟩ := (Option.any_eq_true _ _).1 h
  obtain ⟨front, hfront, rfl, hdigits⟩ := exists_append_of_afterDigits? hrest
  constructor
  · intro c hc
    rcases List.mem_append.1 hc with hc | hc
    · rcases hdigits c hc with hdigit | rfl
      · simp [isPlain, hdigit]
      · decide
    · exact isPlain_of_isExponent hexponent c hc
  · obtain ⟨c, more, rfl⟩ := List.exists_cons_of_ne_nil hfront
    exact ⟨c, more ++ rest, rfl, hdigits c List.mem_cons_self⟩

/-- **No underscore may stand in a plain number.** -/
theorem notMem_of_isPlain {body : List Char} (h : ∀ c ∈ body, isPlain c = true) : '_' ∉ body := by
  intro hmem
  exact absurd (h '_' hmem) (by decide)

/-- A text without the padding at its end. -/
def unpadEnd (cs : List Char) : List Char := (cs.reverse.dropWhile isPadding).reverse

/-- **Padding at the end falls off.** -/
theorem unpadEnd_concat (front : List Char) (c : Char) :
    unpadEnd (front ++ [c]) = if isPadding c then unpadEnd front else front ++ [c] := by
  unfold unpadEnd
  rw [List.reverse_append, List.reverse_singleton, List.singleton_append, List.dropWhile_cons]
  split <;> simp

/-- **A text has no padding at its end if its last character is none.** -/
theorem unpadEnd_eq_self_iff (cs : List Char) :
    unpadEnd cs = cs ↔ cs.getLast?.any isPadding = false := by
  rcases List.eq_nil_or_concat cs with rfl | ⟨front, c, rfl⟩
  · exact ⟨fun _ => rfl, fun _ => rfl⟩
  · rw [List.concat_eq_append, unpadEnd_concat, List.getLast?_concat, Option.any_some]
    cases hc : isPadding c with
    | false => simp
    | true =>
      have hlength := (List.dropWhile_suffix isPadding (l := front.reverse)).length_le
      constructor
      · intro heq
        have := congrArg List.length heq
        simp [unpadEnd] at this hlength
        omega
      · intro h
        cases h

/-- **Padding behind a dash is behind what follows the dash.** -/
theorem unpad_dash (cs : List Char) : unpad ('-' :: cs) = '-' :: unpadEnd cs := by
  have hdash : isPadding '-' = false := by decide
  unfold unpad unpadEnd
  rw [List.dropWhile_cons_of_neg (by simp [hdash]), List.reverse_cons, List.dropWhile_append]
  cases hrest : cs.reverse.dropWhile isPadding with
  | nil => simp [hdash]
  | cons c more => simp

/-- **A text that begins with a digit or a point is no word**, but a finite number or none. -/
theorem readDecimal_of_digit {s : String} {negative : Bool} {c : Char} {more : List Char}
    (hbody : sign (unpad s.toList) = (negative, c :: more))
    (hc : isDecimalDigit c = true ∨ c = '.') : readDecimal s = finite? negative (c :: more) := by
  have hsame : lowerAscii c = c := by
    rcases hc with hdigit | rfl
    · exact lowerAscii_of_isDecimalDigit hdigit
    · decide
  have hletter : ∀ d : Char, isDecimalDigit d = false → d ≠ '.' → ∀ w : String,
      w.toList.head? = some d → String.ofList ((c :: more).map lowerAscii) ≠ w := by
    rintro d hdigit hpoint w hw rfl
    rw [String.toList_ofList, List.map_cons, List.head?_cons, hsame] at hw
    obtain rfl := Option.some.inj hw
    rcases hc with hc | rfl
    · rw [hc] at hdigit
      cases hdigit
    · exact hpoint rfl
  rw [readDecimal_eq, hbody]
  dsimp only
  rw [if_neg, if_neg]
  · exact hletter 'n' (by decide) (by decide) "nan" (by decide)
  · rintro (h | h)
    · exact hletter 'i' (by decide) (by decide) "inf" (by decide) h
    · exact hletter 'i' (by decide) (by decide) "infinity" (by decide) h

/-- **An integer is a finite number.** -/
theorem exists_readDecimal_of_readInteger {s : String} {n : Int} (h : readInteger s = .ok n) :
    ∃ negative ds e, readDecimal s = some (.finite negative ds e) := by
  rcases hbody : sign (unpad s.toList) with ⟨negative, body⟩
  unfold readInteger at h
  rw [hbody] at h
  dsimp only at h
  rcases hdigits : digits body with ⟨_ | ⟨d, ds⟩, _ | ⟨c, rest⟩⟩ <;> rw [hdigits] at h
  · cases h
  · cases h
  · cases body with
    | nil => cases hdigits
    | cons c more =>
      have hc : isDecimalDigit c = true := by
        cases hd : digitValue? c with
        | none => simp [digits, hd] at hdigits
        | some d => simp [isDecimalDigit, hd]
      refine ⟨negative, d :: ds, 0, ?_⟩
      rw [readDecimal_of_digit hbody (.inl hc)]
      unfold finite?
      rw [hdigits]
      simp [readExponent]
  · cases h

/-- Whether a token is typed in a way that the form of a number leaves out: with an underscore in
it, or with padding at its end besides one newline. -/
def isLoose (token : String) : Bool :=
  token.toList.contains '_' || (withoutNewline token.toList).getLast?.any isPadding

/-- **A dash is no newline.** -/
theorem withoutNewline_dash (cs : List Char) :
    withoutNewline ('-' :: cs) = '-' :: withoutNewline cs := by
  cases cs with
  | nil => rfl
  | cons c more =>
    unfold withoutNewline
    rw [List.getLast?_cons_cons, List.dropLast_cons_cons]
    split <;> rfl

/-- **A newline is padding.** -/
theorem unpadEnd_withoutNewline (cs : List Char) : unpadEnd (withoutNewline cs) = unpadEnd cs := by
  unfold withoutNewline
  split
  · rename_i hlast
    obtain ⟨front, rfl⟩ := List.getLast?_eq_some_iff.1 hlast
    rw [List.dropLast_concat, unpadEnd_concat, if_pos (by decide)]
  · rfl

/-- **Without its last newline a text has the same underscores.** -/
theorem mem_withoutNewline_iff {cs : List Char} : '_' ∈ withoutNewline cs ↔ '_' ∈ cs := by
  unfold withoutNewline
  split
  · rename_i hlast
    obtain ⟨front, rfl⟩ := List.getLast?_eq_some_iff.1 hlast
    simp
  · rfl

/-- **A token is written strictly if it has no underscore and no padding at its end.** -/
theorem isLoose_eq_false_iff {token : String} {cs : List Char} (h : token.toList = '-' :: cs) :
    isLoose token = false ↔ '_' ∉ withoutNewline cs ∧
      unpadEnd (withoutNewline cs) = withoutNewline cs := by
  have hdash : isPadding '-' = false := by decide
  have hend : ('-' :: withoutNewline cs).getLast?.any isPadding =
      (withoutNewline cs).getLast?.any isPadding := by
    rw [List.getLast?_cons]
    cases (withoutNewline cs).getLast? with
    | none => exact hdash
    | some c => rfl
  unfold isLoose
  rw [h, withoutNewline_dash, mem_withoutNewline_iff, unpadEnd_eq_self_iff, hend]
  simp

/-- **A token has the form of a negative number** if it is not typed loosely and is read as a finite
number. -/
theorem isNegativeNumber_iff {token : String} (dash : beginsWith "-" token = true) :
    isNegativeNumber token = true ↔ isLoose token = false ∧
      ∃ negative ds e, readDecimal token = some (.finite negative ds e) := by
  obtain ⟨cs, htoken⟩ : ∃ cs, token.toList = '-' :: cs := by
    obtain ⟨cs, htoken⟩ := List.isPrefixOf_iff_prefix.1 dash
    exact ⟨cs, htoken.symm⟩
  have hbody : sign (unpad token.toList) = (true, unpadEnd (withoutNewline cs)) := by
    rw [htoken, unpad_dash, unpadEnd_withoutNewline]
    rfl
  have hform : isNegativeNumber token = isUnsignedNumber (withoutNewline cs) := by
    unfold isNegativeNumber
    rw [htoken]
    rfl
  rw [hform, isLoose_eq_false_iff htoken]
  generalize withoutNewline cs = body at hbody
  constructor
  · intro h
    obtain ⟨hplain, c, more, rfl, hc⟩ := of_isUnsignedNumber h
    have hmem := notMem_of_isPlain hplain
    have hself : unpadEnd (c :: more) = c :: more := by
      rw [unpadEnd_eq_self_iff, List.getLast?_eq_some_getLast (List.cons_ne_nil c more)]
      exact not_isPadding_of_isPlain (hplain _ (List.getLast_mem _))
    rw [hself] at hbody
    rw [← isSome_finite? true hmem] at h
    obtain ⟨d, hd⟩ := Option.isSome_iff_exists.1 h
    obtain ⟨ds, e, rfl⟩ := exists_of_finite? hd
    exact ⟨⟨hmem, hself⟩, true, ds, e, (readDecimal_of_digit hbody hc).trans hd⟩
  · rintro ⟨⟨hmem, hself⟩, negative, ds, e, hread⟩
    rw [hself] at hbody
    rw [← isSome_finite? true hmem]
    rw [readDecimal_eq, hbody] at hread
    dsimp only at hread
    split at hread
    · cases hread
    · split at hread
      · cases hread
      · rw [hread]
        rfl

end Numeral
end CommandGrammar
