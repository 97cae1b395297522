/-
# Negative numbers among the flags

A token that has the form of a negative number is no flag, so it may be given for an argument.  A
leaf that reads numbers takes more than that form, and what it takes besides has the form of a flag
(`Numeral.looksLikeFlag_iff_of_read`):

| token | leaf | form of a flag |
| --- | --- | --- |
| a plain finite number | `real`; `integer` if it is one | no |
| with underscores, or with padding at its end | the same | yes, one newline apart |
| `-inf`, `-infinity`, `-nan` | `real` | yes |
-/

import CommandGrammar.Host.Usual
import CommandGrammar.Proofs.Flags.FirstFlag
import CommandGrammar.Proofs.Numbers.Plain

namespace CommandGrammar

open Text

namespace Numeral

/-- Whether a decimal numeral is that of a finite number. -/
def Decimal.isFinite : Decimal → Bool
  | .finite .. => true
  | .infinite _ | .notANumber => false

variable {o : Occasion} {p : Progress} {t : Token}

/-- **A leaf that reads a token takes it if its text has a value.** -/
theorem exists_of_readToken_ok {read : String → Except Problem Value} {vs : List Value}
    (head : p.stream.head? = some t) (h : (Leaf.readToken read p).result = .ok vs) :
    ∃ v, read t.text = .ok v := by
  obtain ⟨r, hread⟩ := Step.token_of_head? head
  unfold Leaf.readToken at h
  rw [Step.bind_of_ok hread] at h
  cases hv : read t.text with
  | ok v => exact ⟨v, rfl⟩
  | error problem =>
    dsimp only at h
    rw [hv] at h
    cases h

/-- **What an integer is read from is the spelling of one.** -/
theorem exists_of_read_integer_ok {vs : List Value} (head : p.stream.head? = some t)
    (h : (Leaf.integer.read o p).result = .ok vs) : ∃ n, readInteger t.text = .ok n := by
  rw [Leaf.read] at h
  obtain ⟨v, hv⟩ := exists_of_readToken_ok head h
  cases hn : readInteger t.text with
  | ok n => exact ⟨n, rfl⟩
  | error fault =>
    rw [hn] at hv
    cases hv

/-- **A spelling of an integer is read as that integer.** -/
theorem result_read_integer {n : Int} (head : p.stream.head? = some t)
    (h : (readInteger t.text).toOption = some n) :
    (Leaf.integer.read o p).result = .ok [.integer n] := by
  obtain ⟨r, hread⟩ := Step.token_of_head? head
  cases hn : readInteger t.text with
  | error fault =>
    rw [hn] at h
    cases h
  | ok m =>
    rw [hn] at h
    cases h
    rw [Leaf.read, Leaf.readToken, Step.bind_of_ok hread]
    dsimp only
    rw [hn]
    rfl

/-- **What a number is read from is the spelling of one.** -/
theorem exists_of_read_real_ok {vs : List Value} (head : p.stream.head? = some t)
    (h : (Leaf.real.read o p).result = .ok vs) : ∃ d, readDecimal t.text = some d := by
  rw [Leaf.read] at h
  obtain ⟨v, hv⟩ := exists_of_readToken_ok head h
  cases hx : Binary64.read? t.text with
  | none =>
    rw [hx] at hv
    cases hv
  | some x =>
    rw [Binary64.read?, Option.map_eq_some_iff] at hx
    obtain ⟨d, hd, -⟩ := hx
    exact ⟨d, hd⟩

/-- **A decimal numeral is read as a real number.** -/
theorem exists_read_real {d : Decimal} (head : p.stream.head? = some t)
    (h : readDecimal t.text = some d) : ∃ x r, Leaf.real.read o p = ⟨.ok [.real x], r, []⟩ ∧
      Step.next p = ⟨.ok t.text, r, []⟩ := by
  obtain ⟨hc, hnext⟩ := TokenStream.next_of_head? head
  have htoken : Step.token p = ⟨.ok (t.text, p.stream.position),
      { p with stream := p.stream.withCursor (p.stream.cursor + 1) hc }, []⟩ := by
    rw [Step.token, hnext]
  have hvalue : Binary64.read? t.text = some (Binary64.ofDecimal d) := by
    rw [Binary64.read?, h]
    rfl
  refine ⟨Binary64.ofDecimal d, _, ?_, by rw [Step.next, hnext]⟩
  rw [Leaf.read, Leaf.readToken, Step.bind_of_ok htoken]
  dsimp only
  rw [hvalue]
  rfl

/-- **A number that begins with a dash has the form of a flag**, unless it has that of a number. -/
theorem looksLikeFlag_of_readDecimal {token : String} {d : Decimal}
    (dash : beginsWith "-" token = true) (h : readDecimal token = some d) :
    looksLikeFlag token = !isNegativeNumber token := by
  obtain ⟨cs, htoken⟩ := List.isPrefixOf_iff_prefix.1 dash
  cases hnumber : isNegativeNumber token with
  | true => exact looksLikeFlag_of_isNegativeNumber hnumber
  | false =>
    cases cs with
    | nil =>
      obtain rfl : "-" = token := String.toList_injective htoken
      have hnone : readDecimal "-" = none := by decide +kernel
      rw [hnone] at h
      cases h
    | cons c rest =>
      refine looksLikeFlag_of_dash htoken.symm ?_ hnumber
      rintro rfl
      have hnone : readDecimal "--" = none := by decide +kernel
      rw [hnone] at h
      cases h

/-- **A number that begins with a dash is a flag where it is typed loosely, or not finite.**  What a
leaf reads as an integer has the form of a flag exactly if it is typed loosely; what it reads as a
real number has it also if that is not finite.  And whatever has the form of a negative number is
read as a real number. -/
theorem looksLikeFlag_iff_of_read (o : Occasion) (head : p.stream.head? = some t) :
    (∀ vs, (Leaf.integer.read o p).result = .ok vs → beginsWith "-" t.text = true →
      (looksLikeFlag t.text = true ↔ isLoose t.text = true)) ∧
    (∀ vs, (Leaf.real.read o p).result = .ok vs → beginsWith "-" t.text = true →
      (looksLikeFlag t.text = true ↔
        isLoose t.text = true ∨ ∃ d, readDecimal t.text = some d ∧ d.isFinite = false)) ∧
    (isNegativeNumber t.text = true →
      ∃ x r, Leaf.real.read o p = ⟨.ok [.real x], r, []⟩ ∧ Step.next p = ⟨.ok t.text, r, []⟩) := by
  have hform : ∀ {d}, beginsWith "-" t.text = true → readDecimal t.text = some d →
      (looksLikeFlag t.text = true ↔ isLoose t.text = true ∨ d.isFinite = false) := by
    intro d dash hread
    have hnumber := isNegativeNumber_iff dash
    rw [hread] at hnumber
    rw [looksLikeFlag_of_readDecimal dash hread, Bool.not_eq_true', Bool.eq_false_iff, Ne, hnumber]
    cases d with
    | finite negative ds e => simp [Decimal.isFinite]
    | infinite negative => simp [Decimal.isFinite]
    | notANumber => simp [Decimal.isFinite]
  refine ⟨fun vs h dash => ?_, fun vs h dash => ?_, fun h => ?_⟩
  · obtain ⟨n, hn⟩ := exists_of_read_integer_ok head h
    obtain ⟨negative, ds, e, hread⟩ := exists_readDecimal_of_readInteger hn
    rw [hform dash hread]
    simp [Decimal.isFinite]
  · obtain ⟨d, hread⟩ := exists_of_read_real_ok head h
    rw [hform dash hread, hread]
    simp
  · have dash : beginsWith "-" t.text = true := by
      unfold isNegativeNumber at h
      unfold beginsWith
      split at h
      · rename_i cs hcs
        rw [hcs]
        rfl
      · cases h
    obtain ⟨-, negative, ds, e, hread⟩ := (isNegativeNumber_iff dash).1 h
    exact exists_read_real head hread

/-- `-5 ` in quotes is read as an integer, and has the form of a flag for the blank at its end. -/
theorem padded_number_looks_like_flag :
    let o : Occasion := ⟨.bare "tester", ⟨2024, 5, 31, 12, 34, 56, 789012, none⟩, .usual⟩
    let p : Progress := .ofStream (.ofLine .quoted "\x22-5 \x22 7")
    let t : Token := ⟨"-5 ", 0, 5⟩
    p.stream.head? = some t ∧ (Leaf.integer.read o p).result = .ok [.integer (-5)] ∧
      isLoose t.text = true ∧ looksLikeFlag t.text = true := by
  intro o p t
  have hhead : p.stream.head? = some t := by decide +kernel
  have hread : (Leaf.integer.read o p).result = .ok [.integer (-5)] :=
    result_read_integer hhead (by decide +kernel)
  have hloose : isLoose t.text = true := by decide +kernel
  have hflag := (looksLikeFlag_iff_of_read o hhead).1 _ hread (by decide +kernel)
  exact ⟨hhead, hread, hloose, hflag.2 hloose⟩

/-- **A number with an underscore is taken for a flag**: the leaf for integers reads `-1_000`, but
flags that refuse unknown names do not leave it to that leaf. -/
theorem underscored_number_is_taken_for_flag :
    let o : Occasion := ⟨.bare "tester", ⟨2024, 5, 31, 12, 34, 56, 789012, none⟩, .usual⟩
    let fs : Flags := { flags := [⟨"q", [], .switch none⟩] }
    let p : Progress := .ofStream (.ofLine .quoted "-1_000")
    (Leaf.integer.read o p).result = .ok [.integer (-1000)] ∧ looksLikeFlag "-1_000" = true ∧
      ∃ e, (fs.parse o (fun _ => false) p).result = .error e := by
  intro o fs p
  have hflag : (fs.parse o (fun _ => false) p).result.toOption.isNone = true := by decide +kernel
  have hhead : p.stream.head? = some ⟨"-1_000", 0, 6⟩ := by decide +kernel
  refine ⟨result_read_integer hhead (by decide +kernel), by decide +kernel, ?_⟩
  cases hresult : (fs.parse o (fun _ => false) p).result with
  | error e => exact ⟨e, rfl⟩
  | ok s =>
    rw [hresult] at hflag
    cases hflag

end Numeral
end CommandGrammar
