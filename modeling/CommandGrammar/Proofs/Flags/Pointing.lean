/-
# Where the value in a flag's token is pointed at

A value that is attached to a flag is a token of its own, whose place is looked up in the line: the
last place in the span of the flag's token where the line says the value (`offsetOf`).  An error in
the value stands there, or where the line ends (`Flags.position_of_readAttached_error`).

The lookup does not follow the scan that the token comes from, so the place may be another than that
of the value's first character:

| from the value on, the token is typed | the place |
| --- | --- |
| as it says, and says more than quotes | is right |
| as it says, all of it quotes | is right unless a later quote of the span says the same |
| with a quote or a backslash left out in it | is right only by chance |
-/

import CommandGrammar.Proofs.Flags.Attached
import CommandGrammar.Proofs.Tokens.Tracing

namespace CommandGrammar

open Splitting Text

namespace Splitting.Word

variable {raw : String} {w : Word} {i : Nat}

/-- What a word says from an index on. -/
def valueFrom (w : Word) (i : Nat) : List Char := w.token.text.toList.drop i

/-- **The text of a word is as long as what is read of it.** -/
theorem length_text (w : Word) : w.token.text.toList.length = w.read.length := by
  rw [token, String.toList_ofList, List.length_map]

/-- **The value from an index on has the rest of that length.** -/
theorem length_valueFrom (w : Word) (i : Nat) : (w.valueFrom i).length = w.read.length - i := by
  rw [valueFrom, List.length_drop, length_text]

/-- **A place in the value is one in the word, moved by the index.** -/
theorem lt_length_valueFrom {m : Nat} :
    m < (w.valueFrom i).length ↔ i + m < w.read.length := by
  rw [length_valueFrom]
  omega

/-- **A character of the value is one of the word, moved by the index.** -/
theorem getElem?_valueFrom (w : Word) (i m : Nat) :
    (w.valueFrom i)[m]? = w.token.text.toList[i + m]? := List.getElem?_drop

/-- Within the span of a word, what it says from an index on stands at a place of the line. -/
def ValueAt (w : Word) (raw : String) (i p : Nat) : Prop :=
  StandsAt (w.valueFrom i) raw.toList w.start w.stop p

namespace ValueAt

variable {p m : Nat} (hp : w.ValueAt raw i p)

include hp

/-- **Where a value stands, the line says it character by character.** -/
theorem getElem?_add (hm : i + m < w.read.length) :
    raw.toList[p + m]? = (w.valueFrom i)[m]? := by
  obtain ⟨more, hmore⟩ := hp.goesOn
  rw [← List.getElem?_drop, ← hmore, List.getElem?_append_left (lt_length_valueFrom.2 hm)]

/-- **The places at which the value is found stand within the span of the word.** -/
theorem inside (hm : i + m < w.read.length) : w.start ≤ p + m ∧ p + m < w.stop := by
  have hafter := hp.after
  have hbefore := hp.before
  rw [length_valueFrom] at hbefore
  omega

end ValueAt

section

variable (h : Traced raw.toList w.start w.stop w.read)

include h

/-- **The places of a word stand within the line.** -/
theorem offset_lt_length {j : Nat} (hj : j < w.read.length) : w.offset j < raw.length := by
  have hj' : j < w.token.text.toList.length := by
    rw [length_text]
    exact hj
  have hchar := (getElem?_offset h hj).trans (List.getElem?_eq_getElem hj')
  rw [← String.length_toList]
  exact (List.getElem?_eq_some_iff.1 hchar).1

/-- **The characters of a value without quotes and backslashes are said wherever it stands**, each
behind the one before it. -/
theorem exists_said_of_valueAt (hplain : ∀ c ∈ w.valueFrom i, isQuote c = false ∧ c ≠ '\\') {p : Nat}
    (hp : w.ValueAt raw i p) {first : Nat}
    (hfirst : ∀ j < w.read.length, w.offset j = p → first ≤ j) :
    ∀ m, i + m < w.read.length → ∃ j, first + m ≤ j ∧ j < w.read.length ∧ w.offset j = p + m := by
  have hsaid : ∀ m, i + m < w.read.length → ∃ j < w.read.length, w.offset j = p + m := by
    intro m hm
    have hm' := lt_length_valueFrom.2 hm
    obtain ⟨hquote, hslash⟩ := hplain _ (List.getElem_mem hm')
    obtain ⟨hstart, hstop⟩ := hp.inside hm
    refine exists_offset h hstart hstop ?_ hquote hslash
    rw [hp.getElem?_add hm, List.getElem?_eq_getElem hm']
  intro m
  induction m with
  | zero =>
    intro hm
    obtain ⟨j, hj, hplace⟩ := hsaid 0 hm
    exact ⟨j, hfirst j hj hplace, hj, hplace⟩
  | succ m ih =>
    intro hm
    obtain ⟨j, hle, hj, hplace⟩ := ih (Nat.lt_of_succ_lt hm)
    obtain ⟨j', hj', hplace'⟩ := hsaid (m + 1) hm
    have hlt : j < j' := (offset_lt_iff h hj hj').1 (by omega)
    exact ⟨j', by omega, hj', hplace'⟩

variable (hi : i < w.read.length)

include hi

/-- **A value that is typed as it says stands where its first character does.** -/
theorem valueAt_of_typedFrom (htyped : w.TypedFrom i) : w.ValueAt raw i (w.offset i) where
  after := (offset_inside h hi).1
  before := by
    rw [length_valueFrom]
    exact offset_add_length_le h hi fun j hj => (offset_inside h hj).2
  goesOn := by
    refine List.prefix_iff_getElem?.2 fun m hm => ?_
    have hm' := lt_length_valueFrom.1 hm
    rw [List.getElem?_drop, ← htyped m hm', getElem?_offset h hm', ← getElem?_valueFrom,
      List.getElem?_eq_getElem hm]

/-- **A value that is typed as it says stands further on only if it is all quotes**, because there it
runs into what is left out behind it. -/
theorem isQuote_of_valueAt_later (htyped : w.TypedFrom i) {p : Nat} (hp : w.ValueAt raw i p)
    (hlater : w.offset i < p) (m : Nat) {c : Char} (hc : (w.valueFrom i)[m]? = some c) :
    isQuote c = true := by
  have hm : i + m < w.read.length := lt_length_valueFrom.1 (List.getElem?_eq_some_iff.1 hc).1
  have hplace : raw.toList[p + m]? = some c := (hp.getElem?_add hm).trans hc
  -- Further on the character is a later one of the value, or it is left out behind the value.
  by_cases hsaid : i + (p + m - w.offset i) < w.read.length
  · refine isQuote_of_valueAt_later htyped hp hlater (p + m - w.offset i) ?_
    rw [getElem?_valueFrom, ← getElem?_offset h hsaid, htyped _ hsaid, ← hplace,
      Nat.add_sub_cancel' (by omega)]
  · obtain ⟨hstart, hstop⟩ := hp.inside hm
    refine isQuote_of_behind h hstart hstop hplace fun j hj => ?_
    rcases Nat.lt_or_ge j i with hbefore | hafter
    · have := offset_lt h hbefore hi
      omega
    · obtain ⟨k, rfl⟩ := Nat.exists_eq_add_of_le hafter
      have := htyped k hj
      omega
termination_by w.read.length - m

/-- **A value without quotes and backslashes does not stand behind its first character**: there are
too few characters there. -/
theorem le_of_valueAt (hplain : ∀ c ∈ w.valueFrom i, isQuote c = false ∧ c ≠ '\\') {p : Nat}
    (hp : w.ValueAt raw i p) : p ≤ w.offset i := by
  refine Nat.le_of_not_lt fun hlater => ?_
  have hfirst : ∀ j < w.read.length, w.offset j = p → i + 1 ≤ j :=
    fun j hj hplace => (offset_lt_iff h hi hj).1 (hplace ▸ hlater)
  obtain ⟨j, hle, hj, -⟩ := exists_said_of_valueAt h hplain hp hfirst (w.read.length - 1 - i)
    (by omega)
  omega

/-- **A value without quotes and backslashes that stands where its first character does is typed as
it says.** -/
theorem typedFrom_of_valueAt (hplain : ∀ c ∈ w.valueFrom i, isQuote c = false ∧ c ≠ '\\')
    (hp : w.ValueAt raw i (w.offset i)) : w.TypedFrom i := by
  have hfirst : ∀ j < w.read.length, w.offset j = w.offset i → i ≤ j :=
    fun j hj hplace => (offset_le_iff h hi hj).1 (Nat.le_of_eq hplace.symm)
  intro m hm
  obtain ⟨j, hle, hj, hplace⟩ := exists_said_of_valueAt h hplain hp hfirst m hm
  have hupper : w.offset (i + m) ≤ w.offset j := (offset_le_iff h hm hj).2 hle
  rw [hplace] at hupper
  exact Nat.le_antisymm hupper (offset_add_le h hm)

/-- **A token that is the text of its span stands character by character.** -/
theorem offset_of_slice (hspan : slice raw w.start w.stop = w.token.text) :
    w.offset i = w.start + i := by
  have hlength := length_slice raw w.start w.stop
  rw [hspan, length_text] at hlength
  have hfirst := (offset_inside h (Nat.zero_lt_of_lt hi)).1
  have hbefore : w.offset 0 + i ≤ w.offset (0 + i) := offset_add_le h (by omega)
  have hstop := offset_add_length_le h hi fun j hj => (offset_inside h hj).2
  have hline := offset_add_length_le h hi fun j hj => offset_lt_length h hj
  rw [Nat.zero_add] at hbefore
  omega

/-- **The looked up place is right exactly if the value stands there last**, or if the word begins
there and the value stands nowhere. -/
theorem offsetOf_eq_iff : offsetOf raw w.token i = w.offset i ↔
    (w.ValueAt raw i (w.offset i) ∧ ∀ p, w.ValueAt raw i p → p ≤ w.offset i) ∨
      (w.offset i = w.start ∧ ∀ p, ¬w.ValueAt raw i p) := by
  unfold offsetOf
  dsimp only
  split
  · -- The word is typed as it says, so its characters stand in a row.
    rename_i hspan
    replace hspan : slice raw w.start w.stop = w.token.text := hspan
    have hplace : ∀ {j}, j < w.read.length → w.offset j = w.start + j :=
      fun hj => offset_of_slice h hj hspan
    have htyped : w.TypedFrom i := fun j hj => by
      rw [hplace hj, hplace hi, Nat.add_assoc]
    have hlast : ∀ p, w.ValueAt raw i p → p ≤ w.offset i := by
      intro p hp
      have hlength := length_slice raw w.start w.stop
      rw [hspan, length_text] at hlength
      have hbefore := hp.before
      have hline := hp.goesOn.length_le
      rw [List.length_drop, String.length_toList, length_valueFrom] at hline
      rw [length_valueFrom] at hbefore
      rw [hplace hi]
      omega
    exact iff_of_true (hplace hi).symm (.inl ⟨valueAt_of_typedFrom h hi htyped, hlast⟩)
  · -- Otherwise the value is searched for from the end of the word.
    have hvalue : w.token.text.toList.drop i ≠ [] := by
      rw [Ne, List.drop_eq_nil_iff, length_text]
      omega
    rw [if_neg (by simpa using hvalue)]
    cases hfound : lastPlace? (w.token.text.toList.drop i) raw.toList w.token.start w.token.stop with
    | none =>
      have hnowhere : ∀ p, ¬w.ValueAt raw i p := not_standsAt_of_lastPlace?_none hfound
      refine ⟨fun heq => .inr ⟨heq.symm, hnowhere⟩, ?_⟩
      rintro (⟨hp, -⟩ | ⟨heq, -⟩)
      · exact absurd hp (hnowhere _)
      · exact heq.symm
    | some q =>
      obtain ⟨hq, hlast⟩ : w.ValueAt raw i q ∧ ∀ p, w.ValueAt raw i p → p ≤ q :=
        standsAt_of_lastPlace? hfound
      constructor
      · intro heq
        obtain rfl : q = w.offset i := heq
        exact .inl ⟨hq, hlast⟩
      · rintro (⟨hp, hle⟩ | ⟨-, hnowhere⟩)
        · exact Nat.le_antisymm (hle q hq) (hlast _ hp)
        · exact absurd hq (hnowhere q)

end

end Splitting.Word

/-- **An error in an attached value stands where the value is said to begin, or where the line
ends.** -/
theorem Flags.position_of_readAttached_error {o : Occasion} {f : Flag} {param : Parameter} {v : Token}
    {p : Progress} (inside : v.start < p.stream.raw.length) {e : ParseError}
    (he : (readAttached o f param v p).result = .error (.failed e)) :
    e.position = v.start ∨ e.position = p.stream.raw.length := by
  have hparse : Step.Paired (.single rfl inside inside) Eq (param.parse o) (param.parse o) :=
    Pairing.paired_parse (fun n _ => n.preserves_eq) fun _ _ => rfl
  have hrun := paired_readWhole hparse f ⟨.ofTokens p.stream.raw [v] none, p.context⟩
    ⟨.ofTokens p.stream.raw [v] none, p.context⟩ ⟨⟨.ofTokens _ v, .ofTokens _ v, rfl⟩, rfl⟩
  rw [readAttached_apply] at he
  unfold Step.within at he
  dsimp only at he
  generalize readWhole o f param ⟨.ofTokens p.stream.raw [v] none, p.context⟩ = x at hrun he
  cases hrun with
  | ok => cases he
  | broken => cases he
  | failed error =>
    cases he
    exact error.1.imp And.left And.left

namespace Splitting.Word

/-- **A value inside of a token is pointed at rightly exactly if it stands last where it is
typed.**  For every line, each of its words, strict or lenient, and each index into what the word
says: the scan has read the character at that index from its offset in the line; the place that is
looked up for it is that offset exactly if the rest of the word stands there in the line and nowhere
behind it in the word's span, or if the word begins there and its rest stands nowhere in the span.
So it is the offset whenever the rest is typed as it says and says anything but quotes; and if the
rest says neither a quote nor a backslash, then it is the offset exactly if the rest is typed as it
says, or begins the word.  An error in the rest, read as the value of a flag, stands at the place
that is looked up, or where the line ends. -/
theorem offset_is_found_iff {raw : String} {lenient : Bool} {w : Word}
    (hw : w ∈ (quotedWords lenient 0 raw.toList).1) {i : Nat} (hi : i < w.read.length) :
    raw.toList[w.offset i]? = w.token.text.toList[i]? ∧
    (offsetOf raw w.token i = w.offset i ↔
      (w.ValueAt raw i (w.offset i) ∧ ∀ p, w.ValueAt raw i p → p ≤ w.offset i) ∨
        (w.offset i = w.start ∧ ∀ p, ¬w.ValueAt raw i p)) ∧
    (w.TypedFrom i → (∃ c ∈ w.valueFrom i, isQuote c = false) →
      offsetOf raw w.token i = w.offset i) ∧
    ((∀ c ∈ w.valueFrom i, isQuote c = false ∧ c ≠ '\\') →
      (offsetOf raw w.token i = w.offset i ↔ w.TypedFrom i ∨ w.offset i = w.start)) ∧
    ∀ o f param (p : Progress) e, p.stream.raw = raw →
      (Flags.readAttached o f param (w.token.valueFrom raw i) p).result = .error (.failed e) →
        e.position = offsetOf raw w.token i ∨ e.position = raw.length := by
  have h : Traced raw.toList w.start w.stop w.read := traced_quotedWords lenient rfl w hw
  have htyped : w.TypedFrom i → (∃ c ∈ w.valueFrom i, isQuote c = false) →
      offsetOf raw w.token i = w.offset i := by
    rintro ht ⟨c, hc, hquote⟩
    refine (offsetOf_eq_iff h hi).2 (.inl ⟨valueAt_of_typedFrom h hi ht, fun p hp => ?_⟩)
    refine Nat.le_of_not_lt fun hlater => ?_
    obtain ⟨m, hm⟩ := List.mem_iff_getElem?.1 hc
    have := isQuote_of_valueAt_later h hi ht hp hlater m hm
    rw [hquote] at this
    cases this
  refine ⟨getElem?_offset h hi, offsetOf_eq_iff h hi, htyped, fun hplain => ?_, ?_⟩
  · have hfirst : ∃ c ∈ w.valueFrom i, isQuote c = false := by
      obtain ⟨c, hc⟩ := List.exists_mem_of_length_pos
        (show 0 < (w.valueFrom i).length by rw [length_valueFrom]; omega)
      exact ⟨c, hc, (hplain c hc).1⟩
    refine ⟨fun heq => ?_, fun hor => hor.elim (htyped · hfirst) fun hstart => ?_⟩
    · rcases (offsetOf_eq_iff h hi).1 heq with ⟨hp, -⟩ | ⟨hstart, -⟩
      · exact .inl (typedFrom_of_valueAt h hi hplain hp)
      · exact .inr hstart
    · refine (offsetOf_eq_iff h hi).2 ?_
      by_cases hp : w.ValueAt raw i (w.offset i)
      · exact .inl ⟨hp, fun p hp => le_of_valueAt h hi hplain hp⟩
      -- The value stands neither behind its first character nor, where the word begins, before it.
      · refine .inr ⟨hstart, fun p hp' => hp ?_⟩
        have hle := le_of_valueAt h hi hplain hp'
        have hafter := hp'.after
        rwa [show w.offset i = p by omega]
  · intro o f param p e hraw he
    have hstart : w.start < raw.length :=
      Nat.lt_of_le_of_lt (offset_inside h hi).1 (offset_lt_length h hi)
    have hinside : offsetOf raw w.token i < raw.length :=
      offsetOf_lt hstart (by rw [length_text]; exact hi)
    subst hraw
    exact Flags.position_of_readAttached_error hinside he

/-- **A value in a quoted token is pointed at rightly**, behind the quote that the token begins
with. -/
theorem value_in_quoted_token_is_found :
    let w : Word := ⟨[('-', 1), ('-', 2), ('n', 3), ('=', 4), ('a', 5), (' ', 6), ('b', 7)], 0, 9⟩
    w ∈ (quotedWords false 0 "\x22--n=a b\x22".toList).1 ∧ w.token.text = "--n=a b" ∧
      offsetOf "\x22--n=a b\x22" w.token 4 = 5 := by
  intro w
  have hw : w ∈ (quotedWords false 0 "\x22--n=a b\x22".toList).1 := by decide +kernel
  have htyped : w.TypedFrom 4 := by
    intro j hj
    have : j < 3 := Nat.lt_of_add_lt_add_left hj
    match j, this with
    | 0, _ | 1, _ | 2, _ => rfl
  exact ⟨hw, by decide +kernel, (offset_is_found_iff hw (by decide)).2.2.1 htyped
    ⟨'a', by decide +kernel, by decide⟩⟩

/-- **A value that goes on in quotes is pointed at wrongly**: that of `--n=a"b"` where the token
begins. -/
theorem value_that_goes_on_in_quotes_is_not_found :
    ¬∀ raw lenient, ∀ w ∈ (quotedWords lenient 0 raw.toList).1, ∀ i < w.read.length,
      offsetOf raw w.token i = w.offset i := by
  intro h
  let w : Word := ⟨[('-', 0), ('-', 1), ('n', 2), ('=', 3), ('a', 4), ('b', 6)], 0, 8⟩
  have := h "--n=a\x22b\x22" false w (by decide +kernel) 4 (by decide)
  exact absurd this (by decide +kernel)

end Splitting.Word
end CommandGrammar
