/-
# Where the characters of a word stand

A scan keeps every character that a word says with the offset it was read from.  These offsets are a
map of the word in its line (`Splitting.Traced`): each holds the character, they come in order, and
what stands between and behind them is left out for a reason.

| left out | what stands behind it |
| --- | --- |
| a quote | anything |
| a backslash | the character that it escapes, which is said |

So a character that is neither a quote nor a backslash is always said, and behind the last character
that is said there are only quotes.
-/

import CommandGrammar.Proofs.Tokens.Covering

namespace CommandGrammar

open Text

namespace Splitting

/-- The characters come from places of a line between `start` and `stop`, in order, and what is left
out there are quotes, and backslashes before a character that is said. -/
structure Traced (chars : List Char) (start stop : Nat) (read : List (Char × Nat)) : Prop where
  le : start ≤ stop
  stands : ∀ x ∈ read, chars[x.2]? = some x.1
  inside : ∀ x ∈ read, start ≤ x.2 ∧ x.2 < stop
  inOrder : read.Pairwise fun x y => x.2 < y.2
  leftOut : ∀ j c, start ≤ j → j < stop → chars[j]? = some c → (∀ x ∈ read, x.2 ≠ j) →
    isQuote c = true ∨ (c = '\\' ∧ ∃ x ∈ read, x.2 = j + 1)

namespace Traced

variable {chars : List Char} {start stop : Nat} {read : List (Char × Nat)} {c : Char}

/-- **A word of which nothing is read is traced to where it begins.** -/
theorem nil (chars : List Char) (i : Nat) : Traced chars i i [] where
  le := Nat.le_refl i
  stands _ hx := absurd hx List.not_mem_nil
  inside _ hx := absurd hx List.not_mem_nil
  inOrder := List.Pairwise.nil
  leftOut _ _ hstart hstop := absurd hstop (Nat.not_lt.2 hstart)

/-- **A character that is left out stands in front.** -/
theorem pass (h : Traced chars (start + 1) stop read) (hc : chars[start]? = some c)
    (why : isQuote c = true ∨ (c = '\\' ∧ ∃ x ∈ read, x.2 = start + 1)) :
    Traced chars start stop read where
  le := Nat.le_of_succ_le h.le
  stands := h.stands
  inside x hx := ⟨Nat.le_of_succ_le (h.inside x hx).1, (h.inside x hx).2⟩
  inOrder := h.inOrder
  leftOut j d hstart hstop hd hout := by
    rcases Nat.eq_or_lt_of_le hstart with rfl | hlater
    · obtain rfl := Option.some.inj (hc.symm.trans hd)
      exact why
    · exact h.leftOut j d hlater hstop hd hout

/-- **A character that is said stands in front.** -/
theorem say (h : Traced chars (start + 1) stop read) (hc : chars[start]? = some c) :
    Traced chars start stop ((c, start) :: read) where
  le := Nat.le_of_succ_le h.le
  stands := List.forall_mem_cons.2 ⟨hc, h.stands⟩
  inside := List.forall_mem_cons.2 ⟨⟨Nat.le_refl _, h.le⟩,
    fun x hx => ⟨Nat.le_of_succ_le (h.inside x hx).1, (h.inside x hx).2⟩⟩
  inOrder := List.pairwise_cons.2 ⟨fun x hx => (h.inside x hx).1, h.inOrder⟩
  leftOut j d hstart hstop hd hout := by
    obtain ⟨hne, hout⟩ := List.forall_mem_cons.1 hout
    have hlater : start + 1 ≤ j := Nat.lt_of_le_of_ne hstart hne
    exact (h.leftOut j d hlater hstop hd hout).imp_right fun ⟨hslash, x, hx, hnext⟩ =>
      ⟨hslash, x, List.mem_cons_of_mem _ hx, hnext⟩

end Traced

/-- **A scan traces what it reads.** -/
theorem traced_scanWord {chars : List Char} (inside : Option OpenQuote) (i : Nat) (cs : List Char)
    (hcs : chars.drop i = cs) (hquote : ∀ q, inside = some q → isQuote q.quote = true) :
    Traced chars i (scanWord inside i cs).stop (scanWord inside i cs).read := by
  have hhead : ∀ {i c rest}, chars.drop i = c :: rest →
      chars[i]? = some c ∧ chars.drop (i + 1) = rest := by
    intro i c rest h
    refine ⟨?_, by rw [← List.tail_drop, h, List.tail_cons]⟩
    rw [← List.head?_drop, h, List.head?_cons]
  fun_induction scanWord inside i cs with
  | case1 inside i => exact .nil chars i
  | case2 inside i c rest ih =>
    obtain ⟨hslash, hmore⟩ := hhead hcs
    obtain ⟨hc, hrest⟩ := hhead hmore
    exact ((ih hrest hquote).say hc).pass hslash
      (.inr ⟨rfl, _, List.mem_cons_self, rfl⟩)
  | case3 i rest q hescape ih =>
    obtain ⟨hc, hrest⟩ := hhead hcs
    exact (ih hrest fun _ h => by cases h).pass hc (.inl (hquote q rfl))
  | case4 i c rest hescape q hother ih =>
    obtain ⟨hc, hrest⟩ := hhead hcs
    exact (ih hrest hquote).say hc
  | case5 i c rest => exact .nil chars i
  | case6 i c rest hescape hblank hopens ih =>
    obtain ⟨hc, hrest⟩ := hhead hcs
    exact (ih hrest fun _ h => Option.some.inj h ▸ hopens).pass hc (.inl hopens)
  | case7 i c rest hescape hblank hopens ih =>
    obtain ⟨hc, hrest⟩ := hhead hcs
    exact (ih hrest hquote).say hc

/-- **The words of a line are traced in it.** -/
theorem traced_quotedWords {chars : List Char} (lenient : Bool) {i : Nat} {cs : List Char}
    (hcs : chars.drop i = cs) :
    ∀ w ∈ (quotedWords lenient i cs).1, Traced chars w.start w.stop w.read := by
  have hscan : ∀ {i c rest}, chars.drop i = c :: rest →
      Traced chars i (scanWord none i (c :: rest)).stop (scanWord none i (c :: rest)).read :=
    fun h => traced_scanWord none _ _ h fun _ hq => by cases hq
  fun_induction quotedWords lenient i cs with
  | case1 | case3 => exact fun _ hw => absurd hw List.not_mem_nil
  | case2 i cs c rest hdrop start w q hopen hlenient =>
    subst hcs
    intro v hv
    obtain rfl := List.mem_singleton.1 hv
    exact hscan (drop_of_dropWhile hdrop)
  | case4 i cs c rest hdrop start w hclosed more ih =>
    subst hcs
    intro v hv
    rcases List.mem_cons.1 hv with rfl | hv
    · exact hscan (drop_of_dropWhile hdrop)
    · exact ih (firstWord_of_dropWhile hdrop).rest.symm v hv

namespace Word

/-- Where the character at an index of a word stands in the line; behind the word, where the word
ends. -/
def offset (w : Word) (i : Nat) : Nat := (w.read[i]?.map Prod.snd).getD w.stop

/-- From an index on, the characters of a word stand one behind the other. -/
def TypedFrom (w : Word) (i : Nat) : Prop :=
  ∀ j, i + j < w.read.length → w.offset (i + j) = w.offset i + j

variable {chars : List Char} {w : Word} {i j : Nat}

/-- **A character that was read stands where it was read.** -/
theorem offset_eq (hi : i < w.read.length) : w.offset i = w.read[i].2 := by
  unfold offset
  rw [List.getElem?_eq_getElem hi]
  rfl

section

variable (h : Traced chars w.start w.stop w.read)

include h

/-- **The character of a word stands at its offset.** -/
theorem getElem?_offset (hi : i < w.read.length) :
    chars[w.offset i]? = w.token.text.toList[i]? := by
  rw [offset_eq hi, h.stands _ (List.getElem_mem hi), token, String.toList_ofList, List.getElem?_map,
    List.getElem?_eq_getElem hi, Option.map_some]

/-- **A character that was read stands within the word.** -/
theorem offset_inside (hi : i < w.read.length) : w.start ≤ w.offset i ∧ w.offset i < w.stop := by
  rw [offset_eq hi]
  exact h.inside _ (List.getElem_mem hi)

/-- **Offsets come in order.** -/
theorem offset_lt (hij : i < j) (hj : j < w.read.length) : w.offset i < w.offset j := by
  rw [offset_eq (Nat.lt_trans hij hj), offset_eq hj]
  exact List.pairwise_iff_getElem.1 h.inOrder i j (Nat.lt_trans hij hj) hj hij

/-- **Characters stand in the order in which they are read.** -/
theorem offset_lt_iff (hi : i < w.read.length) (hj : j < w.read.length) :
    w.offset i < w.offset j ↔ i < j := by
  refine ⟨fun hlt => Nat.lt_of_not_le fun hle => ?_, fun hlt => offset_lt h hlt hj⟩
  rcases Nat.eq_or_lt_of_le hle with rfl | hback
  · exact Nat.lt_irrefl _ hlt
  · exact Nat.lt_asymm hlt (offset_lt h hback hi)

/-- **Characters stand in the order in which they are read, or at the same place.** -/
theorem offset_le_iff (hi : i < w.read.length) (hj : j < w.read.length) :
    w.offset i ≤ w.offset j ↔ i ≤ j := by
  rw [← Nat.not_lt, ← Nat.not_lt, offset_lt_iff h hj hi]

/-- **A character stands at least as far behind another as it does in the word.** -/
theorem offset_add_le (hj : i + j < w.read.length) : w.offset i + j ≤ w.offset (i + j) := by
  induction j with
  | zero => exact Nat.le_refl _
  | succ j ih =>
    have hlast := ih (Nat.lt_of_succ_lt hj)
    have hnext : w.offset (i + j) < w.offset (i + (j + 1)) := offset_lt h (Nat.lt_succ_self _) hj
    omega

/-- **What bounds the offsets of a word bounds what is left of it.** -/
theorem offset_add_length_le (hi : i < w.read.length) {bound : Nat}
    (hbound : ∀ j < w.read.length, w.offset j < bound) :
    w.offset i + (w.read.length - i) ≤ bound := by
  have hlast : i + (w.read.length - 1 - i) < w.read.length := by omega
  have hle := offset_add_le h hlast
  have hlt := hbound _ hlast
  omega

/-- **What no character of a word comes from is a quote, or a backslash.** -/
theorem quote_or_slash {p : Nat} {c : Char} (hstart : w.start ≤ p) (hstop : p < w.stop)
    (hc : chars[p]? = some c) (hout : ∀ i < w.read.length, w.offset i ≠ p) :
    isQuote c = true ∨ (c = '\\' ∧ ∃ i < w.read.length, w.offset i = p + 1) := by
  have hplace : ∀ x ∈ w.read, ∃ i, i < w.read.length ∧ w.offset i = x.2 := by
    intro x hx
    obtain ⟨i, hi, rfl⟩ := List.mem_iff_getElem.1 hx
    exact ⟨i, hi, offset_eq hi⟩
  refine (h.leftOut p c hstart hstop hc fun x hx hp => ?_).imp_right fun ⟨hslash, x, hx, hnext⟩ => ?_
  · obtain ⟨i, hi, hix⟩ := hplace x hx
    exact hout i hi (hix.trans hp)
  · obtain ⟨i, hi, hix⟩ := hplace x hx
    exact ⟨hslash, i, hi, hix.trans hnext⟩

/-- **A character that is neither a quote nor a backslash is said.** -/
theorem exists_offset {p : Nat} {c : Char} (hstart : w.start ≤ p) (hstop : p < w.stop)
    (hc : chars[p]? = some c) (hquote : isQuote c = false) (hslash : c ≠ '\\') :
    ∃ i < w.read.length, w.offset i = p := by
  by_cases hsaid : ∃ i < w.read.length, w.offset i = p
  · exact hsaid
  · rcases quote_or_slash h hstart hstop hc fun i hi hp => hsaid ⟨i, hi, hp⟩ with hq | ⟨hs, -⟩
    · rw [hquote] at hq
      cases hq
    · exact absurd hs hslash

/-- **Behind the last character of a word there are only quotes.** -/
theorem isQuote_of_behind {p : Nat} {c : Char} (hstart : w.start ≤ p) (hstop : p < w.stop)
    (hc : chars[p]? = some c) (hbehind : ∀ i < w.read.length, w.offset i < p) : isQuote c = true := by
  refine (quote_or_slash h hstart hstop hc fun i hi => Nat.ne_of_lt (hbehind i hi)).elim id ?_
  rintro ⟨-, i, hi, hnext⟩
  have := hbehind i hi
  omega

end

end Word
end Splitting
end CommandGrammar
