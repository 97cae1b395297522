/-
# Lines without quotes and backslashes

Where a line has neither quotes nor backslashes, nothing is grouped and nothing escaped.  Such a
line has the same tokens as a quoted line, strict or lenient, and as a line that blanks separate:
its maximal runs of characters that are not blank (`Splitting.MaximalRun`).

The two ways to split scan differently, but both take what blanks precede a run, and then the run
(`Splitting.tokensFrom_quoted_of_unmarked`).  What the tokens are then follows from what they cover:
a token of an unmarked line says its span, the blanks around it bound the run, and a run that has a
character in common with a token is that token.
-/

import CommandGrammar.Proofs.Tokens.Locality

namespace CommandGrammar

open Text

namespace Splitting

/-- No character is a quote or a backslash. -/
def Unmarked (cs : List Char) : Prop := ∀ c ∈ cs, isQuote c = false ∧ c ≠ '\\'

instance (cs : List Char) : Decidable (Unmarked cs) :=
  decidable_of_iff (cs.all (fun c => !isQuote c && c != '\\') = true) (by simp [Unmarked])

/-- The token is a run of characters of the line that are not blank; a blank or an end of the line
is on either side of it. -/
structure MaximalRun (line : String) (t : Token) : Prop where
  nonempty : t.start < t.stop
  inside : t.stop ≤ line.length
  text : t.text = slice line t.start t.stop
  unbroken : ∀ i c, t.start ≤ i → i < t.stop → line.toList[i]? = some c → isBlank c = false
  before : ∀ i c, i + 1 = t.start → line.toList[i]? = some c → isBlank c = true
  behind : ∀ c, line.toList[t.stop]? = some c → isBlank c = true

namespace MaximalRun

variable {line : String} {t u : Token} {i : Nat}

/-- **A run begins no later than another one that it meets.** -/
theorem start_le (h : MaximalRun line t) (h' : MaximalRun line u) (hi : t.start ≤ i)
    (hi' : i < u.stop) : t.start ≤ u.start := by
  refine Nat.le_of_not_lt fun hlt => ?_
  -- Else the character in front of the one run is inside of the other.
  obtain ⟨j, hj⟩ := Nat.exists_eq_add_one_of_ne_zero (Nat.ne_zero_of_lt hlt)
  have hinside := h'.inside
  have hjline : j < line.toList.length := by
    rw [String.length_toList]
    omega
  have hc := List.getElem?_eq_getElem hjline
  have hblank := h.before j _ hj.symm hc
  rw [h'.unbroken j _ (by omega) (by omega) hc] at hblank
  cases hblank

/-- **A run ends no sooner than another one that it meets.** -/
theorem stop_le (h : MaximalRun line t) (h' : MaximalRun line u) (hi : u.start ≤ i)
    (hi' : i < t.stop) : u.stop ≤ t.stop := by
  refine Nat.le_of_not_lt fun hlt => ?_
  have hstop : t.stop < line.toList.length := by
    rw [String.length_toList]
    exact Nat.lt_of_lt_of_le hlt h'.inside
  have hc := List.getElem?_eq_getElem hstop
  have hblank := h.behind _ hc
  rw [h'.unbroken _ _ (by omega) hlt hc] at hblank
  cases hblank

/-- **Maximal runs with a character in common are the same.** -/
theorem eq_of_common (h : MaximalRun line t) (h' : MaximalRun line u)
    (hi : t.start ≤ i ∧ i < t.stop) (hi' : u.start ≤ i ∧ i < u.stop) : t = u := by
  have hstart : t.start = u.start :=
    Nat.le_antisymm (h.start_le h' hi.1 hi'.2) (h'.start_le h hi'.1 hi.2)
  have hstop : t.stop = u.stop :=
    Nat.le_antisymm (h'.stop_le h hi.1 hi'.2) (h.stop_le h' hi'.1 hi.2)
  have htext : t.text = u.text := by rw [h.text, h'.text, hstart, hstop]
  obtain ⟨text, start, stop⟩ := t
  obtain ⟨text', start', stop'⟩ := u
  dsimp only at hstart hstop htext
  rw [hstart, hstop, htext]

end MaximalRun

/-- **Where nothing is grouped or escaped, a word says what is typed**, and no blank is in it. -/
theorem Reads.of_unmarked {form text : List Char} {left? : Option Char}
    (h : Reads none form text left?) (hform : Unmarked form) :
    text = form ∧ ∀ c ∈ form, isBlank c = false := by
  generalize hopen : (none : Option Char) = open? at h
  induction h with
  | nil => exact ⟨rfl, fun _ hc => absurd hc List.not_mem_nil⟩
  | escaped c more ih => exact absurd rfl (hform '\\' List.mem_cons_self).2
  | opening quote more ih =>
    rw [(hform _ List.mem_cons_self).1] at quote
    cases quote
  | closing quote more ih => cases hopen
  | outside slash quote blank more ih =>
    obtain ⟨rfl, hmore⟩ := ih (fun c hc => hform c (List.mem_cons_of_mem _ hc)) hopen
    exact ⟨rfl, List.forall_mem_cons.2 ⟨blank, hmore⟩⟩
  | inside slash other more ih => cases hopen

section Covers

variable {line : String} {ts : List Token} {t : Token}

/-- **Outside of the tokens a line without an error is blank.** -/
theorem Covers.isBlank_of_outside (h : Covers line (ts, none)) {i : Nat} {c : Char}
    (hc : line.toList[i]? = some c) (hout : ∀ u ∈ ts, ¬(u.start ≤ i ∧ i < u.stop)) :
    isBlank c = true :=
  h.between i c hc hout fun _ he => by cases he

/-- **In front of a token and behind it stands no other one.** -/
theorem Covers.not_mem_beside (h : Covers line (ts, none)) (ht : t ∈ ts) {i : Nat}
    (hi : i + 1 = t.start ∨ i = t.stop) : ∀ u ∈ ts, ¬(u.start ≤ i ∧ i < u.stop) := by
  intro u hu hin
  obtain ⟨j, hj, rfl⟩ := List.mem_iff_getElem.1 ht
  obtain ⟨k, hk, rfl⟩ := List.mem_iff_getElem.1 hu
  have hapart : ∀ j k (hj : j < ts.length) (hk : k < ts.length), j < k → ts[j].stop < ts[k].start :=
    List.pairwise_iff_getElem.1 h.apart
  have hinside := (h.inside _ ht).1
  rcases Nat.lt_trichotomy j k with hlt | rfl | hlt
  · have := hapart j k hj hk hlt
    omega
  · omega
  · have := hapart k j hk hj hlt
    omega

/-- **A token that covers a part of an unmarked line is a maximal run.** -/
theorem Covers.maximalRun (h : Covers line (ts, none)) (hline : Unmarked line.toList)
    (ht : t ∈ ts) : MaximalRun line t := by
  obtain ⟨hnonempty, hinside⟩ := h.inside t ht
  obtain ⟨left?, hreads⟩ := h.reads t ht
  have hspan : (slice line t.start t.stop).toList = (line.toList.take t.stop).drop t.start := by
    rw [slice, String.toList_ofList]
  have hbeside : ∀ i c, i + 1 = t.start ∨ i = t.stop → line.toList[i]? = some c →
      isBlank c = true := fun i c hi hc =>
    h.isBlank_of_outside hc (h.not_mem_beside ht hi)
  obtain ⟨htext, hsolid⟩ := hreads.of_unmarked fun c hc => by
    rw [hspan] at hc
    exact hline c (List.mem_of_mem_take (List.mem_of_mem_drop hc))
  refine ⟨hnonempty, hinside, String.toList_injective htext, fun i c hstart hstop hc => ?_,
    fun i c hi => hbeside i c (.inl hi), fun c => hbeside _ c (.inr rfl)⟩
  obtain ⟨k, rfl⟩ := Nat.exists_eq_add_of_le hstart
  refine hsolid c ?_
  rw [hspan]
  refine List.mem_of_getElem? (i := k) ?_
  rw [List.getElem?_drop, List.getElem?_take_of_lt hstop, hc]

/-- **The tokens that cover an unmarked line are its maximal runs.** -/
theorem Covers.mem_iff (h : Covers line (ts, none)) (hline : Unmarked line.toList) :
    t ∈ ts ↔ MaximalRun line t := by
  refine ⟨h.maximalRun hline, fun ht => ?_⟩
  have hstart : t.start < line.toList.length := by
    rw [String.length_toList]
    exact Nat.lt_of_lt_of_le ht.nonempty ht.inside
  have hc := List.getElem?_eq_getElem hstart
  have hsolid := ht.unbroken _ _ (Nat.le_refl _) ht.nonempty hc
  -- A run begins with a character that is not blank, so in a token.
  have hcovered : ∃ u ∈ ts, u.start ≤ t.start ∧ t.start < u.stop := by
    by_cases hin : ∃ u ∈ ts, u.start ≤ t.start ∧ t.start < u.stop
    · exact hin
    · have hblank := h.isBlank_of_outside hc fun u hu hu' => hin ⟨u, hu, hu'⟩
      rw [hsolid] at hblank
      cases hblank
  obtain ⟨u, hu, hmeet⟩ := hcovered
  rwa [ht.eq_of_common (h.maximalRun hline hu) ⟨Nat.le_refl _, ht.nonempty⟩ hmeet]

end Covers

/-- **A run in front of a blank, or of the end, is the first token**, quoted or not. -/
theorem tokensFrom_run {way : Splitting} (hway : way ≠ .whole) (lenient : Bool) (i : Nat)
    {word tail : List Char} (hne : word ≠ []) (hmarks : Unmarked word)
    (hword : ∀ c ∈ word, isBlank c = false) (htail : ∀ b ∈ tail.head?, isBlank b = true) :
    tokensFrom way lenient i (word ++ tail) =
      (⟨String.ofList word, i, i + word.length⟩ ::
          (tokensFrom way lenient (i + word.length) tail).1,
        (tokensFrom way lenient (i + word.length) tail).2) := by
  cases way with
  | whole => exact absurd rfl hway
  | quoted =>
    have hplain : word.all isPlain = true := List.all_eq_true.2 fun c hc => by
      simp [isPlain, hword c hc, hmarks c hc]
    have hrest : tail.head?.all isBlank = true := by
      cases tail with
      | nil => rfl
      | cons b more => exact htail b rfl
    rw [tokensFrom, quotedWords_plain lenient i hne hplain hrest, List.map_cons, Word.token,
      map_fst_spelled]
    rfl
  | spaced => rw [tokensFrom, spacedTokens_run hword hne htail, tokensFrom]

/-- **An unmarked line is split alike, quoted or not.** -/
theorem tokensFrom_quoted_of_unmarked (lenient : Bool) (i : Nat) (cs : List Char)
    (h : Unmarked cs) : tokensFrom .quoted lenient i cs = tokensFrom .spaced lenient i cs := by
  rcases exists_first_run cs with hblank | ⟨gap, word, tail, rfl, hgap, hword, hne, htail⟩
  · rw [tokensFrom_of_blank hblank (by decide), tokensFrom_of_blank hblank (by decide)]
  · have hmarks : Unmarked word := fun c hc =>
      h c (List.mem_append_right _ (List.mem_append_left _ hc))
    have htailMarks : Unmarked tail := fun c hc =>
      h c (List.mem_append_right _ (List.mem_append_right _ hc))
    have hshorter : tail.length < (gap ++ (word ++ tail)).length := by
      have := List.length_pos_iff.2 hne
      simp only [List.length_append]
      omega
    have hmore :=
      tokensFrom_quoted_of_unmarked lenient (i + gap.length + word.length) tail htailMarks
    rw [tokensFrom_blanks_append hgap (by decide), tokensFrom_blanks_append hgap (by decide),
      tokensFrom_run (by decide) lenient _ hne hmarks hword htail,
      tokensFrom_run (by decide) lenient _ hne hmarks hword htail, hmore]
termination_by cs.length

/-- **A line without quotes and backslashes has the same tokens, quoted or not**, strict or lenient,
and no error: its maximal runs of characters that are not blank, in order. -/
theorem unmarked_line_is_its_runs (line : String) (h : Unmarked line.toList) :
    ∃ ts, (∀ lenient, quoted.split line lenient = (ts, none)) ∧
      (∀ lenient, spaced.split line lenient = (ts, none)) ∧
      (∀ t, t ∈ ts ↔ MaximalRun line t) ∧ ts.Pairwise fun t u => t.stop < u.start := by
  have hquoted : ∀ lenient, quoted.split line lenient = (spacedTokens [] 0 line.toList, none) :=
    fun lenient => by
      rw [split_eq_tokensFrom, tokensFrom_quoted_of_unmarked lenient 0 _ h]
      rfl
  have hcovers := covers_split line false
  rw [hquoted] at hcovers
  exact ⟨_, hquoted, fun _ => rfl, fun _ => hcovers.mem_iff h, hcovers.apart⟩

/-- **Blanks beyond ASCII separate words, too**: a no-break space, an ideographic space, and an
information separator behind it. -/
theorem wide_blanks_separate_words :
    let line := "say\u00a0hi\u3000\x1cyou "
    let ts : List Token := [⟨"say", 0, 3⟩, ⟨"hi", 4, 6⟩, ⟨"you", 8, 11⟩]
    Unmarked line.toList ∧ (∀ lenient, quoted.split line lenient = (ts, none)) ∧
      spaced.split line false = (ts, none) ∧ ∀ t, t ∈ ts ↔ MaximalRun line t := by
  have hline : Unmarked "say\u00a0hi\u3000\x1cyou ".toList := by decide
  obtain ⟨ts, hquoted, hspaced, hruns, -⟩ := unmarked_line_is_its_runs _ hline
  have hts : spacedTokens [] 0 "say\u00a0hi\u3000\x1cyou ".toList =
      [⟨"say", 0, 3⟩, ⟨"hi", 4, 6⟩, ⟨"you", 8, 11⟩] := by decide +kernel
  obtain rfl := hts.symm.trans (congrArg Prod.fst (hspaced false))
  exact ⟨hline, hquoted, hspaced false, hruns⟩

end Splitting
end CommandGrammar
