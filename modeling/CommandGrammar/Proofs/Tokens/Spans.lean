/-
# Where the tokens of a line stand

However a line is split, its tokens stand inside it, in order, and none of them touches the next: a
word ends at a blank or with the line (`Splitting.spread_split`).  A quote that is left open is
found in a word behind all of them.  A line being typed has one more token, where it ends.
-/

import CommandGrammar.Proofs.Moving.Splitting

namespace CommandGrammar

open Text

/-- The tokens stand in a line of the given size, in order, and none of them touches the next. -/
structure Token.Spread (size : Nat) (ts : List Token) : Prop where
  inside : ∀ t ∈ ts, t.start ≤ t.stop ∧ t.stop ≤ size
  apart : ts.Pairwise fun t u => t.stop < u.start

namespace Token.Spread

variable {size : Nat} {t : Token} {ts us : List Token}

/-- **No tokens are spread.** -/
theorem nil (size : Nat) : Spread size [] :=
  ⟨fun _ h => absurd h List.not_mem_nil, .nil⟩

/-- **A token on the line is spread.** -/
theorem singleton (h : t.start ≤ t.stop) (h' : t.stop ≤ size) : Spread size [t] := by
  refine ⟨fun u hu => ?_, List.pairwise_singleton _ _⟩
  obtain rfl := List.mem_singleton.1 hu
  exact ⟨h, h'⟩

/-- **Tokens that are left out leave the others where they are.** -/
theorem sublist (h : Spread size ts) (hsub : us.Sublist ts) : Spread size us :=
  ⟨fun t ht => h.inside t (hsub.subset ht), h.apart.sublist hsub⟩

/-- **A later token begins where an earlier one begins, or further on.** -/
theorem start_le (h : Spread size ts) {i j : Nat} (hj : j < ts.length) (hij : i ≤ j) :
    ts[i].start ≤ ts[j].start := by
  rcases Nat.lt_or_eq_of_le hij with hlt | rfl
  · have hi := (h.inside _ (List.getElem_mem (Nat.lt_of_le_of_lt hij hj))).1
    have := List.pairwise_iff_getElem.1 h.apart i j (Nat.lt_trans hlt hj) hj hlt
    omega
  · exact Nat.le_refl _

end Token.Spread

namespace Splitting

/-- **A scan goes through what it does not leave.** -/
theorem scanWord_stop (inside : Option OpenQuote) (i : Nat) (cs : List Char) :
    (scanWord inside i cs).stop + (scanWord inside i cs).rest.length = i + cs.length := by
  fun_induction scanWord inside i cs <;> simp_all [WordScan.say] <;> omega

/-- **A word ends at a blank, or with the line.** -/
theorem isBlank_of_scanWord_rest (inside : Option OpenQuote) (i : Nat) (cs : List Char) {b : Char}
    {more : List Char} (hclosed : (scanWord inside i cs).unclosed = none)
    (hrest : (scanWord inside i cs).rest = b :: more) : isBlank b = true := by
  fun_induction scanWord inside i cs with
  | case1 => cases hrest
  | case5 i c rest _ hblank =>
    obtain ⟨rfl, -⟩ := List.cons.inj hrest
    exact hblank
  | case2 _ _ _ _ ih | case3 _ _ _ _ ih | case4 _ _ _ _ _ _ ih | case6 _ _ _ _ _ _ ih
  | case7 _ _ _ _ _ _ ih => exact ih hclosed hrest

/-- The words of a line stand between `low` and `high`, in order, and none of them touches the next;
an open quote is in a word behind them. -/
structure WordsSpread (low high : Nat) (r : List Word × Option Unterminated) : Prop where
  inside : ∀ w ∈ r.1, low ≤ w.start ∧ w.start < w.stop ∧ w.stop ≤ high
  apart : r.1.Pairwise fun v w => v.stop < w.start
  opening : ∀ u, r.2 = some u →
    low ≤ u.wordStart ∧ u.wordStart < high ∧ ∀ w ∈ r.1, w.stop < u.wordStart

namespace WordsSpread

variable {low high : Nat} {w : Word} {r : List Word × Option Unterminated}

/-- **No words are spread, wherever they might be.** -/
theorem nil (low high : Nat) : WordsSpread low high ([], none) :=
  ⟨fun _ h => absurd h List.not_mem_nil, .nil, fun _ h => nomatch h⟩

/-- **A word between the bounds is spread.** -/
theorem singleton (hlow : low ≤ w.start) (hw : w.start < w.stop) (hhigh : w.stop ≤ high) :
    WordsSpread low high ([w], none) := by
  refine ⟨fun v hv => ?_, List.pairwise_singleton _ _, fun _ h => nomatch h⟩
  obtain rfl := List.mem_singleton.1 hv
  exact ⟨hlow, hw, hhigh⟩

/-- **A word stands before the words that begin behind it.** -/
theorem cons (hlow : low ≤ w.start) (hw : w.start < w.stop) (h : WordsSpread (w.stop + 1) high r)
    (hhigh : w.stop ≤ high) : WordsSpread low high (w :: r.1, r.2) := by
  refine ⟨fun v hv => ?_, List.pairwise_cons.2 ⟨fun v hv => (h.inside v hv).1, h.apart⟩, ?_⟩
  · rcases List.mem_cons.1 hv with rfl | hv
    · exact ⟨hlow, hw, hhigh⟩
    · obtain ⟨hstart, hv⟩ := h.inside v hv
      exact ⟨by omega, hv⟩
  · intro u hu
    obtain ⟨hstart, hend, hall⟩ := h.opening u hu
    refine ⟨by omega, hend, fun v hv => ?_⟩
    rcases List.mem_cons.1 hv with rfl | hv
    · exact hstart
    · exact hall v hv

/-- **Words spread from further on are spread from before.** -/
theorem mono {low' : Nat} (h : WordsSpread low high r) (hle : low' ≤ low) :
    WordsSpread low' high r where
  inside w hw := ⟨Nat.le_trans hle (h.inside w hw).1, (h.inside w hw).2⟩
  apart := h.apart
  opening u hu := ⟨Nat.le_trans hle (h.opening u hu).1, (h.opening u hu).2⟩

end WordsSpread

/-- **The first word begins behind the blanks**, and it and what follows it end the line. -/
theorem firstWord_spans {cs rest : List Char} {c : Char} (hdrop : cs.dropWhile isBlank = c :: rest)
    (i : Nat) : i + (cs.takeWhile isBlank).length <
        (scanWord none (i + (cs.takeWhile isBlank).length) (c :: rest)).stop ∧
      (scanWord none (i + (cs.takeWhile isBlank).length) (c :: rest)).stop +
        (scanWord none (i + (cs.takeWhile isBlank).length) (c :: rest)).rest.length =
          i + cs.length := by
  have hc : isBlank c = false := by
    have := List.head?_dropWhile_not isBlank cs
    rw [hdrop] at this
    simpa using this
  have hstop := scanWord_stop none (i + (cs.takeWhile isBlank).length) (c :: rest)
  have hless := scanWord_rest_length_lt (i + (cs.takeWhile isBlank).length) rest hc
  have hlength := congrArg List.length (List.takeWhile_append_dropWhile (p := isBlank) (l := cs))
  rw [hdrop, List.length_append] at hlength
  omega

/-- **The words of a line stand behind the blanks before them, in order.** -/
theorem wordsSpread_quotedWords (lenient : Bool) (i : Nat) (cs : List Char) :
    WordsSpread (i + (cs.takeWhile isBlank).length) (i + cs.length)
      (quotedWords lenient i cs) := by
  fun_induction quotedWords lenient i cs with
  | case1 => exact .nil _ _
  | case2 i cs c rest hdrop start w q hopen hlenient =>
    have hend : w.stop + w.rest.length = i + cs.length := (firstWord_spans hdrop i).2
    have hle : w.stop ≤ i + cs.length := by omega
    exact .singleton (Nat.le_refl _) (firstWord_spans hdrop i).1 hle
  | case3 i cs c rest hdrop start w q hopen hlenient =>
    have hstart : start < w.stop := (firstWord_spans hdrop i).1
    have hend : w.stop + w.rest.length = i + cs.length := (firstWord_spans hdrop i).2
    refine ⟨fun _ h => absurd h List.not_mem_nil, .nil, fun u hu => ?_⟩
    cases hu
    have hlt : start < i + cs.length := by omega
    exact ⟨Nat.le_refl _, hlt, fun _ h => absurd h List.not_mem_nil⟩
  | case4 i cs c rest hdrop start w hclosed more ih =>
    have hend : w.stop + w.rest.length = i + cs.length := (firstWord_spans hdrop i).2
    have hle : w.stop ≤ i + cs.length := by omega
    refine .cons (Nat.le_refl _) (firstWord_spans hdrop i).1 ?_ hle
    cases hrest : w.rest with
    | nil =>
      have hmore : more = ([], none) := by
        show quotedWords lenient w.stop w.rest = _
        rw [hrest]
        exact quotedWords_of_blank rfl
      rw [hmore]
      exact .nil _ _
    | cons b behind =>
      have hb : isBlank b = true := isBlank_of_scanWord_rest _ _ _ hclosed hrest
      have hbehind : w.stop + 1 ≤ w.stop + (w.rest.takeWhile isBlank).length := by
        rw [hrest, List.takeWhile_cons_of_pos hb, List.length_cons]
        omega
      rw [hend] at ih
      exact ih.mono hbehind

/-- **The words between blanks stand in order**, from where the first of them begins. -/
theorem spread_spacedTokens {size : Nat} :
    ∀ (cs run : List Char) (i : Nat), run.length ≤ i → i + cs.length ≤ size →
      Token.Spread size (spacedTokens run i cs) ∧
        ∀ t ∈ spacedTokens run i cs, i - run.length ≤ t.start
  | [], run, i, hrun, hsize => by
    rw [spacedTokens]
    split
    · exact ⟨.nil _, fun _ h => absurd h List.not_mem_nil⟩
    · refine ⟨.singleton (Nat.sub_le _ _) (by omega), fun t ht => ?_⟩
      obtain rfl := List.mem_singleton.1 ht
      exact Nat.le_refl _
  | c :: rest, run, i, hrun, hsize => by
    rw [List.length_cons] at hsize
    rw [spacedTokens]
    split
    · obtain ⟨hspread, hstart⟩ :=
        spread_spacedTokens rest [] (i + 1) (Nat.zero_le _) (by omega : _ ≤ size)
      have hstart : ∀ t ∈ spacedTokens [] (i + 1) rest, i + 1 ≤ t.start := hstart
      split
      · exact ⟨hspread, fun t ht => by have := hstart t ht; omega⟩
      · refine ⟨⟨fun t ht => ?_, List.pairwise_cons.2 ⟨hstart, hspread.apart⟩⟩, fun t ht => ?_⟩
        · rcases List.mem_cons.1 ht with rfl | ht
          · exact ⟨Nat.sub_le _ _, by dsimp only; omega⟩
          · exact hspread.inside t ht
        · rcases List.mem_cons.1 ht with rfl | ht
          · exact Nat.le_refl _
          · have := hstart t ht
            omega
    · obtain ⟨hspread, hstart⟩ := spread_spacedTokens rest (c :: run) (i + 1)
        (by rw [List.length_cons]; omega) (by omega : _ ≤ size)
      refine ⟨hspread, fun t ht => ?_⟩
      have := hstart t ht
      rw [List.length_cons] at this
      omega

/-- **The tokens of a line stand in it, in order**, and none of them touches the next; behind them
stands the error of an open quote, if there is one. -/
theorem spread_split (way : Splitting) (line : String) (lenient : Bool) :
    Token.Spread line.length (way.split line lenient).1 ∧
      ∀ e, (way.split line lenient).2 = some e →
        e.raw = line ∧ 0 ≤ e.position ∧ e.position < line.length ∧
          ∀ t ∈ (way.split line lenient).1, (t.stop : Int) < e.position := by
  cases way with
  | whole =>
    refine ⟨?_, fun _ h => nomatch h⟩
    show Token.Spread _ (if _ then _ else _)
    split
    · exact .nil _
    · exact .singleton (Nat.zero_le _) (Nat.le_refl _)
  | spaced =>
    refine ⟨?_, fun _ h => nomatch h⟩
    exact (spread_spacedTokens line.toList [] 0 (Nat.zero_le _)
      (Nat.le_of_eq (by rw [String.length_toList, Nat.zero_add]))).1
  | quoted =>
    obtain ⟨words, open?, hwords⟩ : ∃ words open?,
        quotedWords lenient 0 line.toList = (words, open?) := ⟨_, _, rfl⟩
    have hspread := wordsSpread_quotedWords lenient 0 line.toList
    rw [hwords, String.length_toList, Nat.zero_add, Nat.zero_add] at hspread
    rw [split, hwords]
    refine ⟨⟨fun t ht => ?_, List.pairwise_map.2 hspread.apart⟩, fun e he => ?_⟩
    · obtain ⟨w, hw, rfl⟩ := List.mem_map.1 ht
      obtain ⟨-, hlt, hle⟩ := hspread.inside w hw
      exact ⟨Nat.le_of_lt hlt, hle⟩
    · obtain ⟨u, rfl, rfl⟩ := Option.map_eq_some_iff.1 he
      obtain ⟨-, hlt, hall⟩ := hspread.opening u rfl
      refine ⟨rfl, Int.natCast_nonneg _, Int.ofNat_lt.2 hlt, fun t ht => ?_⟩
      obtain ⟨w, hw, rfl⟩ := List.mem_map.1 ht
      exact Int.ofNat_lt.2 (hall w hw)

end Splitting

/-- **The tokens of a line being typed stand in it, too.** -/
theorem TokenStream.spread_typedTokens (way : Splitting) (line : String) :
    Token.Spread line.length (typedTokens way line) := by
  obtain ⟨ts, hts⟩ : ∃ ts, (way.split line true).1 = ts := ⟨_, rfl⟩
  have hspread := (way.spread_split line true).1
  rw [hts] at hspread
  unfold typedTokens
  simp only [hts]
  split
  · rename_i last hlast
    split
    · rename_i hless
      -- The last word ends before the line, and all others end before the last one begins.
      obtain ⟨front, rfl⟩ := List.getLast?_eq_some_iff.1 hlast
      refine ⟨fun t ht => ?_, List.pairwise_append.2
        ⟨hspread.apart, List.pairwise_singleton _ _, fun t ht u hu => ?_⟩⟩
      · rcases List.mem_append.1 ht with ht | ht
        · exact hspread.inside t ht
        · obtain rfl := List.mem_singleton.1 ht
          exact ⟨Nat.le_refl _, Nat.le_refl _⟩
      · obtain rfl := List.mem_singleton.1 hu
        rcases List.mem_append.1 ht with ht | ht
        · have hbefore := (List.pairwise_append.1 hspread.apart).2.2 t ht last (by simp)
          have hinside := (hspread.inside last (by simp)).1
          show t.stop < line.length
          omega
        · obtain rfl := List.mem_singleton.1 ht
          exact hless
    · exact hspread
  · exact .singleton (Nat.le_refl _) (Nat.le_refl _)

end CommandGrammar
