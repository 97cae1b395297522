/-
# What the tokens of a quoted line cover

The tokens of a quoted line stand for all of it but its blanks (`Splitting.quoted_tokens_cover`).
Each begins with a character that is not blank and says what is typed in its span
(`Splitting.Reads`), where only two things are left out:

| left out | where |
| --- | --- |
| a backslash | before the character that it escapes |
| a quote | where it opens a group, and where it closes it |

If a quote is left open, the strict split ends before its word and the lenient one takes the word to
the end of the line; this is all that they differ in (`Splitting.quotedWords_lenient`).
-/

import CommandGrammar.Proofs.Tokens.Typing

namespace CommandGrammar

open Text

namespace Splitting

/-- `Reads open? form text left?`: a part of a word says the text; `open?` is the quote that is open
where the part begins, and `left?` the one that is open where it ends. -/
inductive Reads : Option Char → List Char → List Char → Option Char → Prop
  | nil (open? : Option Char) : Reads open? [] [] open?
  | escaped {open? left? : Option Char} {form text : List Char} (c : Char)
      (more : Reads open? form text left?) : Reads open? ('\\' :: c :: form) (c :: text) left?
  | opening {c : Char} {left? : Option Char} {form text : List Char} (quote : isQuote c = true)
      (more : Reads (some c) form text left?) : Reads none (c :: form) text left?
  | closing {c : Char} {left? : Option Char} {form text : List Char} (quote : isQuote c = true)
      (more : Reads none form text left?) : Reads (some c) (c :: form) text left?
  /-- A backslash is said only where it has nothing to escape. -/
  | outside {c : Char} {left? : Option Char} {form text : List Char} (slash : c = '\\' → form = [])
      (quote : isQuote c = false) (blank : isBlank c = false)
      (more : Reads none form text left?) : Reads none (c :: form) (c :: text) left?
  | inside {c q : Char} {left? : Option Char} {form text : List Char} (slash : c = '\\' → form = [])
      (other : c ≠ q) (more : Reads (some q) form text left?) :
      Reads (some q) (c :: form) (c :: text) left?

/-- **A scan reads the part of the line that it goes through.** -/
theorem exists_form_of_scanWord (inside : Option OpenQuote) (i : Nat) (cs : List Char)
    (hquote : ∀ q, inside = some q → isQuote q.quote = true) :
    ∃ form, cs = form ++ (scanWord inside i cs).rest ∧
      (scanWord inside i cs).stop = i + form.length ∧
      Reads (inside.map OpenQuote.quote) form ((scanWord inside i cs).read.map Prod.fst)
        ((scanWord inside i cs).unclosed.map OpenQuote.quote) := by
  -- A backslash that escapes nothing is the last character.
  have hlast : ∀ {c : Char} {rest form more : List Char}, rest = form ++ more →
      (∀ (d : Char) (r : List Char), c = '\\' → rest = d :: r → False) → c = '\\' → form = [] := by
    rintro c rest (_ | ⟨d, form⟩) more rfl hescape rfl
    · rfl
    · exact (hescape d _ rfl rfl).elim
  fun_induction scanWord inside i cs with
  | case1 inside i => exact ⟨[], rfl, rfl, .nil _⟩
  | case2 inside i c rest ih =>
    obtain ⟨form, hform, hstop, hreads⟩ := ih hquote
    refine ⟨'\\' :: c :: form, congrArg ('\\' :: c :: ·) hform, ?_, .escaped c hreads⟩
    rw [WordScan.say, hstop, List.length_cons, List.length_cons]
    omega
  | case3 i rest q hescape ih =>
    obtain ⟨form, hform, hstop, hreads⟩ := ih fun _ h => by cases h
    refine ⟨q.quote :: form, congrArg (q.quote :: ·) hform, ?_, .closing (hquote q rfl) hreads⟩
    rw [hstop, List.length_cons]
    omega
  | case4 i c rest hescape q hother ih =>
    obtain ⟨form, hform, hstop, hreads⟩ := ih hquote
    refine ⟨c :: form, congrArg (c :: ·) hform, ?_, .inside (hlast hform hescape) hother hreads⟩
    rw [WordScan.say, hstop, List.length_cons]
    omega
  | case5 i c rest => exact ⟨[], rfl, rfl, .nil _⟩
  | case6 i c rest hescape hblank hopens ih =>
    obtain ⟨form, hform, hstop, hreads⟩ := ih fun _ h => Option.some.inj h ▸ hopens
    refine ⟨c :: form, congrArg (c :: ·) hform, ?_, .opening hopens hreads⟩
    rw [hstop, List.length_cons]
    omega
  | case7 i c rest hescape hblank hopens ih =>
    obtain ⟨form, hform, hstop, hreads⟩ := ih hquote
    refine ⟨c :: form, congrArg (c :: ·) hform, ?_, .outside (hlast hform hescape)
      (Bool.eq_false_iff.2 hopens) (Bool.eq_false_iff.2 hblank) hreads⟩
    rw [WordScan.say, hstop, List.length_cons]
    omega

section

variable {chars rest : List Char} {i : Nat} {c : Char}

/-- The words stand for all of a line from `i` on but its blanks, up to a word with an open
quote. -/
structure WordsCover (chars : List Char) (i : Nat) (r : List Word × Option Unterminated) :
    Prop where
  between : ∀ j b, i ≤ j → chars[j]? = some b → (∀ w ∈ r.1, ¬(w.start ≤ j ∧ j < w.stop)) →
    (∀ u, r.2 = some u → j < u.wordStart) → isBlank b = true
  begins : ∀ w ∈ r.1, ∃ b, chars[w.start]? = some b ∧ isBlank b = false
  reads : ∀ w ∈ r.1, ∃ left?, Reads none ((chars.take w.stop).drop w.start)
    (w.read.map Prod.fst) left?
  opening : ∀ u, r.2 = some u → ∃ b, chars[u.wordStart]? = some b ∧ isBlank b = false

/-- What stands in a line where its first word from `i` on, `w`, is scanned from `start`. -/
structure FirstWord (chars : List Char) (i start : Nat) (w : WordScan) : Prop where
  before : ∀ j b, i ≤ j → j < start → chars[j]? = some b → isBlank b = true
  begins : ∃ b, chars[start]? = some b ∧ isBlank b = false
  rest : w.rest = chars.drop w.stop
  reads : ∃ left?, Reads none ((chars.take w.stop).drop start) (w.read.map Prod.fst) left?

/-- **Behind its blanks a line goes on with its first word.** -/
theorem drop_of_dropWhile (hdrop : (chars.drop i).dropWhile isBlank = c :: rest) :
    chars.drop (i + ((chars.drop i).takeWhile isBlank).length) = c :: rest := by
  have hline := List.takeWhile_append_dropWhile (p := isBlank) (l := chars.drop i)
  rw [hdrop] at hline
  generalize (chars.drop i).takeWhile isBlank = gap at hline
  rw [← List.drop_drop, ← hline, List.drop_left]

/-- **The first word stands behind the blanks.** -/
theorem firstWord_of_dropWhile (hdrop : (chars.drop i).dropWhile isBlank = c :: rest) :
    FirstWord chars i (i + ((chars.drop i).takeWhile isBlank).length)
      (scanWord none (i + ((chars.drop i).takeWhile isBlank).length) (c :: rest)) := by
  have hline := List.takeWhile_append_dropWhile (p := isBlank) (l := chars.drop i)
  have hword := drop_of_dropWhile hdrop
  rw [hdrop] at hline
  generalize hgap : (chars.drop i).takeWhile isBlank = gap at hline hword
  obtain ⟨form, hform, hstop, hreads⟩ :=
    exists_form_of_scanWord none (i + gap.length) (c :: rest) fun _ h => by cases h
  generalize scanWord none (i + gap.length) (c :: rest) = w at hform hstop hreads
  refine ⟨fun j b hij hj hb => ?_, ⟨c, ?_, ?_⟩, ?_, w.unclosed.map OpenQuote.quote, ?_⟩
  · obtain ⟨k, rfl⟩ := Nat.exists_eq_add_of_le hij
    have hk : k < gap.length := Nat.lt_of_add_lt_add_left hj
    have hmem : b ∈ gap := by
      rw [← List.getElem?_drop, ← hline, List.getElem?_append_left hk] at hb
      exact List.mem_of_getElem? hb
    rw [← hgap] at hmem
    exact List.all_eq_true.1 List.all_takeWhile b hmem
  · rw [← Nat.add_zero (i + gap.length), ← List.getElem?_drop, hword]
    rfl
  · have := List.head?_dropWhile_not isBlank (chars.drop i)
    rw [hdrop] at this
    simpa using this
  · rw [hstop, ← List.drop_drop, hword, hform, List.drop_left]
  · have hspan : (chars.take w.stop).drop (i + gap.length) = form := by
      rw [hstop, List.drop_take, hword, Nat.add_sub_cancel_left, hform, List.take_left]
    rw [hspan]
    exact hreads

/-- **The words of a line cover it.** -/
theorem wordsCover_quotedWords (lenient : Bool) {cs : List Char} (hcs : cs = chars.drop i) :
    WordsCover chars i (quotedWords lenient i cs) := by
  fun_induction quotedWords lenient i cs with
  | case1 i cs hblank =>
    refine ⟨fun j b hij hb _ _ => ?_, fun _ h => absurd h List.not_mem_nil,
      fun _ h => absurd h List.not_mem_nil, fun _ h => by cases h⟩
    obtain ⟨k, rfl⟩ := Nat.exists_eq_add_of_le hij
    have hgap := List.takeWhile_append_dropWhile (p := isBlank) (l := cs)
    rw [hblank, List.append_nil] at hgap
    rw [← List.getElem?_drop, ← hcs, ← hgap] at hb
    exact List.all_eq_true.1 List.all_takeWhile b (List.mem_of_getElem? hb)
  | case2 i cs c rest hdrop start w q hopen hlenient =>
    subst hcs
    obtain ⟨hbefore, hbegins, hrest, hreads⟩ : FirstWord chars i start w :=
      firstWord_of_dropWhile hdrop
    have hend : chars.length ≤ w.stop :=
      List.drop_eq_nil_iff.1 (hrest.symm.trans (rest_of_unclosed hopen))
    refine ⟨fun j b hij hb hoff _ => ?_, fun v hv => ?_, fun v hv => ?_, fun _ h => by cases h⟩
    · have hj : j < w.stop := Nat.lt_of_lt_of_le (List.getElem?_eq_some_iff.1 hb).1 hend
      exact hbefore j b hij
        (Nat.lt_of_not_le fun hle => hoff _ List.mem_cons_self ⟨hle, hj⟩) hb
    · obtain rfl := List.mem_singleton.1 hv
      exact hbegins
    · obtain rfl := List.mem_singleton.1 hv
      exact hreads
  | case3 i cs c rest hdrop start w q hopen hlenient =>
    subst hcs
    obtain ⟨hbefore, hbegins, -, -⟩ : FirstWord chars i start w := firstWord_of_dropWhile hdrop
    refine ⟨fun j b hij hb _ hless => hbefore j b hij (hless _ rfl) hb,
      fun _ h => absurd h List.not_mem_nil, fun _ h => absurd h List.not_mem_nil, fun u hu => ?_⟩
    cases hu
    exact hbegins
  | case4 i cs c rest hdrop start w hclosed more ih =>
    subst hcs
    obtain ⟨hbefore, hbegins, hrest, hreads⟩ : FirstWord chars i start w :=
      firstWord_of_dropWhile hdrop
    have hmore : WordsCover chars w.stop more := ih hrest
    -- A character stands in front of the first word, inside it, or among the other words.
    refine ⟨fun j b hij hb hoff hless => ?_, fun v hv => ?_, fun v hv => ?_, hmore.opening⟩
    · rcases Nat.lt_or_ge j start with hj | hj
      · exact hbefore j b hij hj hb
      · have hstop : w.stop ≤ j :=
          Nat.le_of_not_lt fun hlt => hoff _ List.mem_cons_self ⟨hj, hlt⟩
        exact hmore.between j b hstop hb (fun v hv => hoff v (List.mem_cons_of_mem _ hv)) hless
    · rcases List.mem_cons.1 hv with rfl | hv
      · exact hbegins
      · exact hmore.begins v hv
    · rcases List.mem_cons.1 hv with rfl | hv
      · exact hreads
      · exact hmore.reads v hv

/-- **A lenient scan finds the words of a strict one**, and closes the word that the strict one
stops at. -/
theorem quotedWords_lenient (i : Nat) (cs : List Char) :
    ((quotedWords false i cs).2 = none → quotedWords true i cs = quotedWords false i cs) ∧
      ∀ u, (quotedWords false i cs).2 = some u → ∃ w : Word,
        w.start = u.wordStart ∧ w.stop = i + cs.length ∧
          quotedWords true i cs = ((quotedWords false i cs).1 ++ [w], none) := by
  fun_induction quotedWords false i cs with
  | case1 i cs hblank => exact ⟨fun _ => quotedWords_of_blank hblank, fun _ h => by cases h⟩
  | case2 i cs c rest hdrop start w q hopen hlenient => cases hlenient
  | case3 i cs c rest hdrop start w q hopen hlenient =>
    refine ⟨fun h => ?_, fun u hu => ?_⟩
    · cases h
    · cases hu
      have hend : w.stop + w.rest.length = i + cs.length := (firstWord_spans hdrop i).2
      have hrest : w.rest = [] := rest_of_unclosed hopen
      rw [hrest] at hend
      refine ⟨⟨w.read, start, w.stop⟩, rfl, hend, ?_⟩
      rw [quotedWords_of_word hdrop]
      dsimp only
      rw [show (scanWord none _ (c :: rest)).unclosed = some q from hopen]
      rfl
  | case4 i cs c rest hdrop start w hclosed more ih =>
    have hword : quotedWords true i cs =
        (⟨w.read, start, w.stop⟩ :: (quotedWords true w.stop w.rest).1,
          (quotedWords true w.stop w.rest).2) := by
      rw [quotedWords_of_word hdrop]
      dsimp only
      rw [show (scanWord none _ (c :: rest)).unclosed = none from hclosed]
    obtain ⟨hsame, hcloses⟩ := ih
    refine ⟨fun h => ?_, fun u hu => ?_⟩
    · rw [hword, hsame h]
    · obtain ⟨v, hstart, hstop, hmore⟩ := hcloses u hu
      have hend : w.stop + w.rest.length = i + cs.length := (firstWord_spans hdrop i).2
      refine ⟨v, hstart, hstop.trans hend, ?_⟩
      rw [hword, hmore]
      rfl

end

/-- The tokens stand for all of a quoted line but its blanks, up to the error that stands behind
them, and say what is typed in their spans. -/
structure Covers (line : String) (r : List Token × Option ParseError) : Prop where
  inside : ∀ t ∈ r.1, t.start < t.stop ∧ t.stop ≤ line.length
  /-- Each token ends before the next one begins. -/
  apart : r.1.Pairwise fun t u => t.stop < u.start
  between : ∀ i c, line.toList[i]? = some c → (∀ t ∈ r.1, ¬(t.start ≤ i ∧ i < t.stop)) →
    (∀ e, r.2 = some e → (i : Int) < e.position) → isBlank c = true
  begins : ∀ t ∈ r.1, ∃ c, line.toList[t.start]? = some c ∧ isBlank c = false
  /-- Nothing is left out of a span but its quotes and the backslashes that escape. -/
  reads : ∀ t ∈ r.1, ∃ left?, Reads none (slice line t.start t.stop).toList t.text.toList left?

/-- **The tokens of a quoted line cover it.** -/
theorem covers_split (line : String) (lenient : Bool) :
    Covers line (quoted.split line lenient) := by
  have hspread := wordsSpread_quotedWords lenient 0 line.toList
  have hcover : WordsCover line.toList 0 (quotedWords lenient 0 line.toList) :=
    wordsCover_quotedWords lenient rfl
  rw [Nat.zero_add, Nat.zero_add, String.length_toList] at hspread
  obtain ⟨words, open?, hwords⟩ : ∃ words open?,
      quotedWords lenient 0 line.toList = (words, open?) := ⟨_, _, rfl⟩
  rw [hwords] at hspread hcover
  rw [split, hwords]
  refine ⟨fun t ht => ?_, List.pairwise_map.2 hspread.apart, fun i c hc hoff hless => ?_,
    fun t ht => ?_, fun t ht => ?_⟩
  · obtain ⟨w, hw, rfl⟩ := List.mem_map.1 ht
    exact (hspread.inside w hw).2
  · refine hcover.between i c (Nat.zero_le i) hc (fun w hw => hoff _ (List.mem_map_of_mem hw)) ?_
    rintro u rfl
    exact Int.ofNat_lt.1 (hless _ rfl)
  · obtain ⟨w, hw, rfl⟩ := List.mem_map.1 ht
    exact hcover.begins w hw
  · obtain ⟨w, hw, rfl⟩ := List.mem_map.1 ht
    obtain ⟨left?, hreads⟩ := hcover.reads w hw
    refine ⟨left?, ?_⟩
    rw [slice, String.toList_ofList, Word.token, String.toList_ofList]
    exact hreads

/-- **The tokens of a quoted line cover it, strict or lenient.**  Where a strict split meets an
error, a word begins behind all of its tokens, and the lenient split has that word as its last
token, up to the end of the line; in all else the two are the same. -/
theorem quoted_tokens_cover (line : String) :
    (∀ lenient, Covers line (quoted.split line lenient)) ∧
    (∀ e, (quoted.split line false).2 = some e → ∃ place : Nat, e.position = place ∧
      (∃ c, line.toList[place]? = some c ∧ isBlank c = false) ∧
      (∀ t ∈ (quoted.split line false).1, t.stop < place) ∧
      ∃ text, quoted.split line true =
        ((quoted.split line false).1 ++ [⟨text, place, line.length⟩], none)) ∧
    ((quoted.split line false).2 = none →
      quoted.split line true = quoted.split line false) := by
  obtain ⟨hsame, hcloses⟩ := quotedWords_lenient 0 line.toList
  refine ⟨covers_split line, fun e he => ?_, fun hnone => ?_⟩
  · obtain ⟨u, hu, rfl⟩ := Option.map_eq_some_iff.1 he
    obtain ⟨w, hstart, hstop, hlenient⟩ := hcloses u hu
    have hcover : WordsCover line.toList 0 (quotedWords false 0 line.toList) :=
      wordsCover_quotedWords false rfl
    have hbehind := ((spread_split quoted line false).2 _ he).2.2.2
    rw [Nat.zero_add, String.length_toList] at hstop
    refine ⟨u.wordStart, rfl, hcover.opening u hu, fun t ht => Int.ofNat_lt.1 (hbehind t ht),
      String.ofList (w.read.map Prod.fst), ?_⟩
    rw [split, split, hlenient, ← hstart, ← hstop]
    exact congrArg (Prod.mk · none) List.map_append
  · have hopen : (quotedWords false 0 line.toList).2 = none := Option.map_eq_none_iff.1 hnone
    rw [split, split, hsame hopen]

end Splitting
end CommandGrammar
