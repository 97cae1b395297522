/-
# The last token of a line being typed

A line being typed has a last token: the word at its end, or the empty word where it ends.  What
stands before that token decides the tokens before it, and what is put in its place decides what
follows them (`Splitting.exists_front_of_typedFrom`).

A text that is put there is read back as one token that says it only in some cases:

| the text is put there | it is read back if it has |
| --- | --- |
| as it is | no blank and no quote, and no backslash but at its end |
| between double quotes | no double quote and no backslash |

A character that is not said is a character that the scan has taken without reading it, so what is
read is shorter than what was put there (`Splitting.length_read_le`).
-/

import CommandGrammar.Proofs.Tokens.Quoting
import CommandGrammar.Proofs.Tokens.Spans

namespace CommandGrammar

open Text

namespace Splitting

section scanWord

variable {inside : Option OpenQuote} {i : Nat} {cs : List Char}

/-- **What a scan reads and what it leaves is no longer than what it was given.** -/
theorem length_read_le (inside : Option OpenQuote) (i : Nat) (cs : List Char) :
    (scanWord inside i cs).read.length + (scanWord inside i cs).rest.length ≤ cs.length := by
  fun_induction scanWord inside i cs <;> simp_all [WordScan.say] <;> omega

/-- **A quote is left open only at the end of the line.** -/
theorem rest_of_unclosed {q : OpenQuote} (h : (scanWord inside i cs).unclosed = some q) :
    (scanWord inside i cs).rest = [] := by
  fun_induction scanWord inside i cs with
  | case1 => rfl
  | case5 => cases h
  | case2 _ _ _ _ ih | case3 _ _ _ _ ih | case4 _ _ _ _ _ _ ih | case6 _ _ _ _ _ _ ih
  | case7 _ _ _ _ _ _ ih => exact ih h

/-- **A word ends where it ends, whatever follows the blank behind it.** -/
theorem exists_said_of_rest {b : Char} {more : List Char}
    (hclosed : (scanWord inside i cs).unclosed = none)
    (hrest : (scanWord inside i cs).rest = b :: more) :
    ∃ said, cs = said ++ b :: more ∧ (scanWord inside i cs).stop = i + said.length ∧
      ∀ other, scanWord inside i (said ++ b :: other) =
        { scanWord inside i cs with rest := b :: other } := by
  -- A backslash that escapes nothing is the last character, and here more follows.
  have hslash : ∀ {c : Char} {rest said : List Char}, rest = said ++ b :: more →
      (∀ (d : Char) (r : List Char), c = '\\' → rest = d :: r → False) → c ≠ '\\' := by
    rintro c rest said rfl hescape rfl
    cases said with
    | nil => exact hescape b more rfl rfl
    | cons d r => exact hescape d (r ++ b :: more) rfl rfl
  fun_induction scanWord inside i cs with
  | case1 => cases hrest
  | case2 inside i c rest ih =>
    obtain ⟨said, rfl, hstop, hsame⟩ := ih hclosed hrest
    refine ⟨'\\' :: c :: said, rfl, ?_, fun other => ?_⟩
    · simp only [WordScan.say, hstop, List.length_cons]
      omega
    · rw [List.cons_append, List.cons_append, scanWord.eq_2, hsame]
      rfl
  | case3 i rest q hescape ih =>
    obtain ⟨said, hsaid, hstop, hsame⟩ := ih hclosed hrest
    refine ⟨q.quote :: said, by rw [hsaid]; rfl, ?_, fun other => ?_⟩
    · rw [hstop, List.length_cons]
      omega
    · rw [List.cons_append, scanWord_inside _ _ (hslash hsaid hescape), if_pos rfl, hsame]
  | case4 i c rest hescape q hother ih =>
    obtain ⟨said, hsaid, hstop, hsame⟩ := ih hclosed hrest
    refine ⟨c :: said, by rw [hsaid]; rfl, ?_, fun other => ?_⟩
    · simp only [WordScan.say, hstop, List.length_cons]
      omega
    · rw [List.cons_append, scanWord_inside _ _ (hslash hsaid hescape), if_neg hother, hsame]
      rfl
  | case5 i c rest hescape hblank =>
    obtain ⟨rfl, rfl⟩ := List.cons.inj hrest
    refine ⟨[], rfl, rfl, fun other => ?_⟩
    have hplain : c ≠ '\\' := by
      rintro rfl
      exact absurd hblank (by decide)
    rw [List.nil_append, scanWord_outside _ hplain, if_pos hblank]
  | case6 i c rest hescape hblank hquote ih =>
    obtain ⟨said, hsaid, hstop, hsame⟩ := ih hclosed hrest
    refine ⟨c :: said, by rw [hsaid]; rfl, ?_, fun other => ?_⟩
    · rw [hstop, List.length_cons]
      omega
    · rw [List.cons_append, scanWord_outside _ (hslash hsaid hescape), if_neg hblank,
        if_pos hquote, hsame]
  | case7 i c rest hescape hblank hquote ih =>
    obtain ⟨said, hsaid, hstop, hsame⟩ := ih hclosed hrest
    refine ⟨c :: said, by rw [hsaid]; rfl, ?_, fun other => ?_⟩
    · simp only [WordScan.say, hstop, List.length_cons]
      omega
    · rw [List.cons_append, scanWord_outside _ (hslash hsaid hescape), if_neg hblank,
        if_neg hquote, hsame]
      rfl

end scanWord

/-- **A line ends with its first word, or goes on at a blank behind it**, and then that word stays
the first whatever follows the blank. -/
theorem quotedWords_stays (i : Nat) {cs rest : List Char} {c : Char}
    (hdrop : cs.dropWhile isBlank = c :: rest) :
    (scanWord none (i + (cs.takeWhile isBlank).length) (c :: rest)).rest = [] ∨
      ∃ (w : Word) (said : List Char) (b : Char) (more : List Char), cs = said ++ b :: more ∧
        cs.takeWhile isBlank <+: said ∧ said ≠ [] ∧ isBlank b = true ∧
        w.start = i + (cs.takeWhile isBlank).length ∧ w.stop = i + said.length ∧
        ∀ lenient other, quotedWords lenient i (said ++ b :: other) =
          (w :: (quotedWords lenient (i + said.length) (b :: other)).1,
            (quotedWords lenient (i + said.length) (b :: other)).2) := by
  obtain ⟨start, hstart⟩ : ∃ start, start = i + (cs.takeWhile isBlank).length := ⟨_, rfl⟩
  obtain ⟨w, hw⟩ : ∃ w, w = scanWord none start (c :: rest) := ⟨_, rfl⟩
  rw [← hstart, ← hw]
  have hcs := List.takeWhile_append_dropWhile (p := isBlank) (l := cs)
  rw [hdrop] at hcs
  by_cases hend : w.rest = []
  · exact .inl hend
  · -- Something is left behind the word, so it was closed, and a blank comes first.
    obtain ⟨b, more, hrest⟩ := List.exists_cons_of_ne_nil hend
    have hclosed : w.unclosed = none := by
      cases hopen : w.unclosed with
      | none => rfl
      | some q => exact absurd (hw ▸ rest_of_unclosed (hw ▸ hopen)) hend
    have hb : isBlank b = true := isBlank_of_scanWord_rest _ _ _ (hw ▸ hclosed) (hw ▸ hrest)
    have hc : isBlank c = false := by
      have := List.head?_dropWhile_not isBlank cs
      rw [hdrop] at this
      simpa using this
    obtain ⟨said, hsaid, hstop, hsame⟩ := exists_said_of_rest (hw ▸ hclosed) (hw ▸ hrest)
    rw [← hw] at hstop hsame
    obtain ⟨said, rfl⟩ : ∃ tail, said = c :: tail := by
      cases said with
      | nil =>
        rw [(List.cons.inj hsaid).1, hb] at hc
        cases hc
      | cons d tail => exact ⟨tail, by rw [(List.cons.inj hsaid).1]⟩
    have hplace : w.stop = i + (cs.takeWhile isBlank ++ c :: said).length := by
      rw [hstop, hstart, List.length_append, Nat.add_assoc]
    refine .inr ⟨⟨w.read, start, w.stop⟩, cs.takeWhile isBlank ++ c :: said, b, more, ?_,
      List.prefix_append _ _, by simp, hb, rfl, hplace, fun lenient other => ?_⟩
    · rw [List.append_assoc, ← hsaid, hcs]
    · have hneg : ¬isBlank c = true := by
        rw [hc]
        exact Bool.false_ne_true
      have hword : (c :: said ++ b :: other).dropWhile isBlank = c :: (said ++ b :: other) :=
        List.dropWhile_cons_of_neg hneg
      have hgap : (c :: said ++ b :: other).takeWhile isBlank = [] :=
        List.takeWhile_cons_of_neg hneg
      rw [List.append_assoc, quotedWords_blanks_append lenient i List.all_takeWhile,
        quotedWords_of_word hword, hgap, ← hplace, ← hstart]
      dsimp only [List.length_nil, Nat.add_zero]
      rw [← List.cons_append, hsame other, hclosed]

/-- The tokens of a line that is still being typed and ends at `size`: if none of them ends there,
the empty one does. -/
def endingAt (size : Nat) (tokens : List Token) : List Token :=
  match tokens.getLast? with
  | some t => if t.stop < size then tokens ++ [⟨"", size, size⟩] else tokens
  | none => [⟨"", size, size⟩]

/-- **A token that ends the line is the one being typed.** -/
theorem endingAt_singleton (t : Token) : endingAt t.stop [t] = [t] :=
  if_neg (Nat.lt_irrefl _)

/-- **A token that ends before the line does is not the last one.** -/
theorem endingAt_cons {size : Nat} {t : Token} (h : t.stop < size) (ts : List Token) :
    endingAt size (t :: ts) = t :: endingAt size ts := by
  cases ts with
  | nil => exact if_pos h
  | cons u us =>
    unfold endingAt
    rw [List.getLast?_cons_cons]
    cases hlast : (u :: us).getLast? with
    | none => cases List.getLast?_eq_none_iff.1 hlast
    | some v =>
      dsimp only
      split <;> rfl

/-- The tokens of a quoted line that is still being typed, from offset `i` on. -/
def typedFrom (i : Nat) (cs : List Char) : List Token :=
  endingAt (i + cs.length) ((quotedWords true i cs).1.map Word.token)

/-- **A line being typed is split as its characters are.** -/
theorem typedTokens_quoted (line : String) :
    TokenStream.typedTokens .quoted line = typedFrom 0 line.toList := by
  unfold typedFrom
  rw [Nat.zero_add, String.length_toList]
  rfl

section typedFrom

variable {i : Nat} {cs : List Char} {c : Char} {rest : List Char}

/-- **A line being typed has a last token.** -/
theorem typedFrom_ne_nil (i : Nat) (cs : List Char) : typedFrom i cs ≠ [] := by
  unfold typedFrom endingAt
  split
  · rename_i t h
    split
    · exact List.append_ne_nil_of_right_ne_nil _ (List.cons_ne_nil _ _)
    · intro hnil
      rw [hnil] at h
      cases h
  · exact List.cons_ne_nil _ _

/-- **A blank line has the empty token where it ends.** -/
theorem typedFrom_of_blank (h : cs.dropWhile isBlank = []) :
    typedFrom i cs = [⟨"", i + cs.length, i + cs.length⟩] := by
  unfold typedFrom
  rw [quotedWords_of_blank h]
  rfl

/-- **The first token is the first word; if the line goes on behind it, the others follow.** -/
theorem typedFrom_of_word (h : cs.dropWhile isBlank = c :: rest) :
    typedFrom i cs =
      let start := i + (cs.takeWhile isBlank).length
      let w := scanWord none start (c :: rest)
      let t := (⟨w.read, start, w.stop⟩ : Word).token
      if w.rest = [] then [t] else t :: typedFrom w.stop w.rest := by
  obtain ⟨start, hstart⟩ : ∃ start, start = i + (cs.takeWhile isBlank).length := ⟨_, rfl⟩
  obtain ⟨w, hw⟩ : ∃ w, w = scanWord none start (c :: rest) := ⟨_, rfl⟩
  have hsize : w.stop + w.rest.length = i + cs.length := by
    rw [hw, hstart]
    exact (firstWord_spans h i).2
  unfold typedFrom
  rw [quotedWords_of_word h]
  dsimp only
  rw [← hstart, ← hw, ← hsize]
  by_cases hend : w.rest = []
  · have honly : ∀ more : List Word × Option Unterminated, more.1 = [] →
        endingAt (w.stop + w.rest.length) ((⟨w.read, start, w.stop⟩ :: more.1).map Word.token) =
          [(⟨w.read, start, w.stop⟩ : Word).token] := fun more hmore => by
      rw [hmore, hend]
      exact endingAt_singleton _
    rw [if_pos hend]
    cases w.unclosed with
    | some q => exact honly ([], none) rfl
    | none => exact honly (quotedWords true w.stop w.rest) (by rw [hend, quotedWords_of_blank rfl])
  · have hclosed : w.unclosed = none := by
      cases hopen : w.unclosed with
      | none => rfl
      | some q => exact absurd (hw ▸ rest_of_unclosed (hw ▸ hopen)) hend
    rw [if_neg hend, hclosed]
    exact endingAt_cons (Nat.lt_add_of_pos_right (List.length_pos_iff.2 hend)) _

/-- **Blanks before a line are passed over.** -/
theorem typedFrom_blanks_append {gap : List Char} (h : gap.all isBlank = true) (cs : List Char) :
    typedFrom i (gap ++ cs) = typedFrom (i + gap.length) cs := by
  unfold typedFrom
  rw [quotedWords_blanks_append true i h, List.length_append, Nat.add_assoc]

/-- **A line is one token, or it goes on at a blank behind the first one**, which stays the first
whatever follows that blank. -/
theorem typedFrom_cases (i : Nat) (cs : List Char) :
    (∃ t, typedFrom i cs = [t] ∧ t.start = i + (cs.takeWhile isBlank).length) ∨
      ∃ t said b more, cs = said ++ b :: more ∧ cs.takeWhile isBlank <+: said ∧ said ≠ [] ∧
        isBlank b = true ∧ ∀ other, typedFrom i (said ++ b :: other) =
          t :: typedFrom (i + said.length) (b :: other) := by
  have hcs := List.takeWhile_append_dropWhile (p := isBlank) (l := cs)
  cases hdrop : cs.dropWhile isBlank with
  | nil =>
    rw [hdrop, List.append_nil] at hcs
    exact .inl ⟨_, typedFrom_of_blank hdrop, by rw [hcs]⟩
  | cons c rest =>
    rcases quotedWords_stays i hdrop with
      hend | ⟨w, said, b, more, hline, hgap, hsaid, hb, -, hstop, hstays⟩
    · exact .inl ⟨_, (typedFrom_of_word hdrop).trans (if_pos hend), rfl⟩
    · refine .inr ⟨w.token, said, b, more, hline, hgap, hsaid, hb, fun other => ?_⟩
      have hsize : i + (said ++ b :: other).length = i + said.length + (b :: other).length := by
        rw [List.length_append, Nat.add_assoc]
      unfold typedFrom
      rw [hstays true other, List.map_cons, hsize]
      refine endingAt_cons ?_ _
      rw [Word.token, hstop]
      exact Nat.lt_add_of_pos_right (Nat.succ_pos _)

/-- **What stands before the last token decides the tokens before it**, whatever is put in the
place of the last one. -/
theorem exists_front_of_typedFrom (i : Nat) (cs : List Char) {earlier : List Token} {last : Token}
    (h : typedFrom i cs = earlier ++ [last]) :
    ∃ front back, cs = front ++ back ∧ cs.takeWhile isBlank <+: front ∧
      last.start = i + front.length ∧
      ∀ x, typedFrom i (front ++ x) = earlier ++ typedFrom last.start x := by
  rcases typedFrom_cases i cs with
    ⟨t, hone, hstart⟩ | ⟨t, said, b, more, rfl, hblanks, hsaid, hb, hmore⟩
  · rw [hone] at h
    obtain ⟨rfl, rfl⟩ : earlier = [] ∧ last = t := by
      cases earlier with
      | nil => exact ⟨rfl, (List.cons.inj h).1.symm⟩
      | cons u us => exact absurd (List.cons.inj h).2.symm (by simp)
    refine ⟨cs.takeWhile isBlank, cs.dropWhile isBlank, List.takeWhile_append_dropWhile.symm,
      List.prefix_refl _, hstart, fun x => ?_⟩
    rw [typedFrom_blanks_append List.all_takeWhile, ← hstart]
    rfl
  · rw [hmore] at h
    obtain ⟨us, rfl, hlast⟩ : ∃ us, earlier = t :: us ∧
        typedFrom (i + said.length) (b :: more) = us ++ [last] := by
      cases earlier with
      | nil => exact absurd (List.cons.inj h).2 (typedFrom_ne_nil _ _)
      | cons u us =>
        obtain ⟨rfl, hus⟩ := List.cons.inj h
        exact ⟨us, rfl, hus⟩
    have hshorter : (b :: more).length < (said ++ b :: more).length := by
      rw [List.length_append]
      exact Nat.lt_add_of_pos_left (List.length_pos_iff.2 hsaid)
    obtain ⟨front, back, hfront, hgap, hplace, hput⟩ := exists_front_of_typedFrom _ _ hlast
    -- The blank behind the first word stands before the last one.
    obtain ⟨front, rfl⟩ : ∃ tail, front = b :: tail := by
      rw [List.takeWhile_cons_of_pos hb] at hgap
      obtain ⟨tail, rfl⟩ := hgap
      exact ⟨_, rfl⟩
    refine ⟨said ++ b :: front, back, ?_, ?_, ?_, fun x => ?_⟩
    · rw [List.append_assoc, ← hfront]
    · exact hblanks.trans (List.prefix_append _ _)
    · rw [hplace, List.length_append, Nat.add_assoc]
    · rw [List.append_assoc, List.cons_append, hmore, ← List.cons_append, hput]
      rfl
termination_by cs.length

end typedFrom

/-- The characters are said as they are when they are typed without quotes. -/
def SaysItself (cs : List Char) : Prop :=
  (∀ c ∈ cs, isBlank c = false ∧ isQuote c = false) ∧ '\\' ∉ cs.dropLast

/-- The characters are said as they are when they are typed between double quotes. -/
def SaysItselfQuoted (cs : List Char) : Prop := '\x22' ∉ cs ∧ '\\' ∉ cs

section

variable {i : Nat}

/-- **A character says itself if it is no blank and no quote.** -/
theorem SaysItself.cons_iff {c : Char} {cs : List Char} (hc : c ≠ '\\') :
    SaysItself (c :: cs) ↔ (isBlank c = false ∧ isQuote c = false) ∧ SaysItself cs := by
  have hlast : '\\' ∉ (c :: cs).dropLast ↔ '\\' ∉ cs.dropLast := by
    cases cs with
    | nil => exact Iff.rfl
    | cons d ds => simp [Ne.symm hc]
  unfold SaysItself
  rw [List.forall_mem_cons, hlast, and_assoc]

/-- **A text is read as it is exactly if no character of it is taken without being said.** -/
theorem read_eq_iff (i : Nat) (cs : List Char) :
    (scanWord none i cs).read.map Prod.fst = cs ↔ SaysItself cs := by
  induction cs generalizing i with
  | nil => exact iff_of_true rfl ⟨fun _ h => absurd h List.not_mem_nil, List.not_mem_nil⟩
  | cons c cs ih =>
    by_cases hc : c = '\\'
    · subst hc
      cases cs with
      | nil =>
        have hslash : isBlank '\\' = false ∧ isQuote '\\' = false := ⟨by decide, by decide⟩
        exact iff_of_true rfl ⟨List.forall_mem_singleton.2 hslash, List.not_mem_nil⟩
      | cons d ds =>
        refine iff_of_false (fun h => ?_) fun h => h.2 List.mem_cons_self
        have hlength := congrArg List.length h
        have hle := length_read_le none (i + 2) ds
        rw [scanWord.eq_2] at hlength
        simp only [WordScan.say, List.length_map, List.length_cons] at hlength
        omega
    · rw [SaysItself.cons_iff hc, scanWord_outside _ hc]
      cases hblank : isBlank c with
      | true =>
        rw [if_pos rfl]
        exact iff_of_false (List.cons_ne_nil c cs).symm fun h => Bool.noConfusion h.1.1
      | false =>
        rw [if_neg Bool.false_ne_true]
        cases hquote : isQuote c with
        | true =>
          refine iff_of_false (fun h => ?_) fun h => Bool.noConfusion h.1.2
          have hlength := congrArg List.length h
          have hle := length_read_le (some ⟨c, i⟩) (i + 1) cs
          rw [if_pos rfl, List.length_map, List.length_cons] at hlength
          omega
        | false =>
          rw [if_neg Bool.false_ne_true, and_iff_right ⟨rfl, rfl⟩, ← ih (i + 1)]
          exact ⟨fun h => (List.cons.inj h).2, congrArg (c :: ·)⟩

/-- **A double quote is not said**, unless it is escaped: where one follows, not everything is
read. -/
theorem length_read_lt (inside : Option OpenQuote) (i : Nat) {cs : List Char}
    (hinside : ∀ q, inside = some q → q.quote = '\x22') (h : '\x22' ∈ cs) :
    (scanWord inside i cs).read.length < cs.length := by
  fun_induction scanWord inside i cs with
  | case1 => cases h
  | case2 inside i c rest ih =>
    have hle := length_read_le inside (i + 2) rest
    simp only [WordScan.say, List.length_cons]
    omega
  | case3 i rest q hescape ih =>
    have hle := length_read_le none (i + 1) rest
    rw [List.length_cons]
    omega
  | case4 i c rest hescape q hother ih =>
    have hrest := (List.mem_cons.1 h).resolve_left fun hc => hother (hc ▸ (hinside q rfl).symm)
    exact Nat.succ_lt_succ (ih hinside hrest)
  | case5 => exact Nat.succ_pos _
  | case6 i c rest hescape hblank hquote ih =>
    have hle := length_read_le (some ⟨c, i⟩) (i + 1) rest
    rw [List.length_cons]
    omega
  | case7 i c rest hescape hblank hquote ih =>
    have hrest := (List.mem_cons.1 h).resolve_left fun hc => hquote (hc ▸ rfl)
    exact Nat.succ_lt_succ (ih hinside hrest)

/-- **Between double quotes, a text without double quotes and backslashes is read as it is**, and
no other. -/
theorem saysItselfQuoted_of_read (opening i : Nat) (cs : List Char)
    (h : (scanWord (some ⟨'\x22', opening⟩) i (cs ++ ['\x22'])).read.map Prod.fst = cs) :
    SaysItselfQuoted cs := by
  have hend : ∀ ds : List Char, '\x22' ∈ ds ++ ['\x22'] := fun ds =>
    List.mem_append_right ds List.mem_cons_self
  have hsome : ∀ q, some (⟨'\x22', opening⟩ : OpenQuote) = some q → q.quote = '\x22' :=
    fun q hq => by rw [← Option.some.inj hq]
  have hnone : ∀ q : OpenQuote, none = some q → q.quote = '\x22' := fun q hq => by cases hq
  induction cs generalizing i with
  | nil => exact ⟨List.not_mem_nil, List.not_mem_nil⟩
  | cons c cs ih =>
    have hlength := congrArg List.length h
    by_cases hc : c = '\\'
    · subst hc
      cases cs with
      | nil => exact absurd (List.cons.inj h).1 (show '\x22' ≠ '\\' by decide)
      | cons d ds =>
        -- The backslash takes `d`, and the closing quote is not said either.
        have hless := length_read_lt _ (i + 2) hsome (hend ds)
        rw [List.length_append, List.length_singleton] at hless
        rw [List.cons_append, List.cons_append, scanWord.eq_2] at hlength
        simp only [WordScan.say, List.length_map, List.length_cons] at hlength
        omega
    · rw [List.cons_append, scanWord_inside _ _ hc] at h hlength
      by_cases hquote : c = '\x22'
      · have hless := length_read_lt none (i + 1) hnone (hend cs)
        rw [List.length_append, List.length_singleton] at hless
        rw [if_pos hquote, List.length_map, List.length_cons] at hlength
        omega
      · rw [if_neg hquote] at h
        obtain ⟨hquotes, hslashes⟩ := ih (i + 1) (List.cons.inj h).2
        exact ⟨List.not_mem_cons_of_ne_of_not_mem (Ne.symm hquote) hquotes,
          List.not_mem_cons_of_ne_of_not_mem (Ne.symm hc) hslashes⟩

/-- **A text without double quotes and backslashes needs no escapes.** -/
theorem SaysItselfQuoted.escaped_eq : ∀ {cs : List Char}, SaysItselfQuoted cs → escaped cs = cs
  | [], _ => rfl
  | c :: cs, h => by
    have hc : ¬(c = '\\' ∨ c = '\x22') := by
      rintro (rfl | rfl)
      · exact h.2 List.mem_cons_self
      · exact h.1 List.mem_cons_self
    rw [escaped, if_neg hc, SaysItselfQuoted.escaped_eq
      ⟨fun hm => h.1 (List.mem_cons_of_mem _ hm), fun hm => h.2 (List.mem_cons_of_mem _ hm)⟩]

/-- **A word that a line begins and ends with is its only token.** -/
theorem typedFrom_of_whole {c : Char} {rest : List Char} {read : List (Char × Nat)} {stop : Nat}
    {open? : Option OpenQuote} (hc : isBlank c = false)
    (h : scanWord none i (c :: rest) = ⟨read, stop, [], open?⟩) :
    typedFrom i (c :: rest) = [⟨String.ofList (read.map Prod.fst), i, stop⟩] := by
  have hblank : ¬isBlank c = true := by
    rw [hc]
    exact Bool.false_ne_true
  rw [typedFrom_of_word (List.dropWhile_cons_of_neg hblank), List.takeWhile_cons_of_neg hblank]
  dsimp only [List.length_nil, Nat.add_zero]
  rw [h]
  exact if_pos rfl

/-- **The text of the only token is read from its first character on.** -/
theorem read_of_typedFrom {cs : List Char} {c : Char} {rest : List Char} {t : Token}
    (hdrop : cs.dropWhile isBlank = c :: rest) (h : typedFrom i cs = [t]) :
    t.text.toList = (scanWord none (i + (cs.takeWhile isBlank).length) (c :: rest)).read.map
      Prod.fst := by
  rw [typedFrom_of_word hdrop] at h
  dsimp only at h
  split at h
  · rw [← List.singleton_inj.1 h]
    exact String.toList_ofList
  · exact absurd (List.cons.inj h).2 (typedFrom_ne_nil _ _)

/-- **A text is the only token of its line exactly if it is said as it is.** -/
theorem typedFrom_text_iff (i : Nat) (text : String) :
    (SaysItself text.toList →
      typedFrom i text.toList = [⟨text, i, i + text.length⟩]) ∧
    ∀ t, typedFrom i text.toList = [t] → t.text = text → SaysItself text.toList := by
  constructor
  · intro h
    cases hcs : text.toList with
    | nil =>
      obtain rfl := String.toList_eq_nil_iff.1 hcs
      exact typedFrom_of_blank rfl
    | cons c rest =>
      rw [hcs] at h
      have hread := (read_eq_iff i (c :: rest)).2 h
      have hle := length_read_le none i (c :: rest)
      have hstop := scanWord_stop none i (c :: rest)
      have hlength := congrArg List.length hread
      rw [List.length_map] at hlength
      rcases hscan : scanWord none i (c :: rest) with ⟨read, stop, left, open?⟩
      rw [hscan] at hread hle hstop hlength
      obtain rfl : left = [] := List.eq_nil_of_length_eq_zero (by dsimp only at *; omega)
      rw [typedFrom_of_whole (h.1 c List.mem_cons_self).1 hscan, hread, ← hcs, String.ofList_toList,
        ← String.length_toList, hcs, ← hstop]
      rfl
  · rintro t h rfl
    cases hdrop : t.text.toList.dropWhile isBlank with
    | nil =>
      rw [typedFrom_of_blank hdrop] at h
      rw [← List.singleton_inj.1 h]
      exact ⟨fun _ h => absurd h List.not_mem_nil, List.not_mem_nil⟩
    | cons c rest =>
      have hread := read_of_typedFrom hdrop h
      have hcs := List.takeWhile_append_dropWhile (p := isBlank) (l := t.text.toList)
      rw [hdrop] at hcs
      have hle := length_read_le none (i + (t.text.toList.takeWhile isBlank).length) (c :: rest)
      have hlength := congrArg List.length hread
      have hsum := congrArg List.length hcs
      rw [List.length_append] at hsum
      rw [List.length_map] at hlength
      have hgap : t.text.toList.takeWhile isBlank = [] :=
        List.eq_nil_of_length_eq_zero (by omega)
      rw [hgap, List.nil_append] at hcs
      rw [hgap, hcs] at hread
      exact (read_eq_iff _ _).1 hread.symm

/-- A text between double quotes, with nothing escaped. -/
def inQuotes (text : String) : String := "\x22" ++ text ++ "\x22"

/-- **A quoted text is the text between two quotes.** -/
theorem toList_inQuotes (text : String) :
    (inQuotes text).toList = '\x22' :: (text.toList ++ ['\x22']) := by
  unfold inQuotes
  rw [String.toList_append, String.toList_append]
  rfl

/-- **Between double quotes, a text is the only token of its line exactly if it is said as it
is.** -/
theorem typedFrom_inQuotes_iff (i : Nat) (text : String) :
    (SaysItselfQuoted text.toList →
      typedFrom i (inQuotes text).toList = [⟨text, i, i + (inQuotes text).length⟩]) ∧
    ∀ t, typedFrom i (inQuotes text).toList = [t] → t.text = text →
      SaysItselfQuoted text.toList := by
  have hblank : isBlank '\x22' = false := by decide
  constructor
  · intro h
    have hform : quotedForm text = inQuotes text := by
      rw [quotedForm, h.escaped_eq, ← toList_inQuotes, String.ofList_toList]
    obtain ⟨read, hread, hscan⟩ :=
      scanWord_quotedForm i text (show ([] : List Char).head?.all isBlank = true from rfl)
    rw [List.append_nil, hform, toList_inQuotes] at hscan
    rw [toList_inQuotes, typedFrom_of_whole hblank hscan, hread, String.ofList_toList]
  · rintro t h rfl
    rw [toList_inQuotes] at h
    have hneg : ¬isBlank '\x22' = true := by decide
    have hread := read_of_typedFrom (List.dropWhile_cons_of_neg hneg) h
    rw [List.takeWhile_cons_of_neg hneg, List.length_nil, Nat.add_zero,
      scanWord_outside _ (by decide), if_neg hneg, if_pos (show isQuote '\x22' = true from rfl)]
      at hread
    exact saysItselfQuoted_of_read i (i + 1) t.text.toList hread.symm

end

end Splitting
end CommandGrammar
