/-
# Parts of a line

A line is split from its left end, and between two tokens nothing is remembered of what was passed.
So a part of a line has the tokens that it has in the whole line:

| part | its tokens |
| --- | --- |
| from a token on | that token and all later ones, earlier by where it begins |
| up to a place | those that are finished there, and one more that ends there |

Both come from how the tokens of a line begin (`Splitting.Begins`): with none, with one that the
line ends with, or with one behind which a blank stands, and then it is the first token whatever
follows that blank.
-/

import CommandGrammar.Host.Usual
import CommandGrammar.Proofs.Steps.Leaves
import CommandGrammar.Proofs.Steps.Onward
import CommandGrammar.Proofs.Tokens.Covering

namespace CommandGrammar

open Text

/-- **Moving tokens keeps their texts.** -/
theorem Token.texts_moved (k : Nat) (ts : List Token) : texts (ts.map (moved k)) = texts ts :=
  List.map_map

namespace Splitting

section spacedTokens

variable {run : List Char} {i : Nat}

/-- **Blanks before the words are passed over.** -/
theorem spacedTokens_blanks_append {gap : List Char} (h : gap.all isBlank = true)
    (cs : List Char) :
    spacedTokens [] i (gap ++ cs) = spacedTokens [] (i + gap.length) cs := by
  induction gap generalizing i with
  | nil => rfl
  | cons b gap ih =>
    rw [List.all_cons, Bool.and_eq_true] at h
    rw [List.cons_append, spacedTokens, if_pos h.1, if_pos List.isEmpty_nil, ih h.2,
      List.length_cons, Nat.add_assoc, Nat.add_comm 1]

/-- **Characters that are not blank go on with a run.** -/
theorem spacedTokens_append {word : List Char} (h : ∀ c ∈ word, isBlank c = false)
    (cs : List Char) :
    spacedTokens run i (word ++ cs) =
      spacedTokens (word.reverse ++ run) (i + word.length) cs := by
  induction word generalizing run i with
  | nil => rfl
  | cons c word ih =>
    have hc : ¬isBlank c = true := Bool.eq_false_iff.1 (h c List.mem_cons_self)
    rw [List.cons_append, spacedTokens, if_neg hc, ih fun d hd => h d (List.mem_cons_of_mem _ hd),
      List.length_cons, Nat.add_assoc, Nat.add_comm 1, List.reverse_cons, List.append_assoc]
    rfl

/-- **At the end of the line, a run that has begun is a token.** -/
theorem spacedTokens_nil (hrun : run ≠ []) :
    spacedTokens run i [] = [⟨String.ofList run.reverse, i - run.length, i⟩] :=
  if_neg fun h => hrun (List.isEmpty_iff.1 h)

/-- **A run ends at a blank**, where the next words may begin. -/
theorem spacedTokens_blank {b : Char} (hb : isBlank b = true) (hrun : run ≠ [])
    (rest : List Char) :
    spacedTokens run i (b :: rest) =
      ⟨String.ofList run.reverse, i - run.length, i⟩ :: spacedTokens [] i (b :: rest) := by
  have hempty : ¬run.isEmpty = true := fun h => hrun (List.isEmpty_iff.1 h)
  rw [spacedTokens, if_pos hb, if_neg hempty, spacedTokens, if_pos hb, if_pos List.isEmpty_nil]

/-- **A run in front of a blank, or of the end, is the first token.** -/
theorem spacedTokens_run {word tail : List Char} (hword : ∀ c ∈ word, isBlank c = false)
    (hne : word ≠ []) (htail : ∀ b ∈ tail.head?, isBlank b = true) :
    spacedTokens [] i (word ++ tail) =
      ⟨String.ofList word, i, i + word.length⟩ :: spacedTokens [] (i + word.length) tail := by
  have hrun : word.reverse ≠ [] := mt List.reverse_eq_nil_iff.1 hne
  have hstart : i + word.length - word.reverse.length = i := by
    rw [List.length_reverse, Nat.add_sub_cancel]
  rw [spacedTokens_append hword, List.append_nil]
  cases tail with
  | nil =>
    rw [spacedTokens_nil hrun, hstart, List.reverse_reverse]
    rfl
  | cons b more => rw [spacedTokens_blank (htail b rfl) hrun, hstart, List.reverse_reverse]

/-- **Words that begin later are the same words, later.** -/
theorem spacedTokens_moved (k : Nat) (cs : List Char) (hrun : run.length ≤ i) :
    spacedTokens run (i + k) cs = (spacedTokens run i cs).map (Token.moved k) := by
  have hstart : i + k - run.length = i - run.length + k := Nat.sub_add_comm hrun
  induction cs generalizing run i with
  | nil =>
    rw [spacedTokens, spacedTokens, hstart]
    split <;> rfl
  | cons c rest ih =>
    have hmore : spacedTokens [] (i + 1 + k) rest = _ := ih (Nat.zero_le _) rfl
    have hgrown : spacedTokens (c :: run) (i + 1 + k) rest = _ :=
      ih (Nat.succ_le_succ hrun) (Nat.sub_add_comm (Nat.succ_le_succ hrun))
    rw [spacedTokens, spacedTokens, hstart, Nat.add_right_comm i k 1, hmore, hgrown]
    split
    · split <;> rfl
    · rfl

end spacedTokens

/-- The tokens of a line from offset `i` on, and the quote that is left open. -/
def tokensFrom (way : Splitting) (lenient : Bool) (i : Nat) (cs : List Char) :
    List Token × Option Unterminated :=
  match way with
  | .quoted => ((quotedWords lenient i cs).1.map Word.token, (quotedWords lenient i cs).2)
  | .spaced => (spacedTokens [] i cs, none)
  | .whole => (if cs.isEmpty then [] else [⟨String.ofList cs, i, i + cs.length⟩], none)

variable {way : Splitting} {lenient : Bool} {i : Nat} {cs : List Char}

/-- **A line is split from its first character.** -/
theorem split_eq_tokensFrom (way : Splitting) (line : String) (lenient : Bool) :
    way.split line lenient = ((tokensFrom way lenient 0 line.toList).1,
      (tokensFrom way lenient 0 line.toList).2.map (Unterminated.error line)) := by
  cases way with
  | quoted => rfl
  | spaced => rfl
  | whole =>
    have hempty : line.isEmpty = line.toList.isEmpty := by
      rw [Bool.eq_iff_iff, String.isEmpty_iff, List.isEmpty_iff, String.toList_eq_nil_iff]
    rw [split, tokensFrom, hempty, Nat.zero_add, String.length_toList, String.ofList_toList]
    rfl

/-- **A line that is split from a later offset on has the same tokens, later.** -/
theorem tokensFrom_moved (k : Nat) (way : Splitting) (lenient : Bool) (i : Nat)
    (cs : List Char) :
    tokensFrom way lenient (i + k) cs = ((tokensFrom way lenient i cs).1.map (Token.moved k),
      (tokensFrom way lenient i cs).2.map (Unterminated.moved k)) := by
  cases way with
  | quoted =>
    rw [tokensFrom, quotedWords_moved, tokensFrom, List.map_map, List.map_map]
    congr 2
    exact funext fun w => w.token_moved k
  | spaced => exact congrArg (·, none) (spacedTokens_moved k cs (Nat.zero_le _))
  | whole =>
    rw [tokensFrom, tokensFrom]
    split
    · rfl
    · rw [Nat.add_right_comm]
      rfl

/-- The tokens from offset `i` on are those from the place on where `t` begins. -/
def BeginsAt (way : Splitting) (lenient : Bool) (i : Nat) (cs : List Char) (t : Token) : Prop :=
  ∃ k, t.start = i + k ∧
    tokensFrom way lenient t.start (cs.drop k) = tokensFrom way lenient i cs

/-- How the tokens of a line begin. -/
inductive Begins (way : Splitting) (lenient : Bool) (i : Nat) (cs : List Char) : Prop
  | none (tokens : (tokensFrom way lenient i cs).1 = [])
  /-- The line ends with its first token. -/
  | last (t : Token) (start : BeginsAt way lenient i cs t) (stop : t.stop = i + cs.length)
      (tokens : tokensFrom way lenient i cs = ([t], none))
  /-- A blank stands behind the first token, which stays the first whatever follows the blank. -/
  | first (t : Token) (said : List Char) (b : Char) (more : List Char)
      (line : cs = said ++ b :: more) (nonempty : said ≠ [])
      (start : BeginsAt way lenient i cs t) (stop : t.stop = i + said.length)
      (tokens : ∀ other, tokensFrom way lenient i (said ++ b :: other) =
        (t :: (tokensFrom way lenient (i + said.length) (b :: other)).1,
          (tokensFrom way lenient (i + said.length) (b :: other)).2))

/-- **Blanks before a line are passed over**, quoted or not. -/
theorem tokensFrom_blanks_append {gap : List Char} (hgap : gap.all isBlank = true)
    (hway : way ≠ .whole) (cs : List Char) :
    tokensFrom way lenient i (gap ++ cs) = tokensFrom way lenient (i + gap.length) cs := by
  cases way with
  | quoted => rw [tokensFrom, quotedWords_blanks_append _ _ hgap, tokensFrom]
  | spaced => rw [tokensFrom, spacedTokens_blanks_append hgap, tokensFrom]
  | whole => exact absurd rfl hway

/-- **A line of blanks has no tokens.** -/
theorem tokensFrom_of_blank (h : cs.all isBlank = true) (hway : way ≠ .whole) :
    tokensFrom way lenient i cs = ([], none) := by
  rw [← List.append_nil cs, tokensFrom_blanks_append h hway]
  cases way with
  | quoted =>
    rw [tokensFrom, quotedWords_of_blank rfl]
    rfl
  | spaced => rfl
  | whole => exact absurd rfl hway

/-- **A token may begin behind blanks.** -/
theorem beginsAt_of_blanks {gap rest : List Char} {t : Token} (hgap : gap.all isBlank = true)
    (hway : way ≠ .whole) (hstart : t.start = i + gap.length) :
    BeginsAt way lenient i (gap ++ rest) t := by
  refine ⟨gap.length, hstart, ?_⟩
  rw [List.drop_left, hstart, tokensFrom_blanks_append hgap hway]

/-- **A line that ends with its first word has no other word**; a strict scan does not take it if a
quote is open in it. -/
theorem quotedWords_of_rest_nil (lenient : Bool) (i : Nat) {c : Char} {rest : List Char}
    (hdrop : cs.dropWhile isBlank = c :: rest)
    (hend : (scanWord none (i + (cs.takeWhile isBlank).length) (c :: rest)).rest = []) :
    (quotedWords lenient i cs).1 = [] ∨ ∃ w : Word, quotedWords lenient i cs = ([w], none) ∧
      w.start = i + (cs.takeWhile isBlank).length ∧ w.stop = i + cs.length := by
  have hstop := (firstWord_spans hdrop i).2
  rw [quotedWords_of_word hdrop]
  dsimp only
  generalize scanWord none (i + (cs.takeWhile isBlank).length) (c :: rest) = w at hend hstop ⊢
  rw [hend, List.length_nil, Nat.add_zero] at hstop
  cases w.unclosed with
  | none =>
    rw [hend, quotedWords_of_blank rfl]
    exact .inr ⟨_, rfl, rfl, hstop⟩
  | some q =>
    cases lenient with
    | true => exact .inr ⟨_, rfl, rfl, hstop⟩
    | false => exact .inl rfl

/-- **A quoted line begins with its first word.** -/
theorem begins_quoted (lenient : Bool) (i : Nat) (cs : List Char) :
    Begins .quoted lenient i cs := by
  have hcs := List.takeWhile_append_dropWhile (p := isBlank) (l := cs)
  have hbegins : ∀ w : Word, w.start = i + (cs.takeWhile isBlank).length →
      BeginsAt .quoted lenient i cs w.token := fun w hstart => by
    rw [← hcs]
    exact beginsAt_of_blanks List.all_takeWhile (by decide) hstart
  cases hdrop : cs.dropWhile isBlank with
  | nil => exact .none (by rw [tokensFrom, quotedWords_of_blank hdrop]; rfl)
  | cons c rest =>
    rcases quotedWords_stays i hdrop with
      hend | ⟨w, said, b, more, hline, -, hsaid, -, hstart, hstop, hstays⟩
    · rcases quotedWords_of_rest_nil lenient i hdrop hend with hnone | ⟨w, hone, hstart, hstop⟩
      · exact .none (by rw [tokensFrom, hnone]; rfl)
      · exact .last w.token (hbegins w hstart) hstop (by rw [tokensFrom, hone]; rfl)
    · refine .first w.token said b more hline hsaid (hbegins w hstart) hstop fun other => ?_
      rw [tokensFrom, hstays lenient other]
      rfl

/-- **A run of other characters behind blanks is the first word.** -/
theorem begins_run (lenient : Bool) (i : Nat) {gap word tail : List Char}
    (hgap : gap.all isBlank = true) (hword : ∀ c ∈ word, isBlank c = false) (hne : word ≠ [])
    (htail : ∀ b ∈ tail.head?, isBlank b = true) :
    Begins .spaced lenient i (gap ++ (word ++ tail)) := by
  obtain ⟨t, ht⟩ : ∃ t : Token,
      t = ⟨String.ofList word, i + gap.length, i + gap.length + word.length⟩ := ⟨_, rfl⟩
  have hstart : BeginsAt .spaced lenient i (gap ++ (word ++ tail)) t :=
    beginsAt_of_blanks hgap (by decide) (by rw [ht])
  have hscan : ∀ other : List Char, (∀ b ∈ other.head?, isBlank b = true) →
      tokensFrom .spaced lenient i (gap ++ (word ++ other)) =
        (t :: spacedTokens [] (i + gap.length + word.length) other, none) := fun other hother => by
    rw [tokensFrom_blanks_append hgap (by decide), tokensFrom, spacedTokens_run hword hne hother,
      ht]
  cases tail with
  | nil =>
    refine .last t hstart ?_ (hscan [] htail)
    rw [ht, List.append_nil, List.length_append, Nat.add_assoc]
  | cons b more =>
    refine .first t (gap ++ word) b more (List.append_assoc _ _ _).symm
      (List.append_ne_nil_of_right_ne_nil _ hne) hstart ?_ fun other => ?_
    · rw [ht, List.length_append, Nat.add_assoc]
    · rw [List.append_assoc, hscan (b :: other) htail, List.length_append, ← Nat.add_assoc]
      rfl

/-- **A line is blank, or begins with its first run of other characters behind blanks**; the run
ends at a blank, or with the line. -/
theorem exists_first_run (cs : List Char) :
    cs.all isBlank = true ∨ ∃ gap word tail, cs = gap ++ (word ++ tail) ∧
      gap.all isBlank = true ∧ (∀ c ∈ word, isBlank c = false) ∧ word ≠ [] ∧
      ∀ b ∈ tail.head?, isBlank b = true := by
  have hcs := List.takeWhile_append_dropWhile (p := isBlank) (l := cs)
  have hgap : (cs.takeWhile isBlank).all isBlank = true := List.all_takeWhile
  have hfirst := List.head?_dropWhile_not isBlank cs
  cases hdrop : cs.dropWhile isBlank with
  | nil =>
    rw [hdrop, List.append_nil] at hcs
    rw [hcs] at hgap
    exact .inl hgap
  | cons c rest =>
    have hc : (!isBlank c) = true := by
      rw [hdrop] at hfirst
      simpa using hfirst
    have hrest := List.takeWhile_append_dropWhile (p := (!isBlank ·)) (l := c :: rest)
    have hbehind := List.head?_dropWhile_not (!isBlank ·) (c :: rest)
    rw [hdrop, ← hrest] at hcs
    refine .inr ⟨_, _, _, hcs.symm, hgap, fun d hd => ?_, ?_, fun b hb => ?_⟩
    · have := List.all_eq_true.1 (List.all_takeWhile (l := c :: rest)) d hd
      simpa using this
    · rw [List.takeWhile_cons_of_pos (p := (!isBlank ·)) hc]
      exact List.cons_ne_nil _ _
    · rw [Option.mem_def.1 hb] at hbehind
      simpa using hbehind

/-- **A line that blanks separate begins with its first run of other characters.** -/
theorem begins_spaced (lenient : Bool) (i : Nat) (cs : List Char) :
    Begins .spaced lenient i cs := by
  rcases exists_first_run cs with hblank | ⟨gap, word, tail, rfl, hgap, hword, hne, htail⟩
  · exact .none (by rw [tokensFrom_of_blank hblank (by decide)])
  · exact begins_run lenient i hgap hword hne htail

/-- **The tokens of a line begin in one of these ways**, however it is split. -/
theorem begins (way : Splitting) (lenient : Bool) (i : Nat) (cs : List Char) :
    Begins way lenient i cs := by
  cases way with
  | quoted => exact begins_quoted lenient i cs
  | spaced => exact begins_spaced lenient i cs
  | whole =>
    cases cs with
    | nil => exact .none rfl
    | cons c rest => exact .last _ ⟨0, rfl, rfl⟩ rfl rfl

/-- **An empty line has no tokens.** -/
theorem split_empty (way : Splitting) (lenient : Bool) : way.split "" lenient = ([], none) := by
  cases way with
  | quoted =>
    rw [split_eq_tokensFrom, tokensFrom, quotedWords_of_blank rfl]
    rfl
  | spaced | whole => rfl

/-- **From a token on, a line has that token and all later ones.** -/
theorem tokensFrom_drop (way : Splitting) (lenient : Bool) {n : Nat} {t : Token} (i : Nat)
    (cs : List Char) (ht : (tokensFrom way lenient i cs).1[n]? = some t) :
    ∃ k, t.start = i + k ∧ tokensFrom way lenient t.start (cs.drop k) =
      ((tokensFrom way lenient i cs).1.drop n, (tokensFrom way lenient i cs).2) := by
  induction n generalizing i cs with
  | zero =>
    rcases begins way lenient i cs with
      hnone | ⟨u, hstart, -, hone⟩ | ⟨u, said, b, more, rfl, -, hstart, -, htokens⟩
    · rw [hnone] at ht
      cases ht
    · rw [hone] at ht
      obtain rfl := Option.some.inj ht
      exact hstart
    · rw [htokens] at ht
      obtain rfl := Option.some.inj ht
      exact hstart
  | succ n ih =>
    rcases begins way lenient i cs with
      hnone | ⟨u, -, -, hone⟩ | ⟨u, said, b, more, rfl, -, -, -, htokens⟩
    · rw [hnone] at ht
      cases ht
    · rw [hone] at ht
      cases ht
    · rw [htokens] at ht
      obtain ⟨k, hk, hdrop⟩ := ih _ _ ht
      refine ⟨said.length + k, by rw [hk, Nat.add_assoc], ?_⟩
      rw [← List.drop_drop, List.drop_left, hdrop, htokens]
      rfl

/-- **Up to a place, a line has the tokens that are finished there, and one more.** -/
theorem exists_finished (way : Splitting) (i : Nat) (front back : List Char) :
    ∃ finished last, endingAt (i + front.length) (tokensFrom way true i front).1 =
        finished ++ [last] ∧ last.stop = i + front.length ∧
      finished <+: (tokensFrom way true i (front ++ back)).1 := by
  rcases begins way true i front with
    hnone | ⟨t, -, hstop, hone⟩ | ⟨t, said, b, more, rfl, hsaid, -, hstop, htokens⟩
  · rw [hnone]
    exact ⟨[], _, rfl, rfl, List.nil_prefix⟩
  · rw [hone, ← hstop]
    exact ⟨[], t, endingAt_singleton t, rfl, List.nil_prefix⟩
  · have hshorter : (b :: more).length < (said ++ b :: more).length := by
      rw [List.length_append]
      exact Nat.lt_add_of_pos_left (List.length_pos_iff.2 hsaid)
    have hsize : i + (said ++ b :: more).length = i + said.length + (b :: more).length := by
      rw [List.length_append, Nat.add_assoc]
    have hless : t.stop < i + said.length + (b :: more).length := by
      rw [hstop]
      exact Nat.lt_add_of_pos_right (Nat.succ_pos _)
    obtain ⟨finished, last, hends, hlast, hprefix⟩ :=
      exists_finished way (i + said.length) (b :: more) back
    refine ⟨t :: finished, last, ?_, ?_, ?_⟩
    · rw [htokens, hsize, endingAt_cons hless, hends]
      rfl
    · rw [hlast, hsize]
    · rw [List.append_assoc, List.cons_append, htokens]
      exact List.cons_prefix_cons.2 ⟨rfl, hprefix⟩
termination_by front.length

/-- **A line from one of its tokens on is split into that token and all later ones**, and meets the
same error at its end; all of it is earlier by where the token begins. -/
theorem split_dropped (way : Splitting) (line : String) (lenient : Bool) {n : Nat} {t : Token}
    (ht : (way.split line lenient).1[n]? = some t) :
    (way.split (dropped t.start line) lenient).1.map (Token.moved t.start) =
        (way.split line lenient).1.drop n ∧
      ∃ open? : Option Unterminated, (way.split (dropped t.start line) lenient).2 =
          open?.map (Unterminated.error (dropped t.start line)) ∧
        (way.split line lenient).2 =
          (open?.map (Unterminated.moved t.start)).map (Unterminated.error line) := by
  rw [split_eq_tokensFrom] at ht
  obtain ⟨k, hk, hdrop⟩ := tokensFrom_drop way lenient 0 line.toList ht
  rw [Nat.zero_add] at hk
  subst hk
  have hmoved := tokensFrom_moved t.start way lenient 0 (line.toList.drop t.start)
  rw [Nat.zero_add, hdrop] at hmoved
  obtain ⟨htokens, hopen⟩ := Prod.mk.inj hmoved
  rw [split_eq_tokensFrom, split_eq_tokensFrom, dropped, String.toList_ofList, htokens, hopen]
  exact ⟨rfl, _, rfl, rfl⟩

section endingAt

variable {size : Nat} {ts : List Token}

/-- **The token being typed moves with the line.** -/
theorem endingAt_moved (k size : Nat) (ts : List Token) :
    endingAt (size + k) (ts.map (Token.moved k)) = (endingAt size ts).map (Token.moved k) := by
  unfold endingAt
  rw [List.getLast?_map]
  cases ts.getLast? with
  | none => rfl
  | some t =>
    by_cases hless : t.stop < size
    · have hless' : (t.moved k).stop < size + k := Nat.add_lt_add_right hless k
      dsimp only [Option.map_some]
      rw [if_pos hless, if_pos hless', List.map_append]
      rfl
    · have hless' : ¬(t.moved k).stop < size + k := fun h => hless (Nat.lt_of_add_lt_add_right h)
      dsimp only [Option.map_some]
      rw [if_neg hless, if_neg hless']

/-- **The token being typed is the last one or a new one at the end.** -/
theorem endingAt_eq_or (size : Nat) (ts : List Token) :
    endingAt size ts = ts ∨ endingAt size ts = ts ++ [⟨"", size, size⟩] := by
  unfold endingAt
  split
  · split
    · exact .inr rfl
    · exact .inl rfl
  · rename_i hnone
    rw [List.getLast?_eq_none_iff.1 hnone]
    exact .inr rfl

/-- **The later tokens of a line being typed are those of its end**, which is typed, too. -/
theorem drop_endingAt {n : Nat} (hn : n < (endingAt size ts).length) :
    (endingAt size ts).drop n = endingAt size (ts.drop n) := by
  rcases Nat.lt_or_ge n ts.length with hlt | hge
  · have hlast : (ts.drop n).getLast? = ts.getLast? := by
      rw [List.getLast?_drop, if_neg (Nat.not_le.2 hlt)]
    unfold endingAt
    rw [hlast]
    split
    · split
      · exact List.drop_append_of_le_length (Nat.le_of_lt hlt)
      · rfl
    · rename_i hnone
      rw [List.getLast?_eq_none_iff.1 hnone] at hlt
      exact absurd hlt (Nat.not_lt_zero n)
  · rw [List.drop_eq_nil_of_le hge]
    rcases endingAt_eq_or size ts with hsame | hmore
    · rw [hsame] at hn
      exact absurd hn (Nat.not_lt.2 hge)
    · have hn' : n = ts.length := by
        rw [hmore, List.length_append, List.length_singleton] at hn
        omega
      rw [hmore, hn', List.drop_left]
      rfl

end endingAt

end Splitting

namespace TokenStream

/-- **The tokens of a line being typed are those of the line and the one being typed.** -/
theorem typedTokens_eq_endingAt (way : Splitting) (line : String) :
    typedTokens way line = Splitting.endingAt line.length (way.split line true).1 := rfl

/-- **A line being typed is split from one of its tokens on into that token and all later ones.** -/
theorem typedTokens_dropped (way : Splitting) (line : String) {n : Nat} {t : Token}
    (ht : (typedTokens way line)[n]? = some t) :
    (typedTokens way (dropped t.start line)).map (Token.moved t.start) =
      (typedTokens way line).drop n := by
  obtain ⟨hn, hget⟩ := List.getElem?_eq_some_iff.1 ht
  have hinside := (spread_typedTokens way line).inside t (hget ▸ List.getElem_mem hn)
  have hstart : t.start ≤ line.length := Nat.le_trans hinside.1 hinside.2
  have hlength : (dropped t.start line).length + t.start = line.length := by
    rw [dropped, String.length_ofList, List.length_drop, String.length_toList]
    exact Nat.sub_add_cancel hstart
  rw [typedTokens_eq_endingAt, ← Splitting.endingAt_moved, hlength, typedTokens_eq_endingAt,
    Splitting.drop_endingAt hn]
  congr 1
  have hcases := Splitting.endingAt_eq_or line.length (way.split line true).1
  rcases Nat.lt_or_ge n (way.split line true).1.length with hlt | hge
  · refine (way.split_dropped line true ?_).1
    rcases hcases with hsame | hmore
    · rwa [typedTokens_eq_endingAt, hsame] at ht
    · rwa [typedTokens_eq_endingAt, hmore, List.getElem?_append_left hlt] at ht
  · -- The token is the one that is put where the line ends, and nothing of the line is behind it.
    rcases hcases with hsame | hmore
    · rw [typedTokens_eq_endingAt, hsame] at hn
      exact absurd hn (Nat.not_lt.2 hge)
    · have hend : t.start = line.length := by
        rw [typedTokens_eq_endingAt, hmore, List.getElem?_append_right hge] at ht
        obtain rfl := List.mem_singleton.1 (List.mem_of_getElem? ht)
        rfl
      have hempty : dropped t.start line = "" := by
        rw [hend, dropped, ← String.length_toList, List.drop_length]
      rw [hempty, List.drop_eq_nil_of_le hge, Splitting.split_empty]
      rfl

/-- The tokens that are read on the way from one place of a line to a later one. -/
def readTo (s r : TokenStream) : List Token := (s.tokens.take r.cursor).drop s.cursor

/-- **Whoever comes to the end of a line has read what was unread.** -/
theorem readTo_eq_unread {p q : Progress} (h : p.Onward q) (hend : q.stream.unread = []) :
    p.stream.readTo q.stream = p.stream.unread := by
  rw [unread, h.tokens, List.drop_eq_nil_iff] at hend
  rw [readTo, List.take_of_length_le hend, unread]

/-- **What a line is split into while it is being typed stays as more is typed**: cut at any place,
it has a last token, which ends at the cut, and those before it are the first tokens of the whole
line. -/
theorem typed_tokens_stay (way : Splitting) (line : String) (k : Nat) (hk : k ≤ line.length) :
    ∃ finished last, (ofTyped way (slice line 0 k)).tokens = finished ++ [last] ∧
      last.stop = k ∧ finished <+: (way.split line true).1 := by
  have hlength : (line.toList.take k).length = k := by
    rw [List.length_take, String.length_toList, Nat.min_eq_left hk]
  have hcut : (slice line 0 k).toList = line.toList.take k := String.toList_ofList
  obtain ⟨finished, last, hends, hlast, hprefix⟩ :=
    way.exists_finished 0 (line.toList.take k) (line.toList.drop k)
  rw [List.take_append_drop] at hprefix
  rw [hlength, Nat.zero_add] at hends hlast
  refine ⟨finished, last, ?_, hlast, ?_⟩
  · rw [ofTyped, ofTokens, typedTokens_eq_endingAt, ← String.length_toList, hcut, hlength,
      Splitting.split_eq_tokensFrom, hcut, hends]
  · rw [Splitting.split_eq_tokensFrom]
    exact hprefix

/-- Cut behind a backslash inside quotes, a line has finished the word before them. -/
theorem tokens_stay_at_backslash :
    (ofTyped .quoted (slice "a \x22b\\\x22 c\x22 d" 0 5)).tokens =
        [⟨"a", 0, 1⟩, ⟨"b\\", 2, 5⟩] ∧
      (Splitting.quoted.split "a \x22b\\\x22 c\x22 d" true).1 =
        [⟨"a", 0, 1⟩, ⟨"b\x22 c", 2, 9⟩, ⟨"d", 10, 11⟩] ∧
      ∃ finished last, (ofTyped .quoted (slice "a \x22b\\\x22 c\x22 d" 0 5)).tokens =
        finished ++ [last] ∧ last.stop = 5 ∧
          finished <+: (Splitting.quoted.split "a \x22b\\\x22 c\x22 d" true).1 :=
  ⟨by decide +kernel, by decide +kernel, typed_tokens_stay .quoted _ 5 (by decide)⟩

end TokenStream

namespace Leaf

variable {o : Occasion} {p q : Progress} {asked : List String}

/-- **Reading a token leaves one less.** -/
theorem remaining_of_next {w : String} (h : Step.next p = ⟨.ok w, q, asked⟩) :
    p.stream.remaining = q.stream.remaining + 1 := by
  unfold Step.next at h
  rcases p.stream.next_cases with ⟨hc, hnext, -⟩ | ⟨hnext, -⟩
  · rw [hnext] at h
    obtain ⟨-, rfl, -⟩ := Report.mk.inj h
    have hone : p.stream.tokens.length - p.stream.cursor =
        p.stream.tokens.length - (p.stream.cursor + 1) + 1 := by omega
    rw [TokenStream.remaining, hone, Nat.add_right_comm]
    rfl
  · rw [hnext] at h
    cases (Report.mk.inj h).1

/-- **Whoever reads as many tokens as are left comes to the end of the line.** -/
theorem hasNext_of_restTokens : ∀ (n : Nat) {p q : Progress} {ws asked : List String},
    restTokens n p = ⟨.ok ws, q, asked⟩ → p.stream.remaining ≤ n → q.stream.hasNext = false
  | 0, p, q, ws, asked, h, hle => by
    obtain ⟨-, rfl, -⟩ := Report.mk.inj h
    rw [TokenStream.hasNext_eq, decide_eq_false_iff_not]
    omega
  | n + 1, p, q, ws, asked, h, hle => by
    rw [restTokens, Step.here_bind] at h
    split at h
    · obtain ⟨w, r, _, _, hnext, hmore, -⟩ := Step.exists_of_bind_ok h
      obtain ⟨_, _, _, _, hrest, hpure, -⟩ := Step.exists_of_bind_ok hmore
      obtain ⟨-, rfl, -⟩ := Report.mk.inj hpure
      have hone := remaining_of_next hnext
      exact hasNext_of_restTokens n hrest (by omega)
    · rename_i hnone
      obtain ⟨-, rfl, -⟩ := Report.mk.inj h
      exact Bool.eq_false_iff.2 hnone

/-- **A line that is taken as it was typed is taken from the token ahead to the end.** -/
theorem of_read_restRaw {vs : List Value} (h : restRaw.read o p = ⟨.ok vs, q, asked⟩) :
    ∃ t, p.stream.head? = some t ∧ vs = [.text (dropped t.start p.stream.raw)] ∧
      p.stream.readTo q.stream = p.stream.unread ∧ p.stream.pending = none := by
  have honward : p.Onward q := by
    have hfaults : ParseCourse.onward.AllowsFaults (restRaw.fault? o.host) p :=
      fun _ _ _ hb => by cases hb
    exact (ParseCourse.allows_read (o := o) hfaults).leads_of_eq h
  rw [read, Step.here_bind] at h
  obtain ⟨w, r, _, _, hnext, hmore, -⟩ := Step.exists_of_bind_ok h
  rw [Step.here_bind] at hmore
  obtain ⟨_, _, _, _, hrest, hpure, -⟩ := Step.exists_of_bind_ok hmore
  obtain ⟨hvs, rfl, -⟩ := Report.mk.inj hpure
  obtain ⟨hend, hpending⟩ :=
    (TokenStream.hasNext_eq_false_iff _).1 (hasNext_of_restTokens _ hrest (Nat.le_refl _))
  cases hhead : p.stream.head? with
  | none =>
    unfold Step.next at hnext
    rw [TokenStream.next_of_head?_none hhead] at hnext
    cases (Report.mk.inj hnext).1
  | some t =>
    refine ⟨t, rfl, ?_, TokenStream.readTo_eq_unread honward hend, honward.pending ▸ hpending⟩
    have hposition : p.stream.position = t.start := by
      unfold TokenStream.position
      rw [hhead]
    rw [← Except.ok.inj hvs, hposition, Int.toNat_natCast]

end Leaf

/-- **Tokens of a line are the same in every part of it that begins with one of them.**  From a
token on, a line is split into that token and all later ones, all of them earlier by where the token
begins, and the error at the end, too.  So what is taken of a line as it was typed, from a token on,
is split into texts that are those of the tokens that are read for it, whether the line is complete
or is still being typed. -/
theorem Splitting.parts_are_split_alike (way : Splitting) (line : String) :
    (∀ lenient n t, (way.split line lenient).1[n]? = some t →
      (way.split (dropped t.start line) lenient).1.map (Token.moved t.start) =
          (way.split line lenient).1.drop n ∧
        ∃ open? : Option Unterminated, (way.split (dropped t.start line) lenient).2 =
            open?.map (Unterminated.error (dropped t.start line)) ∧
          (way.split line lenient).2 =
            (open?.map (Unterminated.moved t.start)).map (Unterminated.error line)) ∧
    (∀ (o : Occasion) (c : Context) (n : Nat) (hn : n ≤ (TokenStream.ofLine way line).tokens.length)
      (vs : List Value) (q : Progress) (asked : List String),
      Leaf.restRaw.read o ⟨(TokenStream.ofLine way line).withCursor n hn, c⟩ =
          ⟨.ok vs, q, asked⟩ →
        ∃ text, vs = [.text text] ∧ (way.split text false).2 = none ∧
          Token.texts (way.split text false).1 =
            Token.texts (((TokenStream.ofLine way line).withCursor n hn).readTo q.stream)) ∧
    ∀ (o : Occasion) (c : Context) (n : Nat) (hn : n ≤ (TokenStream.ofTyped way line).tokens.length)
      (vs : List Value) (q : Progress) (asked : List String),
      Leaf.restRaw.read o ⟨(TokenStream.ofTyped way line).withCursor n hn, c⟩ =
          ⟨.ok vs, q, asked⟩ →
        ∃ text, vs = [.text text] ∧ Token.texts (TokenStream.typedTokens way text) =
          Token.texts (((TokenStream.ofTyped way line).withCursor n hn).readTo q.stream) := by
  refine ⟨fun lenient n t ht => way.split_dropped line lenient ht,
    fun o c n hn vs q asked h => ?_, fun o c n hn vs q asked h => ?_⟩
  · obtain ⟨t, hhead, rfl, hread, hpending⟩ := Leaf.of_read_restRaw h
    obtain ⟨htokens, open?, herror, hline⟩ := way.split_dropped line false hhead
    refine ⟨_, rfl, ?_, ?_⟩
    · have hnone : open? = none := Option.map_eq_none_iff.1 (Option.map_eq_none_iff.1
        (hline.symm.trans hpending))
      exact herror.trans (by rw [hnone]; rfl)
    · rw [hread, ← Token.texts_moved t.start]
      exact congrArg Token.texts htokens
  · obtain ⟨t, hhead, rfl, hread, -⟩ := Leaf.of_read_restRaw h
    refine ⟨_, rfl, ?_⟩
    rw [hread, ← Token.texts_moved t.start]
    exact congrArg Token.texts (TokenStream.typedTokens_dropped way line hhead)

/-- Behind `say`, the rest of a line is taken as it was typed, quotes and blanks and all, and is
split into the two texts that are left. -/
theorem Splitting.rest_behind_say_is_split_alike :
    let line := "say \x22two  words\x22 now"
    let o : Occasion := ⟨.bare "tester", ⟨2024, 5, 31, 12, 34, 56, 789012, none⟩, .usual⟩
    (quoted.split line false).1[1]? = some ⟨"two  words", 4, 16⟩ ∧
      (quoted.split (dropped 4 line) false).1.map (Token.moved 4) =
        (quoted.split line false).1.drop 1 ∧
      ∃ hn vs q asked, Leaf.restRaw.read o ⟨(TokenStream.ofLine quoted line).withCursor 1 hn, {}⟩ =
          ⟨.ok vs, q, asked⟩ ∧ vs.map Value.shown = ["\x22two  words\x22 now"] ∧
        ∃ text, vs = [.text text] ∧ Token.texts (quoted.split text false).1 =
          Token.texts (((TokenStream.ofLine quoted line).withCursor 1 hn).readTo q.stream) := by
  intro line o
  have hsecond : (quoted.split line false).1[1]? = some ⟨"two  words", 4, 16⟩ := by decide +kernel
  have hshown : (Leaf.restRaw.read o
      ⟨(TokenStream.ofLine quoted line).withCursor 1 (by decide +kernel), {}⟩).result.toOption.map
        (List.map Value.shown) = some ["\x22two  words\x22 now"] := by decide +kernel
  obtain ⟨hlater, hrest, -⟩ := parts_are_split_alike .quoted line
  refine ⟨hsecond, (hlater false 1 _ hsecond).1, by decide +kernel, ?_⟩
  rcases hread : Leaf.restRaw.read o ⟨(TokenStream.ofLine quoted line).withCursor 1 _, {}⟩ with
    ⟨_ | vs, q, asked⟩ <;> rw [hread] at hshown
  · cases hshown
  · obtain ⟨text, hvs, -, htexts⟩ := hrest o {} 1 _ vs q asked hread
    exact ⟨vs, q, asked, rfl, Option.some.inj hshown, text, hvs, htexts⟩

end CommandGrammar
