/-
# Typing texts in quotes

Any texts can be typed as the words of a quoted line, blanks, quotes and backslashes included: each
of them between double quotes, with a backslash before each backslash and each double quote, and
with blanks between neighbours.  Splitting the line gives the texts back, each from the span of its
quoted form.

A word scan that goes on inside the quotes says what was escaped, and is outside of them again
behind the closing one (`scanWord_escaped`); there the word ends, because a blank follows or the
line ends.

| typed | said |
| --- | --- |
| `""` | the empty text |
| `"two words"` | `two words` |
| `"\\ and \""` | `\ and "` |
-/

import CommandGrammar.Proofs.Moving.Splitting

namespace CommandGrammar

open Text

namespace Splitting

/-- The characters with a backslash before each backslash and each double quote. -/
def escaped : List Char → List Char
  | [] => []
  | c :: cs => if c = '\\' ∨ c = '\x22' then '\\' :: c :: escaped cs else c :: escaped cs

/-- The text between double quotes. -/
def quotedForm (text : String) : String :=
  String.ofList ('\x22' :: (escaped text.toList ++ ['\x22']))

/-- **The quoted form is the escaped text between two quotes.** -/
theorem toList_quotedForm (text : String) (rest : List Char) :
    (quotedForm text).toList ++ rest = '\x22' :: (escaped text.toList ++ '\x22' :: rest) := by
  simp [quotedForm]

/-- **The quoted form is longer than the escaped text by its two quotes.** -/
theorem length_quotedForm (text : String) :
    (quotedForm text).length = (escaped text.toList).length + 2 := by
  rw [quotedForm, String.length_ofList, List.length_cons, List.length_append]
  rfl

/-- A text that is typed between quotes, and what is typed behind it. -/
structure Typed where
  text : String
  gap : String

/-- Texts that are typed one behind the other. -/
def typedForm : List Typed → String
  | [] => ""
  | x :: xs => quotedForm x.text ++ (x.gap ++ typedForm xs)

/-- The tokens of texts that are typed from offset `i` on. -/
def formTokens (i : Nat) : List Typed → List Token
  | [] => []
  | x :: xs =>
    let stop := i + (quotedForm x.text).length
    ⟨x.text, i, stop⟩ :: formTokens (stop + x.gap.length) xs

/-- What is typed behind the texts is blank; only behind the last one there may be nothing. -/
structure Separated (xs : List Typed) : Prop where
  blank : ∀ x ∈ xs, x.gap.toList.all isBlank = true
  apart : ∀ x ∈ xs.dropLast, x.gap ≠ ""

namespace Separated

variable {x : Typed} {xs : List Typed}

/-- **Behind the first, words stay separated.** -/
theorem tail (h : Separated (x :: xs)) : Separated xs := by
  refine ⟨fun y hy => h.blank y (List.mem_cons_of_mem _ hy), fun y hy => h.apart y ?_⟩
  cases xs with
  | nil => cases hy
  | cons z zs => exact List.mem_cons_of_mem _ hy

/-- **Behind a text a blank follows, or nothing.** -/
theorem head (h : Separated (x :: xs)) :
    (x.gap ++ typedForm xs).toList.head?.all isBlank = true := by
  have hblank := h.blank x List.mem_cons_self
  rw [String.toList_append]
  cases hgap : x.gap.toList with
  | cons b bs =>
    rw [hgap] at hblank
    exact List.all_eq_true.1 hblank b List.mem_cons_self
  | nil =>
    cases xs with
    | nil => rfl
    | cons z zs => exact absurd (String.toList_eq_nil_iff.1 hgap) (h.apart x List.mem_cons_self)

end Separated

/-- **Inside double quotes, what was escaped is said**, and behind the closing quote the scan goes
on outside. -/
theorem scanWord_escaped (opening : Nat) (rest : List Char) :
    ∀ (cs : List Char) (i : Nat), ∃ read, read.map Prod.fst = cs ∧
      scanWord (some ⟨'\x22', opening⟩) i (escaped cs ++ '\x22' :: rest) =
        let w := scanWord none (i + (escaped cs).length + 1) rest
        { w with read := read ++ w.read }
  | [], i => by
    refine ⟨[], rfl, ?_⟩
    rw [escaped, List.nil_append, scanWord_inside _ _ (by decide), if_pos rfl]
    rfl
  | c :: cs, i => by
    by_cases hc : c = '\\' ∨ c = '\x22'
    · obtain ⟨read, hread, hscan⟩ := scanWord_escaped opening rest cs (i + 2)
      refine ⟨(c, i + 1) :: read, by rw [List.map_cons, hread], ?_⟩
      have hend : i + ('\\' :: c :: escaped cs).length + 1 = i + 2 + (escaped cs).length + 1 := by
        simp only [List.length_cons]
        omega
      -- The scan takes the backslash and what it escapes in one step.
      rw [escaped, if_pos hc, hend, List.cons_append, List.cons_append, scanWord.eq_2, hscan]
      rfl
    · obtain ⟨hslash, hquote⟩ := not_or.1 hc
      obtain ⟨read, hread, hscan⟩ := scanWord_escaped opening rest cs (i + 1)
      have hend : i + (c :: escaped cs).length + 1 = i + 1 + (escaped cs).length + 1 := by
        rw [List.length_cons]
        omega
      refine ⟨(c, i) :: read, by rw [List.map_cons, hread], ?_⟩
      rw [escaped, if_neg hc, hend, List.cons_append, scanWord_inside _ _ hslash, if_neg hquote,
        hscan]
      rfl

section quotedWords

variable (lenient : Bool) (i : Nat)

/-- **A quoted form is one word**, up to the blank behind it or to the end, and says its text. -/
theorem scanWord_quotedForm (text : String) {rest : List Char}
    (hrest : rest.head?.all isBlank = true) :
    ∃ read, read.map Prod.fst = text.toList ∧
      scanWord none i ((quotedForm text).toList ++ rest) =
        ⟨read, i + (quotedForm text).length, rest, none⟩ := by
  have hblank : ¬isBlank '\x22' = true := by decide
  have hquote : isQuote '\x22' = true := rfl
  obtain ⟨read, hread, hscan⟩ := scanWord_escaped i rest text.toList (i + 1)
  have hend : i + 1 + (escaped text.toList).length + 1 = i + (quotedForm text).length := by
    rw [length_quotedForm]
    omega
  have hbehind := scanWord_plain hrest [] (i + (quotedForm text).length) rfl
  rw [List.nil_append, List.length_nil, Nat.add_zero] at hbehind
  refine ⟨read, hread, ?_⟩
  rw [toList_quotedForm, scanWord_outside _ (by decide), if_neg hblank, if_pos hquote, hscan, hend,
    hbehind]
  simp only [spelled, List.append_nil]

/-- **A quoted form is the first word of its line.** -/
theorem quotedWords_quotedForm (text : String) {rest : List Char}
    (hrest : rest.head?.all isBlank = true) :
    ∃ w : Word, w.token = ⟨text, i, i + (quotedForm text).length⟩ ∧
      quotedWords lenient i ((quotedForm text).toList ++ rest) =
        let more := quotedWords lenient (i + (quotedForm text).length) rest
        (w :: more.1, more.2) := by
  obtain ⟨read, hread, hscan⟩ := scanWord_quotedForm i text hrest
  have hblank : ¬isBlank '\x22' = true := by decide
  refine ⟨⟨read, i, i + (quotedForm text).length⟩, ?_, ?_⟩
  · rw [Word.token, hread, String.ofList_toList]
  · rw [toList_quotedForm] at hscan ⊢
    rw [quotedWords_of_word (List.dropWhile_cons_of_neg hblank),
      List.takeWhile_cons_of_neg hblank]
    simp only [List.length_nil, Nat.add_zero, hscan]

/-- **Blanks before a line are passed over.** -/
theorem quotedWords_blanks_append {gap : List Char} (h : gap.all isBlank = true) (cs : List Char) :
    quotedWords lenient i (gap ++ cs) = quotedWords lenient (i + gap.length) cs := by
  induction gap generalizing i with
  | nil => rfl
  | cons b gap ih =>
    rw [List.all_cons, Bool.and_eq_true] at h
    rw [List.cons_append, quotedWords_blank_cons _ _ h.1, ih _ h.2, List.length_cons]
    congr 1
    omega

/-- **Texts that are typed apart are the words of their line.** -/
theorem quotedWords_typedForm : ∀ {xs : List Typed} (i : Nat), Separated xs →
    ∃ ws, ws.map Word.token = formTokens i xs ∧
      quotedWords lenient i (typedForm xs).toList = (ws, none)
  | [], _, _ => ⟨[], rfl, quotedWords_of_blank rfl⟩
  | x :: xs, i, h => by
    obtain ⟨w, hw, hword⟩ := quotedWords_quotedForm lenient i x.text h.head
    obtain ⟨ws, hws, hmore⟩ :=
      quotedWords_typedForm (i + (quotedForm x.text).length + x.gap.length) h.tail
    refine ⟨w :: ws, by rw [List.map_cons, hw, hws]; rfl, ?_⟩
    rw [typedForm, String.toList_append, hword, String.toList_append,
      quotedWords_blanks_append _ _ (h.blank x List.mem_cons_self), String.length_toList, hmore]

end quotedWords

/-- The line of texts that are typed between quotes behind a front. -/
def quotedLine (front : String) (xs : List Typed) : String := front ++ typedForm xs

/-- **The tokens of typed words have the texts of the words.** -/
theorem texts_formTokens (xs : List Typed) (i : Nat) :
    Token.texts (formTokens i xs) = xs.map Typed.text := by
  induction xs generalizing i with
  | nil => rfl
  | cons x xs ih => exact congrArg (x.text :: ·) (ih _)

/-- **What is in front is found where it begins.** -/
theorem slice_front (s t : String) : slice (s ++ t) 0 s.length = s := by
  unfold slice
  rw [String.toList_append, ← String.length_toList, List.take_left, List.drop_zero,
    String.ofList_toList]

/-- **Each token spans the quoted form of its text.** -/
theorem slice_formTokens (xs : List Typed) (front : String) :
    (formTokens front.length xs).map (fun t => slice (front ++ typedForm xs) t.start t.stop) =
      xs.map fun x => quotedForm x.text := by
  induction xs generalizing front with
  | nil => rfl
  | cons x xs ih =>
    have hhead := Text.slice_append front (typedForm (x :: xs)) 0 (quotedForm x.text).length
    rw [Nat.zero_add, Nat.add_comm _ front.length, typedForm, slice_front] at hhead
    have hmore := ih (front ++ (quotedForm x.text ++ x.gap))
    rw [String.length_append, String.length_append, ← Nat.add_assoc, String.append_assoc,
      String.append_assoc] at hmore
    rw [formTokens, List.map_cons, List.map_cons, typedForm, hhead, hmore]

/-- **A line of texts in quotes is split into exactly these texts**, and each token spans the
quoted form of its text. -/
theorem split_quotedLine (lenient : Bool) (front : String) (xs : List Typed)
    (hfront : front.toList.all isBlank = true) (h : Separated xs) :
    quoted.split (quotedLine front xs) lenient = (formTokens front.length xs, none) ∧
      Token.texts (formTokens front.length xs) = xs.map Typed.text ∧
      (formTokens front.length xs).map (fun t => slice (quotedLine front xs) t.start t.stop) =
        xs.map fun x => quotedForm x.text := by
  obtain ⟨ws, hws, hwords⟩ := quotedWords_typedForm lenient (0 + front.length) h
  have hline : quotedWords lenient 0 (quotedLine front xs).toList = (ws, none) := by
    rw [quotedLine, String.toList_append, quotedWords_blanks_append _ _ hfront,
      String.length_toList, hwords]
  refine ⟨?_, texts_formTokens _ _, slice_formTokens xs front⟩
  rw [Nat.zero_add] at hws
  rw [split, hline]
  simp only [hws, Option.map_none]

/-- The empty text and a text with a blank, a backslash and a quote in it, behind a tabulator. -/
theorem split_two_texts_in_quotes :
    quoted.split "\t\x22\x22 \x22a \\\\\\\x22\x22\n" false =
      ([⟨"", 1, 3⟩, ⟨"a \\\x22", 4, 12⟩], none) := by
  have hline := split_quotedLine false "\t" [⟨"", " "⟩, ⟨"a \\\x22", "\n"⟩] (by decide)
    ⟨by decide, by decide⟩
  exact hline.1

end Splitting

end CommandGrammar
