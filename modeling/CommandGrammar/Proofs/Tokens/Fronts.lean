/-
# Words at the front of a quoted line

A word may be typed in more than one way, and what it is followed by makes no difference as long as
it begins with a blank or is empty: `Splitting.Writes form text` says that the form is one word that
says the text wherever it stands like that, and `Splitting.Says front texts` that a front of a line
is made of such forms, with blanks between them.

| form | text |
| --- | --- |
| a plain word | the word |
| a text between double quotes, escaped | the text |

So a line that begins with a front has the words of the front first, and then those of the line that
follows it, moved (`Splitting.Says.exists_moved`).
-/

import CommandGrammar.Proofs.Tokens.Quoting

namespace CommandGrammar

open Text

namespace Splitting

/-- In a quoted line, the form is one word that says the text, up to the blank behind it or to the
end of the line. -/
def Writes (form text : String) : Prop :=
  ∀ (i : Nat) (rest : List Char), rest.head?.all isBlank = true →
    ∃ w : Word, w.token = ⟨text, i, i + form.length⟩ ∧
      quotedWords false i (form.toList ++ rest) =
        (w :: (quotedWords false (i + form.length) rest).1,
          (quotedWords false (i + form.length) rest).2)

/-- **A plain word is written as it is.** -/
theorem writes_plain {word : String} (hne : word ≠ "") (hplain : word.toList.all isPlain = true) :
    Writes word word := by
  intro i rest hrest
  refine ⟨⟨spelled i word.toList, i, i + word.length⟩, Word.token_spelled word _ _, ?_⟩
  have hword := quotedWords_plain false i (by simpa using hne) hplain hrest
  rw [String.length_toList] at hword
  exact hword

/-- **A form of a word is not empty.** -/
theorem Writes.length_pos {form text : String} (h : Writes form text) : 0 < form.length := by
  obtain ⟨w, -, hwords⟩ := h 0 [] rfl
  refine Nat.pos_of_ne_zero fun hzero => ?_
  rw [← String.length_toList] at hzero
  rw [List.eq_nil_of_length_eq_zero hzero] at hwords
  cases (hwords.symm.trans (quotedWords_of_blank rfl))

/-- **Behind a word stands the line that follows it.** -/
theorem Writes.exists_moved {form text following : String} (h : Writes form text)
    (hfollowing : following.toList.head?.all isBlank = true) :
    ∃ s, (TokenStream.ofLine .quoted following).Moved form [⟨text, 0, form.length⟩] s ∧
      TokenStream.ofLine .quoted (form ++ following) = s.withCursor 0 (Nat.zero_le _) := by
  obtain ⟨w, hw, hwords⟩ := h 0 following.toList hfollowing
  rw [Nat.zero_add] at hw hwords
  obtain ⟨s, hmoved, hline⟩ := TokenStream.moved_behind_words [w] hwords
  rw [List.map_singleton, hw] at hmoved
  exact ⟨s, hmoved, hline⟩

/-- The front of a line is typed as the texts, one behind the other. -/
inductive Says : String → List String → Prop
  | word {form text : String} (writes : Writes form text) : Says form [text]
  | behind {form text gap front : String} {texts : List String} (writes : Writes form text)
      (blank : gap.toList.all isBlank = true) (apart : gap ≠ "") (more : Says front texts) :
      Says (form ++ (gap ++ front)) (text :: texts)

/-- **A front that says one text is a way of writing it.** -/
theorem Says.writes {front text : String} (h : Says front [text]) : Writes front text := by
  cases h with
  | word writes => exact writes
  | behind _ _ _ more => cases more

/-- **The words of a front come first**, and then those of what follows it. -/
theorem Says.exists_words {front : String} {texts : List String} (h : Says front texts)
    (i : Nat) {rest : List Char} (hrest : rest.head?.all isBlank = true) :
    ∃ words : List Word, Token.texts (words.map Word.token) = texts ∧
      quotedWords false i (front.toList ++ rest) =
        (words ++ (quotedWords false (i + front.length) rest).1,
          (quotedWords false (i + front.length) rest).2) := by
  induction h generalizing i with
  | word writes =>
    obtain ⟨w, hw, hwords⟩ := writes i rest hrest
    exact ⟨[w], congrArg (fun t : Token => [t.text]) hw, hwords⟩
  | @behind form text gap front texts writes blank apart _ ih =>
    obtain ⟨words, htexts, hmore⟩ := ih (i + form.length + gap.length)
    have hgap : ((gap ++ front).toList ++ rest).head?.all isBlank = true := by
      obtain ⟨b, bs, hb⟩ := List.exists_cons_of_ne_nil (mt String.toList_eq_nil_iff.1 apart)
      rw [String.toList_append, hb]
      exact List.all_eq_true.1 blank b (by rw [hb]; exact List.mem_cons_self)
    obtain ⟨w, hw, hwords⟩ := writes i _ hgap
    refine ⟨w :: words, ?_, ?_⟩
    · rw [List.map_cons, hw, ← htexts]
      rfl
    · rw [String.toList_append, List.append_assoc, hwords, String.toList_append, List.append_assoc,
        quotedWords_blanks_append _ _ blank, String.length_toList, hmore, String.length_append,
        String.length_append, ← Nat.add_assoc, ← Nat.add_assoc]
      rfl

/-- **Behind the words of a front stands the line that follows it.** -/
theorem Says.exists_moved {front following : String} {texts : List String} (h : Says front texts)
    (hfollowing : following.toList.head?.all isBlank = true) :
    ∃ passed s, Token.texts passed = texts ∧
      (TokenStream.ofLine .quoted following).Moved front passed s ∧
      TokenStream.ofLine .quoted (front ++ following) = s.withCursor 0 (Nat.zero_le _) := by
  obtain ⟨words, htexts, hwords⟩ := h.exists_words 0 hfollowing
  rw [Nat.zero_add] at hwords
  obtain ⟨s, hmoved, hline⟩ := TokenStream.moved_behind_words words hwords
  exact ⟨_, s, htexts, hmoved, hline⟩

end Splitting
end CommandGrammar
