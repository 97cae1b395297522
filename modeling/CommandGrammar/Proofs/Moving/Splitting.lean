/-
# Splitting a line behind a word

A quoted line that begins with a plain word and a blank is that word, and then whatever the rest of
the line is split into, moved behind the two.  A scan does not know where it began: begun later, it
finds the same words later (`scanWord_moved`, `quotedWords_moved`).
-/

import CommandGrammar.Proofs.Moving.Lines

namespace CommandGrammar

open Text

namespace Splitting

/-- The quote that stands `k` characters later. -/
def OpenQuote.moved (k : Nat) (q : OpenQuote) : OpenQuote := ⟨q.quote, q.opening + k⟩

/-- The characters read `k` characters later. -/
def movedRead (k : Nat) (read : List (Char × Nat)) : List (Char × Nat) :=
  read.map fun c => (c.1, c.2 + k)

/-- The scan begun `k` characters later. -/
def WordScan.moved (k : Nat) (w : WordScan) : WordScan :=
  ⟨movedRead k w.read, w.stop + k, w.rest, w.unclosed.map (OpenQuote.moved k)⟩

/-- The word that begins `k` characters later. -/
def Word.moved (k : Nat) (w : Word) : Word := ⟨movedRead k w.read, w.start + k, w.stop + k⟩

/-- The open quote that is found `k` characters later. -/
def Unterminated.moved (k : Nat) (u : Unterminated) : Unterminated :=
  ⟨u.opening + k, u.wordStart + k⟩

/-- **The token of a word that is moved is moved.** -/
theorem Word.token_moved (k : Nat) (w : Word) : (w.moved k).token = w.token.moved k := by
  simp [Word.token, Word.moved, Token.moved, movedRead, Function.comp_def]

/-- **Saying a character and moving a scan may be exchanged.** -/
theorem WordScan.moved_say (k : Nat) (w : WordScan) (c : Char) (i : Nat) :
    (w.say c i).moved k = (w.moved k).say c (i + k) := rfl

/-- **A scan of a word that is begun later finds the same later.** -/
theorem scanWord_moved (k : Nat) (inside : Option OpenQuote) (i : Nat) (cs : List Char) :
    scanWord (inside.map (OpenQuote.moved k)) (i + k) cs = (scanWord inside i cs).moved k := by
  fun_induction scanWord inside i cs with
  | case1 inside i => rfl
  | case2 inside i c rest ih =>
    rw [scanWord, Nat.add_right_comm i k 2, ih, WordScan.moved_say, Nat.add_right_comm i k 1]
  | case3 i rest q hescape ih =>
    rw [Nat.add_right_comm i 1 k] at ih
    rw [Option.map_some, scanWord.eq_3 _ _ _ _ hescape, ← ih]
    exact if_pos rfl
  | case4 i c rest hescape q hother ih =>
    rw [Nat.add_right_comm i 1 k] at ih
    rw [Option.map_some, scanWord.eq_3 _ _ _ _ hescape, WordScan.moved_say, ← ih]
    exact if_neg hother
  | case5 i c rest hescape hblank =>
    rw [Option.map_none, scanWord.eq_4 _ _ _ hescape, if_pos hblank]
    rfl
  | case6 i c rest hescape hblank hquote ih =>
    rw [Nat.add_right_comm i 1 k] at ih
    rw [Option.map_none, scanWord.eq_4 _ _ _ hescape, if_neg hblank, if_pos hquote, ← ih]
    rfl
  | case7 i c rest hescape hblank hquote ih =>
    rw [Nat.add_right_comm i 1 k] at ih
    rw [Option.map_none, scanWord.eq_4 _ _ _ hescape, if_neg hblank, if_neg hquote,
      WordScan.moved_say, ← ih]
    rfl

/-- **Outside of quotes, a character that is no backslash** ends the word, opens a quote or is
said. -/
theorem scanWord_outside (i : Nat) {c : Char} (hslash : c ≠ '\\') (rest : List Char) :
    scanWord none i (c :: rest) =
      if isBlank c then ⟨[], i, c :: rest, none⟩
      else if isQuote c then scanWord (some ⟨c, i⟩) (i + 1) rest
      else (scanWord none (i + 1) rest).say c i :=
  scanWord.eq_4 _ _ _ fun _ _ h _ => hslash h

/-- **Inside of quotes, a character that is no backslash** closes the quote or is said. -/
theorem scanWord_inside (q : OpenQuote) (i : Nat) {c : Char} (hslash : c ≠ '\\')
    (rest : List Char) :
    scanWord (some q) i (c :: rest) =
      if c = q.quote then scanWord none (i + 1) rest
      else (scanWord (some q) (i + 1) rest).say c i :=
  scanWord.eq_3 _ _ _ _ fun _ _ h _ => hslash h

section quotedWords

variable {lenient : Bool} {i : Nat} {cs rest : List Char} {c : Char}

/-- **In blanks there are no words.** -/
theorem quotedWords_of_blank (h : cs.dropWhile isBlank = []) :
    quotedWords lenient i cs = ([], none) := by
  rw [quotedWords]
  split
  · rfl
  · rename_i h'
    rw [h] at h'
    cases h'

/-- **The first word of a line is scanned from the first character that is not blank.** -/
theorem quotedWords_of_word (h : cs.dropWhile isBlank = c :: rest) :
    quotedWords lenient i cs =
      let start := i + (cs.takeWhile isBlank).length
      let w := scanWord none start (c :: rest)
      match w.unclosed with
      | some q =>
        if lenient then ([⟨w.read, start, w.stop⟩], none) else ([], some ⟨q.opening, start⟩)
      | none =>
        let more := quotedWords lenient w.stop w.rest
        (⟨w.read, start, w.stop⟩ :: more.1, more.2) := by
  rw [quotedWords]
  split
  · rename_i h'
    rw [h] at h'
    cases h'
  · rename_i c' rest' h'
    obtain ⟨rfl, rfl⟩ := List.cons.inj (h.symm.trans h')
    rfl

/-- **A line that is split from a later offset on has the same words, later.** -/
theorem quotedWords_moved (k : Nat) (lenient : Bool) (i : Nat) (cs : List Char) :
    quotedWords lenient (i + k) cs = ((quotedWords lenient i cs).1.map (Word.moved k),
      (quotedWords lenient i cs).2.map (Unterminated.moved k)) := by
  fun_induction quotedWords lenient i cs with
  | case1 i cs hblank => exact quotedWords_of_blank hblank
  | case2 i cs c rest hword start w q hopen hlenient =>
    have hscan : scanWord none (start + k) (c :: rest) = w.moved k := scanWord_moved k none _ _
    have hstart : i + k + (cs.takeWhile isBlank).length = start + k := Nat.add_right_comm _ _ _
    rw [quotedWords_of_word hword]
    simp only [hstart, hscan]
    simp [WordScan.moved, hopen, hlenient, Word.moved]
  | case3 i cs c rest hword start w q hopen hlenient =>
    have hscan : scanWord none (start + k) (c :: rest) = w.moved k := scanWord_moved k none _ _
    have hstart : i + k + (cs.takeWhile isBlank).length = start + k := Nat.add_right_comm _ _ _
    rw [quotedWords_of_word hword]
    simp only [hstart, hscan]
    simp [WordScan.moved, hopen, hlenient, Unterminated.moved, OpenQuote.moved]
  | case4 i cs c rest hword start w hclosed more ih =>
    have hscan : scanWord none (start + k) (c :: rest) = w.moved k := scanWord_moved k none _ _
    have hstart : i + k + (cs.takeWhile isBlank).length = start + k := Nat.add_right_comm _ _ _
    rw [quotedWords_of_word hword]
    simp only [hstart, hscan]
    simp [WordScan.moved, hclosed, Word.moved, ih, more]

/-- **A blank before a line is passed over.** -/
theorem quotedWords_blank_cons (lenient : Bool) (i : Nat) {b : Char} (hb : isBlank b = true)
    (cs : List Char) : quotedWords lenient i (b :: cs) = quotedWords lenient (i + 1) cs := by
  have hdrop : (b :: cs).dropWhile isBlank = cs.dropWhile isBlank := by simp [hb]
  cases hcs : cs.dropWhile isBlank with
  | nil => rw [quotedWords_of_blank hcs, quotedWords_of_blank (hdrop.trans hcs)]
  | cons c rest =>
    have hstart : i + ((b :: cs).takeWhile isBlank).length =
        i + 1 + (cs.takeWhile isBlank).length := by
      simp [hb]
      omega
    rw [quotedWords_of_word hcs, quotedWords_of_word (hdrop.trans hcs)]
    simp only [hstart]

end quotedWords

/-- A character that a quoted line takes as it is, and that separates no words. -/
def isPlain (c : Char) : Bool := !isBlank c && !isQuote c && c != '\\'

/-- The characters of a text, each with its offset. -/
def spelled (i : Nat) : List Char → List (Char × Nat)
  | [] => []
  | c :: cs => (c, i) :: spelled (i + 1) cs

/-- **A spelling has the characters that it spells.** -/
theorem map_fst_spelled (i : Nat) (cs : List Char) : (spelled i cs).map Prod.fst = cs := by
  induction cs generalizing i with
  | nil => rfl
  | cons c cs ih => simp [spelled, ih]

/-- **The token of a spelling says the word.** -/
theorem Word.token_spelled (word : String) (i j : Nat) :
    (⟨spelled i word.toList, i, j⟩ : Word).token = ⟨word, i, j⟩ := by
  rw [Word.token, map_fst_spelled, String.ofList_toList]

/-- **A plain word is read to the blank behind it**, or to the end. -/
theorem scanWord_plain {rest : List Char} (hrest : rest.head?.all isBlank = true) :
    ∀ (word : List Char) (i : Nat), word.all isPlain = true →
      scanWord none i (word ++ rest) = ⟨spelled i word, i + word.length, rest, none⟩
  | [], i, _ => by
    cases rest with
    | nil => rfl
    | cons b cs =>
      have hb : isBlank b = true := hrest
      have hslash : b ≠ '\\' := by
        rintro rfl
        exact absurd hb (by decide)
      rw [List.nil_append, scanWord_outside _ hslash, if_pos hb]
      rfl
  | c :: word, i, h => by
    obtain ⟨hc, hword⟩ : isPlain c = true ∧ word.all isPlain = true := by simpa using h
    obtain ⟨⟨hblank, hquote⟩, hslash⟩ :
        (isBlank c = false ∧ isQuote c = false) ∧ c ≠ '\\' := by simpa [isPlain] using hc
    have hword := scanWord_plain hrest word (i + 1) hword
    rw [List.cons_append, scanWord_outside _ hslash, hword]
    simp [hblank, hquote, WordScan.say, spelled]
    omega

/-- **A plain word is the first word of its line.** -/
theorem quotedWords_plain (lenient : Bool) (i : Nat) {word rest : List Char} (hne : word ≠ [])
    (hplain : word.all isPlain = true) (hrest : rest.head?.all isBlank = true) :
    quotedWords lenient i (word ++ rest) =
      (⟨spelled i word, i, i + word.length⟩ :: (quotedWords lenient (i + word.length) rest).1,
        (quotedWords lenient (i + word.length) rest).2) := by
  obtain ⟨c, more, rfl⟩ := List.exists_cons_of_ne_nil hne
  have hc : isBlank c = false := by
    have hall : isPlain c = true := List.all_eq_true.1 hplain c List.mem_cons_self
    simp only [isPlain, Bool.and_eq_true, Bool.not_eq_true'] at hall
    exact hall.1.1
  have hdrop : (c :: more ++ rest).dropWhile isBlank = c :: (more ++ rest) := by simp [hc]
  have htake : (c :: more ++ rest).takeWhile isBlank = [] := by simp [hc]
  have hscan := scanWord_plain hrest (c :: more) i hplain
  rw [List.cons_append] at hscan
  rw [quotedWords_of_word hdrop, htake]
  simp only [List.length_nil, Nat.add_zero, hscan]

end Splitting

/-- **The error of an open quote is moved with its line.** -/
theorem Splitting.Unterminated.moved_error (front raw : String) (u : Unterminated) :
    (u.error raw).Moved front ((u.moved front.length).error (front ++ raw)) where
  raw := rfl
  position := Int.natCast_add _ _
  kind := rfl
  problem h := absurd rfl h

/-- **A plain word is a line of one token.** -/
theorem TokenStream.ofLine_of_plain {word : String} (hne : word ≠ "")
    (hplain : word.toList.all Splitting.isPlain = true) :
    ofLine .quoted word = .ofTokens word [⟨word, 0, word.toList.length⟩] none := by
  have hend : Splitting.quotedWords false (0 + word.toList.length) [] = ([], none) :=
    Splitting.quotedWords_of_blank rfl
  have hword : Splitting.quotedWords false 0 (word.toList ++ []) = _ :=
    Splitting.quotedWords_plain false 0 (by simpa using hne) hplain rfl
  rw [List.append_nil, hend] at hword
  refine ofLine_of_split ?_
  rw [Splitting.split, hword]
  simp [Splitting.Word.token_spelled]

/-- **The empty line has no tokens.** -/
theorem TokenStream.ofLine_empty : ofLine .quoted "" = .ofTokens "" [] none := by
  have hwords : Splitting.quotedWords false 0 "".toList = ([], none) :=
    Splitting.quotedWords_of_blank rfl
  refine ofLine_of_split ?_
  rw [Splitting.split, hwords]
  rfl

/-- **Behind the words of a front stands the line that follows the front**, if a scan of both comes
from these words to that line. -/
theorem TokenStream.moved_behind_words {front following : String} (words : List Splitting.Word)
    (h : Splitting.quotedWords false 0 (front.toList ++ following.toList) =
      (words ++ (Splitting.quotedWords false front.length following.toList).1,
        (Splitting.quotedWords false front.length following.toList).2)) :
    ∃ s, (ofLine .quoted following).Moved front (words.map Splitting.Word.token) s ∧
      ofLine .quoted (front ++ following) = s.withCursor 0 (Nat.zero_le _) := by
  obtain ⟨more, open?, hmore⟩ : ∃ more open?,
      Splitting.quotedWords false 0 following.toList = (more, open?) := ⟨_, _, rfl⟩
  have hmoved := Splitting.quotedWords_moved front.length false 0 following.toList
  rw [Nat.zero_add, hmore] at hmoved
  rw [hmoved, ← String.toList_append] at h
  have hsplit : Splitting.quoted.split following false =
      (more.map Splitting.Word.token, open?.map (Splitting.Unterminated.error following)) := by
    rw [Splitting.split, hmore]
  have hsplit' : Splitting.quoted.split (front ++ following) false =
      (words.map Splitting.Word.token ++
          (more.map Splitting.Word.token).map (Token.moved front.length),
        (open?.map (Splitting.Unterminated.moved front.length)).map
          (Splitting.Unterminated.error (front ++ following))) := by
    rw [Splitting.split, h]
    simp [Function.comp_def, Splitting.Word.token_moved]
  rw [ofLine_of_split hsplit, ofLine_of_split hsplit']
  refine ⟨(ofTokens (front ++ following) _ _).withCursor (words.map Splitting.Word.token).length ?_,
    ⟨rfl, rfl, rfl, ?_, ?_⟩, rfl⟩
  · rw [ofTokens, List.length_append]
    exact Nat.le_add_right _ _
  · cases open? with
    | none => exact .none
    | some u => exact .some (u.moved_error front following)
  · intro e he
    cases open? with
    | none => cases he
    | some u =>
      cases he
      exact Int.natCast_nonneg _

/-- **Behind a plain word and a blank stands the line that follows them.** -/
theorem TokenStream.moved_behind_word {word : String} (rest : String) (hne : word ≠ "")
    (hplain : word.toList.all Splitting.isPlain = true) :
    ∃ t r, t.text = word ∧ (ofLine .quoted (word ++ " " ++ rest)).head? = some t ∧
      (ofLine .quoted (word ++ " " ++ rest)).next = .ok (word, r) ∧
      (ofLine .quoted rest).Moved (word ++ " ") [t] r := by
  have hfront : (word ++ " ").length = 0 + word.toList.length + 1 := by
    rw [String.length_append, String.length_toList, Nat.zero_add]
    rfl
  have hchars : (word ++ " ").toList ++ rest.toList = word.toList ++ ' ' :: rest.toList := by simp
  have hblank : isBlank ' ' = true := by decide
  have hwords := Splitting.quotedWords_plain false 0 (by simpa using hne) hplain
    (show (' ' :: rest.toList).head?.all isBlank = true from hblank)
  rw [Splitting.quotedWords_blank_cons _ _ hblank, ← hfront, ← hchars] at hwords
  obtain ⟨s, hmoved, hline⟩ := moved_behind_words [_] hwords
  rw [List.map_singleton, Splitting.Word.token_spelled] at hmoved
  rw [hline]
  have hhead : (s.withCursor 0 (Nat.zero_le _)).head? = some ⟨word, 0, 0 + word.toList.length⟩ := by
    show s.tokens[0]? = _
    rw [hmoved.tokens]
    rfl
  obtain ⟨hc, hnext⟩ := next_of_head? hhead
  exact ⟨_, _, rfl, hhead, hnext, hmoved.raw, hmoved.tokens, rfl, hmoved.pending, hmoved.inside⟩

end CommandGrammar
