/-
# Splitting a line into tokens

Three ways to split a line:

| way | tokens |
| --- | --- |
| `quoted` | blanks separate; quotes group; a backslash takes the next character as it is |
| `spaced` | the maximal runs of characters that are not blank |
| `whole` | the line, if it is not empty |

A word of a quoted line is read character by character, and each character it says is kept with the
offset it was read from (`Word.read`), so that the text of a token and the source of each of its
characters come from one scan.  A quote that is not closed ends the line: a strict split reports
where the quote was opened and where its word began, a lenient one closes it at the end.
-/

import CommandGrammar.Token.Basic
import CommandGrammar.Text.Blank

namespace CommandGrammar

open Text

/-- The ways to split a line. -/
inductive Splitting
  /-- Blanks separate, quotes group, a backslash escapes. -/
  | quoted
  /-- Blanks separate. -/
  | spaced
  /-- The line is one token. -/
  | whole
  deriving DecidableEq, Repr

namespace Splitting

/-- The two characters that open and close a group. -/
def isQuote (c : Char) : Bool := c == '\x22' || c == '\x27'

/-- A quote that is open: the character, and the offset it stands at. -/
structure OpenQuote where
  /-- The quote character, which also closes the group. -/
  quote : Char
  /-- Where it stands in the line. -/
  opening : Nat
  deriving DecidableEq, Repr

/-- What a scan of one word has found. -/
structure WordScan where
  /-- The characters that the word says, each with the offset it was read from. -/
  read : List (Char × Nat)
  /-- The offset at which the word ends. -/
  stop : Nat
  /-- The characters after the word. -/
  rest : List Char
  /-- The quote that is still open at the end of the line. -/
  unclosed : Option OpenQuote

/-- A scan whose word begins with one more character. -/
def WordScan.say (w : WordScan) (c : Char) (i : Nat) : WordScan :=
  { w with read := (c, i) :: w.read }

/-- The word that goes on at offset `i`, inside the quote `inside` if there is one. -/
def scanWord (inside : Option OpenQuote) (i : Nat) : List Char → WordScan
  | [] => ⟨[], i, [], inside⟩
  | '\\' :: c :: rest => (scanWord inside (i + 2) rest).say c (i + 1)
  | c :: rest =>
    match inside with
    | some q =>
      if c = q.quote then scanWord none (i + 1) rest
      else (scanWord inside (i + 1) rest).say c i
    | none =>
      if isBlank c then ⟨[], i, c :: rest, none⟩
      else if isQuote c then scanWord (some ⟨c, i⟩) (i + 1) rest
      else (scanWord none (i + 1) rest).say c i

/-- **A scan leaves a part of what it was given.** -/
theorem scanWord_rest_length_le (inside : Option OpenQuote) (i : Nat) (cs : List Char) :
    (scanWord inside i cs).rest.length ≤ cs.length := by
  fun_induction scanWord inside i cs <;> simp_all [WordScan.say] <;> omega

/-- **A word takes at least one character.** -/
theorem scanWord_rest_length_lt (i : Nat) {c : Char} (rest : List Char) (hc : isBlank c = false) :
    (scanWord none i (c :: rest)).rest.length < (c :: rest).length := by
  have h := fun q j (cs : List Char) => scanWord_rest_length_le q j cs
  unfold scanWord
  split
  · simp at *
  · rename_i d r heq
    simp only [List.cons.injEq] at heq
    obtain ⟨rfl, rfl⟩ := heq
    have := h none (i + 2) r
    simp only [WordScan.say, List.length_cons]; omega
  · rename_i d r _ heq
    simp only [List.cons.injEq] at heq
    obtain ⟨rfl, rfl⟩ := heq
    simp only [hc, Bool.false_eq_true, ↓reduceIte]
    split
    · have := h (some ⟨c, i⟩) (i + 1) rest; simp only [List.length_cons]; omega
    · have := h none (i + 1) rest; simp only [WordScan.say, List.length_cons]; omega

/-- A word of a quoted line: what it says, and its span. -/
structure Word where
  /-- The characters that the word says, each with the offset it was read from. -/
  read : List (Char × Nat)
  /-- The offset of its first character. -/
  start : Nat
  /-- The offset after its last character. -/
  stop : Nat
  deriving DecidableEq, Repr

/-- The token that a word is. -/
def Word.token (w : Word) : Token := ⟨String.ofList (w.read.map Prod.fst), w.start, w.stop⟩

/-- A quote that a strict split finds open: where it stands and where its word begins. -/
structure Unterminated where
  /-- Where the quote stands. -/
  opening : Nat
  /-- Where the word that holds it begins. -/
  wordStart : Nat
  deriving DecidableEq, Repr

/-- The words of a quoted line from offset `i` on, and the quote that is left open. -/
def quotedWords (lenient : Bool) (i : Nat) (cs : List Char) : List Word × Option Unterminated :=
  match _h : cs.dropWhile isBlank with
  | [] => ([], none)
  | c :: rest =>
    let start := i + (cs.takeWhile isBlank).length
    let w := scanWord none start (c :: rest)
    match w.unclosed with
    | some q =>
      if lenient then ([⟨w.read, start, w.stop⟩], none) else ([], some ⟨q.opening, start⟩)
    | none =>
      let more := quotedWords lenient w.stop w.rest
      (⟨w.read, start, w.stop⟩ :: more.1, more.2)
  termination_by cs.length
  decreasing_by
    have hc : isBlank c = false := by
      have := List.head_dropWhile_not isBlank (show cs.dropWhile isBlank ≠ [] by simp [_h])
      simpa [_h] using this
    have h1 := scanWord_rest_length_lt (i + (cs.takeWhile isBlank).length) rest hc
    have h2 : (c :: rest).length ≤ cs.length := by
      rw [← _h]; exact (List.dropWhile_sublist _).length_le
    exact Nat.lt_of_lt_of_le h1 h2

/-- The maximal runs of characters that are not blank from offset `i` on; `run` is the current one,
reversed. -/
def spacedTokens (run : List Char) (i : Nat) : List Char → List Token
  | [] => if run.isEmpty then [] else [⟨String.ofList run.reverse, i - run.length, i⟩]
  | c :: rest =>
    if isBlank c then
      if run.isEmpty then spacedTokens [] (i + 1) rest
      else ⟨String.ofList run.reverse, i - run.length, i⟩ :: spacedTokens [] (i + 1) rest
    else spacedTokens (c :: run) (i + 1) rest

/-- The error that a strict split leaves at the end of the tokens. -/
def Unterminated.error (raw : String) (u : Unterminated) : ParseError :=
  ⟨.unterminatedQuote u.opening, raw, u.wordStart⟩

/-- The tokens of a line, and the error that is met when they are read to the end. -/
def split (way : Splitting) (raw : String) (lenient : Bool) : List Token × Option ParseError :=
  match way with
  | .whole => (if raw.isEmpty then [] else [⟨raw, 0, raw.length⟩], none)
  | .spaced => (spacedTokens [] 0 raw.toList, none)
  | .quoted =>
    let (ws, open?) := quotedWords lenient 0 raw.toList
    (ws.map Word.token, open?.map (Unterminated.error raw))

/-- **A lenient split meets no error.** -/
theorem split_lenient_error (way : Splitting) (raw : String) : (split way raw true).2 = none := by
  have key : ∀ (i : Nat) (cs : List Char), (quotedWords true i cs).2 = none := by
    intro i cs
    fun_induction quotedWords true i cs <;> simp_all +zetaDelta
  cases way <;> simp [split, key]

end Splitting
end CommandGrammar
