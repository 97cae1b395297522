/-
# Token streams

The tokens of one line with a cursor between them.  A stream is a value: reading gives the next
stream, and going back to an earlier place is keeping the earlier value.

| operation | cursor | fails |
| --- | --- | --- |
| `next` | one forward | at the end, or at an unclosed quote |
| `peek` | stays | as `next` |
| `previous` | one back | at the start |
| `seek` | to a given token | outside the line's tokens |
| `skipAll` | to the end | never |

The error of an unclosed quote is `pending` until a read reaches it, and counts as one more thing to
read (`hasNext`, `remaining`).  The cursor never leaves the tokens: the bound is a field.
-/

import CommandGrammar.Token.Split

namespace CommandGrammar

/-- The tokens of one line, with a cursor between them. -/
structure TokenStream where
  /-- The line. -/
  raw : String
  /-- Its tokens. -/
  tokens : List Token
  /-- The error that stands after the last token. -/
  pending : Option ParseError
  /-- How many tokens are read. -/
  cursor : Nat
  cursor_le : cursor ≤ tokens.length

namespace TokenStream

/-- A stream at the start of the given tokens. -/
def ofTokens (raw : String) (tokens : List Token) (pending : Option ParseError) : TokenStream :=
  ⟨raw, tokens, pending, 0, Nat.zero_le _⟩

/-- The stream of a line. -/
def ofLine (way : Splitting) (raw : String) : TokenStream :=
  let (tokens, pending) := way.split raw false
  ofTokens raw tokens pending

/-- The tokens of a line that is still being typed.  The last one ends where the line ends: it is
the word being typed, empty when the line is empty or ends in a blank outside every word. -/
def typedTokens (way : Splitting) (raw : String) : List Token :=
  let tokens := (way.split raw true).1
  let size := raw.length
  match tokens.getLast? with
  | some t => if t.stop < size then tokens ++ [⟨"", size, size⟩] else tokens
  | none => [⟨"", size, size⟩]

/-- The stream of a line that is still being typed. -/
def ofTyped (way : Splitting) (raw : String) : TokenStream :=
  ofTokens raw (typedTokens way raw) none

/-- **A line being typed always has a last word.** -/
theorem typedTokens_ne_nil (way : Splitting) (raw : String) : typedTokens way raw ≠ [] := by
  unfold typedTokens
  simp only
  split
  · rename_i t h
    split
    · simp
    · intro h'; simp [h'] at h
  · simp

/-- The tokens that are not read yet. -/
def unread (s : TokenStream) : List Token := s.tokens.drop s.cursor

/-- The texts of all tokens, read or not. -/
def texts (s : TokenStream) : List String := Token.texts s.tokens

/-- The same tokens with the cursor at `n`. -/
def withCursor (s : TokenStream) (n : Nat) (h : n ≤ s.tokens.length) : TokenStream :=
  { s with cursor := n, cursor_le := h }

/-- The token at the cursor. -/
def head? (s : TokenStream) : Option Token := s.tokens[s.cursor]?

/-- Whether a token, or the pending error, is ahead. -/
def hasNext (s : TokenStream) : Bool := s.cursor < s.tokens.length || s.pending.isSome

/-- Whether a token is behind. -/
def hasPrevious (s : TokenStream) : Bool := 0 < s.cursor

/-- How much is left to read; the pending error counts as one. -/
def remaining (s : TokenStream) : Nat :=
  s.tokens.length - s.cursor + (if s.pending.isSome then 1 else 0)

/-- Where the next token begins: the offset of the pending error, or the line's length, when there
is none. -/
def position (s : TokenStream) : Int :=
  match s.head? with
  | some t => t.start
  | none =>
    match s.pending with
    | some e => e.position
    | none => s.raw.length

/-- A problem at the cursor. -/
def error (s : TokenStream) (p : Problem) : ParseError := ⟨p, s.raw, s.position⟩

/-- A problem at a given offset. -/
def errorAt (s : TokenStream) (position : Int) (p : Problem) : ParseError := ⟨p, s.raw, position⟩

/-- The error of reading past the last token. -/
def endError (s : TokenStream) : ParseError :=
  match s.pending with
  | some e => e
  | none => ⟨.notEnoughArguments, s.raw, s.raw.length⟩

/-- The text of the next token, and the stream after it. -/
def next (s : TokenStream) : Except ParseError (String × TokenStream) :=
  if h : s.cursor < s.tokens.length then
    .ok (s.tokens[s.cursor].text, s.withCursor (s.cursor + 1) h)
  else .error s.endError

/-- The text of the next token and the stream after it, if there is a next token. -/
def next? (s : TokenStream) : Option (String × TokenStream) :=
  if h : s.cursor < s.tokens.length then
    some (s.tokens[s.cursor].text, s.withCursor (s.cursor + 1) h)
  else none

/-- The text of the next token. -/
def peek (s : TokenStream) : Except ParseError String :=
  match s.head? with
  | some t => .ok t.text
  | none => .error s.endError

/-- The text of the token behind the cursor, and the stream before it. -/
def previous (s : TokenStream) : Except ParseError (String × TokenStream) :=
  if h : 0 < s.cursor then
    have hc : s.cursor - 1 < s.tokens.length := by have := s.cursor_le; omega
    .ok (s.tokens[s.cursor - 1].text, s.withCursor (s.cursor - 1) (Nat.le_of_lt hc))
  else .error ⟨.noPreviousArgument, s.raw, 0⟩

/-- The stream with the cursor at a given token, if there is such a place. -/
def seek? (s : TokenStream) (n : Int) : Option TokenStream :=
  if h : 0 ≤ n ∧ n ≤ s.tokens.length then
    some (s.withCursor n.toNat (by omega))
  else none

/-- The stream after its last token; the pending error stays ahead. -/
def skipAll (s : TokenStream) : TokenStream := s.withCursor s.tokens.length (Nat.le_refl _)

/-- The stream in one line. -/
def describe (s : TokenStream) : String :=
  let raw := Text.quoted s.raw
  let texts := Text.joined ", " (s.texts.map Text.quoted)
  s!"TokenStream(raw={raw}, tokens=[{texts}], cursor={s.cursor})"

/-- **Reading gives the token at the cursor.** -/
theorem next_eq (s : TokenStream) (h : s.cursor < s.tokens.length) :
    s.next = .ok (s.tokens[s.cursor].text, s.withCursor (s.cursor + 1) h) := by
  simp [next, h]

/-- **Reading and peeking agree.** -/
theorem peek_eq_map_next (s : TokenStream) : s.peek = s.next.map Prod.fst := by
  unfold peek next head?
  by_cases h : s.cursor < s.tokens.length
  · simp [h, Except.map]
  · simp [h, Except.map]

end TokenStream
end CommandGrammar
