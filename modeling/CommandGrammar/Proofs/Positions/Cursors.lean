/-
# Operations on a stream

A stream is asked one thing after the other: what stands at the cursor, what is left, to move the
cursor, to go back to a place.  It answers, or it refuses.  A few operations may move the cursor or
be refused; among `size` tokens, with the cursor behind `i` of them, they lead to

| operation | place | refused |
| --- | --- | --- |
| `next` | `i + 1` | at the end |
| `nextIfPresent` | `i + 1`, at the end `i` | never |
| `peek` | `i` | at the end |
| `previous` | `i - 1` | at the start |
| `skipRemaining` | `size` | never |
| `restore` | the saved place | outside of the tokens, or if it is no place |

This is all that an operation does to a stream (`Operation.run_cases`), so a run of operations does
to the cursor what it does to a number (`cursor_run`), and leaves the line, its tokens and the error
behind them (`sameLine_run`).

On the stream of a line each token, and the error behind the tokens, stands further in the line than
the tokens before it (`Laid.position_lt`).  And reading is undone by going back, token for token
(`run_previous`).
-/

import CommandGrammar.Proofs.Positions.Streams
import CommandGrammar.Session

namespace CommandGrammar
namespace TokenStream

/-- What a stream can be asked. -/
inductive Operation
  /-- The next token; the cursor moves behind it. -/
  | next
  /-- The next token, if there is one. -/
  | nextIfPresent
  /-- The next token; the cursor stays. -/
  | peek
  /-- The token behind the cursor; the cursor moves before it. -/
  | previous
  /-- Moves the cursor to the end. -/
  | skipRemaining
  /-- Takes the cursor to a saved place. -/
  | restore (state : SavedState)
  /-- The place where the cursor stands. -/
  | save
  | hasNext
  | hasPrevious
  | remaining
  | unread
  | texts
  | position
  | raw
  | size
  | pending
  | describe
  /-- A problem at an offset of the line; at the cursor, if none is given. -/
  | problem (position : Option Int) (p : Problem)

/-- What a stream answers. -/
inductive Reply
  | nothing
  | text (t : String)
  | perhaps (t : Option String)
  | truth (b : Bool)
  | count (n : Nat)
  | offset (i : Int)
  | texts (ts : List String)
  | tokens (ts : List Token)
  | state (s : SavedState)
  | error (e : ParseError)
  | pending (e : Option ParseError)

/-- Why a stream refuses. -/
inductive Refusal
  /-- There is no token to read. -/
  | reading (e : ParseError)
  /-- A state cannot be taken up. -/
  | state (why : RestoreProblem)

variable {s t u : TokenStream} {line : String}

/-- The stream at a saved place. -/
def restored (s : TokenStream) : SavedState → Except RestoreProblem TokenStream
  | .place n =>
    match s.seek? n with
    | some r => .ok r
    | none => .error (.outside n)
  | state => .error (.wrongKind "TokenStreamState" state.kindName)

/-- The answer of a move, and the stream behind it. -/
def moved (s : TokenStream) :
    Except ParseError (String × TokenStream) → Except Refusal Reply × TokenStream
  | .ok (t, r) => (.ok (.text t), r)
  | .error e => (.error (.reading e), s)

/-- What an operation comes to, and the stream behind it. -/
def Operation.run (s : TokenStream) : Operation → Except Refusal Reply × TokenStream
  | .next => s.moved s.next
  | .nextIfPresent =>
    match s.next? with
    | some (t, r) => (.ok (.perhaps (some t)), r)
    | none => (.ok (.perhaps none), s)
  | .peek => ((s.peek.map Reply.text).mapError Refusal.reading, s)
  | .previous => s.moved s.previous
  | .skipRemaining => (.ok .nothing, s.skipAll)
  | .restore state =>
    match s.restored state with
    | .ok r => (.ok .nothing, r)
    | .error why => (.error (.state why), s)
  | .save => (.ok (.state (.place s.cursor)), s)
  | .hasNext => (.ok (.truth s.hasNext), s)
  | .hasPrevious => (.ok (.truth s.hasPrevious), s)
  | .remaining => (.ok (.count s.remaining), s)
  | .unread => (.ok (.tokens s.unread), s)
  | .texts => (.ok (.texts s.texts), s)
  | .position => (.ok (.offset s.position), s)
  | .raw => (.ok (.text s.raw), s)
  | .size => (.ok (.count s.tokens.length), s)
  | .pending => (.ok (.pending s.pending), s)
  | .describe => (.ok (.text s.describe), s)
  | .problem none p => (.ok (.error (s.error p)), s)
  | .problem (some i) p => (.ok (.error (s.errorAt i p)), s)

/-- What a run of operations comes to, one answer for each, and the stream behind them.  A run goes
on behind an operation that is refused. -/
def run (s : TokenStream) : List Operation → List (Except Refusal Reply) × TokenStream
  | [] => ([], s)
  | op :: ops =>
    let r := op.run s
    let rest := run r.2 ops
    (r.1 :: rest.1, rest.2)

/-- Where an operation leads among `size` tokens if the cursor is behind `i` of them; nowhere, if it
is refused. -/
def Operation.target? (size i : Nat) : Operation → Option Nat
  | .next => if i < size then some (i + 1) else none
  | .nextIfPresent => if i < size then some (i + 1) else some i
  | .peek => if i < size then some i else none
  | .previous => if 0 < i then some (i - 1) else none
  | .skipRemaining => some size
  | .restore (.place n) => if 0 ≤ n ∧ n ≤ size then some n.toNat else none
  | .restore (.bindings _) => none
  | .save | .hasNext | .hasPrevious | .remaining | .unread | .texts | .position | .raw | .size
  | .pending | .describe | .problem _ _ => some i

/-- Where the cursor is behind an operation: where it leads, or else where it was. -/
def Operation.goes (size i : Nat) (op : Operation) : Nat := (op.target? size i).getD i

/-- **An operation answers and goes where it leads, or it leads nowhere and is refused**; then the
stream is as it was. -/
theorem Operation.run_cases (op : Operation) (s : TokenStream) :
    (∃ r i, ∃ hi : i ≤ s.tokens.length,
      op.target? s.tokens.length s.cursor = some i ∧ op.run s = (.ok r, s.withCursor i hi)) ∨
    (∃ why, op.target? s.tokens.length s.cursor = none ∧ op.run s = (.error why, s)) := by
  have hstay := s.cursor_le
  cases op with
  | next =>
    by_cases h : s.cursor < s.tokens.length
    · exact .inl ⟨_, _, h, if_pos h, by rw [run, s.next_eq h, moved]⟩
    · exact .inr ⟨_, if_neg h, by rw [run, TokenStream.next, dif_neg h, moved]⟩
  | nextIfPresent =>
    by_cases h : s.cursor < s.tokens.length
    · exact .inl ⟨_, _, h, if_pos h, by rw [run, next?, dif_pos h]⟩
    · exact .inl ⟨_, _, hstay, if_neg h, by rw [run, next?, dif_neg h]; rfl⟩
  | peek =>
    by_cases h : s.cursor < s.tokens.length
    · exact .inl ⟨_, _, hstay, if_pos h, by rw [run, s.peek_eq_map_next, s.next_eq h]; rfl⟩
    · exact .inr ⟨_, if_neg h, by rw [run, s.peek_eq_map_next, TokenStream.next, dif_neg h]; rfl⟩
  | previous =>
    by_cases h : 0 < s.cursor
    · exact .inl ⟨_, _, Nat.le_trans (Nat.sub_le _ 1) hstay, if_pos h,
        by rw [run, TokenStream.previous, dif_pos h, moved]⟩
    · exact .inr ⟨_, if_neg h, by rw [run, TokenStream.previous, dif_neg h, moved]⟩
  | skipRemaining => exact .inl ⟨_, _, Nat.le_refl _, rfl, rfl⟩
  | restore state =>
    cases state with
    | bindings c => exact .inr ⟨_, rfl, rfl⟩
    | place n =>
      by_cases h : 0 ≤ n ∧ n ≤ s.tokens.length
      · exact .inl ⟨_, _, Int.toNat_le.2 h.2, if_pos h, by rw [run, restored, seek?, dif_pos h]⟩
      · exact .inr ⟨_, if_neg h, by rw [run, restored, seek?, dif_neg h]⟩
  | problem position p =>
    cases position with
    | none => exact .inl ⟨_, _, hstay, rfl, rfl⟩
    | some i => exact .inl ⟨_, _, hstay, rfl, rfl⟩
  | save | hasNext | hasPrevious | remaining | unread | texts | position | raw | size | pending
  | describe => exact .inl ⟨_, _, hstay, rfl, rfl⟩

/-- **An operation is refused exactly where it leads nowhere**, and leaves the stream as it was. -/
theorem Operation.refused_iff (op : Operation) (s : TokenStream) :
    ((∃ why, (op.run s).1 = .error why) ↔ op.target? s.tokens.length s.cursor = none) ∧
      ∀ why, (op.run s).1 = .error why → (op.run s).2 = s := by
  rcases op.run_cases s with ⟨r, i, hi, htarget, hrun⟩ | ⟨why, htarget, hrun⟩
  · rw [hrun, htarget]
    exact ⟨⟨fun ⟨_, h⟩ => (nomatch h), fun h => nomatch h⟩, fun _ h => nomatch h⟩
  · rw [hrun, htarget]
    exact ⟨⟨fun _ => rfl, fun _ => ⟨why, rfl⟩⟩, fun _ _ => rfl⟩

/-- **An operation leaves the line as it is.** -/
theorem Operation.sameLine_run (op : Operation) (s : TokenStream) : s.SameLine (op.run s).2 := by
  rcases op.run_cases s with ⟨_, _, hi, -, hrun⟩ | ⟨_, -, hrun⟩
  · rw [hrun]
    exact s.sameLine_withCursor hi
  · rw [hrun]
    exact .refl s

/-- **It moves the cursor as its number tells.** -/
theorem Operation.cursor_run (op : Operation) (s : TokenStream) :
    (op.run s).2.cursor = op.goes s.tokens.length s.cursor := by
  unfold goes
  rcases op.run_cases s with ⟨_, _, _, htarget, hrun⟩ | ⟨_, htarget, hrun⟩
  · rw [hrun, htarget]
    rfl
  · rw [hrun, htarget]
    rfl

/-- **A run leaves the line, its tokens and the error behind them.** -/
theorem sameLine_run (s : TokenStream) (ops : List Operation) : s.SameLine (s.run ops).2 := by
  induction ops generalizing s with
  | nil => exact .refl s
  | cons op ops ih => exact (op.sameLine_run s).trans (ih _)

/-- **A run does to the cursor what it does to a number.** -/
theorem cursor_run (s : TokenStream) (ops : List Operation) :
    (s.run ops).2.cursor = ops.foldl (Operation.goes s.tokens.length) s.cursor := by
  induction ops generalizing s with
  | nil => rfl
  | cons op ops ih =>
    have hrest := ih (op.run s).2
    rw [(op.sameLine_run s).tokens, op.cursor_run] at hrest
    exact hrest

/-- **Two lists of operations run one behind the other.** -/
theorem run_append (s : TokenStream) (ops more : List Operation) :
    s.run (ops ++ more) =
      ((s.run ops).1 ++ ((s.run ops).2.run more).1, ((s.run ops).2.run more).2) := by
  induction ops generalizing s with
  | nil => rfl
  | cons op ops ih => rw [List.cons_append, run, ih, run, List.cons_append]

/-- The answers that read texts. -/
def said (texts : List String) : List (Except Refusal Reply) := texts.map (.ok ∘ .text)

/-- **A token that was read is the one to go back over.** -/
theorem previous_of_next {x : String} (h : s.next = .ok (x, t)) : t.previous = .ok (x, s) := by
  rcases s.next_cases with ⟨hc, hnext, -⟩ | ⟨hnext, -⟩
  · obtain ⟨rfl, rfl⟩ := Prod.mk.inj (Except.ok.inj (hnext.symm.trans h))
    exact dif_pos (Nat.succ_pos _)
  · rw [hnext] at h
    cases h

/-- **As many tokens as are unread can be read**, one after the other. -/
theorem run_next {n : Nat} (hn : n ≤ s.unread.length) :
    ∃ t, t.cursor = s.cursor + n ∧
      s.run (.replicate n .next) = (said ((Token.texts s.unread).take n), t) := by
  induction n generalizing s with
  | zero => exact ⟨s, rfl, rfl⟩
  | succ n ih =>
    obtain ⟨token, more, hunread⟩ :=
      List.exists_cons_of_length_pos (Nat.lt_of_lt_of_le n.succ_pos hn)
    obtain ⟨hc, hnext⟩ := next_of_head? (head?_of_unread hunread)
    have hmore : (s.withCursor (s.cursor + 1) hc).unread = more := by
      show s.tokens.drop (s.cursor + 1) = more
      rw [← List.drop_drop]
      exact congrArg (List.drop 1) hunread
    rw [hunread] at hn
    obtain ⟨t, hcursor, ht⟩ := ih (s := s.withCursor (s.cursor + 1) hc)
      (by rw [hmore]; exact Nat.le_of_succ_le_succ hn)
    refine ⟨t, hcursor.trans (Nat.add_right_comm _ _ _), ?_⟩
    rw [List.replicate_succ, run, Operation.run, hnext, moved, ht, hunread, hmore]
    rfl

/-- **Going back says what was read, backwards, and ends where reading began.** -/
theorem run_previous {n : Nat} {texts : List String}
    (h : s.run (.replicate n .next) = (said texts, t)) :
    t.run (.replicate n .previous) = (said texts.reverse, s) := by
  induction n generalizing s texts with
  | zero =>
    obtain ⟨htexts, rfl⟩ := Prod.mk.inj h
    obtain rfl := List.map_eq_nil_iff.1 htexts.symm
    rfl
  | succ n ih =>
    rw [List.replicate_succ, run, Operation.run] at h
    obtain ⟨hsaid, hend⟩ := Prod.mk.inj h
    obtain ⟨x, more, rfl, hx, hmore⟩ := List.map_eq_cons_iff.1 hsaid.symm
    cases hnext : s.next with
    | error e =>
      rw [hnext] at hx
      cases hx
    | ok read =>
      obtain ⟨y, r⟩ := read
      rw [hnext] at hx hmore hend
      obtain rfl : x = y := by cases hx; rfl
      have hback : t.run (.replicate n .previous) = (said more.reverse, r) :=
        ih (Prod.ext hmore.symm hend)
      -- The last step back is the one over the token that was read first.
      have hlast : r.run [.previous] = (said [x], s) := by
        rw [run, Operation.run, previous_of_next hnext]
        rfl
      rw [List.replicate_succ', run_append, hback, hlast]
      simp [said]

/-- The stream stands on the line, and all tokens stand in front of its pending error. -/
structure Laid (line : String) (s : TokenStream) : Prop extends s.OnLine line where
  behind : ∀ e, s.pending = some e → ∀ t ∈ s.tokens, (t.stop : Int) < e.position

/-- **What lies further in the tokens stands further in the line**: each token, and the error behind
them. -/
theorem Laid.position_lt (h : s.Laid line) (ht : s.SameLine t) (hu : s.SameLine u)
    (hlt : t.cursor < u.cursor) (hnext : u.hasNext = true) : t.position < u.position := by
  have hcursor : t.cursor < s.tokens.length := by
    rw [← hu.tokens]
    exact Nat.lt_of_lt_of_le hlt u.cursor_le
  have hhead : t.head? = some s.tokens[t.cursor] := by
    rw [head?, ht.tokens]
    exact List.getElem?_eq_getElem hcursor
  have hinside := (h.spread.inside _ (List.getElem_mem hcursor)).1
  rw [position_of_head? hhead]
  rcases Nat.lt_or_ge u.cursor s.tokens.length with hless | hend
  · have hahead : u.head? = some s.tokens[u.cursor] := by
      rw [head?, hu.tokens]
      exact List.getElem?_eq_getElem hless
    have hapart := List.pairwise_iff_getElem.1 h.spread.apart _ _ hcursor hless hlt
    rw [position_of_head? hahead]
    omega
  · have hahead : u.head? = none := by
      rw [head?, hu.tokens]
      exact List.getElem?_eq_none hend
    have hpending : ∃ e, s.pending = some e := by
      rw [← hu.pending, ← Option.isSome_iff_exists]
      simpa [hasNext, hu.tokens, Nat.not_lt.2 hend] using hnext
    obtain ⟨e, he⟩ := hpending
    have hbehind := h.behind e he _ (List.getElem_mem hcursor)
    have hposition : u.position = e.position := by
      rw [position_eq_endError hahead, endError, hu.pending, he]
    rw [hposition]
    omega

/-- The streams that a line is read from: its tokens, those of a line being typed, and some tokens
of such a stream, with the error behind them or without it. -/
inductive Tokenized (line : String) : TokenStream → Prop
  | read (way : Splitting) : Tokenized line (ofLine way line)
  | typed (way : Splitting) : Tokenized line (ofTyped way line)
  | picked {s : TokenStream} {ts : List Token} (whole : Tokenized line s)
      (sub : ts.Sublist s.tokens) (keep : Bool) :
      Tokenized line (ofTokens line ts (if keep then s.pending else none))

/-- **What is made from a line is laid out on it.** -/
theorem Tokenized.laid (h : s.Tokenized line) : s.Laid line := by
  induction h with
  | read way =>
    refine ⟨onLine_ofLine way line, fun e he t ht => ?_⟩
    obtain ⟨ts, pending, hsplit⟩ : ∃ ts pending, way.split line false = (ts, pending) :=
      ⟨_, _, rfl⟩
    have hpending := (way.spread_split line false).2
    rw [hsplit] at hpending
    rw [ofLine_of_split hsplit] at he ht
    exact (hpending e he).2.2.2 t ht
  | typed way => exact ⟨onLine_ofTyped way line, fun _ he => nomatch he⟩
  | @picked s ts whole sub keep ih =>
    have hkept : ∀ e, (if keep then s.pending else none) = some e → s.pending = some e := by
      cases keep with
      | true => exact fun e he => he
      | false => exact fun e he => nomatch he
    refine ⟨⟨rfl, ih.spread.sublist sub, fun e he => ?_⟩, fun e he t ht => ?_⟩
    · obtain ⟨hstands, hall⟩ := ih.pending e (hkept e he)
      exact ⟨hstands, fun t ht => hall t (sub.subset ht)⟩
    · exact ih.behind e (hkept e he) t (sub.subset ht)

/-- **Only the cursor of a stream moves**, whatever is asked of it: the line, its tokens and the
error behind them stay, and the cursor goes through the places that the operations lead to among the
tokens.  What is refused moves nothing.  Every place stands in the line, each unread token and the
error behind them further than the tokens before it.  What is read one after the other is said again
backwards on the way back, which ends where the reading began; and all that is unread can be
read. -/
theorem only_the_cursor_moves (h : s.Tokenized line) (ops : List Operation) :
    let t := (s.run ops).2
    (t.raw = line ∧ t.tokens = s.tokens ∧ t.pending = s.pending) ∧
    (t.cursor = ops.foldl (Operation.goes s.tokens.length) s.cursor ∧
      t.cursor ≤ s.tokens.length) ∧
    (∀ op : Operation,
      ((∃ why, (op.run t).1 = .error why) ↔ op.target? s.tokens.length t.cursor = none) ∧
      ∀ why, (op.run t).1 = .error why → (op.run t).2 = t) ∧
    (0 ≤ t.position ∧ t.position ≤ line.length) ∧
    (∀ ops', let u := (s.run ops').2
      t.cursor < u.cursor → u.hasNext = true → t.position < u.position) ∧
    (∀ n texts u, t.run (.replicate n .next) = (said texts, u) →
      u.run (.replicate n .previous) = (said texts.reverse, t)) ∧
    (∀ n ≤ t.unread.length, ∃ u, u.cursor = t.cursor + n ∧
      t.run (.replicate n .next) = (said ((Token.texts t.unread).take n), u)) := by
  intro t
  have hsame : s.SameLine t := s.sameLine_run ops
  have hcursor : t.cursor ≤ s.tokens.length := by
    rw [← hsame.tokens]
    exact t.cursor_le
  refine ⟨⟨hsame.raw.trans h.laid.raw, hsame.tokens, hsame.pending⟩, ⟨s.cursor_run ops, hcursor⟩,
    fun op => ?_, (h.laid.toOnLine.of_sameLine hsame).position_mem, fun ops' => ?_,
    fun n texts u => run_previous, fun n => run_next⟩
  · rw [← hsame.tokens]
    exact op.refused_iff t
  · exact h.laid.position_lt hsame (s.sameLine_run ops')

/-- **The cursor stays in front of an open quote**: of `buy 'two eggs' "now`, reading behind the
second word is refused, and so are a place behind the tokens and the bindings of a context.  One
step back, the second word is unread, and reading it can be undone. -/
theorem reading_up_to_open_quote_is_undone :
    let line := "buy 'two eggs' \x22now"
    let s := ofLine .quoted line
    let ops : List Operation :=
      [.next, .next, .next, .restore (.place 9), .restore (.bindings {}), .previous]
    let t := (s.run ops).2
    s.Tokenized line ∧ t.cursor = 1 ∧ t.pending.isSome = true ∧ ∃ u, u.cursor = 2 ∧
      t.run (.replicate 1 .next) = (said ["two eggs"], u) ∧
      u.run (.replicate 1 .previous) = (said ["two eggs"], t) := by
  intro line s ops t
  have hline : s.Tokenized line := .read .quoted
  obtain ⟨-, ⟨hcursor, -⟩, -, -, -, hback, hread⟩ := only_the_cursor_moves hline ops
  have hone : t.cursor = 1 := hcursor.trans (by decide +kernel)
  have hunread : Token.texts t.unread = ["two eggs"] := by decide +kernel
  obtain ⟨u, hu, hnext⟩ := hread 1 (by decide +kernel)
  have hsaid : t.run (.replicate 1 .next) = (said ["two eggs"], u) := by
    rw [hnext, hunread]
    rfl
  exact ⟨hline, hone, by decide +kernel, u, hu.trans (by rw [hone]), hsaid, hback _ _ _ hsaid⟩

end TokenStream

/-- **A session takes its stream to a saved place.** -/
theorem Session.restoreStream_eq_map (s : Session) (state : SavedState) :
    s.restoreStream state = (s.progress.stream.restored state).map s.moveTo := by
  cases state with
  | bindings c => rfl
  | place n =>
    unfold restoreStream TokenStream.restored
    dsimp only
    cases s.progress.stream.seek? n <;> rfl

end CommandGrammar
