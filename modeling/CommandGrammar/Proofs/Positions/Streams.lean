/-
# Streams that stand on a line

`TokenStream.OnLine line s` says that the stream `s` is about the line: its tokens stand in the line
in order, and its pending error stands in the line behind them.  The stream of a line does, and the
stream that flags leave; so does every stream that is reached from one by moving the cursor.

On such a stream positions are offsets of the line and grow with the cursor.  So a grammar that
fails does so on the line, and never before its entry (`ParseCourse.onLine`):

| failure | where it stands |
| --- | --- |
| a token that does not fit | where the token begins |
| more than one value | at the entry of the step |
| an open quote | where its word begins |
| the line is too short | at its end |
-/

import CommandGrammar.Proofs.Steps.Onward
import CommandGrammar.Proofs.Tokens.Spans

namespace CommandGrammar

/-- The error is about the line, and stands in it or at its end. -/
structure ParseError.StandsOn (line : String) (e : ParseError) : Prop where
  raw : e.raw = line
  nonneg : 0 ≤ e.position
  le_length : e.position ≤ line.length

/-- The tokens of the stream stand in the line in order, and its pending error behind them. -/
structure TokenStream.OnLine (line : String) (s : TokenStream) : Prop where
  raw : s.raw = line
  spread : Token.Spread line.length s.tokens
  pending : ∀ e, s.pending = some e →
    e.StandsOn line ∧ ∀ t ∈ s.tokens, (t.stop : Int) ≤ e.position

namespace TokenStream

variable {line : String} {s : TokenStream}

/-- **A stream stands where the token ahead begins.** -/
theorem position_of_head? {t : Token} (h : s.head? = some t) : s.position = t.start := by
  unfold position
  rw [h]

/-- **Behind the last token stands the error of reading on.** -/
theorem position_eq_endError (h : s.head? = none) : s.position = s.endError.position := by
  unfold position endError
  rw [h]
  cases s.pending <;> rfl

/-- **The stream of a line stands on it.** -/
theorem onLine_ofLine (way : Splitting) (line : String) : (ofLine way line).OnLine line := by
  obtain ⟨ts, pending, hsplit⟩ : ∃ ts pending, way.split line false = (ts, pending) := ⟨_, _, rfl⟩
  obtain ⟨hspread, hpending⟩ := way.spread_split line false
  rw [hsplit] at hspread hpending
  rw [ofLine_of_split hsplit]
  refine ⟨rfl, hspread, fun e he => ?_⟩
  obtain ⟨hraw, hnonneg, hlt, hall⟩ := hpending e he
  exact ⟨⟨hraw, hnonneg, Int.le_of_lt hlt⟩, fun t ht => Int.le_of_lt (hall t ht)⟩

/-- **So does the stream of a line being typed.** -/
theorem onLine_ofTyped (way : Splitting) (line : String) : (ofTyped way line).OnLine line :=
  ⟨rfl, spread_typedTokens way line, fun _ h => nomatch h⟩

namespace OnLine

/-- **Some of the tokens stand on the line as all of them do.** -/
theorem ofTokens (h : s.OnLine line) {ts : List Token} (hsub : ts.Sublist s.tokens) :
    (TokenStream.ofTokens s.raw ts s.pending).OnLine line where
  raw := h.raw
  spread := h.spread.sublist hsub
  pending e he := ⟨(h.pending e he).1, fun t ht => (h.pending e he).2 t (hsub.subset ht)⟩

/-- **Wherever the cursor moves, the tokens stand on the line.** -/
theorem withCursor (h : s.OnLine line) {n : Nat} (hn : n ≤ s.tokens.length) :
    (s.withCursor n hn).OnLine line := ⟨h.raw, h.spread, h.pending⟩

/-- **A stream of the same line stands on it, too.** -/
theorem of_sameLine {t : TokenStream} (h : s.OnLine line) (ht : s.SameLine t) : t.OnLine line where
  raw := ht.raw.trans h.raw
  spread := by rw [ht.tokens]; exact h.spread
  pending e he := by
    rw [ht.pending] at he
    rw [ht.tokens]
    exact h.pending e he

/-- **So they do after reading on.** -/
theorem of_onward {p q : Progress} (h : p.stream.OnLine line) (hpq : p.Onward q) :
    q.stream.OnLine line := h.of_sameLine hpq.sameLine

/-- **The token ahead stands in the line.** -/
theorem head (h : s.OnLine line) {t : Token} (ht : s.head? = some t) :
    t.start ≤ t.stop ∧ t.stop ≤ line.length := h.spread.inside t (List.mem_of_getElem? ht)

/-- **The cursor stands in the line or at its end.** -/
theorem position_mem (h : s.OnLine line) : 0 ≤ s.position ∧ s.position ≤ line.length := by
  unfold position
  split
  · rename_i t ht
    have := h.head ht
    omega
  · split
    · rename_i e he
      exact ⟨(h.pending e he).1.nonneg, (h.pending e he).1.le_length⟩
    · rw [h.raw]
      omega

/-- **Every token ends before the error of reading on.** -/
theorem stop_le_endError (h : s.OnLine line) {t : Token} (ht : t ∈ s.tokens) :
    (t.stop : Int) ≤ s.endError.position := by
  unfold TokenStream.endError
  cases he : s.pending with
  | some e => exact (h.pending e he).2 t ht
  | none =>
    have hstop : t.stop ≤ s.raw.length := by
      rw [h.raw]
      exact (h.spread.inside t ht).2
    exact Int.ofNat_le.2 hstop

/-- **Where the cursor moves on, its position does not move back.** -/
theorem position_le {p q : Progress} (h : p.stream.OnLine line) (hpq : p.Onward q) :
    p.stream.position ≤ q.stream.position := by
  have htokens : q.stream.head? = p.stream.tokens[q.stream.cursor]? := by
    rw [← hpq.tokens]
    rfl
  rcases Nat.lt_or_ge q.stream.cursor p.stream.tokens.length with hq | hq
  · have hp : p.stream.cursor < p.stream.tokens.length := Nat.lt_of_le_of_lt hpq.cursor_le hq
    rw [position_of_head? (List.getElem?_eq_getElem hp),
      position_of_head? (htokens.trans (List.getElem?_eq_getElem hq))]
    exact Int.ofNat_le.2 (h.spread.start_le hq hpq.cursor_le)
  · have hsame : q.stream.endError.position = p.stream.endError.position := by
      unfold TokenStream.endError
      rw [hpq.pending, hpq.raw]
    rw [position_eq_endError (htokens.trans (List.getElem?_eq_none hq)), hsame]
    cases hhead : p.stream.head? with
    | none => exact Int.le_of_eq (position_eq_endError hhead)
    | some t =>
      have hstart := (h.head hhead).1
      have hend := h.stop_le_endError (List.mem_of_getElem? hhead)
      rw [position_of_head? hhead]
      omega

/-- **A problem that is found where the parse was stands on the line.** -/
theorem errorAt {p q : Progress} (h : p.stream.OnLine line) (hpq : p.Onward q) (problem : Problem) :
    (q.stream.errorAt p.stream.position problem).StandsOn line where
  raw := hpq.raw.trans h.raw
  nonneg := h.position_mem.1
  le_length := h.position_mem.2

/-- **The line ends where the cursor stands behind all tokens.** -/
theorem endError (h : s.OnLine line) (hend : s.head? = none) :
    s.endError.StandsOn line ∧ s.position ≤ s.endError.position := by
  refine ⟨?_, Int.le_of_eq (position_eq_endError hend)⟩
  unfold TokenStream.endError
  cases he : s.pending with
  | some e => exact (h.pending e he).1
  | none => exact ⟨h.raw, Int.natCast_nonneg _, Int.le_of_eq (by rw [h.raw])⟩

end OnLine

end TokenStream

/-- A parse that was at `p` on the line may stop so: a failure stands on the line, and not before
that place. -/
def Stop.Stands (line : String) (p : Progress) (why : Stop) : Prop :=
  p.stream.OnLine line → ∀ e, why = .failed e → e.StandsOn line ∧ p.stream.position ≤ e.position

namespace Stop.Stands

variable {line : String} {p q : Progress} {why : Stop}

/-- **A failure further on stands on the line from an earlier stage too.** -/
theorem back (hpq : p.Onward q) (h : why.Stands line q) : why.Stands line p := fun hp e he =>
  have hq := h (hp.of_onward hpq) e he
  ⟨hq.1, Int.le_trans (hp.position_le hpq) hq.2⟩

/-- **So does the failure at the end of the line.** -/
theorem atEnd (hend : p.stream.head? = none) : (failed p.stream.endError).Stands line p := by
  intro hp e he
  cases he
  exact hp.endError hend

/-- **So does one that is reported where the reading began.** -/
theorem fails (problem : Problem) (hpq : p.Onward q) :
    (failed (q.stream.errorAt p.stream.position problem)).Stands line p := by
  intro hp e he
  cases he
  exact ⟨hp.errorAt hpq problem, Int.le_refl _⟩

/-- **So does one that is worded otherwise.** -/
theorem reworded {e : ParseError} (problem : Problem) (h : (failed e).Stands line p) :
    (failed { e with problem := problem }).Stands line p := by
  intro hp e' he
  cases he
  obtain ⟨hstands, hle⟩ := h hp e rfl
  exact ⟨⟨hstands.raw, hstands.nonneg, hstands.le_length⟩, hle⟩

end Stop.Stands

/-- The course of a parse whose failures stand on the line, none before the entry. -/
def ParseCourse.onLine (line : String) : ParseCourse where
  leads := Progress.Onward
  stops p why := why.Stands line p
  binds _ _ := True
  refl := Progress.Onward.refl
  trans := Progress.Onward.trans
  back := Stop.Stands.back
  next := Progress.onward_next
  put p key v _ := p.onward_put key v
  atEnd _ := Stop.Stands.atEnd
  fails := Stop.Stands.fails
  reworded := Stop.Stands.reworded

/-- **A grammar fails on the line, and not before its entry.** -/
theorem ParseCourse.governs_onLine (line : String) (o : Occasion) (param : Parameter) :
    (ParseCourse.onLine line).Governs (param.parse o) := by
  refine ParseCourse.governs_parse (ParseCourse.covers_of_binds (fun _ _ => trivial) ?_)
  intro _ _ _ _ _ _ _ _ _ _ he
  cases he

end CommandGrammar
