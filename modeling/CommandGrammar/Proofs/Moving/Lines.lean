/-
# Lines behind a front

A line that stands behind a front of other text is the same line with other offsets: its tokens and
errors begin later, by the length of the front.  Two runs on the line, one of them behind a front
that is read already, go side by side (`Pairing.moving`).

| of the line alone | behind the front |
| --- | --- |
| offset `i` | offset `i` and the length of the front |
| tokens | tokens that are read already, and the same tokens moved |
| error | the same error moved; only the wording of an open quote tells an offset |
-/

import CommandGrammar.Proofs.Steps.Pairing

namespace CommandGrammar

/-- **A span of a line is the same behind a front.** -/
theorem Text.slice_append (front raw : String) (start stop : Nat) :
    slice (front ++ raw) (start + front.length) (stop + front.length) = slice raw start stop := by
  have hlength : front.length = front.toList.length := String.length_toList.symm
  unfold slice
  rw [String.toList_append, hlength, Nat.add_comm stop, List.take_length_add_append,
    Nat.add_comm start, ← List.drop_drop, List.drop_left]

/-- The token that begins `k` characters later. -/
def Token.moved (k : Nat) (t : Token) : Token := ⟨t.text, t.start + k, t.stop + k⟩

/-- **A token that is moved has the same text.** -/
@[simp] theorem Token.text_moved (k : Nat) (t : Token) : (t.moved k).text = t.text := rfl

/-- **It begins so much further on.** -/
@[simp] theorem Token.start_moved (k : Nat) (t : Token) : (t.moved k).start = t.start + k := rfl

/-- **It ends so much further on.** -/
@[simp] theorem Token.stop_moved (k : Nat) (t : Token) : (t.moved k).stop = t.stop + k := rfl

/-- `e.Moved front e'`: the error `e'` is the error `e` of a line behind a front. -/
structure ParseError.Moved (front : String) (e e' : ParseError) : Prop where
  raw : e'.raw = front ++ e.raw
  position : e'.position = e.position + front.length
  kind : e'.kind = e.kind
  /-- The problem of an open quote tells where the quote stands; any other problem is the same. -/
  problem : e.kind ≠ .unterminatedQuote → e'.problem = e.problem

namespace TokenStream

/-- `s.Moved front passed s'`: the stream `s'` is the stream `s` of a line behind a front, whose
tokens `passed` are read already. -/
structure Moved (front : String) (passed : List Token) (s s' : TokenStream) : Prop where
  raw : s'.raw = front ++ s.raw
  tokens : s'.tokens = passed ++ s.tokens.map (Token.moved front.length)
  cursor : s'.cursor = passed.length + s.cursor
  pending : Option.Rel (ParseError.Moved front) s.pending s'.pending
  /-- The error at the end stands on the line. -/
  inside : ∀ e, s.pending = some e → 0 ≤ e.position

variable {front : String} {passed : List Token} {s s' r r' : TokenStream}

namespace Moved

/-- **The same tokens are ahead, moved.** -/
theorem unread (h : s.Moved front passed s') :
    s'.unread = s.unread.map (Token.moved front.length) := by
  unfold TokenStream.unread
  rw [h.tokens, h.cursor, ← List.drop_drop, List.drop_left, List.map_drop]

/-- **The token ahead is moved by the length of the front.** -/
theorem head? (h : s.Moved front passed s') :
    s'.head? = s.head?.map (Token.moved front.length) := by
  unfold TokenStream.head?
  rw [h.tokens, h.cursor, List.getElem?_append_right (Nat.le_add_right _ _),
    Nat.add_sub_cancel_left, List.getElem?_map]

/-- **An error stands at the end of both lines or of neither.** -/
theorem isSome_pending (h : s.Moved front passed s') :
    s'.pending.isSome = s.pending.isSome := by
  have hpending := h.pending
  generalize s.pending = e at hpending
  generalize s'.pending = e' at hpending
  cases hpending <;> rfl

/-- **The cursor moves on both lines alike.** -/
theorem withCursor (h : s.Moved front passed s') {n : Nat} (hn : n ≤ s.tokens.length)
    (hn' : passed.length + n ≤ s'.tokens.length) :
    (s.withCursor n hn).Moved front passed (s'.withCursor (passed.length + n) hn') where
  raw := h.raw
  tokens := h.tokens
  cursor := rfl
  pending := h.pending
  inside := h.inside

/-- **The moved line has the passed tokens more.** -/
theorem length_tokens (h : s.Moved front passed s') :
    s'.tokens.length = passed.length + s.tokens.length := by
  rw [h.tokens, List.length_append, List.length_map]

/-- **Skipping everything does so on both lines.** -/
theorem skipAll (h : s.Moved front passed s') : s.skipAll.Moved front passed s'.skipAll where
  raw := h.raw
  tokens := h.tokens
  cursor := h.length_tokens
  pending := h.pending
  inside := h.inside

/-- **The error at the end is moved.** -/
theorem endError (h : s.Moved front passed s') : s.endError.Moved front s'.endError := by
  have hpending := h.pending
  unfold TokenStream.endError
  generalize s.pending = e at hpending ⊢
  generalize s'.pending = e' at hpending ⊢
  cases hpending with
  | some herror => exact herror
  | none =>
    refine ⟨h.raw, ?_, rfl, fun _ => rfl⟩
    rw [h.raw, String.length_append]
    push_cast
    omega

/-- **The next token is the same on both lines, or both are at their end.** -/
theorem next (h : s.Moved front passed s') :
    (∃ w r r', s.next = .ok (w, r) ∧ s'.next = .ok (w, r') ∧ r.Moved front passed r') ∨
      (s.next = .error s.endError ∧ s'.next = .error s'.endError ∧
        s.endError.Moved front s'.endError) := by
  have hhead' := h.head?
  cases hhead : s.head? with
  | none =>
    rw [hhead] at hhead'
    exact .inr ⟨next_of_head?_none hhead, next_of_head?_none hhead', h.endError⟩
  | some t =>
    rw [hhead] at hhead'
    obtain ⟨hc, hnext⟩ := next_of_head? hhead
    obtain ⟨hc', hnext'⟩ := next_of_head? hhead'
    have hcursor : s'.cursor + 1 = passed.length + (s.cursor + 1) := by
      rw [h.cursor]
      omega
    refine .inl ⟨_, _, _, hnext, hnext', ?_⟩
    simp only [hcursor]
    exact h.withCursor hc (hcursor ▸ hc')

/-- **As many tokens are left on one line as on the other.** -/
theorem remaining (h : s.Moved front passed s') : s.remaining = s'.remaining := by
  unfold TokenStream.remaining
  rw [h.isSome_pending, h.length_tokens, h.cursor]
  omega

/-- **A place ahead is on the line, and is moved by the front.** -/
theorem position (h : s.Moved front passed s') :
    0 ≤ s.position ∧ s'.position = s.position + front.length := by
  have hhead' := h.head?
  unfold TokenStream.position
  cases hhead : s.head? with
  | some t =>
    rw [hhead] at hhead'
    rw [hhead']
    simp
  | none =>
    rw [hhead] at hhead'
    rw [hhead']
    have hpending := h.pending
    have hinside := h.inside
    generalize s.pending = e at hpending hinside ⊢
    generalize s'.pending = e' at hpending ⊢
    cases hpending with
    | some herror => exact ⟨hinside _ rfl, herror.position⟩
    | none =>
      dsimp only [Option.map_none]
      rw [h.raw, String.length_append]
      push_cast
      omega

end Moved
end TokenStream

/-- **A text from a place on is the same behind a front.** -/
theorem Text.dropped_append (front raw : String) {i : Int} (h : 0 ≤ i) :
    Text.dropped (i + front.length).toNat (front ++ raw) = Text.dropped i.toNat raw := by
  have hplace : (i + front.length).toNat = front.toList.length + i.toNat := by
    rw [String.length_toList]
    omega
  unfold Text.dropped
  rw [hplace, String.toList_append, ← List.drop_drop, List.drop_left]

/-- The pairing of runs on a line alone and behind a front. -/
def Pairing.moving (front : String) (passed : List Token) : Pairing where
  lines := TokenStream.Moved front passed
  contexts := Eq
  places i i' := i' = i + front.length
  errors := ParseError.Moved front
  next h := h.next
  remaining h := h.remaining
  position h := h.position.2
  sameTail := True
  fromHere _ _ _ h := by
    rw [h.position.2, h.raw, Text.dropped_append _ _ h.position.1]
  sameCursor h h' := by
    rw [h.cursor, h'.cursor]
    omega
  errorAt problem h hplace := ⟨h.raw, hplace, rfl, fun _ => rfl⟩
  inAttempt {e e'} k n h := by
    refine ⟨h.raw, h.position, h.kind, fun hkind => ?_⟩
    rw [h.problem hkind]
  further h h' := by
    rw [h.position, h'.position]
    omega

/-- **Every grammar goes along with a line behind a front.** -/
theorem Parameter.paired_parse_moving (front : String) (passed : List Token) (o : Occasion)
    (p : Parameter) : Step.Paired (.moving front passed) Eq (p.parse o) (p.parse o) :=
  Pairing.paired_parse (fun n _ => n.preserves_eq) fun _ _ => trivial

end CommandGrammar
