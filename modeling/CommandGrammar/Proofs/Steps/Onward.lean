/-
# A parse only moves onward

A grammar reads the tokens of its line from the cursor on.  It changes neither the line nor its
tokens, it does not drop the error that stands at their end, and its cursor never moves back,
whether it succeeds or fails: `ParseCourse.onward` is a course that covers every grammar.
-/

import CommandGrammar.Proofs.Steps.Parameters

namespace CommandGrammar

/-- **Nothing is ahead exactly if every token is read and no error stands at the end.** -/
theorem TokenStream.hasNext_eq_false_iff (s : TokenStream) :
    s.hasNext = false ↔ s.unread = [] ∧ s.pending = none := by
  unfold hasNext unread
  rw [Bool.or_eq_false_iff, List.drop_eq_nil_iff, decide_eq_false_iff_not, Nat.not_lt,
    Option.isSome_eq_false_iff, Option.isNone_iff_eq_none]

namespace TokenStream

/-- The streams are of one line, with the same tokens. -/
structure SameLine (s r : TokenStream) : Prop where
  raw : r.raw = s.raw
  tokens : r.tokens = s.tokens
  pending : r.pending = s.pending

variable {s r u : TokenStream}

/-- **A stream is on its own line.** -/
theorem SameLine.refl (s : TokenStream) : s.SameLine s := ⟨rfl, rfl, rfl⟩

/-- **Streams on the line of the same stream are on one line.** -/
theorem SameLine.trans (h : s.SameLine r) (h' : r.SameLine u) : s.SameLine u :=
  ⟨h'.raw.trans h.raw, h'.tokens.trans h.tokens, h'.pending.trans h.pending⟩

/-- **Another cursor stays on the line.** -/
theorem sameLine_withCursor (s : TokenStream) {n : Nat} (hn : n ≤ s.tokens.length) :
    s.SameLine (s.withCursor n hn) := ⟨rfl, rfl, rfl⟩

end TokenStream

namespace Progress

/-- The same line, read as far or further. -/
structure Onward (p q : Progress) : Prop where
  raw : q.stream.raw = p.stream.raw
  tokens : q.stream.tokens = p.stream.tokens
  pending : q.stream.pending = p.stream.pending
  cursor_le : p.stream.cursor ≤ q.stream.cursor

variable {p q r : Progress}

/-- **Staying where one is leads onward.** -/
theorem Onward.refl (p : Progress) : p.Onward p := ⟨rfl, rfl, rfl, Nat.le_refl _⟩

/-- **What leads onward from further on leads onward from before.** -/
theorem Onward.trans (h : p.Onward q) (h' : q.Onward r) : p.Onward r where
  raw := h'.raw.trans h.raw
  tokens := h'.tokens.trans h.tokens
  pending := h'.pending.trans h.pending
  cursor_le := Nat.le_trans h.cursor_le h'.cursor_le

/-- **Going onward stays on the line.** -/
theorem Onward.sameLine (h : p.Onward q) : p.stream.SameLine q.stream :=
  ⟨h.raw, h.tokens, h.pending⟩

/-- **Where the stream stays, whatever is bound leads onward.** -/
theorem onward_of_stream_eq (h : q.stream = p.stream) : p.Onward q :=
  ⟨by rw [h], by rw [h], by rw [h], Nat.le_of_eq (by rw [h])⟩

/-- **A cursor further on leads onward.** -/
theorem onward_withCursor (p : Progress) {n : Nat} (hn : n ≤ p.stream.tokens.length)
    (h : p.stream.cursor ≤ n) : p.Onward { p with stream := p.stream.withCursor n hn } :=
  ⟨rfl, rfl, rfl, h⟩

/-- **Reading a token leads onward.** -/
theorem onward_next (p : Progress) (h : p.stream.cursor < p.stream.tokens.length) :
    p.Onward { p with stream := p.stream.withCursor (p.stream.cursor + 1) h } :=
  p.onward_withCursor h (Nat.le_succ _)

/-- **Binding a value leads onward.** -/
theorem onward_put (p : Progress) (key : String) (v : Value) :
    p.Onward { p with context := p.context.put key v } := onward_of_stream_eq rfl

/-- **At the same place of the same line, the stream is the same.** -/
theorem Onward.stream_eq (h : p.Onward q)
    (hle : q.stream.cursor ≤ p.stream.cursor) : q.stream = p.stream := by
  obtain ⟨hraw, htokens, hpending, hcursor⟩ := h
  obtain ⟨⟨raw, tokens, pending, i, hi⟩, c⟩ := p
  obtain ⟨⟨raw', tokens', pending', j, hj⟩, d⟩ := q
  dsimp only at hraw htokens hpending hcursor hle
  subst hraw htokens hpending
  obtain rfl : i = j := Nat.le_antisymm hcursor hle
  rfl

/-- **What was unread is what is read on the way and what is unread then.** -/
theorem Onward.exists_unread (h : p.Onward q) :
    ∃ read, p.stream.unread = read ++ q.stream.unread := by
  unfold TokenStream.unread
  rw [h.tokens]
  obtain ⟨k, hk⟩ := Nat.le.dest h.cursor_le
  refine ⟨(p.stream.tokens.drop p.stream.cursor).take k, ?_⟩
  rw [← hk, ← List.drop_drop, List.take_append_drop]

/-- **Reading a token takes the first of the unread ones.** -/
theorem unread_of_next {t : Token} {asked : List String} (hhead : p.stream.head? = some t)
    (h : Step.next p = ⟨.ok t.text, q, asked⟩) :
    p.stream.unread = t :: q.stream.unread ∧ p.Onward q := by
  unfold Step.next at h
  rcases p.stream.next_cases with ⟨hc, hn, hhead'⟩ | ⟨-, hhead'⟩
  · rw [hn] at h
    obtain ⟨-, rfl, -⟩ := Report.mk.inj h
    obtain rfl := Option.some.inj (hhead.symm.trans hhead')
    exact ⟨List.drop_eq_getElem_cons hc, p.onward_next hc⟩
  · rw [hhead] at hhead'
    cases hhead'

/-- **Reading a token binds nothing.** -/
theorem context_of_next {x : Except Stop String} {asked : List String}
    (h : Step.next p = ⟨x, q, asked⟩) : q.context = p.context := by
  unfold Step.next at h
  split at h <;> exact (congrArg context (Report.mk.inj h).2.1).symm

end Progress

/-- One word of the stream is unread, and no error stands behind it. -/
structure TokenStream.Lone (s : TokenStream) (t : Token) : Prop where
  unread : s.unread = [t]
  pending : s.pending = none

namespace TokenStream.Lone

variable {s : TokenStream} {t : Token}

/-- **The lone token is the one ahead.** -/
theorem head? (h : s.Lone t) : s.head? = some t := TokenStream.head?_of_unread h.unread

/-- **The lone token is the last of the line.** -/
theorem length_eq (h : s.Lone t) : s.tokens.length = s.cursor + 1 := by
  have hlength := congrArg List.length h.unread
  rw [TokenStream.unread, List.length_drop, List.length_singleton] at hlength
  omega

/-- **There is a token ahead, the lone one.** -/
theorem hasNext (h : s.Lone t) : s.hasNext = true := by
  unfold TokenStream.hasNext
  rw [decide_eq_true (by have := h.length_eq; omega), Bool.true_or]

/-- **One token remains, the lone one.** -/
theorem remaining (h : s.Lone t) : s.remaining = 1 := by
  unfold TokenStream.remaining
  rw [h.length_eq, h.pending]
  simp

/-- **If something is ahead of a place further on, it is the same place.** -/
theorem stream_eq_of_onward {p q : Progress} (h : p.stream.Lone t) (hpq : p.Onward q)
    (hnext : q.stream.hasNext = true) : q.stream = p.stream := by
  refine hpq.stream_eq ?_
  unfold TokenStream.hasNext at hnext
  rw [hpq.pending, h.pending, hpq.tokens, h.length_eq] at hnext
  simp at hnext
  omega

end TokenStream.Lone

/-- The course of everything that a parse may do to its stream. -/
def ParseCourse.onward : ParseCourse where
  leads := Progress.Onward
  stops _ _ := True
  binds _ _ := True
  refl := Progress.Onward.refl
  trans := Progress.Onward.trans
  back _ _ := trivial
  next := Progress.onward_next
  put p key v _ := p.onward_put key v
  atEnd _ _ := trivial
  fails _ _ := trivial
  reworded _ _ := trivial

/-- **A grammar moves onward, whatever it comes to.** -/
theorem Parameter.onward_parse (o : Occasion) (param : Parameter) (p : Progress) :
    p.Onward (param.parse o p).progress := by
  have h : ParseCourse.onward.Covers o param :=
    ParseCourse.covers_of_binds (fun _ _ => trivial) fun _ _ _ _ _ _ _ _ => trivial
  exact (ParseCourse.governs_parse h p).1

end CommandGrammar
