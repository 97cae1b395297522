/-
# Lines that end alike

Two lines may begin differently and end with the same text, which then stands behind two fronts.
What is read from there on is one run that is moved in two ways (`Report.Paired` with
`Pairing.moving`), so both lines come to the same, up to the offsets in their errors
(`Flags.alike_of_moved`).

| in `TokenStream.Follows` | is |
| --- | --- |
| `ts` | the tokens that are ahead before the common end |
| `r` | the line that both of them end with, on its own |
-/

import CommandGrammar.Proofs.Moving.Flags

namespace CommandGrammar

/-- Errors with the same problem; only the wording of an open quote may differ, as it tells an
offset. -/
structure ParseError.Akin (e e' : ParseError) : Prop where
  kind : e'.kind = e.kind
  problem : e.kind ≠ .unterminatedQuote → e'.problem = e.problem

/-- **Errors of one line behind two fronts are akin.** -/
theorem ParseError.Moved.akin {front front' : String} {e f f' : ParseError} (h : e.Moved front f)
    (h' : e.Moved front' f') : f.Akin f' where
  kind := h'.kind.trans h.kind.symm
  problem hf := by
    rw [h.kind] at hf
    rw [h.problem hf, h'.problem hf]

/-- **Errors with the same problem are akin.** -/
theorem ParseError.akin_of_problem {e e' : ParseError} (h : e'.problem = e.problem) : e.Akin e' :=
  ⟨congrArg Problem.kind h, fun _ => h⟩

namespace TokenStream

/-- `r.Follows front ts s`: in the stream `s`, the tokens `ts` are ahead, and behind them all of the
line `r`, which stands behind the front. -/
structure Follows (front : String) (ts : List Token) (r s : TokenStream) : Prop where
  raw : s.raw = front ++ r.raw
  unread : s.unread = ts ++ r.tokens.map (Token.moved front.length)
  pending : Option.Rel (ParseError.Moved front) r.pending s.pending
  inside : ∀ e, r.pending = some e → 0 ≤ e.position
  /-- The tokens before the line begin on the line. -/
  begins : ∀ t ∈ ts, t.start < s.raw.length

namespace Follows

variable {front : String} {t : Token} {ts : List Token} {r s : TokenStream}

/-- **The first token behind the front is ahead.** -/
theorem head? (h : r.Follows front (t :: ts) s) : s.head? = some t :=
  head?_of_unread h.unread

/-- **Reading the first token leaves the others.** -/
theorem next (h : r.Follows front (t :: ts) s) (c : Context) :
    ∃ s', Step.next ⟨s, c⟩ = ⟨.ok t.text, ⟨s', c⟩, []⟩ ∧ s'.raw = s.raw ∧
      r.Follows front ts s' := by
  obtain ⟨hc, hnext⟩ := next_of_head? h.head?
  refine ⟨s.withCursor (s.cursor + 1) hc, by rw [Step.next, hnext], rfl, h.raw, ?_, h.pending,
    h.inside, fun u hu => h.begins u (List.mem_cons_of_mem _ hu)⟩
  have hunread := h.unread
  rw [TokenStream.unread] at hunread
  show s.tokens.drop (s.cursor + 1) = _
  rw [← List.drop_drop, hunread]
  rfl

/-- **Behind the last of the tokens stands the line.** -/
theorem moved (h : r.Follows front [] s) :
    (r.withCursor 0 (Nat.zero_le _)).Moved front (s.tokens.take s.cursor) s where
  raw := h.raw
  tokens := by
    have hunread := h.unread
    rw [TokenStream.unread, List.nil_append] at hunread
    show s.tokens = _ ++ r.tokens.map _
    rw [← hunread, List.take_append_drop]
  cursor := (List.length_take_of_le s.cursor_le).symm
  pending := h.pending
  inside := h.inside

end Follows
end TokenStream

namespace Flags

/-- The flags of two lines come to the same: they are bound alike and leave the same texts for the
arguments, or they fail with the same problem, or they break off. -/
inductive ParsedAlike : Report (Option TokenStream) → Report (Option TokenStream) → Prop
  | ok {s? s?' : Option TokenStream} {q q' : Progress} (own : s?'.isSome = s?.isSome)
      (context : q'.context = q.context)
      (left : Token.texts (s?'.getD q'.stream).unread = Token.texts (s?.getD q.stream).unread)
      (pending : Option.Rel ParseError.Akin (s?.getD q.stream).pending (s?'.getD q'.stream).pending)
      (asked asked' : List String) : ParsedAlike ⟨.ok s?, q, asked⟩ ⟨.ok s?', q', asked'⟩
  | failed {e e' : ParseError} {q q' : Progress} (error : e.Akin e')
      (context : q'.context = q.context) (asked asked' : List String) :
      ParsedAlike ⟨.error (.failed e), q, asked⟩ ⟨.error (.failed e'), q', asked'⟩
  | broken (b : Breakdown) {q q' : Progress} (context : q'.context = q.context)
      (asked asked' : List String) :
      ParsedAlike ⟨.error (.broken b), q, asked⟩ ⟨.error (.broken b), q', asked'⟩

/-- **Words that were asked for before do not change that reports are alike.** -/
theorem ParsedAlike.after {x y : Report (Option TokenStream)} (h : ParsedAlike x y)
    (asked asked' : List String) : ParsedAlike (x.after asked) (y.after asked') := by
  cases h with
  | ok own context left pending => exact .ok own context left pending _ _
  | failed error context => exact .failed error context _ _
  | broken b context => exact .broken b context _ _

/-- **Reports that are alike have bound the same.** -/
theorem ParsedAlike.context_eq {x y : Report (Option TokenStream)} (h : ParsedAlike x y) :
    y.progress.context = x.progress.context := by
  cases h with
  | ok _ context => exact context
  | failed _ context => exact context
  | broken _ context => exact context

variable {front front' : String} {passed passed' : List Token} {r s s' : TokenStream}

/-- **Streams that are one stream behind two fronts leave the same texts.** -/
theorem texts_of_moved (h : r.Moved front passed s) (h' : r.Moved front' passed' s') :
    Token.texts s'.unread = Token.texts s.unread ∧
      Option.Rel ParseError.Akin s.pending s'.pending := by
  refine ⟨?_, ?_⟩
  · rw [h.unread, h'.unread]
    simp [Token.texts, Function.comp_def]
  · have hpending := h.pending
    have hpending' := h'.pending
    generalize r.pending = e at hpending hpending'
    generalize s.pending = f at hpending ⊢
    generalize s'.pending = f' at hpending' ⊢
    cases hpending with
    | none =>
      cases hpending'
      exact .none
    | some hf =>
      cases hpending' with
      | some hf' => exact .some (hf.akin hf')

/-- **A run that goes along with every front comes to the same behind two of them.** -/
theorem alike_of_moved {step : Step (Option TokenStream)}
    (hstep : ∀ front passed, Step.Paired (.moving front passed)
      (Option.Rel (TokenStream.Moved front [])) step step)
    (h : r.Moved front passed s) (h' : r.Moved front' passed' s') (c : Context) :
    ParsedAlike (step ⟨s, c⟩) (step ⟨s', c⟩) := by
  have hrun := hstep front passed ⟨r, c⟩ ⟨s, c⟩ ⟨h, rfl⟩
  have hrun' := hstep front' passed' ⟨r, c⟩ ⟨s', c⟩ ⟨h', rfl⟩
  generalize step ⟨r, c⟩ = x at hrun hrun'
  generalize step ⟨s, c⟩ = y at hrun ⊢
  generalize step ⟨s', c⟩ = y' at hrun' ⊢
  cases hrun with
  | ok value place asked =>
    cases hrun' with
    | ok value' place' _ =>
      have hcontext := place'.contexts.symm.trans place.contexts
      cases value with
      | none =>
        cases value'
        obtain ⟨hleft, hpending⟩ := texts_of_moved place.lines place'.lines
        refine .ok ?_ hcontext ?_ ?_ _ _
        · rfl
        · exact hleft
        · exact hpending
      | some hs =>
        cases value' with
        | some hs' =>
          obtain ⟨hleft, hpending⟩ := texts_of_moved hs hs'
          refine .ok ?_ hcontext ?_ ?_ _ _
          · rfl
          · exact hleft
          · exact hpending
  | failed error place asked =>
    cases hrun' with
    | failed error' place' _ =>
      exact .failed (error.akin error') (place'.contexts.symm.trans place.contexts) _ _
  | broken b place asked =>
    cases hrun' with
    | broken _ place' _ => exact .broken b (place'.contexts.symm.trans place.contexts) _ _

/-- **The flags of a line come to the same behind two fronts.** -/
theorem alike_parse {o : Occasion} {fs : Flags} (stopAt : String → Bool)
    (h : r.Moved front passed s) (h' : r.Moved front' passed' s') (c : Context) :
    ParsedAlike (fs.parse o stopAt ⟨s, c⟩) (fs.parse o stopAt ⟨s', c⟩) :=
  alike_of_moved (fun _ _ => paired_parse stopAt) h h' c

end Flags
end CommandGrammar
