/-
# Courses of a parse

Many facts about parsing say where a step may lead and what it may stop with: the cursor never moves
back, no failure stands before the entry, nothing is bound under a foreign key.  A `Course` is such
a fact, given by what it allows; `Course.Carries` passes through sequences.  A `ParseCourse` allows
what the simplest steps of grammars do, and so, in the end, what whole grammars do.

| field | meaning |
| --- | --- |
| `leads p q` | a parse at `p` may come to `q` |
| `stops p e` | a parse that was at `p` may stop with `e` |
| `binds key v` | the value may be bound under the key |

A step is carried *from* a progress `p`: it may begin at any place that `p` leads to, and what it
comes to is compared with `p`.  So a failure behind a token may be reported where the token begins.
-/

import CommandGrammar.Progress

namespace CommandGrammar

/-- **Either a token is read, or none is left.** -/
theorem TokenStream.next_cases (s : TokenStream) :
    (∃ h : s.cursor < s.tokens.length,
      s.next = .ok (s.tokens[s.cursor].text, s.withCursor (s.cursor + 1) h) ∧
      s.head? = some s.tokens[s.cursor]) ∨
    (s.next = .error s.endError ∧ s.head? = none) := by
  by_cases h : s.cursor < s.tokens.length
  · exact .inl ⟨h, s.next_eq h, List.getElem?_eq_getElem h⟩
  · refine .inr ⟨?_, List.getElem?_eq_none (Nat.le_of_not_lt h)⟩
    unfold next
    rw [dif_neg h]

/-- **A token ahead is read, and the cursor stands behind it.** -/
theorem TokenStream.next_of_head? {s : TokenStream} {t : Token} (h : s.head? = some t) :
    ∃ hc, s.next = .ok (t.text, s.withCursor (s.cursor + 1) hc) := by
  rcases s.next_cases with ⟨hc, hnext, hhead⟩ | ⟨-, hhead⟩
  · obtain rfl := Option.some.inj (hhead.symm.trans h)
    exact ⟨hc, hnext⟩
  · rw [hhead] at h
    cases h

/-- **Without a token ahead, the next one fails as the stream ends.** -/
theorem TokenStream.next_of_head?_none {s : TokenStream} (h : s.head? = none) :
    s.next = .error s.endError := by
  rcases s.next_cases with ⟨_, _, hhead⟩ | ⟨hnext, -⟩
  · rw [hhead] at h
    cases h
  · exact hnext

/-- **The stream of a line is what the line is split into.** -/
theorem TokenStream.ofLine_of_split {way : Splitting} {raw : String} {tokens : List Token}
    {pending : Option ParseError} (h : way.split raw false = (tokens, pending)) :
    TokenStream.ofLine way raw = .ofTokens raw tokens pending := by
  unfold ofLine
  rw [h]

/-- **The first unread token stands ahead.** -/
theorem TokenStream.head?_of_unread {s : TokenStream} {t : Token} {more : List Token}
    (h : s.unread = t :: more) : s.head? = some t := by
  have hhead := congrArg List.head? h
  rwa [TokenStream.unread, List.head?_drop] at hhead

/-- **If nothing is unread, no token stands ahead.** -/
theorem TokenStream.head?_of_unread_nil {s : TokenStream} (h : s.unread = []) : s.head? = none := by
  have hhead := congrArg List.head? h
  rwa [TokenStream.unread, List.head?_drop] at hhead

/-- **The token ahead is the first unread one.** -/
theorem TokenStream.unread_of_head? {s : TokenStream} {t : Token} (h : s.head? = some t) :
    ∃ more, s.unread = t :: more := by
  obtain ⟨hc, rfl⟩ := List.getElem?_eq_some_iff.1 h
  exact ⟨_, List.drop_eq_getElem_cons hc⟩

/-- **Without a token ahead, nothing is unread.** -/
theorem TokenStream.unread_of_head?_none {s : TokenStream} (h : s.head? = none) : s.unread = [] :=
  List.drop_eq_nil_of_le (List.getElem?_eq_none_iff.1 h)

/-- **No questions asked before leave a report as it is.** -/
@[simp] theorem Report.after_nil {α : Type} (r : Report α) : r.after [] = r := rfl

/-- **A sequence goes on where its first step ends.** -/
theorem Step.bind_of_ok {α β : Type} {s : Step α} {p q : Progress} {a : α} {asked : List String}
    (h : s p = ⟨.ok a, q, asked⟩) (next : α → Step β) :
    (s >>= next) p = (next a q).after asked := by
  rw [bind_apply, h]

/-- **A sequence stops where its first step stops.** -/
theorem Step.bind_of_error {α β : Type} {s : Step α} {p q : Progress} {e : Stop}
    {asked : List String} (h : s p = ⟨.error e, q, asked⟩) (next : α → Step β) :
    (s >>= next) p = ⟨.error e, q, asked⟩ := by
  rw [bind_apply, h]

/-- **A step that begins by looking where it is goes on from there.** -/
theorem Step.here_bind {α : Type} (next : Progress → Step α) (p : Progress) :
    (Step.here >>= next) p = next p p := rfl

/-- **A step that begins by going elsewhere goes on from there.** -/
theorem Step.goTo_bind {α : Type} (s : TokenStream) (next : Unit → Step α) (p : Progress) :
    (Step.goTo s >>= next) p = next () ⟨s, p.context⟩ := rfl

/-- **What is made of a result leaves a failure.** -/
theorem Step.result_bind_pure {α β : Type} (s : Step α) (f : α → β) (p : Progress) :
    ((s >>= fun a => pure (f a)) p).result = (s p).result.map f := by
  rw [Step.bind_apply]
  rcases s p with ⟨x | a, q, asked⟩ <;> rfl

/-- **A sequence that succeeds has succeeded twice.** -/
theorem Step.exists_of_bind_ok {α β : Type} {s : Step α} {next : α → Step β} {p r : Progress}
    {b : β} {asked : List String} (h : (s >>= next) p = ⟨.ok b, r, asked⟩) :
    ∃ a q xs ys, s p = ⟨.ok a, q, xs⟩ ∧ next a q = ⟨.ok b, r, ys⟩ ∧ asked = xs ++ ys := by
  rw [bind_apply] at h
  split at h
  · rename_i a q xs hs
    obtain ⟨h₁, h₂, rfl⟩ := Report.mk.inj h
    refine ⟨a, q, xs, (next a q).asked, hs, ?_, rfl⟩
    rw [← h₁, ← h₂]
  · cases (Report.mk.inj h).1

/-- **A token that stands ahead is read.** -/
theorem Step.next_of_head? {p : Progress} {t : Token} (h : p.stream.head? = some t) :
    ∃ r, Step.next p = ⟨.ok t.text, r, []⟩ := by
  obtain ⟨hc, hnext⟩ := TokenStream.next_of_head? h
  refine ⟨{ p with stream := p.stream.withCursor (p.stream.cursor + 1) hc }, ?_⟩
  unfold Step.next
  rw [hnext]

/-- **Reading a token stays on the line.** -/
theorem Step.raw_of_next {p q : Progress} {x : Except Stop String} {asked : List String}
    (h : Step.next p = ⟨x, q, asked⟩) : q.stream.raw = p.stream.raw := by
  unfold Step.next at h
  rcases p.stream.next_cases with ⟨hc, hn, -⟩ | ⟨hn, -⟩ <;> rw [hn] at h <;>
    exact (congrArg (·.stream.raw) (Report.mk.inj h).2.1).symm

/-- **A token that stands ahead is read with its place.** -/
theorem Step.token_of_head? {p : Progress} {t : Token} (h : p.stream.head? = some t) :
    ∃ r, Step.token p = ⟨.ok (t.text, p.stream.position), r, []⟩ := by
  obtain ⟨hc, hnext⟩ := TokenStream.next_of_head? h
  refine ⟨{ p with stream := p.stream.withCursor (p.stream.cursor + 1) hc }, ?_⟩
  unfold Step.token
  rw [hnext]

/-- **A token that stands ahead is told.** -/
theorem Step.peek_of_head? {p : Progress} {t : Token} (h : p.stream.head? = some t) :
    Step.peek p = ⟨.ok t.text, p, []⟩ := by
  unfold Step.peek TokenStream.peek
  rw [h]

/-- What a step may come to, and what it may stop with. -/
structure Course where
  leads : Progress → Progress → Prop
  stops : Progress → Stop → Prop
  refl : ∀ p, leads p p
  trans : ∀ {p q r}, leads p q → leads q r → leads p r
  back : ∀ {p q e}, leads p q → stops q e → stops p e

/-- A course that allows whatever grammars do: to read, to bind and to fail. -/
structure ParseCourse extends Course where
  binds : String → Value → Prop
  /-- A token may be read. -/
  next : ∀ p (h : p.stream.cursor < p.stream.tokens.length),
    leads p { p with stream := p.stream.withCursor (p.stream.cursor + 1) h }
  put : ∀ p {key v}, binds key v → leads p { p with context := p.context.put key v }
  /-- Reading may fail where no token is left. -/
  atEnd : ∀ p, p.stream.head? = none → stops p (.failed p.stream.endError)
  /-- A problem may be found at the place where the parse was. -/
  fails : ∀ {p q} problem, leads p q →
    stops p (.failed (q.stream.errorAt p.stream.position problem))
  /-- A failure may be worded differently. -/
  reworded : ∀ {p e} problem, stops p (.failed e) → stops p (.failed { e with problem := problem })

namespace Course

variable {C : Course} {α β : Type} {p q : Progress}

/-- What a step may report that began at `p`. -/
def Allows (C : Course) (p : Progress) (r : Report α) : Prop :=
  C.leads p r.progress ∧ ∀ e, r.result = .error e → C.stops p e

/-- From wherever `p` leads to, the step keeps to the course that began at `p`. -/
def Carries (C : Course) (p : Progress) (s : Step α) : Prop := ∀ q, C.leads p q → C.Allows p (s q)

/-- **A course does not see which questions were asked.** -/
theorem Allows.after {r : Report α} (h : C.Allows p r) (asked : List String) :
    C.Allows p (r.after asked) := h

/-- **A course allows a result at a place it leads to.** -/
theorem allows_ok (h : C.leads p q) (a : α) (asked : List String) : C.Allows p ⟨.ok a, q, asked⟩ :=
  ⟨h, fun _ he => nomatch he⟩

/-- **A course allows the stops it knows, at a place it leads to.** -/
theorem allows_error {e : Stop} (h : C.leads p q) (he : C.stops p e) (asked : List String) :
    C.Allows p (⟨.error e, q, asked⟩ : Report α) :=
  ⟨h, fun _ he' => by cases he'; exact he⟩

/-- **A stop that a course allows is one it knows.** -/
theorem Allows.stops_of_eq {r : Report α} {e : Stop} {asked : List String} (h : C.Allows p r)
    (hr : r = ⟨.error e, q, asked⟩) : C.stops p e := h.2 e (by rw [hr])

/-- **A course leads to where a report that it allows ends.** -/
theorem Allows.leads_of_eq {r : Report α} {x : Except Stop α} {asked : List String}
    (h : C.Allows p r) (hr : r = ⟨x, q, asked⟩) : C.leads p q := by
  have := h.1
  rwa [hr] at this

/-- **What is allowed further on is allowed from the start.** -/
theorem Allows.back {r : Report α} (hpq : C.leads p q) (h : C.Allows q r) : C.Allows p r :=
  ⟨C.trans hpq h.1, fun e he => C.back hpq (h.2 e he)⟩

/-- The step keeps to the course wherever it begins. -/
def Governs (C : Course) (s : Step α) : Prop := ∀ p, C.Allows p (s p)

/-- **What keeps to the course everywhere may begin further on.** -/
theorem Governs.carries {s : Step α} (h : C.Governs s) : C.Carries p s :=
  fun q hq => (h q).back hq

/-- **What is carried from everywhere keeps to the course.** -/
theorem governs_of_carries {s : Step α} (h : ∀ p, C.Carries p s) : C.Governs s :=
  fun p => h p p (C.refl p)

/-- **Every course carries a step that only returns.** -/
theorem carries_pure (a : α) : C.Carries p (pure a) := fun _ hq => allows_ok hq a []

/-- **Every course carries a step that does nothing.** -/
theorem carries_done (a : α) : C.Carries p (Step.done a) := fun _ hq => allows_ok hq a []

/-- **A sequence is allowed if its second step is carried on.** -/
theorem Allows.bind {s : Step α} {next : α → Step β} (hs : C.Allows p (s q))
    (hn : ∀ a, C.Carries p (next a)) : C.Allows p ((s >>= next) q) := by
  rw [Step.bind_apply]
  split
  · rename_i hsq
    exact (hn _ _ (hs.leads_of_eq hsq)).after _
  · rename_i hsq
    exact allows_error (hs.leads_of_eq hsq) (hs.stops_of_eq hsq) _

/-- **A sequence is carried by parts.** -/
theorem Carries.bind {s : Step α} {next : α → Step β} (hs : C.Carries p s)
    (hn : ∀ a, C.Carries p (next a)) : C.Carries p (s >>= next) := fun q hq => (hs q hq).bind hn

/-- **What follows begins at the place that it looks at.** -/
theorem carries_here_of_allows {next : Progress → Step β}
    (h : ∀ q, C.leads p q → C.Allows q (next q q)) : C.Carries p (Step.here >>= next) :=
  fun q hq => (h q hq).back hq

/-- **What follows may look back at the place it began at.** -/
theorem carries_here_bind {next : Progress → Step β}
    (h : ∀ q, C.leads p q → C.Carries q (next q)) : C.Carries p (Step.here >>= next) :=
  carries_here_of_allows fun q hq => h q hq q (C.refl q)

/-- **A course carries the stops it knows.** -/
theorem carries_stop {e : Stop} (h : C.stops p e) : C.Carries p (Step.stop e : Step α) :=
  fun _ hq => allows_error hq h _

/-- What a step may report that began at `p`, with a result that `Q` holds of. -/
def Yields (C : Course) (p : Progress) (Q : α → Prop) (r : Report α) : Prop :=
  C.Allows p r ∧ ∀ a, r.result = .ok a → Q a

/-- **A result with the property asked for is yielded.** -/
theorem Yields.of_ok {Q : α → Prop} {a : α} (h : C.leads p q) (ha : Q a) (asked : List String) :
    C.Yields p Q ⟨.ok a, q, asked⟩ :=
  ⟨allows_ok h a asked, fun _ hb => by cases hb; exact ha⟩

/-- **What is yielded from further on is yielded from before.** -/
theorem Yields.back {Q : α → Prop} {r : Report α} (hpq : C.leads p q) (h : C.Yields q Q r) :
    C.Yields p Q r := ⟨h.1.back hpq, h.2⟩

/-- **A sequence yields what its second step yields.** -/
theorem Yields.bind {Q : β → Prop} {s : Step α} {next : α → Step β} (hs : C.Allows p (s q))
    (hn : ∀ a r asked, s q = ⟨.ok a, r, asked⟩ → C.leads p r → C.Yields p Q (next a r)) :
    C.Yields p Q ((s >>= next) q) := by
  rw [Step.bind_apply]
  split
  · rename_i a r asked hsq
    exact hn a r asked hsq (hs.leads_of_eq hsq)
  · rename_i hsq
    exact ⟨allows_error (hs.leads_of_eq hsq) (hs.stops_of_eq hsq) _, fun _ hb => nomatch hb⟩

/-- **Undoing a failed step keeps to the course.** -/
theorem Carries.atomic {s : Step α} (h : C.Carries p s) : C.Carries p s.atomic := fun q hq => by
  have hs := h q hq
  unfold Step.atomic
  split <;> rename_i hsq
  · exact allows_ok (hs.leads_of_eq hsq) _ _
  · exact allows_error hq (hs.stops_of_eq hsq) _

/-- **Undoing any step does, too.** -/
theorem Carries.undone {s : Step α} (h : C.Carries p s) : C.Carries p s.undone :=
  fun q hq => ⟨hq, (h q hq).2⟩

end Course

namespace ParseCourse

open Course

variable {C : ParseCourse} {α β : Type} {p q : Progress}

/-- **What follows a token may look back at where it begins.** -/
theorem allows_token_bind {next : String × Int → Step β}
    (h : ∀ t, p.stream.head? = some t → C.Carries p (next (t.text, p.stream.position))) :
    C.Allows p ((Step.token >>= next) p) := by
  rw [Step.bind_apply]
  unfold Step.token
  rcases p.stream.next_cases with ⟨hc, hn, hhead⟩ | ⟨hn, hhead⟩ <;> rw [hn]
  · exact (h _ hhead _ (C.next p hc)).after _
  · exact allows_error (C.refl p) (C.atEnd p hhead) _

/-- **Every course carries the reading of a token.** -/
theorem carries_next : C.Carries p Step.next := fun q hq => by
  unfold Step.next
  rcases q.stream.next_cases with ⟨hc, hn, -⟩ | ⟨hn, hhead⟩ <;> rw [hn]
  · exact allows_ok (C.trans hq (C.next q hc)) _ _
  · exact allows_error hq (C.back hq (C.atEnd q hhead)) _

/-- **What follows a look ahead knows the token.** -/
theorem allows_peek_bind {next : String → Step β}
    (h : ∀ t, p.stream.head? = some t → C.Allows p (next t.text p)) :
    C.Allows p ((Step.peek >>= next) p) := by
  rw [Step.bind_apply]
  unfold Step.peek TokenStream.peek
  cases hhead : p.stream.head? with
  | none => exact allows_error (C.refl p) (C.atEnd p hhead) _
  | some t => exact (h t hhead).after _

/-- **Every course carries a look at the next token.** -/
theorem carries_peek : C.Carries p Step.peek := fun q hq => by
  unfold Step.peek TokenStream.peek
  cases hhead : q.stream.head? with
  | none => exact allows_error hq (C.back hq (C.atEnd q hhead)) _
  | some t => exact allows_ok hq _ _

/-- **A course carries the binding of a value it lets be bound.** -/
theorem carries_put {key : String} {v : Value} (h : C.binds key v) :
    C.Carries p (Step.put key v) := fun q hq => allows_ok (C.trans hq (C.put q h)) _ _

/-- **A course carries the binding of several values it lets be bound.** -/
theorem carries_putAll {key : String} {vs : List Value} (h : ∀ v ∈ vs, C.binds key v) :
    C.Carries p (Step.putAll key vs) := by
  intro q hq
  refine allows_ok ?_ _ _
  -- The values are bound one after the other; each binding leads on from the last.
  induction vs generalizing q with
  | nil => exact hq
  | cons v vs ih =>
    exact ih (fun w hw => h w (List.mem_cons_of_mem v hw)) _
      (C.trans hq (C.put q (h v List.mem_cons_self)))

/-- **Every course carries a failure at the place where it stands.** -/
theorem carries_failAt (problem : Problem) :
    C.Carries p (Step.failAt p.stream.position problem : Step α) :=
  fun _ hq => allows_error hq (C.fails problem hq) _

/-- **Every course carries a failure at the token ahead.** -/
theorem carries_fail (problem : Problem) : C.Carries p (Step.fail problem : Step α) :=
  fun q hq => allows_error hq (C.back hq (C.fails problem (C.refl q))) _

end ParseCourse
end CommandGrammar
