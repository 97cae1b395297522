/-
# Scripts with scopes

A script is what is done with a session: moves of the stream, bindings, parses, states that are
saved and taken up again, and scopes around parts of it.  Whatever cannot be done interrupts the
script up to the next guard; the scopes that it leaves on the way are closed all the same.

| scope | what is left of it |
| --- | --- |
| committed | all that was done in it |
| not committed | the states that were saved in it, and nothing else |

An interruption that leaves a scope goes on behind it, committed or not.

No script reads another line or leaves a scope that it has not opened (`Script.within_run`).  So a
scope finds the place it remembers when it is closed (`closeScope_of_within`), and an atomic parse
is a parse in a scope with a commit behind it (`Script.run_parse_and_commit`).
-/

import CommandGrammar.Session
import CommandGrammar.Proofs.Steps.Onward
import CommandGrammar.Proofs.Steps.Undoing

namespace CommandGrammar

namespace TokenStream

variable {s r : TokenStream}

/-- **A stream of the same line finds the way back.** -/
theorem SameLine.seek?_cursor (h : s.SameLine r) : r.seek? s.cursor = some s := by
  obtain ⟨raw, tokens, pending, i, hi⟩ := s
  obtain ⟨raw', tokens', pending', j, hj⟩ := r
  obtain ⟨rfl, rfl, rfl⟩ := h
  exact dif_pos ⟨Int.natCast_nonneg i, Int.ofNat_le.2 hi⟩

/-- **Reading a token stays on the line.** -/
theorem sameLine_of_next {t : String} (h : s.next = .ok (t, r)) : s.SameLine r := by
  unfold next at h
  split at h
  · cases h
    exact s.sameLine_withCursor _
  · cases h

/-- **Reading a token, if there is one, stays on the line.** -/
theorem sameLine_of_next? {t : String} (h : s.next? = some (t, r)) : s.SameLine r := by
  unfold next? at h
  split at h
  · cases h
    exact s.sameLine_withCursor _
  · cases h

/-- **Going a token back stays on the line.** -/
theorem sameLine_of_previous {t : String} (h : s.previous = .ok (t, r)) : s.SameLine r := by
  unfold previous at h
  split at h
  · cases h
    exact s.sameLine_withCursor _
  · cases h

/-- **Seeking a place stays on the line.** -/
theorem sameLine_of_seek? {n : Int} (h : s.seek? n = some r) : s.SameLine r := by
  unfold seek? at h
  split at h
  · cases h
    exact s.sameLine_withCursor _
  · cases h

end TokenStream

namespace Session

/-- Why a script is interrupted. -/
inductive Interruption
  /-- Reading or parsing stopped. -/
  | stopped (why : Stop)
  /-- A saved state cannot be taken up. -/
  | refused (why : RestoreProblem)
  /-- No state is saved under a name. -/
  | unknown (name : String)
  /-- The script interrupts itself. -/
  | thrown

/-- What comes of a script: the session, and what interrupted the script, if anything did. -/
structure Outcome where
  interruption : Option Interruption
  session : Session

/-- What comes of going on, unless the script is interrupted. -/
def Outcome.andThen (r : Outcome) (next : Session → Outcome) : Outcome :=
  match r.interruption with
  | none => next r.session
  | some _ => r

/-- What is done with a session in one go. -/
inductive Operation
  /-- Reads a token. -/
  | next
  /-- Reads a token, if one is left. -/
  | nextIfPresent
  /-- Goes back by a token. -/
  | previous
  /-- Passes over all tokens. -/
  | skipRemaining
  /-- Takes the stream to a place. -/
  | seek (cursor : Int)
  /-- Binds a value. -/
  | put (key : String) (v : Value)
  /-- Parses a parameter. -/
  | parse (p : Parameter)
  /-- Saves the place where the stream stands. -/
  | savePlace (name : String)
  /-- Saves the bindings. -/
  | saveBindings (name : String)
  /-- Takes the stream to a saved place. -/
  | restorePlace (name : String)
  /-- Takes the context to saved bindings. -/
  | restoreBindings (name : String)
  /-- Takes the context to bindings that were made. -/
  | restoreMade (c : Context)
  /-- Makes what was done in the innermost scope stay. -/
  | commit
  /-- Goes back to where the innermost scope was begun. -/
  | rollBack

/-- What is done with a session, one thing after the other. -/
inductive Script
  /-- Nothing. -/
  | done
  /-- An operation first. -/
  | operation (op : Operation) (rest : Script)
  /-- An interruption. -/
  | throw (e : Interruption)
  /-- A part first whose interruption is caught. -/
  | guarded (body rest : Script)
  /-- A part in a scope of its own first. -/
  | scope (body rest : Script)

/-- The session when a move of the stream is made. -/
def move (s : Session) : Except ParseError (String × TokenStream) → Outcome
  | .ok (_, stream) => ⟨none, s.moveTo stream⟩
  | .error e => ⟨some (.stopped (.failed e)), s⟩

/-- The session when a state is taken up. -/
def takeUp (s : Session) : Except RestoreProblem Session → Outcome
  | .ok t => ⟨none, t⟩
  | .error e => ⟨some (.refused e), s⟩

/-- The session when the state under a name is taken up. -/
def restore (s : Session) (name : String)
    (how : SavedState → Except RestoreProblem Session) : Outcome :=
  match s.saved.lookup name with
  | some state => s.takeUp (how state)
  | none => ⟨some (.unknown name), s⟩

/-- What comes of an operation. -/
def Operation.run (o : Occasion) (s : Session) : Operation → Outcome
  | next => s.move s.progress.stream.next
  | nextIfPresent =>
    match s.progress.stream.next? with
    | some (_, stream) => ⟨none, s.moveTo stream⟩
    | none => ⟨none, s⟩
  | previous => s.move s.progress.stream.previous
  | skipRemaining => ⟨none, s.moveTo s.progress.stream.skipAll⟩
  | seek n => s.takeUp (s.restoreStream (.place n))
  | put key v => ⟨none, s.withContext (s.progress.context.put key v)⟩
  | parse p =>
    match s.run (p.parse o) with
    | (.ok (), t) => ⟨none, t⟩
    | (.error e, t) => ⟨some (.stopped e), t⟩
  | savePlace name => ⟨none, s.save name s.place⟩
  | saveBindings name => ⟨none, s.save name (.bindings s.progress.context)⟩
  | restorePlace name => s.restore name s.restoreStream
  | restoreBindings name => s.restore name s.restoreContext
  | restoreMade c => s.takeUp (s.restoreContext (.bindings c))
  | commit => ⟨none, s.commit⟩
  | rollBack => ⟨none, s.rollBack⟩

/-- What comes of a script.  A scope is closed however its body is left. -/
def Script.run (o : Occasion) : Script → Session → Outcome
  | done, s => ⟨none, s⟩
  | operation op rest, s => (op.run o s).andThen (rest.run o)
  | throw e, s => ⟨some e, s⟩
  | guarded body rest, s => rest.run o (body.run o s).session
  | scope body rest, s =>
    let r := body.run o s.openScope
    Outcome.andThen ⟨r.interruption, r.session.closeScope⟩ (rest.run o)

/-- Whether what was done in the innermost scope is to stay. -/
def committed (s : Session) : Bool := s.scopes.head?.any Scope.committed

/-- The session `t` is about the same line as `s`, with no scope opened or closed since; the
innermost one may be committed.  States may have been saved. -/
structure Within (s t : Session) : Prop where
  sameLine : s.progress.stream.SameLine t.progress.stream
  generation : t.generation = s.generation
  scopes : t.scopes = s.scopes ∨ t.scopes = s.commit.scopes
  saved : s.saved <:+ t.saved

variable {s t u : Session} {o : Occasion}

/-- **Which scopes a commit leaves depends only on those that were open.** -/
theorem scopes_commit_congr (h : t.scopes = s.scopes) : t.commit.scopes = s.commit.scopes := by
  unfold commit
  rw [h]
  split
  · exact h
  · rfl

/-- **Committing twice leaves the scopes of committing once.** -/
theorem scopes_commit_commit (s : Session) : s.commit.commit.scopes = s.commit.scopes := by
  obtain ⟨progress, generation, saved, scopes⟩ := s
  cases scopes <;> rfl

namespace Within

/-- **A session is within itself.** -/
theorem refl (s : Session) : s.Within s :=
  ⟨.refl _, rfl, .inl rfl, List.suffix_refl _⟩

/-- **What is within a session stays within what that one is within.** -/
theorem trans (h : s.Within t) (h' : t.Within u) : s.Within u where
  sameLine := h.sameLine.trans h'.sameLine
  generation := h'.generation.trans h.generation
  saved := h.saved.trans h'.saved
  scopes := by
    rcases h'.scopes with hu | hu <;> rcases h.scopes with ht | ht
    · exact .inl (hu.trans ht)
    · exact .inr (hu.trans ht)
    · exact .inr (hu.trans (scopes_commit_congr ht))
    · exact .inr (hu.trans ((scopes_commit_congr ht).trans (scopes_commit_commit s)))

/-- **Moving along the line stays within the session.** -/
theorem moveTo {stream : TokenStream} (h : s.progress.stream.SameLine stream) :
    s.Within (s.moveTo stream) := ⟨h, rfl, .inl rfl, List.suffix_refl _⟩

/-- **Another context stays within the session.** -/
theorem withContext (s : Session) (c : Context) : s.Within (s.withContext c) :=
  ⟨.refl _, rfl, .inl rfl, List.suffix_refl _⟩

/-- **A saved state stays within the session.** -/
theorem save (s : Session) (name : String) (state : SavedState) : s.Within (s.save name state) :=
  ⟨.refl _, rfl, .inl rfl, List.suffix_cons _ _⟩

/-- **A commit stays within the session.** -/
theorem commit (s : Session) : s.Within s.commit := by
  refine ⟨?_, ?_, .inr rfl, ?_⟩ <;> unfold Session.commit <;> split
  · exact .refl _
  · exact .refl _
  · rfl
  · rfl
  · exact List.suffix_refl _
  · exact List.suffix_refl _

/-- **Going back to where a scope began stays within the session.** -/
theorem goBack (s : Session) (scope : Scope) : s.Within (s.goBack scope) := by
  have hcontext := withContext s scope.context
  unfold Session.goBack
  dsimp only
  split
  · split
    · rename_i stream hseek
      exact hcontext.trans (moveTo (TokenStream.sameLine_of_seek? hseek))
    · exact hcontext
  · exact hcontext

/-- **Rolling back stays within the session.** -/
theorem rollBack (s : Session) : s.Within s.rollBack := by
  unfold Session.rollBack
  split
  · exact .refl s
  · exact goBack s _

/-- **A move along the line stays within the session, also a failing one.** -/
theorem move {r : Except ParseError (String × TokenStream)}
    (h : ∀ t stream, r = .ok (t, stream) → s.progress.stream.SameLine stream) :
    s.Within (s.move r).session := by
  unfold Session.move
  split
  · exact moveTo (h _ _ rfl)
  · exact .refl s

/-- **Taking up what is within a session stays within it, and so does refusing to.** -/
theorem takeUp {r : Except RestoreProblem Session} (h : ∀ t, r = .ok t → s.Within t) :
    s.Within (s.takeUp r).session := by
  unfold Session.takeUp
  split
  · exact h _ rfl
  · exact .refl s

/-- **Restoring a stream stays within the session.** -/
theorem restoreStream {state : SavedState} (h : s.restoreStream state = .ok t) : s.Within t := by
  unfold Session.restoreStream at h
  split at h
  · split at h
    · rename_i hseek
      cases h
      exact moveTo (TokenStream.sameLine_of_seek? hseek)
    · cases h
  · cases h

/-- **Restoring a context stays within the session.** -/
theorem restoreContext {state : SavedState} (h : s.restoreContext state = .ok t) : s.Within t := by
  unfold Session.restoreContext at h
  split at h
  · cases h
    exact withContext s _
  · cases h

/-- **Restoring stays within the session if every way of doing it does.** -/
theorem restore {name : String} {how : SavedState → Except RestoreProblem Session}
    (h : ∀ state t, how state = .ok t → s.Within t) : s.Within (s.restore name how).session := by
  unfold Session.restore
  split
  · exact takeUp (h _)
  · exact .refl s

/-- **A parse stays within the session.** -/
theorem parse (s : Session) (p : Parameter) :
    s.Within { s with progress := (p.parse o s.progress).progress } :=
  ⟨(p.onward_parse o s.progress).sameLine, rfl, .inl rfl, List.suffix_refl _⟩

end Within

/-- **An operation reads no other line, and opens and closes no scope.** -/
theorem Operation.within_run (o : Occasion) (s : Session) (op : Operation) :
    s.Within (op.run o s).session := by
  cases op with
  | next => exact .move fun _ _ => TokenStream.sameLine_of_next
  | nextIfPresent =>
    rw [run]
    split
    · rename_i hnext
      exact .moveTo (TokenStream.sameLine_of_next? hnext)
    · exact .refl s
  | previous => exact .move fun _ _ => TokenStream.sameLine_of_previous
  | skipRemaining => exact .moveTo (s.progress.stream.sameLine_withCursor _)
  | seek n => exact .takeUp fun _ => .restoreStream
  | put key v => exact .withContext s _
  | parse p =>
    have hparse : s.Within (s.run (p.parse o)).2 := .parse s p
    rw [run]
    split <;> rename_i heq <;> rw [heq] at hparse <;> exact hparse
  | savePlace name => exact .save s name _
  | saveBindings name => exact .save s name _
  | restorePlace name => exact .restore fun _ _ => .restoreStream
  | restoreBindings name => exact .restore fun _ _ => .restoreContext
  | restoreMade c => exact .takeUp fun _ => .restoreContext
  | commit => exact .commit s
  | rollBack => exact .rollBack s

/-- The session with another table of saved states. -/
def withSaved (s : Session) (saved : List (String × SavedState)) : Session :=
  { s with saved := saved }

/-- The session with other open scopes. -/
def withScopes (s : Session) (scopes : List Scope) : Session := { s with scopes := scopes }

/-- **Going back to where a scope was opened leaves the states that were saved in it.** -/
theorem goBack_of_within (h : s.openScope.Within t) (b : Bool) :
    t.goBack ⟨s.generation, s.progress.stream.cursor, s.progress.context, b⟩ =
      (s.withSaved t.saved).withScopes t.scopes := by
  have hseek : t.progress.stream.seek? s.progress.stream.cursor = some s.progress.stream :=
    h.sameLine.seek?_cursor
  obtain ⟨progress, generation, saved, scopes⟩ := t
  obtain rfl : generation = s.generation := h.generation
  unfold goBack
  simp only [if_true, withContext, hseek]
  rfl

/-- **A scope is closed where it was opened.** If it was not committed, then only the states that
were saved in it are left of it. -/
theorem closeScope_of_within (h : s.openScope.Within t) :
    t.closeScope = if t.committed then t.withScopes s.scopes else s.withSaved t.saved := by
  unfold closeScope committed
  rcases h.scopes with hscopes | hscopes
  · have hscopes : t.scopes =
        ⟨s.generation, s.progress.stream.cursor, s.progress.context, false⟩ :: s.scopes := hscopes
    rw [hscopes]
    simp only [List.head?_cons, Option.any_some, Bool.false_eq_true, if_false, goBack_of_within h]
    rfl
  · have hscopes : t.scopes =
        ⟨s.generation, s.progress.stream.cursor, s.progress.context, true⟩ :: s.scopes := hscopes
    rw [hscopes]
    simp only [List.head?_cons, Option.any_some, if_true]
    rfl

/-- **A closed scope leaves the scopes around it as they were.** -/
theorem Within.close (h : s.openScope.Within t) : s.Within t.closeScope := by
  rw [closeScope_of_within h]
  split
  · exact ⟨h.sameLine, h.generation, .inl rfl, h.saved⟩
  · exact ⟨.refl _, rfl, .inl rfl, h.saved⟩

/-- **An operation behind another stays within the session if both do.** -/
theorem Outcome.within_andThen {r : Outcome} {next : Session → Outcome} (h : s.Within r.session)
    (hnext : ∀ t : Session, t.Within (next t).session) : s.Within (r.andThen next).session := by
  unfold Outcome.andThen
  split
  · exact h.trans (hnext _)
  · exact h

/-- **A script reads no other line, and closes exactly the scopes that it opens.** -/
theorem Script.within_run (o : Occasion) (script : Script) (s : Session) :
    s.Within (script.run o s).session := by
  induction script generalizing s with
  | done => exact .refl s
  | operation op rest ih => exact Outcome.within_andThen (op.within_run o s) ih
  | throw e => exact .refl s
  | guarded body rest ihBody ihRest => exact (ihBody s).trans (ihRest _)
  | scope body rest ihBody ihRest =>
    exact Outcome.within_andThen (ihBody s.openScope).close ihRest

/-- **A scope keeps what was done in it exactly if it was committed**, however it is left. -/
theorem Script.run_scope (o : Occasion) (body : Script) (s : Session) :
    (scope body done).run o s =
      let r := body.run o s.openScope
      ⟨r.interruption, if r.session.committed then r.session.withScopes s.scopes
        else s.withSaved r.session.saved⟩ := by
  dsimp only
  rw [← closeScope_of_within (body.within_run o s.openScope), run]
  unfold Outcome.andThen
  split
  · rename_i hnone
    rw [run, ← hnone]
  · rfl

/-- **An atomic parse is a parse in a scope with a commit behind it**, which is reached only if the
parse succeeds. -/
theorem Script.run_parse_and_commit (o : Occasion) (p : Parameter) (s : Session) :
    let r := (p.parse o).atomic s.progress
    (scope (operation (.parse p) (operation .commit done)) done).run o s =
      ⟨match r.result with
        | .ok () => none
        | .error e => some (.stopped e), { s with progress := r.progress }⟩ := by
  rw [run_scope, run, Operation.run, Session.run]
  rcases Step.atomic_cases (p.parse o) s.progress with
    ⟨_, q, asked, hparse, hr⟩ | ⟨e, q, asked, hparse, hr⟩
  · have hparse : p.parse o s.openScope.progress = ⟨.ok (), q, asked⟩ := hparse
    rw [hparse, hr]
    rfl
  · have hparse : p.parse o s.openScope.progress = ⟨.error e, q, asked⟩ := hparse
    rw [hparse, hr]
    rfl

end Session
end CommandGrammar
