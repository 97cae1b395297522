/-
# Scripts without their uncommitted scopes

A scope that is not committed could as well not have been there: the script without it comes to the
same place with the same bindings (`Script.agree_erase`).  The interruption by which such a scope is
left is not taken back, so it stays in its place (`Script.erase`).

What is left of an uncommitted scope are the states that were saved in it.  The script without the
scope has not saved them, so the two runs agree on the saved states but for those (`Session.Agree`),
and the law holds of scripts that do not take them up again.  `Script.lost?` follows a run and keeps
the names under which the last state was saved in such a scope:

| what is done | names that are lost |
| --- | --- |
| a state is saved | all but its name |
| a state is taken up whose name is lost | the law does not hold |
| a scope is closed that is committed | those that are lost in it |
| a scope is closed that is not committed | also the names that were saved in it |
-/

import CommandGrammar.Host.Usual
import CommandGrammar.Proofs.Scopes.Scripts

namespace CommandGrammar
namespace Session

/-- The name under which an operation saves a state. -/
def Operation.saves? : Operation → Option String
  | savePlace name | saveBindings name => some name
  | _ => none

/-- The name under which an operation looks for a state. -/
def Operation.restores? : Operation → Option String
  | restorePlace name | restoreBindings name => some name
  | _ => none

/-- The names that are still lost after an operation. -/
def Operation.lostAfter (op : Operation) (lost : List String) : List String :=
  match op.saves? with
  | some name => lost.filter (· ≠ name)
  | none => lost

/-- Every scope that is closed when the script runs in the session is committed. -/
def Script.Settled (o : Occasion) : Script → Session → Prop
  | done, _ => True
  | operation op rest, s =>
    (op.run o s).interruption = none → rest.Settled o (op.run o s).session
  | throw _, _ => True
  | guarded body rest, s => body.Settled o s ∧ rest.Settled o (body.run o s).session
  | scope body rest, s =>
    let r := body.run o s.openScope
    r.session.committed = true ∧ body.Settled o s.openScope ∧
      (r.interruption = none → rest.Settled o r.session.closeScope)

/-- The names under which states were saved since. -/
def savedSince (s t : Session) : List String :=
  (t.saved.take (t.saved.length - s.saved.length)).map Prod.fst

/-- The script without the scopes that are not committed when it runs in the session.  The
interruption by which such a scope is left stays. -/
def Script.erase (o : Occasion) : Script → Session → Script
  | done, _ => done
  | operation op rest, s => operation op (rest.erase o (op.run o s).session)
  | throw e, _ => throw e
  | guarded body rest, s => guarded (body.erase o s) (rest.erase o (body.run o s).session)
  | scope body rest, s =>
    let r := body.run o s.openScope
    let rest := rest.erase o r.session.closeScope
    if r.session.committed then scope (body.erase o s.openScope) rest
    else
      match r.interruption with
      | none => rest
      | some e => throw e

/-- The names that are lost after a part of a script and what is done then, unless the part is
interrupted. -/
def Outcome.lostThen (r : Outcome) (lost : Option (List String))
    (next : List String → Session → Option (List String)) : Option (List String) :=
  match r.interruption with
  | none => lost.bind fun lost => next lost r.session
  | some _ => lost

/-- The names under which the last state was saved in a scope that was not committed, when the
script has run in the session; `lost` are those before.  None, if the script takes up such a state
outside of uncommitted scopes. -/
def Script.lost? (o : Occasion) : Script → List String → Session → Option (List String)
  | done, lost, _ => some lost
  | operation op rest, lost, s =>
    let after := if op.restores?.any lost.contains then none else some (op.lostAfter lost)
    (op.run o s).lostThen after (rest.lost? o)
  | throw _, lost, _ => some lost
  | guarded body rest, lost, s =>
    Outcome.lostThen ⟨none, (body.run o s).session⟩ (body.lost? o lost s) (rest.lost? o)
  | scope body rest, lost, s =>
    let r := body.run o s.openScope
    let inside :=
      if r.session.committed then body.lost? o lost s.openScope
      else some (s.savedSince r.session ++ lost)
    Outcome.lostThen ⟨r.interruption, r.session.closeScope⟩ inside (rest.lost? o)

/-- The sessions are the same, but for states that were saved under the lost names. -/
inductive Agree (lost : List String) (s : Session) : Session → Prop
  | intro (table : List (String × SavedState))
      (lookup : ∀ name, name ∉ lost → table.lookup name = s.saved.lookup name) :
      Agree lost s (s.withSaved table)

/-- The outcomes are the same, but for states that were saved under the lost names. -/
structure Outcome.Agree (lost : List String) (r r' : Outcome) : Prop where
  interruption : r'.interruption = r.interruption
  session : r.session.Agree lost r'.session

variable {lost lost' : List String} {s t : Session} {o : Occasion}

namespace Agree

/-- **A session agrees with itself, with nothing lost.** -/
theorem refl (s : Session) : s.Agree [] s := .intro s.saved fun _ _ => rfl

/-- **Sessions that agree are equally far.** -/
theorem progress_eq (h : s.Agree lost t) : t.progress = s.progress := by
  obtain ⟨table, htable⟩ := h
  rfl

/-- **Sessions that agree are in the same generation.** -/
theorem generation_eq (h : s.Agree lost t) : t.generation = s.generation := by
  obtain ⟨table, htable⟩ := h
  rfl

/-- **Sessions that agree have the same scopes open.** -/
theorem scopes_eq (h : s.Agree lost t) : t.scopes = s.scopes := by
  obtain ⟨table, htable⟩ := h
  rfl

/-- **Sessions that agree have both committed their innermost scope, or neither.** -/
theorem committed_eq (h : s.Agree lost t) : t.committed = s.committed := by
  unfold Session.committed
  rw [h.scopes_eq]

/-- **A state that is not lost is the same in both.** -/
theorem lookup_eq {name : String} (h : s.Agree lost t) (hname : name ∉ lost) :
    t.saved.lookup name = s.saved.lookup name := by
  obtain ⟨table, htable⟩ := h
  exact htable name hname

/-- **Both may move to the same place.** -/
theorem moveTo (h : s.Agree lost t) (stream : TokenStream) :
    (s.moveTo stream).Agree lost (t.moveTo stream) := by
  obtain ⟨table, htable⟩ := h
  exact .intro table htable

/-- **Both may take the same context.** -/
theorem withContext (h : s.Agree lost t) (c : Context) :
    (s.withContext c).Agree lost (t.withContext c) := by
  obtain ⟨table, htable⟩ := h
  exact .intro table htable

/-- **Both may take the same scopes.** -/
theorem withScopes (h : s.Agree lost t) (scopes : List Scope) :
    (s.withScopes scopes).Agree lost (t.withScopes scopes) := by
  obtain ⟨table, htable⟩ := h
  exact .intro table htable

/-- **Both may open a scope.** -/
theorem openScope (h : s.Agree lost t) : s.openScope.Agree lost t.openScope := by
  obtain ⟨table, htable⟩ := h
  exact .intro table htable

/-- **Both may commit.** -/
theorem commit (h : s.Agree lost t) : s.commit.Agree lost t.commit := by
  obtain ⟨table, htable⟩ := h
  obtain ⟨progress, generation, saved, scopes⟩ := s
  cases scopes <;> exact .intro table htable

/-- **Both may go back to where a scope began.** -/
theorem goBack (h : s.Agree lost t) (scope : Scope) :
    (s.goBack scope).Agree lost (t.goBack scope) := by
  have hcontext := h.withContext scope.context
  unfold Session.goBack
  dsimp only
  rw [h.generation_eq, hcontext.progress_eq]
  split
  · split
    · exact hcontext.moveTo _
    · exact hcontext
  · exact hcontext

/-- **Both may roll back.** -/
theorem rollBack (h : s.Agree lost t) : s.rollBack.Agree lost t.rollBack := by
  unfold Session.rollBack
  rw [h.scopes_eq]
  split
  · exact h
  · exact h.goBack _

/-- **Both may close a scope.** -/
theorem closeScope (h : s.Agree lost t) : s.closeScope.Agree lost t.closeScope := by
  unfold Session.closeScope
  rw [h.scopes_eq]
  split
  · exact h
  · dsimp only
    split
    · exact h.withScopes _
    · exact (h.goBack _).withScopes _

/-- **Both may move as the stream says, or fail as it says.** -/
theorem move (h : s.Agree lost t) (r : Except ParseError (String × TokenStream)) :
    (s.move r).Agree lost (t.move r) := by
  cases r with
  | ok r => exact ⟨rfl, h.moveTo r.2⟩
  | error e => exact ⟨rfl, h⟩

/-- **Both may restore the stream of the same state.** -/
theorem restoreStream (h : s.Agree lost t) (state : SavedState) :
    (s.takeUp (s.restoreStream state)).Agree lost (t.takeUp (t.restoreStream state)) := by
  unfold Session.restoreStream
  rw [h.progress_eq]
  split
  · split
    · exact ⟨rfl, h.moveTo _⟩
    · exact ⟨rfl, h⟩
  · exact ⟨rfl, h⟩

/-- **Both may restore the context of the same state.** -/
theorem restoreContext (h : s.Agree lost t) (state : SavedState) :
    (s.takeUp (s.restoreContext state)).Agree lost (t.takeUp (t.restoreContext state)) := by
  cases state with
  | bindings c => exact ⟨rfl, h.withContext c⟩
  | place n => exact ⟨rfl, h⟩

/-- **A state whose name is not lost is taken up alike.** -/
theorem restore {name : String} {how how' : SavedState → Except RestoreProblem Session}
    (h : s.Agree lost t) (hname : name ∉ lost)
    (hhow : ∀ state, (s.takeUp (how state)).Agree lost (t.takeUp (how' state))) :
    (s.restore name how).Agree lost (t.restore name how') := by
  unfold Session.restore
  rw [h.lookup_eq hname]
  split
  · exact hhow _
  · exact ⟨rfl, h⟩

/-- **A name under which a state is saved is not lost any more.** -/
theorem save (h : s.Agree lost t) (name : String) (state : SavedState) :
    (s.save name state).Agree (lost.filter (· ≠ name)) (t.save name state) := by
  obtain ⟨table, htable⟩ := h
  refine .intro ((name, state) :: table) fun other hother => ?_
  show _ = ((name, state) :: s.saved).lookup other
  rw [List.lookup_cons, List.lookup_cons]
  cases hsame : other == name with
  | true => rfl
  | false =>
    refine htable other fun hlost => hother (List.mem_filter.2 ⟨hlost, ?_⟩)
    exact decide_eq_true (ne_of_beq_false hsame)

/-- **Both may parse the same parameter.** -/
theorem parse (h : s.Agree lost t) (p : Parameter) :
    ((Operation.parse p).run o s).Agree lost ((Operation.parse p).run o t) := by
  obtain ⟨table, htable⟩ := h
  rw [Operation.run, Operation.run, Session.run, Session.run]
  rcases hr : p.parse o s.progress with ⟨e | _, q, asked⟩
  · have hr' : p.parse o (s.withSaved table).progress = ⟨.error e, q, asked⟩ := hr
    rw [hr']
    exact ⟨rfl, .intro table htable⟩
  · have hr' : p.parse o (s.withSaved table).progress = ⟨.ok (), q, asked⟩ := hr
    rw [hr']
    exact ⟨rfl, .intro table htable⟩

/-- **The states that were saved in an uncommitted scope are lost.** -/
theorem leave {saved : List (String × SavedState)} (h : s.Agree lost t)
    (hsaved : s.saved <:+ saved) :
    (s.withSaved saved).Agree (s.savedSince (s.withSaved saved) ++ lost) t := by
  obtain ⟨table, htable⟩ := h
  obtain ⟨new, rfl⟩ := hsaved
  refine .intro table fun name hname => ?_
  obtain ⟨hnew, hlost⟩ := not_or.1 (mt List.mem_append.2 hname)
  have hsince : s.savedSince (s.withSaved (new ++ s.saved)) = new.map Prod.fst := by
    unfold savedSince withSaved
    rw [List.length_append, Nat.add_sub_cancel, List.take_left]
  have hnone : new.lookup name = none := by
    refine List.lookup_eq_none_iff.2 fun e he => ?_
    rw [hsince] at hnew
    exact bne_iff_ne.2 fun hsame => hnew (hsame ▸ List.mem_map_of_mem he)
  show _ = (new ++ s.saved).lookup name
  rw [List.lookup_append, hnone, Option.none_or, htable name hlost]

end Agree

/-- **An operation comes to the same in sessions that agree**, unless it takes up a lost state. -/
theorem Operation.agree_run (h : s.Agree lost t) (op : Operation)
    (hkept : ∀ name, op.restores? = some name → name ∉ lost) :
    (op.run o s).Agree (op.lostAfter lost) (op.run o t) := by
  have hstream : t.progress.stream = s.progress.stream := by rw [h.progress_eq]
  have hcontext : t.progress.context = s.progress.context := by rw [h.progress_eq]
  cases op with
  | next =>
    rw [run, run, hstream]
    exact h.move _
  | nextIfPresent =>
    rw [run, run, hstream]
    split
    · exact ⟨rfl, h.moveTo _⟩
    · exact ⟨rfl, h⟩
  | previous =>
    rw [run, run, hstream]
    exact h.move _
  | skipRemaining =>
    rw [run, run, hstream]
    exact ⟨rfl, h.moveTo _⟩
  | seek n => exact h.restoreStream (.place n)
  | put key v =>
    rw [run, run, hcontext]
    exact ⟨rfl, h.withContext _⟩
  | parse p => exact h.parse p
  | savePlace name =>
    rw [run, run, place, place, hstream]
    exact ⟨rfl, h.save name _⟩
  | saveBindings name =>
    rw [run, run, hcontext]
    exact ⟨rfl, h.save name _⟩
  | restorePlace name => exact h.restore (hkept name rfl) h.restoreStream
  | restoreBindings name => exact h.restore (hkept name rfl) h.restoreContext
  | restoreMade c => exact h.restoreContext (.bindings c)
  | commit => exact ⟨rfl, h.commit⟩
  | rollBack => exact ⟨rfl, h.rollBack⟩

/-- **An operation that takes up no lost state comes to the same.** -/
theorem Operation.agree_of_lost (o : Occasion) {op : Operation} {after : List String}
    (h : s.Agree lost t)
    (hafter : (if op.restores?.any lost.contains then none else some (op.lostAfter lost)) =
      some after) : (op.run o s).Agree after (op.run o t) := by
  split at hafter
  · cases hafter
  · rename_i hkept
    cases hafter
    refine op.agree_run h fun name hname hmem => hkept ?_
    rw [hname]
    exact List.contains_iff_mem.2 hmem

/-- **A scope that is not committed leaves what was before it**, but for the states saved in it. -/
theorem Agree.leave_scope {body : Script} (h : s.Agree lost t)
    (hnot : ¬(body.run o s.openScope).session.committed = true) :
    (body.run o s.openScope).session.closeScope.Agree
      (s.savedSince (body.run o s.openScope).session ++ lost) t := by
  have hwithin := body.within_run o s.openScope
  have hsaved : s.saved <:+ (body.run o s.openScope).session.saved := hwithin.saved
  rw [closeScope_of_within hwithin, if_neg hnot]
  exact h.leave hsaved

/-- **Outcomes that agree go on alike**, if what is done then does. -/
theorem Outcome.Agree.andThen {r r' : Outcome} {next next' : Session → Outcome}
    {after : List String → Session → Option (List String)} (h : r.Agree lost r')
    (hlost : r.lostThen (some lost) after = some lost')
    (hnext : ∀ t, r.session.Agree lost t → after lost r.session = some lost' →
      (next r.session).Agree lost' (next' t)) :
    (r.andThen next).Agree lost' (r'.andThen next') := by
  have hsame := h.interruption
  unfold Outcome.lostThen at hlost
  unfold Outcome.andThen
  cases hr : r.interruption with
  | none =>
    rw [hr] at hlost hsame
    rw [hsame]
    exact hnext _ h.session hlost
  | some e =>
    rw [hr] at hlost hsame
    rw [hsame]
    cases hlost
    exact h

/-- **What a script loses begins with what its first operation loses.** -/
theorem Outcome.exists_of_lostThen {r : Outcome} {lost? : Option (List String)}
    {after : List String → Session → Option (List String)}
    (h : r.lostThen lost? after = some lost') :
    ∃ lost, lost? = some lost ∧ r.lostThen (some lost) after = some lost' := by
  cases lost? with
  | some lost => exact ⟨lost, rfl, h⟩
  | none =>
    unfold Outcome.lostThen at h
    split at h <;> cases h

/-- **Where nothing interrupts an outcome, the script behind it goes on.** -/
theorem Outcome.lost_of_lostThen {r : Outcome}
    {after : List String → Session → Option (List String)}
    (h : r.lostThen (some lost) after = some lost') (hnone : r.interruption = none) :
    after lost r.session = some lost' := by
  unfold Outcome.lostThen at h
  rw [hnone] at h
  exact h

/-- **A scope that is left out is left out with its interruption.** -/
theorem Script.run_left_out (o : Occasion) (rest : Script) (e? : Option Interruption)
    (t : Session) :
    (match e? with
      | none => rest
      | some e => throw e).run o t = Outcome.andThen ⟨e?, t⟩ (rest.run o) := by
  cases e? <;> rfl

/-- **Without its uncommitted scopes a script comes to the same**, but for the states that were
saved in them. -/
theorem Script.agree_erase (o : Occasion) (script : Script) : ∀ (lost lost' : List String)
    (s t : Session), s.Agree lost t → script.lost? o lost s = some lost' →
      (script.run o s).Agree lost' ((script.erase o s).run o t) := by
  -- The two sessions differ in more and more saved states, so the lost names are not fixed.
  induction script with
  | done =>
    intro lost lost' s t h hlost
    cases hlost
    exact ⟨rfl, h⟩
  | operation op rest ih =>
    intro lost lost' s t h hlost
    obtain ⟨after, hafter, hlost⟩ := Outcome.exists_of_lostThen hlost
    exact (Operation.agree_of_lost o h hafter).andThen hlost fun u hu => ih _ _ _ u hu
  | throw e =>
    intro lost lost' s t h hlost
    cases hlost
    exact ⟨rfl, h⟩
  | guarded body rest ihBody ihRest =>
    intro lost lost' s t h hlost
    obtain ⟨after, hafter, hlost⟩ := Outcome.exists_of_lostThen hlost
    have hbody := ihBody lost after s t h hafter
    exact ihRest after lost' _ _ hbody.session hlost
  | scope body rest ihBody ihRest =>
    intro lost lost' s t h hlost
    obtain ⟨after, hafter, hlost⟩ := Outcome.exists_of_lostThen hlost
    rw [erase, run]
    split at hafter
    · rename_i hcommitted
      have hbody := ihBody lost after s.openScope t.openScope h.openScope hafter
      rw [if_pos hcommitted, run]
      exact Outcome.Agree.andThen ⟨hbody.interruption, hbody.session.closeScope⟩ hlost
        fun u hu => ihRest _ _ _ u hu
    · rename_i hcommitted
      cases hafter
      -- The run without the scope has nothing to do here, unless the interruption is to go on.
      rw [if_neg hcommitted, run_left_out]
      exact Outcome.Agree.andThen ⟨rfl, h.leave_scope hcommitted⟩ hlost
        fun u hu => ihRest _ _ _ u hu

/-- **What is left are the scopes that are committed.** -/
theorem Script.settled_erase (o : Occasion) (script : Script) : ∀ (lost lost' : List String)
    (s t : Session), s.Agree lost t → script.lost? o lost s = some lost' →
      (script.erase o s).Settled o t := by
  induction script with
  | done => exact fun _ _ _ _ _ _ => trivial
  | operation op rest ih =>
    intro lost lost' s t h hlost
    obtain ⟨after, hafter, hlost⟩ := Outcome.exists_of_lostThen hlost
    have hop := Operation.agree_of_lost o h hafter
    intro hnone
    have hnone : (op.run o s).interruption = none := hop.interruption.symm.trans hnone
    exact ih _ _ _ _ hop.session (Outcome.lost_of_lostThen hlost hnone)
  | throw e => exact fun _ _ _ _ _ _ => trivial
  | guarded body rest ihBody ihRest =>
    intro lost lost' s t h hlost
    obtain ⟨after, hafter, hlost⟩ := Outcome.exists_of_lostThen hlost
    have hbody := body.agree_erase o lost after s t h hafter
    exact ⟨ihBody _ _ s t h hafter, ihRest _ _ _ _ hbody.session hlost⟩
  | scope body rest ihBody ihRest =>
    intro lost lost' s t h hlost
    obtain ⟨after, hafter, hlost⟩ := Outcome.exists_of_lostThen hlost
    rw [erase]
    split at hafter
    · rename_i hcommitted
      have hbody := body.agree_erase o lost after _ _ h.openScope hafter
      rw [if_pos hcommitted]
      refine ⟨?_, ihBody _ _ _ _ h.openScope hafter, fun hnone => ?_⟩
      · exact hbody.session.committed_eq.trans hcommitted
      · have hnone : (body.run o s.openScope).interruption = none :=
          hbody.interruption.symm.trans hnone
        exact ihRest _ _ _ _ hbody.session.closeScope (Outcome.lost_of_lostThen hlost hnone)
    · rename_i hcommitted
      cases hafter
      rw [if_neg hcommitted]
      split
      · rename_i hnone
        exact ihRest _ _ _ _ (h.leave_scope hcommitted) (Outcome.lost_of_lostThen hlost hnone)
      · trivial

/-- **Uncommitted scopes leave no trace.** A script that takes up no state that was saved in an
uncommitted scope comes to the same place with the same bindings as the script without these scopes,
and is interrupted alike.  Whatever is done in a scope, commits of the scopes in it included: if the
scope is not committed, everything is as it was before it; if it is, all that was done in it stays,
even if it is left through an interruption. -/
theorem Script.uncommitted_scopes_leave_no_trace (o : Occasion) (script : Script) (s : Session)
    (hkept : (script.lost? o [] s).isSome = true) :
    (((script.erase o s).run o s).session.progress = (script.run o s).session.progress ∧
      ((script.erase o s).run o s).interruption = (script.run o s).interruption ∧
      (script.erase o s).Settled o s) ∧
    ∀ (body : Script) (t : Session),
      let inside := body.run o t.openScope
      let closed := (scope body done).run o t
      closed.interruption = inside.interruption ∧
        closed.session.progress =
          if inside.session.committed then inside.session.progress else t.progress := by
  obtain ⟨lost, hlost⟩ := Option.isSome_iff_exists.1 hkept
  have hagree := script.agree_erase o [] lost s s (.refl s) hlost
  have hsettled := script.settled_erase o [] lost s s (.refl s) hlost
  refine ⟨⟨hagree.session.progress_eq, hagree.interruption, hsettled⟩, fun body t => ?_⟩
  rw [run_scope]
  refine ⟨rfl, ?_⟩
  dsimp only
  split <;> rfl

/-- **A commit stays, even if its scope is interrupted, unless it is inside of an uncommitted
scope**: of `a b c`, the first word is bound in a scope that is committed and interrupted, and the
second word is passed over in a scope that is not, around one that is; so it is read once more. -/
theorem Script.interrupted_commit_stays :
    let o : Occasion := ⟨.trusted "tester", ⟨2024, 5, 31, 12, 34, 56, 789012, none⟩, .usual⟩
    let s : Session := { progress := .ofStream (.ofLine .spaced "a b c") }
    let bind := fun key => Operation.parse (.leaf { key := key } .text)
    let kept := scope (operation (bind "first") (operation (.saveBindings "kept")
      (operation .commit (throw .thrown)))) done
    let script := guarded kept (scope (operation .next (scope (operation .commit done) done))
      (operation (bind "second") (guarded (scope (operation (.seek 9) done) done)
        (operation (.restoreBindings "kept") done))))
    (script.lost? o [] s).isSome = true ∧
      ((script.erase o s).run o s).session.progress = (script.run o s).session.progress ∧
      (script.run o s).session.progress.stream.cursor = 2 ∧
      (script.run o s).session.progress.context.keys = ["first"] := by
  exact ⟨by decide +kernel, (uncommitted_scopes_leave_no_trace _ _ _ (by decide +kernel)).1.1,
    by decide +kernel, by decide +kernel⟩

end Session
end CommandGrammar
