/-
# Commands behind a front

A command finds in a line behind a front the target that it finds in the line alone
(`Command.moves_resolve`).  What a command does with a line is made of steps and of a few
combinators, and each of them goes along with the front; a command that reads flags goes on with a
stream of its own, so how many tokens are passed may change from one attempt to the next.

| failure of the line alone | behind the front |
| --- | --- |
| `unparsed` | the same error, moved |
| `denied`, `broken` | the same |
-/

import CommandGrammar.Proofs.Dispatch.Way
import CommandGrammar.Proofs.Moving.Flags

namespace CommandGrammar

open Pairing

variable {α β : Type} {front : String}

/-- `p.Moved front p'`: the progress `p'` is the progress `p` on a line behind a front. -/
def Progress.Moved (front : String) (p p' : Progress) : Prop :=
  ∃ passed, (moving front passed).At p p'

/-- **What is bound does not move.** -/
theorem Progress.Moved.context_eq {p p' : Progress} (h : p.Moved front p') :
    p.context = p'.context :=
  h.elim fun _ hp => hp.contexts

/-- **Nor does the text of the token ahead.** -/
theorem Progress.Moved.text_head? {p p' : Progress} (h : p.Moved front p') :
    p'.stream.head?.map Token.text = p.stream.head?.map Token.text := by
  obtain ⟨passed, hp⟩ := h
  rw [hp.lines.head?, Option.map_map]
  rfl

/-- `e.Moved front e'`: the failure `e'` is the failure `e` of a line behind a front. -/
inductive CommandFailure.Moved (front : String) : CommandFailure → CommandFailure → Prop
  | unparsed {e e' : ParseError} (error : e.Moved front e') :
      Moved front (.unparsed e) (.unparsed e')
  | denied (permission : String) : Moved front (.denied permission) (.denied permission)
  | broken (b : Breakdown) : Moved front (.broken b) (.broken b)

namespace CommandFailure

variable {e e' f f' : CommandFailure}

/-- **A failure that is moved is recovered from alike.** -/
theorem Moved.isRecoverable_eq (h : e.Moved front e') : e.isRecoverable = e'.isRecoverable := by
  cases h <;> rfl

/-- **The failure that is blamed behind a front is the failure that is blamed, moved.** -/
theorem Moved.blame (h : e.Moved front e') (h' : f.Moved front f') :
    (e.blame f).Moved front (e'.blame f') := by
  cases h' with
  | broken b => cases h <;> exact .broken b
  | denied permission =>
    cases h with
    | unparsed error => exact .unparsed error
    | denied permission => exact .denied permission
    | broken b => exact .broken b
  | unparsed other =>
    cases h with
    | unparsed error =>
      have hfurther := (moving front []).further error other
      refine .unparsed ?_
      simp only [ParseError.deepest, List.foldl_cons, List.foldl_nil]
      split
      · rw [if_pos (hfurther.1 ‹_›)]
        exact other
      · rw [if_neg (mt hfurther.2 ‹_›)]
        exact error
    | denied permission => exact .denied permission
    | broken b => exact .broken b

end CommandFailure

/-- What a trial comes to on a line alone, and what it comes to behind a front. -/
inductive Trial.Moved (front : String) : Trial α → Trial α → Prop
  | ok (a : α) {p q : Progress} (place : p.Moved front q) (runs : List Run) :
      Moved front ⟨.ok a, p, runs⟩ ⟨.ok a, q, runs⟩
  | error {e e' : CommandFailure} {p q : Progress} (failure : e.Moved front e')
      (place : p.Moved front q) (runs : List Run) :
      Moved front ⟨.error e, p, runs⟩ ⟨.error e', q, runs⟩

/-- **What happens before and after may be added to both runs.** -/
theorem Trial.Moved.mapRuns {t t' : Trial α} (h : t.Moved front t') (f : List Run → List Run) :
    Trial.Moved front { t with runs := f t.runs } { t' with runs := f t'.runs } := by
  cases h with
  | ok a place runs => exact .ok a place _
  | error failure place runs => exact .error failure place _

/-- An attempt that goes along with a line behind a front. -/
def Attempt.Moves (front : String) (s : Attempt α) : Prop :=
  ∀ p p', p.Moved front p' → (s p).Moved front (s p')

namespace Attempt

variable {s : Attempt α} {next : α → Attempt β}

/-- **A result alone moves.** -/
theorem moves_pure (a : α) : (pure a : Attempt α).Moves front := fun _ _ hp => .ok a hp []

/-- **So does a denial.** -/
theorem moves_denied (permission : String) :
    (fail (.denied permission) : Attempt α).Moves front := fun _ _ hp =>
  .error (.denied permission) hp []

/-- **A step that keeps runs side by side goes along with a front.** -/
theorem moves_ofStep {s : Step α} (h : ∀ passed, Step.Paired (moving front passed) Eq s s) :
    (ofStep s).Moves front := by
  rintro p p' ⟨passed, hp⟩
  have hrun := h passed p p' hp
  unfold ofStep
  generalize s p = x at hrun
  generalize s p' = y at hrun
  cases hrun with
  | @ok a b _ _ value place asked =>
    obtain rfl : a = b := value
    exact .ok a ⟨passed, place⟩ []
  | failed error place asked => exact .error (.unparsed error) ⟨passed, place⟩ []
  | broken b place asked => exact .error (.broken b) ⟨passed, place⟩ []

/-- **So do attempts one after the other.** -/
theorem Moves.bind (hs : s.Moves front) (hnext : ∀ a, (next a).Moves front) :
    (s >>= next).Moves front := by
  intro p p' hp
  have hrun := hs p p' hp
  rw [bind_apply, bind_apply]
  generalize s p = x at hrun
  generalize s p' = y at hrun
  cases hrun with
  | ok a place runs => exact (hnext a _ _ place).mapRuns (runs ++ ·)
  | error failure place runs => exact .error failure place runs

/-- **So does an attempt that is undone where it fails.** -/
theorem Moves.atomic (hs : s.Moves front) : s.atomic.Moves front := by
  intro p p' hp
  have hrun := hs p p' hp
  unfold Attempt.atomic
  generalize s p = x at hrun
  generalize s p' = y at hrun
  cases hrun with
  | ok a place runs => exact .ok a place runs
  | error failure place runs => exact .error failure hp runs

/-- **So does one under a name.** -/
theorem Moves.under (hs : s.Moves front) (name : String) : (s.under name).Moves front :=
  fun p p' hp => (hs p p' hp).mapRuns _

/-- **So do an attempt and what is tried instead.** -/
theorem Moves.orElse {other : CommandFailure → Attempt α} (hs : s.Moves front)
    (hother : ∀ e e', e.Moved front e' → ∀ p p', p.Moved front p' →
      (other e p).Moved front (other e' p')) : (s.orElse other).Moves front := by
  intro p p' hp
  have hrun := hs p p' hp
  unfold Attempt.orElse
  generalize s p = x at hrun
  generalize s p' = y at hrun
  cases hrun with
  | ok a place runs => exact .ok a place runs
  | error failure place runs =>
    dsimp only
    rw [failure.isRecoverable_eq]
    split
    · exact (hother _ _ failure _ _ place).mapRuns (runs ++ ·)
    · exact .error failure place runs

end Attempt

namespace CommandFrame

variable (o : Occasion) (f : CommandFrame) (cs : List Command)

/-- **The check of a permission moves with the line.** -/
theorem moves_checkPermission : (f.checkPermission o.source).Moves front := by
  unfold checkPermission
  split
  · exact Attempt.moves_pure ()
  · split
    · exact Attempt.moves_pure ()
    · exact Attempt.moves_denied _

/-- **So do the flags of a command.** -/
theorem moves_readFlags : (f.readFlags o cs).Moves front := by
  unfold readFlags
  split
  · exact Attempt.moves_pure ()
  · rename_i fs _
    rintro p p' ⟨passed, hp⟩
    have hrun := fs.paired_parse (o := o) (fun t => cs.any (·.goesBy t)) p p' hp
    unfold Attempt.ofStep
    rw [Step.bind_apply, Step.bind_apply]
    generalize fs.parse o _ p = x at hrun
    generalize fs.parse o _ p' = y at hrun
    cases hrun with
    | @ok _ _ q q' value place asked =>
      cases value with
      | none => exact .ok () ⟨passed, place⟩ []
      | @some s s' hs =>
        exact .ok () (p := ⟨s, q.context⟩) (q := ⟨s', q'.context⟩) ⟨[], hs, place.contexts⟩ []
    | failed error place asked => exact .error (.unparsed error) ⟨passed, place⟩ []
    | broken b place asked => exact .error (.broken b) ⟨passed, place⟩ []

/-- **So do its own arguments.** -/
theorem moves_parseOwn : (f.parseOwn o).Moves front := by
  refine Attempt.moves_ofStep fun passed => ?_
  refine paired_bind (f.parameter.paired_parse_moving front passed o) fun _ _ _ => ?_
  refine paired_here_bind fun p p' hp => ?_
  have hfull : Step.Paired (moving front passed) Eq (Step.fail .tooManyArguments : Step Unit)
      (Step.fail .tooManyArguments) := paired_fail _
  rw [hp.hasNext_eq, hp.lines.unread, List.isEmpty_map]
  split
  · split
    · exact paired_bind paired_next (fun _ _ _ => hfull) p p' hp
    · exact hfull p p' hp
  · exact paired_pure rfl p p' hp

/-- **A line that names no child has the same problem behind a front.** -/
theorem missingChild_moved {passed : List Token} {s s' : TokenStream}
    (h : s.Moved front passed s') : missingChild o cs s' = missingChild o cs s := by
  unfold missingChild
  rw [h.head?]
  cases s.head? <;> rfl

/-- **So do both together.** -/
theorem moves_enterOwn : (f.enterOwn o cs).Moves front := by
  refine (moves_checkPermission o f).bind fun _ => ?_
  have hown : (f.parseOwn o).Moves front := moves_parseOwn o f
  dsimp only
  split
  · refine Attempt.Moves.bind (Attempt.moves_ofStep fun passed => ?_) fun _ => hown
    refine paired_here_bind fun p p' hp => ?_
    rw [missingChild_moved o cs hp.lines]
    exact paired_fail _ p p' hp
  · exact hown

/-- **So does the way into a child.** -/
theorem moves_enterChild : (f.enterChild o).Moves front := by
  unfold enterChild
  split
  · exact moves_checkPermission o f
  · exact Attempt.moves_pure ()

/-- **So does falling back after a failure.** -/
theorem moved_fallBack {e e' : CommandFailure} (he : e.Moved front e') {p p' : Progress}
    (hp : p.Moved front p') : (f.fallBack o e p).Moved front (f.fallBack o e' p') := by
  have hmoves : Attempt.Moves front (do f.checkPermission o.source; f.parseOwn o) :=
    (moves_checkPermission o f).bind fun _ => moves_parseOwn o f
  have hown := hmoves p p' hp
  unfold fallBack
  dsimp only
  generalize (f.checkPermission o.source >>= fun _ => f.parseOwn o) p = x at hown ⊢
  generalize (f.checkPermission o.source >>= fun _ => f.parseOwn o) p' = y at hown ⊢
  cases hown with
  | ok a place runs => exact .ok a place runs
  | error failure place runs => exact .error (he.blame failure) place runs

end CommandFrame

namespace Command

variable {o : Occasion}

/-- **So does the next token.** -/
theorem moves_nextToken : nextToken.Moves front := fun p p' hp => by
  unfold nextToken
  rw [hp.text_head?]
  exact .ok _ hp []

/-- **So does what is done inside a child.** -/
theorem moves_goInto (c : Command) {goOn : Attempt α} (h : goOn.Moves front) :
    (c.goInto goOn).Moves front :=
  ((Attempt.moves_ofStep fun _ => paired_next).bind fun _ => h.under c.pathName).atomic

/-- **Every command finds in a line behind a front what it finds in the line alone.** -/
theorem moves_resolve (o : Occasion) (c : Command) : (resolve o c).Moves front := by
  induction c using inductionOnChildren with
  | node f cs ih =>
    rw [resolve]
    refine (f.moves_readFlags o cs).bind fun _ => moves_nextToken.bind fun token => ?_
    rw [resolveIn_eq]
    split
    · exact (f.moves_enterOwn o cs).bind fun _ => Attempt.moves_pure _
    · rename_i c hc
      obtain ⟨t, -, hfind⟩ := Option.bind_eq_some_iff.1 hc
      have hsub : (resolveSub o c).Moves front :=
        (moves_goInto c (ih c (List.mem_of_find?_eq_some hfind))).bind fun _ =>
          Attempt.moves_pure _
      refine (f.moves_enterChild o).bind fun _ => ?_
      split
      · refine hsub.orElse fun e e' he p p' hp => ?_
        have hback := f.moved_fallBack o he hp
        rw [Attempt.bind_apply, Attempt.bind_apply]
        generalize f.fallBack o e p = x at hback
        generalize f.fallBack o e' p' = y at hback
        cases hback with
        | ok a place runs => exact .ok _ place _
        | error failure place runs => exact .error failure place runs
      · exact hsub

end Command
end CommandGrammar
