/-
# How attempts go together

The laws of the combinators of `CommandGrammar.Command.Attempt`, as equations on what the parts come
to.  An attempt in sequence stops where its first part stops and keeps the runs of both parts in
order; an atomic attempt that stops is back where it began.

`Attempt.Quiet` says of an attempt that it runs no executor.  Everything that a command does with a
line is quiet, except for `CommandFrame.execute`.
-/

import CommandGrammar.Command.Dispatch

namespace CommandGrammar

variable {α β : Type}

namespace Attempt

/-- **An attempt goes on from where the one before it ends, and the runs add up.** -/
theorem bind_apply (s : Attempt α) (next : α → Attempt β) (p : Progress) :
    (s >>= next) p = match s p with
      | ⟨.ok a, q, runs⟩ => { next a q with runs := runs ++ (next a q).runs }
      | ⟨.error e, q, runs⟩ => ⟨.error e, q, runs⟩ := rfl

/-- **A sequence goes on where its first part ends.** -/
theorem bind_of_ok {s : Attempt α} {p q : Progress} {a : α} {runs : List Run}
    (h : s p = ⟨.ok a, q, runs⟩) (next : α → Attempt β) :
    (s >>= next) p = { next a q with runs := runs ++ (next a q).runs } := by
  rw [bind_apply, h]

/-- **A sequence stops where its first part stops.** -/
theorem bind_of_error {s : Attempt α} {p q : Progress} {e : CommandFailure} {runs : List Run}
    (h : s p = ⟨.error e, q, runs⟩) (next : α → Attempt β) :
    (s >>= next) p = ⟨.error e, q, runs⟩ := by
  rw [bind_apply, h]

/-- **A sequence that succeeds has succeeded twice.** -/
theorem exists_of_bind_ok {s : Attempt α} {next : α → Attempt β} {p r : Progress} {b : β}
    {runs : List Run} (h : (s >>= next) p = ⟨.ok b, r, runs⟩) :
    ∃ a q rs rs', s p = ⟨.ok a, q, rs⟩ ∧ next a q = ⟨.ok b, r, rs'⟩ ∧ runs = rs ++ rs' := by
  rw [bind_apply] at h
  split at h
  · rename_i a q rs hs
    obtain ⟨h₁, h₂, rfl⟩ := Trial.mk.inj h
    refine ⟨a, q, rs, (next a q).runs, hs, ?_, rfl⟩
    rw [← h₁, ← h₂]
  · exact absurd (Trial.mk.inj h).1 (by simp)

/-- An attempt that runs no executor. -/
def Quiet (s : Attempt α) : Prop := ∀ p, (s p).runs = []

/-- **A result alone runs nothing.** -/
theorem quiet_pure (a : α) : Quiet (pure a) := fun _ => rfl

/-- **Neither does a failure.** -/
theorem quiet_fail (e : CommandFailure) : Quiet (fail e : Attempt α) := fun _ => rfl

/-- **Neither does a step of a parse.** -/
theorem quiet_ofStep (s : Step α) : Quiet (ofStep s) := fun _ => rfl

/-- **A quiet attempt has no runs.** -/
theorem Quiet.runs_eq_nil {s : Attempt α} (hs : Quiet s) {p q : Progress}
    {r : Except CommandFailure α} {runs : List Run} (h : s p = ⟨r, q, runs⟩) : runs = [] := by
  have := hs p
  rwa [h] at this

/-- **Quiet attempts one after the other are quiet.** -/
theorem Quiet.bind {s : Attempt α} {next : α → Attempt β} (hs : Quiet s)
    (hn : ∀ a, Quiet (next a)) : Quiet (s >>= next) := fun p => by
  rw [bind_apply]
  split
  · rename_i hsp
    rw [hs.runs_eq_nil hsp]
    exact hn _ _
  · rename_i hsp
    exact hs.runs_eq_nil hsp

/-- **Behind a quiet attempt there is a failure without runs, or what comes next.** -/
theorem Quiet.bind_cases {s : Attempt α} {next : α → Attempt β} {p : Progress}
    {P : Trial β → Prop} (hs : Quiet s) (stopped : ∀ e q, P ⟨.error e, q, []⟩)
    (onward : ∀ a q, s p = ⟨.ok a, q, []⟩ → P (next a q)) : P ((s >>= next) p) := by
  rcases hp : s p with ⟨e | a, q, runs⟩
  · rw [bind_of_error hp, hs.runs_eq_nil hp]
    exact stopped e q
  · obtain rfl := hs.runs_eq_nil hp
    rw [bind_of_ok hp]
    exact onward a q hp

/-- **After a success nothing else is tried.** -/
theorem orElse_of_ok {s : Attempt α} {p q : Progress} {a : α} {runs : List Run}
    (h : s p = ⟨.ok a, q, runs⟩) (other : CommandFailure → Attempt α) :
    s.orElse other p = ⟨.ok a, q, runs⟩ := by
  unfold orElse
  rw [h]

/-- **A failure that may be recovered from is followed by another attempt, where it has ended.** -/
theorem orElse_of_error {s : Attempt α} {p q : Progress} {e : CommandFailure} {runs : List Run}
    (h : s p = ⟨.error e, q, runs⟩) (hrec : e.isRecoverable = true)
    (other : CommandFailure → Attempt α) :
    s.orElse other p = { other e q with runs := runs ++ (other e q).runs } := by
  unfold orElse
  rw [h]
  simp [hrec]

/-- **Nor is it after a failure that nobody recovers from.** -/
theorem orElse_of_broken {s : Attempt α} {p q : Progress} {e : CommandFailure} {runs : List Run}
    (h : s p = ⟨.error e, q, runs⟩) (hrec : e.isRecoverable = false)
    (other : CommandFailure → Attempt α) : s.orElse other p = ⟨.error e, q, runs⟩ := by
  unfold orElse
  rw [h]
  simp [hrec]

/-- **Steps that come to the same are the same as attempts.** -/
theorem ofStep_congr {s s' : Step α} {p : Progress} (h : s p = s' p) :
    ofStep s p = ofStep s' p := by
  unfold ofStep
  rw [h]

/-- **A step that succeeds is an attempt that does.** -/
theorem ofStep_of_ok {s : Step α} {p q : Progress} {a : α} {asked : List String}
    (h : s p = ⟨.ok a, q, asked⟩) : ofStep s p = ⟨.ok a, q, []⟩ := by
  unfold ofStep
  rw [h]
  rfl

/-- **A step that stops is an attempt that fails.** -/
theorem ofStep_of_error {s : Step α} {p q : Progress} {e : Stop} {asked : List String}
    (h : s p = ⟨.error e, q, asked⟩) : ofStep s p = ⟨.error (failureOf e), q, []⟩ := by
  unfold ofStep
  rw [h]
  rfl

/-- **An attempt made of a step succeeds only if the step does.** -/
theorem exists_of_ofStep_ok {s : Step α} {p q : Progress} {a : α} {runs : List Run}
    (h : ofStep s p = ⟨.ok a, q, runs⟩) : ∃ asked, s p = ⟨.ok a, q, asked⟩ := by
  obtain ⟨h₁, h₂, -⟩ := Trial.mk.inj h
  refine ⟨(s p).asked, ?_⟩
  cases hr : (s p).result with
  | error e => rw [hr] at h₁; cases h₁
  | ok b =>
    rw [hr] at h₁
    cases h₁
    rw [← h₂, ← hr]

/-- **Only what a step stops with fails an attempt made of it.** -/
theorem exists_of_ofStep_error {s : Step α} {p q : Progress} {e : CommandFailure} {runs : List Run}
    (h : ofStep s p = ⟨.error e, q, runs⟩) :
    ∃ why, (s p).result = .error why ∧ failureOf why = e := by
  obtain ⟨h₁, -, -⟩ := Trial.mk.inj h
  cases hr : (s p).result with
  | error why => rw [hr] at h₁; exact ⟨why, rfl, by cases h₁; rfl⟩
  | ok b => rw [hr] at h₁; cases h₁

end Attempt
end CommandGrammar
