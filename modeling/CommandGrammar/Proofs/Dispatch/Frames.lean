/-
# What a command does with a line

The stages of `CommandGrammar.Command.Dispatch`, each with what it means that the stage is passed.
Nobody runs a command or falls back to it without its permission, and whoever does has the line
parsed to its end; a child's line is passed on by commands that are open to the source.
-/

import CommandGrammar.Proofs.Dispatch.Attempts

namespace CommandGrammar

/-- The run of an executor for the command at a path. -/
def Executor.runAt (e : Executor) (o : Occasion) (path : List String) (context : Context) : Run :=
  ⟨path, e.name, context, e.run o.source context⟩

namespace CommandFrame

variable {o : Occasion} {f : CommandFrame} {cs : List Command} {p q : Progress} {runs : List Run}

/-- **Checking a permission runs nothing.** -/
theorem quiet_checkPermission (f : CommandFrame) (source : Source) :
    (f.checkPermission source).Quiet := by
  unfold checkPermission
  split
  · exact Attempt.quiet_pure ()
  · split
    · exact Attempt.quiet_pure ()
    · exact Attempt.quiet_fail _

/-- **Who has the permission passes the check.** -/
theorem checkPermission_of_may {source : Source} (h : source.may f.permission = true)
    (p : Progress) : f.checkPermission source p = ⟨.ok (), p, []⟩ := by
  unfold checkPermission
  cases hq : f.permission with
  | none => rfl
  | some q =>
    rw [hq] at h
    simp only [show source.grants q = true from h, if_true]
    rfl

/-- **Who passes the check has the permission.** -/
theorem may_of_checkPermission {source : Source}
    (h : f.checkPermission source p = ⟨.ok (), q, runs⟩) :
    source.may f.permission = true ∧ q = p := by
  cases hm : source.may f.permission with
  | true => rw [checkPermission_of_may hm] at h; exact ⟨rfl, ((Trial.mk.inj h).2.1).symm⟩
  | false =>
    unfold checkPermission at h
    cases hq : f.permission with
    | none => rw [hq] at hm; cases hm
    | some k =>
      rw [hq] at hm h
      simp only [show source.grants k = false from hm] at h
      cases (Trial.mk.inj h).1

/-- **Neither does reading flags.** -/
theorem quiet_readFlags (o : Occasion) (f : CommandFrame) (cs : List Command) :
    (f.readFlags o cs).Quiet := by
  unfold readFlags
  split
  · exact Attempt.quiet_pure ()
  · exact Attempt.quiet_ofStep _

/-- **Neither does reading the own arguments.** -/
theorem quiet_parseOwn (o : Occasion) (f : CommandFrame) : (f.parseOwn o).Quiet :=
  Attempt.quiet_ofStep _

/-- **Neither do flags and arguments together.** -/
theorem quiet_enterOwn (o : Occasion) (f : CommandFrame) (cs : List Command) :
    (f.enterOwn o cs).Quiet := by
  refine (quiet_checkPermission f _).bind fun _ => ?_
  dsimp only
  split
  · exact (Attempt.quiet_ofStep _).bind fun _ => quiet_parseOwn o f
  · exact quiet_parseOwn o f

/-- **Neither does entering a child.** -/
theorem quiet_enterChild (o : Occasion) (f : CommandFrame) : (f.enterChild o).Quiet := by
  unfold enterChild
  split
  · exact quiet_checkPermission f _
  · exact Attempt.quiet_pure ()

/-- What a command tries before it takes the line as its own after a child. -/
theorem quiet_ownAfterChild (o : Occasion) (f : CommandFrame) :
    Attempt.Quiet (do f.checkPermission o.source; f.parseOwn o) :=
  (quiet_checkPermission f _).bind fun _ => quiet_parseOwn o f

/-- **Neither does falling back.** -/
theorem quiet_fallBack (o : Occasion) (f : CommandFrame) (e : CommandFailure) :
    (f.fallBack o e).Quiet := fun p => by
  have h := quiet_ownAfterChild o f p
  unfold fallBack
  dsimp only
  split
  · rename_i hs
    rw [hs] at h
    exact h
  · exact h

/-- **Who enters a command of its own may run it, and its line is parsed to the end.** -/
theorem of_enterOwn (h : f.enterOwn o cs p = ⟨.ok (), q, runs⟩) :
    o.source.may f.permission = true ∧ f.executor.isSome = true ∧
      f.parseOwn o p = ⟨.ok (), q, []⟩ := by
  obtain ⟨_, m, _, _, hc, hn, -⟩ := Attempt.exists_of_bind_ok h
  obtain ⟨hm, rfl⟩ := may_of_checkPermission hc
  refine ⟨hm, ?_⟩
  dsimp only at hn
  split at hn
  · obtain ⟨_, _, _, _, hs, -, -⟩ := Attempt.exists_of_bind_ok hn
    obtain ⟨_, hs⟩ := Attempt.exists_of_ofStep_ok hs
    cases (Report.mk.inj hs).1
  · rename_i he
    refine ⟨by cases hx : f.executor <;> simp_all, ?_⟩
    rw [hn, (quiet_parseOwn o f).runs_eq_nil hn]

/-- **A command that falls back may be run, and its line is parsed to the end.** -/
theorem of_fallBack {e : CommandFailure} (h : f.fallBack o e p = ⟨.ok (), q, runs⟩) :
    o.source.may f.permission = true ∧ f.parseOwn o p = ⟨.ok (), q, []⟩ := by
  unfold fallBack at h
  dsimp only at h
  split at h
  · cases (Trial.mk.inj h).1
  · obtain ⟨_, m, _, _, hc, hn, -⟩ := Attempt.exists_of_bind_ok h
    obtain ⟨hm, rfl⟩ := may_of_checkPermission hc
    exact ⟨hm, by rw [hn, (quiet_parseOwn o f).runs_eq_nil hn]⟩

/-- **A command lets pass whom it is open to.** -/
theorem of_enterChild (h : f.enterChild o p = ⟨.ok (), q, runs⟩) :
    (!f.guardsChildren || o.source.may f.permission) = true ∧ q = p := by
  unfold enterChild at h
  split at h
  · obtain ⟨hm, hq⟩ := may_of_checkPermission h
    exact ⟨by rw [hm, Bool.or_true], hq⟩
  · rename_i hg
    refine ⟨by rw [Bool.not_eq_true] at hg; rw [hg]; rfl, ((Trial.mk.inj h).2.1).symm⟩

/-- **Whom a command is open to passes it.** -/
theorem enterChild_of_open (h : (!f.guardsChildren || o.source.may f.permission) = true)
    (p : Progress) : f.enterChild o p = ⟨.ok (), p, []⟩ := by
  unfold enterChild
  by_cases hg : f.guardsChildren = true
  · rw [if_pos hg]
    exact checkPermission_of_may (by simpa [hg] using h) p
  · rw [if_neg hg]
    rfl

/-- **A command falls back for whoever may run it, if it can parse the line.** -/
theorem fallBack_of_parseOwn (hmay : o.source.may f.permission = true)
    (hown : f.parseOwn o p = ⟨.ok (), q, []⟩) (e : CommandFailure) :
    f.fallBack o e p = ⟨.ok (), q, []⟩ := by
  have hboth : (do f.checkPermission o.source; f.parseOwn o : Attempt Unit) p = ⟨.ok (), q, []⟩ := by
    rw [Attempt.bind_of_ok (checkPermission_of_may hmay p), hown]
    rfl
  unfold fallBack
  dsimp only
  rw [hboth]

/-- **An executor runs on what is bound, and its ending is the result.** -/
theorem execute_of_some {e : Executor} (h : f.executor = some e) (p : Progress) :
    f.execute o p = ⟨resultOf (e.run o.source p.context).ending, p, [e.runAt o [] p.context]⟩ := by
  unfold execute
  rw [h]
  rfl

end CommandFrame
end CommandGrammar
