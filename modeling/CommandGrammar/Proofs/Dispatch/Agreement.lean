/-
# Finding a target and running it agree

`Command.resolve` and `Command.dispatch` are two recursions over the tree.  They decide alike: a
line that has no target runs nothing and fails for the same reason, and a line that has one runs
the target's executor first, on what is bound for it.  `Command.Agrees` is the relation between the
two trials; it is carried through every combinator that both recursions are made of.

Whatever comes after the first run is not about the line any more.  An executor may fail and a
command above it may take the line, but the reason that is given then is the executor's
(`CommandFailure.isRejection_blame`).
-/

import CommandGrammar.Proofs.Dispatch.Way

namespace CommandGrammar

namespace CommandFailure

/-- Whether a failure is a judgement on the line or on who typed it. -/
def isRejection : CommandFailure → Bool
  | unparsed _ | denied _ => true
  | _ => false

/-- **What is no rejection does not become one by trying something else.** -/
theorem isRejection_blame {child : CommandFailure} (h : child.isRejection = false)
    (own : CommandFailure) : (child.blame own).isRejection = false := by
  cases child with
  | unparsed e => cases h
  | denied p => cases h
  | _ => cases own <;> rfl

end CommandFailure

namespace CommandFrame

/-- **No executor rejects a line.** -/
theorem isRejection_of_resultOf {x : Ending} {e : CommandFailure} (h : resultOf x = .error e) :
    e.isRejection = false := by
  cases x <;> cases h <;> rfl

/-- **A command that runs rejects no line.** -/
theorem isRejection_of_execute {o : Occasion} {f : CommandFrame} {p : Progress} {e : CommandFailure}
    (h : (f.execute o p).result = .error e) : e.isRejection = false := by
  cases hx : f.executor with
  | none =>
    unfold execute at h
    rw [hx] at h
    cases h
    rfl
  | some x =>
    rw [execute_of_some hx] at h
    exact isRejection_of_resultOf h

/-- **A command that cannot fall back gives the reason of its child, or breaks off.** -/
theorem isRejection_of_fallBack {o : Occasion} {f : CommandFrame} {p : Progress}
    {child e : CommandFailure} (hc : child.isRejection = false)
    (h : (f.fallBack o child p).result = .error e) : e.isRejection = false := by
  unfold fallBack at h
  dsimp only at h
  split at h
  · cases h
    exact CommandFailure.isRejection_blame hc _
  · rename_i hne
    rcases hs : (do f.checkPermission o.source; f.parseOwn o : Attempt Unit) p with ⟨_ | _, q, rs⟩
    · exact absurd hs (hne _ q rs)
    · rw [hs] at h
      cases h

end CommandFrame

namespace Command

/-- What finding a target comes to, and what running the line comes to. -/
inductive Agrees (o : Occasion) : Trial Target → Trial Tally → Prop
  /-- Without a target nothing is run, and the reason is the same. -/
  | rejected (e : CommandFailure) (q : Progress) : Agrees o ⟨.error e, q, []⟩ ⟨.error e, q, []⟩
  /-- The target's executor is run first, and no rejection follows. -/
  | accepted {t : Target} {q r : Progress} {e : Executor} {rest : List Run}
      {result : Except CommandFailure Tally}
      (executor : t.command.frame.executor = some e)
      (later : ∀ why, result = .error why → why.isRejection = false) :
      Agrees o ⟨.ok t, q, []⟩ ⟨result, r, e.runAt o t.path q.context :: rest⟩

section Agrees

variable {o : Occasion} {p : Progress}

/-- **Agreement begins where two attempts have done the same.** -/
theorem Agrees.bind {α : Type} {s : Attempt α} {find : α → Attempt Target}
    {run : α → Attempt Tally} (hs : s.Quiet)
    (h : ∀ a q, s p = ⟨.ok a, q, []⟩ → Agrees o (find a q) (run a q)) :
    Agrees o ((s >>= find) p) ((s >>= run) p) := by
  rcases hp : s p with ⟨e | a, q, rs⟩
  · rw [Attempt.bind_of_error hp, Attempt.bind_of_error hp, hs.runs_eq_nil hp]
    exact .rejected e q
  · obtain rfl := hs.runs_eq_nil hp
    rw [Attempt.bind_of_ok hp, Attempt.bind_of_ok hp]
    exact h a q hp

/-- **A command that is ready to run agrees with itself as a target.** -/
theorem Agrees.execute {f : CommandFrame} (cs : List Command) (hx : f.executor.isSome = true) :
    Agrees o ((pure ⟨[], node f cs⟩ : Attempt Target) p) (f.execute o p) := by
  obtain ⟨e, he⟩ := Option.isSome_iff_exists.1 hx
  rw [CommandFrame.execute_of_some he]
  exact .accepted (t := ⟨[], node f cs⟩) he fun _ => CommandFrame.isRejection_of_resultOf

/-- **Agreement in a child is agreement on the child.** -/
theorem Agrees.sub {c : Command} {r : Progress} {w : String}
    (hnext : Step.next p = ⟨.ok w, r, []⟩) (h : Agrees o (resolve o c r) (dispatch o c r)) :
    Agrees o (resolveSub o c p) (c.goInto (dispatch o c) p) := by
  unfold resolveSub
  rw [goInto_of_next hnext (s := dispatch o c)]
  generalize hf : resolve o c r = found at h
  generalize dispatch o c r = run at h
  cases h with
  | rejected e q =>
    have hgo : c.goInto (resolve o c) p = ⟨.error e, p, []⟩ := by
      rw [goInto_of_next hnext, hf]
      rfl
    rw [Attempt.bind_of_error hgo]
    exact .rejected e p
  | @accepted t q r' x rest result executor later =>
    have hgo : c.goInto (resolve o c) p = ⟨.ok t, q, []⟩ := by
      rw [goInto_of_next hnext, hf]
      rfl
    rw [Attempt.bind_of_ok hgo]
    cases result <;>
      exact .accepted (t := ⟨c.pathName :: t.path, t.command⟩) executor later

/-- **Agreement in a child is agreement in a command that leaves the line to it.** -/
theorem Agrees.viaChild {f : CommandFrame} (cs : List Command) {find : Attempt Target}
    {run : Attempt Tally} (h : Agrees o (find p) (run p)) :
    Agrees o
      (viaChild o f find (fun e => do
        f.fallBack o e
        return ⟨[], node f cs⟩) p)
      (viaChild o f run (fun e => do
        f.fallBack o e
        f.execute o) p) := by
  refine Agrees.bind (CommandFrame.quiet_enterChild o f) fun _ q hq => ?_
  obtain ⟨-, rfl⟩ := CommandFrame.of_enterChild hq
  split
  · rename_i hf
    unfold Attempt.orElse
    generalize find q = found at h
    generalize run q = ran at h
    cases h with
    | rejected e r =>
      dsimp only
      split
      · -- The child runs nothing, so both take the line from the same place.
        refine Agrees.bind (CommandFrame.quiet_fallBack o f e) fun _ m _ => ?_
        exact .execute cs (Bool.and_eq_true_iff.1 hf).2
      · exact .rejected e r
    | @accepted t m r x rest result executor later =>
      cases result with
      | ok a => exact .accepted executor later
      | error e =>
        dsimp only
        split
        · refine .accepted executor fun why hwhy => ?_
          rcases hb : f.fallBack o e r with ⟨e' | _, s, rs⟩
          · rw [Attempt.bind_of_error hb] at hwhy
            cases hwhy
            exact CommandFrame.isRejection_of_fallBack (later e rfl) (by rw [hb])
          · rw [Attempt.bind_of_ok hb] at hwhy
            exact CommandFrame.isRejection_of_execute hwhy
        · exact .accepted executor later
  · exact h

end Agrees

/-- **Finding a target and running a line agree, wherever the line stands.** -/
theorem agrees_resolve_dispatch (o : Occasion) (c : Command) :
    ∀ p, Agrees o (resolve o c p) (dispatch o c p) := by
  induction c using inductionOnChildren with
  | node f cs ih =>
    intro p
    rw [resolve, dispatch]
    refine Agrees.bind (CommandFrame.quiet_readFlags o f cs) fun _ m _ => ?_
    refine Agrees.bind (fun _ => rfl) fun token q htoken => ?_
    obtain ⟨ht, rfl, -⟩ := Trial.mk.inj htoken
    cases ht
    rw [resolveIn_eq, dispatchIn_eq]
    split
    · refine Agrees.bind (CommandFrame.quiet_enterOwn o f cs) fun _ q hq => ?_
      exact .execute cs (CommandFrame.of_enterOwn hq).2.1
    · rename_i c hc
      obtain ⟨t, hhead, hfind⟩ := of_called? hc
      obtain ⟨r, hnext⟩ := Step.next_of_head? hhead
      exact .viaChild cs (.sub hnext (ih c (List.mem_of_find?_eq_some hfind) r))

/-- **Parsing a line decides what processing it does.**  Whatever the executors do: if no target is
found, none of them is run and the reason is the same; if one is found, its executor is run first,
on what is bound for it, and no failure that follows is a rejection. -/
theorem parse_decides_process (o : Occasion) (c : Command) (line : String) :
    (∀ why, (c.parse o line {}).result = .error why →
      (c.process o line).result = .error why ∧ (c.process o line).runs = []) ∧
    ∀ t, (c.parse o line {}).result = .ok t →
      ∃ e rest, t.command.frame.executor = some e ∧
        (c.process o line).runs = e.runAt o t.path (c.parse o line {}).progress.context :: rest ∧
        ∀ why, (c.process o line).result = .error why → why.isRejection = false := by
  have h := agrees_resolve_dispatch o c (c.atStart line {})
  unfold parse process
  generalize resolve o c (c.atStart line {}) = found at h
  generalize dispatch o c (c.atStart line {}) = run at h
  cases h with
  | rejected e q =>
    constructor
    · intro why hwhy
      cases hwhy
      exact ⟨rfl, rfl⟩
    · intro t ht
      cases ht
  | accepted executor later =>
    constructor
    · intro why hwhy
      cases hwhy
    · intro t ht
      cases ht
      exact ⟨_, _, executor, rfl, later⟩

end Command
end CommandGrammar
