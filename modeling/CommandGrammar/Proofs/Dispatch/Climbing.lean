/-
# Failures climb

A line is run by one command first.  If that run fails, the failure climbs the way that the line has
come, and a command that it meets may take the line as its own and run it again.  `Command.Climbing`
is the course of a dispatch, one constructor for each thing that a command may do with a line:

| course | runs |
| --- | --- |
| `stopped` | none |
| `own` | the command's own |
| `passed` | those of a child |
| `fellBack` | those of a child that has failed, and then the command's own |

What is to be said about the runs of a line is an induction on its course.
-/

import CommandGrammar.Proofs.Dispatch.Way

namespace CommandGrammar

/-- What a run is for its command: a tally, or a failure. -/
def Run.verdict (x : Run) : Except CommandFailure Tally := CommandFrame.resultOf x.execution.ending

/-- **A run below a command has its name in front of the path.** -/
@[simp] theorem Run.path_below (name : String) (x : Run) : (x.below name).path = name :: x.path :=
  rfl

/-- **It keeps its verdict.** -/
@[simp] theorem Run.verdict_below (name : String) (x : Run) : (x.below name).verdict = x.verdict :=
  rfl

namespace Command

variable {o : Occasion} {c d d' : Command} {p q r : Progress} {way way' : List Passage}

/-- `c.Climbing o p t`: the course by which the command `c` comes from the progress `p` to `t`. -/
inductive Climbing (o : Occasion) : Command → Progress → Trial Tally → Prop
  | stopped (c : Command) (p : Progress) (e : CommandFailure) (q : Progress) :
      Climbing o c p ⟨.error e, q, []⟩
  | own {c : Command} {p m q : Progress} {e : Executor}
      (takes : c.Takes o p m q) (executor : c.frame.executor = some e) :
      Climbing o c p ⟨(e.runAt o [] q.context).verdict, q, [e.runAt o [] q.context]⟩
  | passed {c : Command} {p q r : Progress} {g : Passage} {t : Trial Tally}
      {result : Except CommandFailure Tally}
      (leaves : c.Reaches o p [g] g.child r) (isOpen : g.isOpenTo o.source = true)
      (child : Climbing o g.child r t)
      (same : ∀ a, result = .ok a ↔ t.result = .ok a) :
      Climbing o c p ⟨result, q, t.runs.map (Run.below g.child.pathName)⟩
  | fellBack {c : Command} {p m q r : Progress} {g : Passage} {t : Trial Tally} {e : Executor}
      (leaves : c.Reaches o p [g] g.child r) (isOpen : g.isOpenTo o.source = true)
      (child : Climbing o g.child r t) (failed : ∀ a, t.result ≠ .ok a)
      (policy : c.frame.onChildFailure = .fallBack)
      (takes : c.Takes o p m q) (executor : c.frame.executor = some e) :
      Climbing o c p ⟨(e.runAt o [] q.context).verdict, q,
        t.runs.map (Run.below g.child.pathName) ++ [e.runAt o [] q.context]⟩

/-- **A child that is entered is passed to, or fallen back from.** -/
theorem climbing_viaChild {f : CommandFrame} {cs : List Command} {p m r : Progress} {t : Token}
    (flags : f.readFlags o cs p = ⟨.ok (), m, []⟩) (head : m.stream.head? = some t)
    (named : cs.find? (·.goesBy t.text) = some c) (next : Step.next m = ⟨.ok t.text, r, []⟩)
    (child : c.Climbing o r (dispatch o c r)) :
    (node f cs).Climbing o p (viaChild o f (c.goInto (dispatch o c)) (fun e => do
      f.fallBack o e
      f.execute o) m) := by
  have leaves : (node f cs).Reaches o p [⟨f, cs, p, m, t, c⟩] c r :=
    .child flags head named next (.here c r)
  by_cases isOpen : (!f.guardsChildren || o.source.may f.permission) = true
  · have passed : ∀ result q', (∀ a, result = .ok a ↔ (dispatch o c r).result = .ok a) →
        (node f cs).Climbing o p
          ⟨result, q', (dispatch o c r).runs.map (Run.below c.pathName)⟩ := fun _ _ same =>
      .passed (g := ⟨f, cs, p, m, t, c⟩) leaves isOpen child same
    have hgo := goInto_of_next next c (dispatch o c)
    rcases hd : dispatch o c r with ⟨e | a, q, runs⟩ <;> rw [hd] at hgo passed child
    · by_cases hback : f.mayFallBack = true ∧ e.isRecoverable = true
      · rw [viaChild_of_error isOpen hgo hback.1 hback.2]
        rcases hown : f.fallBack o e m with ⟨e' | _, q', rs⟩
        · obtain rfl := (CommandFrame.quiet_fallBack o f e).runs_eq_nil hown
          rw [Attempt.bind_of_error hown, List.append_nil]
          exact passed _ q' (by simp)
        · obtain rfl := (CommandFrame.quiet_fallBack o f e).runs_eq_nil hown
          obtain ⟨hmay, hparse⟩ := CommandFrame.of_fallBack hown
          obtain ⟨hpolicy, hsome⟩ := Bool.and_eq_true_iff.1 hback.1
          obtain ⟨x, hx⟩ := Option.isSome_iff_exists.1 hsome
          rw [Attempt.bind_of_ok hown, CommandFrame.execute_of_some hx]
          exact .fellBack (g := ⟨f, cs, p, m, t, c⟩) leaves isOpen child (by simp)
            (eq_of_beq hpolicy) ⟨flags, hparse, hmay⟩ hx
      · rw [viaChild_of_rethrow isOpen hgo hback]
        exact passed _ m fun _ => Iff.rfl
    · rw [viaChild_of_ok isOpen hgo]
      exact passed _ q fun _ => Iff.rfl
  · refine (CommandFrame.quiet_enterChild o f).bind_cases (.stopped _ _) fun _ m' henter => ?_
    exact absurd (CommandFrame.of_enterChild henter).1 isOpen

/-- **Every dispatch takes one of the courses.** -/
theorem climbing_dispatch (o : Occasion) (c : Command) :
    ∀ p, c.Climbing o p (dispatch o c p) := by
  induction c using inductionOnChildren with
  | node f cs ih =>
    intro p
    rw [dispatch]
    refine (CommandFrame.quiet_readFlags o f cs).bind_cases (.stopped _ _) fun _ m hflags => ?_
    change (node f cs).Climbing o p (dispatchIn o f cs (m.stream.head?.map Token.text) cs m)
    rw [dispatchIn_eq]
    split
    · refine (CommandFrame.quiet_enterOwn o f cs).bind_cases (.stopped _ _) fun _ q hown => ?_
      obtain ⟨hmay, hsome, hparse⟩ := CommandFrame.of_enterOwn hown
      obtain ⟨e, he⟩ := Option.isSome_iff_exists.1 hsome
      rw [CommandFrame.execute_of_some he]
      exact .own ⟨hflags, hparse, hmay⟩ he
    · rename_i d hd
      obtain ⟨t, hhead, hfind⟩ := of_called? hd
      obtain ⟨r, hnext⟩ := Step.next_of_head? hhead
      exact climbing_viaChild hflags hhead hfind hnext (ih d (List.mem_of_find?_eq_some hfind) r)

/-- **Every run is that of a command that serves the line, on what it has bound.** -/
theorem Climbing.serves {t : Trial Tally} (h : c.Climbing o p t) {x : Run} (hx : x ∈ t.runs) :
    ∃ d q e, c.Serves o p x.path d q ∧ d.frame.executor = some e ∧
      x = e.runAt o x.path q.context := by
  induction h generalizing x with
  | stopped => exact absurd hx List.not_mem_nil
  | own takes executor =>
    rw [List.mem_singleton.1 hx]
    exact ⟨_, _, _, takes.serves, executor, rfl⟩
  | passed leaves isOpen _ _ ih =>
    obtain ⟨y, hy, rfl⟩ := List.mem_map.1 hx
    obtain ⟨d, q, e, hserves, executor, hy⟩ := ih hy
    exact ⟨d, q, e, hserves.below leaves isOpen, executor, by rw [hy]; rfl⟩
  | fellBack leaves isOpen _ _ _ takes executor ih =>
    rcases List.mem_append.1 hx with hx | hx
    · obtain ⟨y, hy, rfl⟩ := List.mem_map.1 hx
      obtain ⟨d, q, e, hserves, executor, hy⟩ := ih hy
      exact ⟨d, q, e, hserves.below leaves isOpen, executor, by rw [hy]; rfl⟩
    · rw [List.mem_singleton.1 hx]
      exact ⟨_, _, _, takes.serves, executor, rfl⟩

/-- **Every run is that of a command that serves the line.** -/
theorem serves_of_mem_runs (o : Occasion) (c : Command) {p : Progress} {x : Run}
    (h : x ∈ (dispatch o c p).runs) :
    ∃ d q e, c.Serves o p x.path d q ∧ d.frame.executor = some e ∧
      x = e.runAt o x.path q.context :=
  (climbing_dispatch o c p).serves h

/-- `c.RunsOn o p way x d`: the run `x` is that of the command `d`, which `c` at `p` comes to on its
way along `way`. -/
structure RunsOn (o : Occasion) (c : Command) (p : Progress) (way : List Passage) (x : Run)
    (d : Command) : Prop where
  reaches : ∃ q, c.Reaches o p (way.take x.path.length) d q
  path : x.path = Passage.path (way.take x.path.length)
  executor : ∃ e, d.frame.executor = some e ∧ x = e.runAt o x.path x.context

/-- **The executor of a command runs on the way that leads to it.** -/
theorem RunsOn.own {e : Executor} {context : Context} (way : List Passage)
    (executor : c.frame.executor = some e) : c.RunsOn o p way (e.runAt o [] context) c where
  reaches := ⟨p, .here c p⟩
  path := rfl
  executor := ⟨e, executor, rfl⟩

/-- **What a child runs on a way, its parent runs on the way to the child.** -/
theorem RunsOn.below {g : Passage} {x : Run} (leaves : c.Reaches o p [g] g.child r)
    (h : g.child.RunsOn o r way x d) :
    c.RunsOn o p (g :: way) (x.below g.child.pathName) d where
  reaches := h.reaches.imp fun _ hq => leaves.trans hq
  path := congrArg (g.child.pathName :: ·) h.path
  executor := by
    obtain ⟨e, executor, hx⟩ := h.executor
    exact ⟨e, executor, by rw [hx]; rfl⟩

/-- `c.Ascends o p way t`: the runs of `t` are made on the way `way`, from its far end up. -/
structure Ascends (o : Occasion) (c : Command) (p : Progress) (way : List Passage)
    (t : Trial Tally) : Prop where
  /-- Every run is that of a command on the way. -/
  stands : ∀ x ∈ t.runs, ∃ d, c.RunsOn o p way x d
  /-- Whoever runs after another command has failed falls back from its children. -/
  policy : ∀ x ∈ t.runs.tail, ∃ d, c.RunsOn o p way x d ∧ d.frame.onChildFailure = .fallBack
  /-- Every run is nearer to the root than the runs before it. -/
  upward : t.runs.Pairwise fun x y => y.path.length < x.path.length
  /-- Every run but the last has failed. -/
  failed : ∀ x ∈ t.runs.dropLast, ∃ e, x.verdict = .error e
  /-- The result is that of the last run, if this has one. -/
  result : ∀ a, t.result = .ok a ↔ ∃ x, t.runs.getLast? = some x ∧ x.verdict = .ok a

/-- **What fails before any run ascends.** -/
theorem Ascends.stopped (e : CommandFailure) (q : Progress) :
    c.Ascends o p [] ⟨.error e, q, []⟩ where
  stands := by simp
  policy := by simp
  upward := .nil
  failed := by simp
  result := by simp

/-- **So does a run of the own executor.** -/
theorem Ascends.own {e : Executor} (executor : c.frame.executor = some e) :
    c.Ascends o p [] ⟨(e.runAt o [] q.context).verdict, q, [e.runAt o [] q.context]⟩ where
  stands := by simpa using ⟨c, .own [] executor⟩
  policy := by simp
  upward := List.pairwise_singleton _ _
  failed := by simp
  result := by simp

section Ascends

variable {g : Passage} {t : Trial Tally}

/-- **What ascends to a child ascends to its parent.** -/
theorem Ascends.passed {result : Except CommandFailure Tally}
    (leaves : c.Reaches o p [g] g.child r) (h : g.child.Ascends o r way t)
    (same : ∀ a, result = .ok a ↔ t.result = .ok a) :
    c.Ascends o p (g :: way) ⟨result, q, t.runs.map (Run.below g.child.pathName)⟩ where
  stands := by
    intro x hx
    obtain ⟨y, hy, rfl⟩ := List.mem_map.1 hx
    exact (h.stands y hy).imp fun _ hd => hd.below leaves
  policy := by
    intro x hx
    rw [← List.map_tail] at hx
    obtain ⟨y, hy, rfl⟩ := List.mem_map.1 hx
    exact (h.policy y hy).imp fun _ hd => ⟨hd.1.below leaves, hd.2⟩
  upward := by
    rw [List.pairwise_map]
    exact h.upward.imp fun hlt => by simpa using hlt
  failed := by
    intro x hx
    rw [← List.map_dropLast] at hx
    obtain ⟨y, hy, rfl⟩ := List.mem_map.1 hx
    exact h.failed y hy
  result a := by
    rw [same, h.result, List.getLast?_map]
    cases t.runs.getLast? <;> simp

/-- **All runs of a trial without a result have failed.** -/
theorem Ascends.failed_of_no_result (h : c.Ascends o p way t) (hno : ∀ a, t.result ≠ .ok a)
    {x : Run} (hx : x ∈ t.runs) : ∃ e, x.verdict = .error e := by
  have hne : t.runs ≠ [] := List.ne_nil_of_mem hx
  rw [← List.dropLast_concat_getLast hne] at hx
  rcases List.mem_append.1 hx with hx | hx
  · exact h.failed x hx
  · rw [List.mem_singleton.1 hx]
    cases hv : (t.runs.getLast hne).verdict with
    | error e => exact ⟨e, rfl⟩
    | ok a => exact absurd ((h.result a).2 ⟨_, List.getLast?_eq_some_getLast hne, hv⟩) (hno a)

/-- **A command may run last, after all that was run below it has failed.** -/
theorem Ascends.again {e : Executor} (h : c.Ascends o p way t) (failed : ∀ a, t.result ≠ .ok a)
    (deeper : ∀ x ∈ t.runs, 0 < x.path.length) (policy : c.frame.onChildFailure = .fallBack)
    (executor : c.frame.executor = some e) :
    c.Ascends o p way ⟨(e.runAt o [] q.context).verdict, q,
      t.runs ++ [e.runAt o [] q.context]⟩ where
  stands := by
    intro x hx
    rcases List.mem_append.1 hx with hx | hx
    · exact h.stands x hx
    · rw [List.mem_singleton.1 hx]
      exact ⟨c, .own way executor⟩
  policy := by
    intro x hx
    by_cases hnil : t.runs = []
    · simp [hnil] at hx
    · rw [List.tail_append_of_ne_nil hnil] at hx
      rcases List.mem_append.1 hx with hx | hx
      · exact h.policy x hx
      · rw [List.mem_singleton.1 hx]
        exact ⟨c, .own way executor, policy⟩
  upward := by
    refine List.pairwise_append.2 ⟨h.upward, List.pairwise_singleton _ _, ?_⟩
    intro x hx y hy
    rw [List.mem_singleton.1 hy]
    exact deeper x hx
  failed := by
    intro x hx
    rw [List.dropLast_concat] at hx
    exact h.failed_of_no_result failed hx
  result a := by simp

end Ascends

/-- **Whatever course a dispatch takes, its runs ascend the way of the line.** -/
theorem Climbing.exists_ascends {t : Trial Tally} (h : c.Climbing o p t) :
    ∃ way d q, c.Reaches o p way d q ∧ c.Ascends o p way t := by
  induction h with
  | stopped c p e q => exact ⟨[], c, p, .here c p, .stopped e q⟩
  | @own c p _ _ _ _ executor => exact ⟨[], c, p, .here c p, .own executor⟩
  | passed leaves _ _ same ih =>
    obtain ⟨way, d, q, hway, hchild⟩ := ih
    exact ⟨_ :: way, d, q, leaves.trans hway, hchild.passed leaves same⟩
  | fellBack leaves _ _ failed policy _ executor ih =>
    obtain ⟨way, d, q, hway, hchild⟩ := ih
    have hbelow := hchild.passed (q := q) leaves fun a => Iff.rfl
    refine ⟨_ :: way, d, q, leaves.trans hway, hbelow.again failed ?_ policy executor⟩
    intro x hx
    obtain ⟨y, -, rfl⟩ := List.mem_map.1 hx
    exact Nat.succ_pos _

/-- **At most one run has a result.** -/
theorem Ascends.length_filter_le_one {t : Trial Tally} (h : c.Ascends o p way t) :
    (t.runs.filter fun x => x.verdict.isOk).length ≤ 1 := by
  by_cases hnil : t.runs = []
  · simp [hnil]
  · have hnone : t.runs.dropLast.filter (fun x => x.verdict.isOk) = [] := by
      rw [List.filter_eq_nil_iff]
      intro x hx
      obtain ⟨e, he⟩ := h.failed x hx
      simp [he, Except.isOk, Except.toBool]
    rw [← List.dropLast_concat_getLast hnil, List.filter_append, hnone, List.nil_append]
    exact List.length_filter_le _ _

/-- **The runs of a line ascend its way.**  Whatever the tree and the executors, there is a way of
the line from the root such that every run is that of a command on it; they are made from its far
end up, each command's at most once; every run but the last has failed, and every command whose
executor is not the first to be run falls back from its children.  The line has a result if its last
run has one, and then it is that one: at most one run has a result. -/
theorem runs_ascend (o : Occasion) (c : Command) (line : String) :
    ∃ way d q, c.Reaches o (c.atStart line {}) way d q ∧
      c.Ascends o (c.atStart line {}) way (c.process o line) ∧
      ((c.process o line).runs.map Run.path).Nodup ∧
      ((c.process o line).runs.filter fun x => x.verdict.isOk).length ≤ 1 := by
  obtain ⟨way, d, q, hway, h⟩ := (climbing_dispatch o c (c.atStart line {})).exists_ascends
  have hnodup : ((c.process o line).runs.map Run.path).Nodup := by
    rw [List.nodup_iff_pairwise_ne, List.pairwise_map]
    refine h.upward.imp fun hlt heq => ?_
    rw [heq] at hlt
    exact absurd hlt (Nat.lt_irrefl _)
  exact ⟨way, d, q, hway, h, hnodup, h.length_filter_le_one⟩

end Command
end CommandGrammar
