/-
# Repetitions as runs in a row

A modifier that repeats runs what it wraps from where the run before has ended.

| modifier | is |
| --- | --- |
| `repeated n` | the sequence of `n` copies, but a failure tells in which of them it arose |
| `optionalWeak` | the choice between the parameter and nothing |
| `allOf` | as many runs as read something, and at most one that reads nothing |

The last one counts down from what remains to be read.  Each run that counts reads something, so the
count is never what stops it (`Modifier.greedy_runAgain`).
-/

import CommandGrammar.Host.Usual
import CommandGrammar.Parameter.Definition
import CommandGrammar.Proofs.Laws.Grouping
import CommandGrammar.Proofs.Steps.Pairing
import CommandGrammar.Proofs.Steps.Passing

namespace CommandGrammar

namespace Step

/-- The step succeeds from `p` and ends at `q`. -/
def Leads (s : Step Unit) (p q : Progress) : Prop := ∃ asked, s p = ⟨.ok (), q, asked⟩

/-- The step succeeds from `p` and ends at `q`, with another cursor. -/
def Consumes (s : Step Unit) (p q : Progress) : Prop :=
  s.Leads p q ∧ q.stream.cursor ≠ p.stream.cursor

/-- The input does not match from `p`. -/
def Fails (s : Step Unit) (p : Progress) : Prop := ∃ e, (s p).result = .error (.failed e)

/-- So many runs in a row lead from one progress to another, each of them as `R` says. -/
inductive Successive (R : Progress → Progress → Prop) : Nat → Progress → Progress → Prop
  | zero (p : Progress) : Successive R 0 p p
  | succ {n : Nat} {p q r : Progress} (first : R p q) (rest : Successive R n q r) :
      Successive R (n + 1) p r

/-- What a greedy repetition that begins at `p` comes to: runs that read something and one more run,
behind which the repetition stops, or which breaks off. -/
inductive Greedy (s : Step Unit) (p : Progress) : Report Unit → Prop
  | stopped {k : Nat} {q r : Progress} {asked : List String} (runs : Successive s.Consumes k p q)
      (ahead : q.stream.hasNext = true) (last : s.Leads q r)
      (stops : r.stream.hasNext = false ∨ s.Fails r ∨ r.stream.cursor = q.stream.cursor) :
      Greedy s p ⟨.ok (), r, asked⟩
  | broken {k : Nat} {q : Progress} {asked : List String} {b : Breakdown}
      (runs : Successive s.Consumes k p q) (ahead : q.stream.hasNext = true)
      (breaks : (s q).result = .error (.broken b)) : Greedy s p ⟨.error (.broken b), q, asked⟩

variable {s : Step Unit} {p q : Progress} {r : Report Unit}

/-- **Words that were asked for before do not change what is greedy.** -/
theorem Greedy.after (h : s.Greedy p r) (asked : List String) : s.Greedy p (r.after asked) := by
  cases h with
  | stopped runs ahead last stops => exact .stopped runs ahead last stops
  | broken runs ahead breaks => exact .broken runs ahead breaks

/-- **What is greedy does not fail.** -/
theorem Greedy.result_ne_failed (h : s.Greedy p r) (e : ParseError) :
    r.result ≠ .error (.failed e) := by
  cases h with
  | stopped => exact fun he => nomatch he
  | broken => exact fun he => nomatch he

/-- **A run that reads something comes before the others.** -/
theorem Greedy.behind (hpq : s.Consumes p q) (h : s.Greedy q r) : s.Greedy p r := by
  cases h with
  | stopped runs ahead last stops => exact .stopped (.succ hpq runs) ahead last stops
  | broken runs ahead breaks => exact .broken (.succ hpq runs) ahead breaks

/-- **What succeeds or breaks off does not fail.** -/
theorem not_fails {x : Except Stop Unit} {asked : List String} (h : s p = ⟨x, q, asked⟩)
    (hx : ∀ e, x ≠ .error (.failed e)) : ¬s.Fails p := by
  rintro ⟨e, he⟩
  rw [h] at he
  exact hx e he

/-- **A step that only goes on leads only onward.** -/
theorem Leads.onward (hs : ParseCourse.onward.Governs s) (h : s.Leads p q) : p.Onward q := by
  obtain ⟨asked, h⟩ := h
  have honward := (hs p).1
  rwa [h] at honward

/-- **A run that reads something leaves less to read.** -/
theorem Consumes.remaining_lt (hs : ParseCourse.onward.Governs s) (h : s.Consumes p q) :
    q.stream.remaining < p.stream.remaining := by
  obtain ⟨hpq, hcursor⟩ := h
  have honward := hpq.onward hs
  have hle := honward.cursor_le
  have hin := q.stream.cursor_le
  unfold TokenStream.remaining
  rw [honward.tokens] at hin ⊢
  rw [honward.pending]
  omega

/-- **There are no more runs that read something than there is to read.** -/
theorem Successive.add_remaining_le (hs : ParseCourse.onward.Governs s) {k : Nat}
    (h : Successive s.Consumes k p q) : k + q.stream.remaining ≤ p.stream.remaining := by
  induction h with
  | zero p => omega
  | succ hfirst _ ih =>
    have hlt := hfirst.remaining_lt hs
    omega

end Step

namespace Modifier

variable {inner : Step Unit} {p q : Progress}

/-- **Weakly optional is the choice of the step or nothing.** -/
theorem runOptionalWeak_eq_orElse (inner : Step Unit) :
    runOptionalWeak inner = inner.orElse (Step.done ()) := by
  funext p
  rw [runOptionalWeak]
  rcases h : inner p with ⟨(e | b) | ⟨⟩, q, asked⟩
  · rw [Step.orElse_of_second_ok h rfl, Step.atomic_of_error h, List.append_nil]
  · rw [Step.orElse_of_broken h, Step.atomic_of_error h]
  · rw [Step.orElse_of_ok h, Step.atomic_of_ok h]

/-- **After a run that read something, a repetition goes on for as long as the runs read
something.**  The induction is on the count, which is never below what remains to be read. -/
theorem greedy_runAgain (hinner : ParseCourse.onward.Governs inner) {n : Nat}
    (ahead : p.stream.hasNext = true) (hpq : inner.Consumes p q) (hn : q.stream.remaining ≤ n) :
    inner.Greedy p (runAgain inner n q) := by
  induction n generalizing p q with
  | zero =>
    have hnext : q.stream.hasNext = false := by
      rw [TokenStream.hasNext_eq, decide_eq_false_iff_not]
      omega
    exact .stopped (.zero p) ahead hpq.1 (.inl hnext)
  | succ n ih =>
    rw [runAgain]
    dsimp only
    split
    · rename_i hnext
      rcases hq : inner q with ⟨(e | b) | ⟨⟩, r, asked⟩
      · rw [Step.atomic_of_error hq]
        have hfails : inner.Fails q := ⟨e, by rw [hq]⟩
        exact .stopped (.zero p) ahead hpq.1 (.inr (.inl hfails))
      · rw [Step.atomic_of_error hq]
        exact .broken (.succ hpq (.zero q)) hnext (by rw [hq])
      · rw [Step.atomic_of_ok hq]
        dsimp only
        split
        · rename_i hstill
          exact .stopped (.succ hpq (.zero q)) hnext ⟨asked, hq⟩ (.inr (.inr hstill))
        · rename_i hmoved
          have hqr : inner.Consumes q r := ⟨⟨asked, hq⟩, hmoved⟩
          have hlt := hqr.remaining_lt hinner
          exact ((ih hnext hqr (by omega)).after asked).behind hpq
    · rename_i hnext
      exact .stopped (.zero p) ahead hpq.1 (.inl (Bool.of_not_eq_true hnext))

/-- **A repetition fails if nothing is ahead, and if its first run fails.** -/
theorem runAllOf_of_failing (key : String) (h : p.stream.hasNext = false ∨ inner.Fails p) :
    (runAllOf key inner).Fails p ∧ (runAllOf key inner p).progress = p := by
  unfold Step.Fails
  rw [runAllOf]
  by_cases hnext : p.stream.hasNext = true
  · obtain ⟨e, he⟩ := h.resolve_left (ne_false_of_eq_true hnext)
    rw [if_pos hnext, Step.atomic_of_error (Report.eq_of_result he)]
    exact ⟨⟨e, rfl⟩, rfl⟩
  · rw [if_neg hnext]
    exact ⟨⟨_, rfl⟩, rfl⟩

/-- **Otherwise it is greedy.** -/
theorem greedy_runAllOf (key : String) (hinner : ParseCourse.onward.Governs inner)
    (hnext : p.stream.hasNext = true) (h : ¬inner.Fails p) :
    inner.Greedy p (runAllOf key inner p) := by
  rw [runAllOf, if_pos hnext]
  rcases hp : inner p with ⟨(e | b) | ⟨⟩, q, asked⟩
  · exact absurd ⟨e, by rw [hp]⟩ h
  · rw [Step.atomic_of_error hp]
    exact .broken (.zero p) hnext (by rw [hp])
  · rw [Step.atomic_of_ok hp]
    dsimp only
    split
    · rename_i hstill
      exact .stopped (.zero p) hnext ⟨asked, hp⟩ (.inr (.inr hstill))
    · rename_i hmoved
      exact (greedy_runAgain hinner hnext ⟨⟨asked, hp⟩, hmoved⟩ (Nat.le_refl _)).after asked

section counted

variable {asked : List String}

/-- **Behind a round that succeeds, those that are left follow.** -/
theorem runTimes_of_ok (h : inner p = ⟨.ok (), q, asked⟩) (times left attempt : Nat) :
    runTimes inner times (left + 1) attempt p =
      (runTimes inner times left (attempt + 1) q).after asked := by
  rw [runTimes]
  dsimp only
  rw [h]

/-- **A round that fails tells its number.** -/
theorem runTimes_of_failed {e : ParseError} (h : inner p = ⟨.error (.failed e), q, asked⟩)
    (times left attempt : Nat) :
    runTimes inner times (left + 1) attempt p =
      ⟨.error (.failed { e with problem := .inAttempt e.problem attempt times }), q, asked⟩ := by
  rw [runTimes]
  dsimp only
  rw [h]

/-- **A round that breaks off breaks the repetition off.** -/
theorem runTimes_of_broken {b : Breakdown} (h : inner p = ⟨.error (.broken b), q, asked⟩)
    (times left attempt : Nat) :
    runTimes inner times (left + 1) attempt p = ⟨.error (.broken b), q, asked⟩ := by
  rw [runTimes]
  dsimp only
  rw [h]

end counted

end Modifier

namespace Parameter

open Modifier

variable {o : Occasion} {p : Parameter} {s : Progress}

/-- **More modifiers do not change what is inside.** -/
theorem core_wrapped (p : Parameter) (ms : List Modifier) : (p.wrapped ms).core o = p.core o := by
  cases p <;> rfl

/-- **Nor do they change who may use it.** -/
theorem mayUse_wrapped (p : Parameter) (ms : List Modifier) (source : Source) :
    (p.wrapped ms).mayUse source = p.mayUse source := by
  rw [mayUse, wrapped, frame_withFrame]
  rfl

/-- **More modifiers go around what the parameter is.** -/
theorem parse_wrapped (h : p.mayUse o.source = true) (ms : List Modifier) :
    (p.wrapped ms).parse o = chain p.key o.source ms (p.parse o) := by
  have hmay : (p.wrapped ms).mayUse o.source = true := by rw [mayUse_wrapped, h]
  rw [parse_of_mayUse hmay, parse_of_mayUse h, core_wrapped, wrapped, key, frame_withFrame]
  exact List.foldr_append

/-- **A usable parameter inside `allOf` is parsed greedily.** -/
theorem parse_allOf (h : p.mayUse o.source = true) :
    (p.wrapped [.allOf]).parse o = runAllOf p.key (p.parse o) := parse_wrapped h [.allOf]

/-- **Inside `repeated` it is parsed that many times, or not at all.** -/
theorem parse_repeated (h : p.mayUse o.source = true) (n : Nat) :
    (p.wrapped [.repeated n]).parse o = (runTimes (p.parse o) n n 1).atomic :=
  parse_wrapped h [.repeated n]

section copies

variable {left : Nat} {e : ParseError} {q : Progress} {asked : List String}

/-- **As long as no copy fails, counting the runs makes no difference.** -/
theorem runTimes_of_not_fails (times attempt : Nat)
    (h : ¬(parseAll o (List.replicate left p)).Fails s) :
    runTimes (p.parse o) times left attempt s = parseAll o (List.replicate left p) s := by
  induction left generalizing s attempt with
  | zero =>
    rw [List.replicate_zero, parseAll]
    rfl
  | succ left ih =>
    rw [List.replicate_succ, parseAll] at h ⊢
    rcases hp : p.parse o s with ⟨(e | b) | ⟨⟩, q, asked⟩
    · have hfails := Step.andThen_of_error hp fun _ => parseAll o (List.replicate left p)
      exact absurd ⟨e, by rw [hfails]⟩ h
    · rw [Step.andThen_of_error hp, runTimes_of_broken hp]
    · have hcopies := Step.andThen_of_ok hp fun _ => parseAll o (List.replicate left p)
      have hrest : ¬(parseAll o (List.replicate left p)).Fails q := by
        rintro ⟨e, he⟩
        exact h ⟨e, by rw [hcopies]; exact he⟩
      rw [hcopies, runTimes_of_ok hp, ih (attempt + 1) hrest]

/-- **If a copy fails, the count tells which one it was.** -/
theorem runTimes_of_copy_failed (times attempt : Nat)
    (h : parseAll o (List.replicate left p) s = ⟨.error (.failed e), q, asked⟩) :
    ∃ k m, k < left ∧ Step.Successive (p.parse o).Leads k s m ∧
      (p.parse o m).result = .error (.failed e) ∧
      runTimes (p.parse o) times left attempt s =
        ⟨.error (.failed { e with problem := .inAttempt e.problem (attempt + k) times }), q,
          asked⟩ := by
  induction left generalizing s attempt asked with
  | zero =>
    rw [List.replicate_zero, parseAll] at h
    cases h
  | succ left ih =>
    rw [List.replicate_succ, parseAll] at h
    rcases hp : p.parse o s with ⟨(f | b) | ⟨⟩, r, more⟩
    · rw [Step.andThen_of_error hp] at h
      cases h
      exact ⟨0, s, Nat.succ_pos left, .zero s, by rw [hp], runTimes_of_failed hp times left attempt⟩
    · rw [Step.andThen_of_error hp] at h
      cases h
    · rw [Step.andThen_of_ok hp] at h
      obtain ⟨rest, hrest, rfl⟩ := Report.exists_of_after h
      obtain ⟨k, m, hk, hruns, hm, hrun⟩ := ih (attempt + 1) hrest
      refine ⟨k + 1, m, Nat.succ_lt_succ hk, .succ ⟨more, hp⟩ hruns, hm, ?_⟩
      rw [runTimes_of_ok hp, hrun, Nat.add_right_comm, Nat.add_assoc]
      rfl

/-- **Those who may not use a parameter pass over all its copies.** -/
theorem parseAll_replicate_of_not_mayUse (h : p.mayUse o.source = false) (n : Nat) :
    parseAll o (List.replicate n p) = Step.done () := by
  induction n with
  | zero => rw [List.replicate_zero, parseAll]
  | succ n ih =>
    rw [List.replicate_succ, parseAll, ih, parse_of_not_mayUse h]
    rfl

/-- **A sequence of copies is parsed one after the other, or not at all.** -/
theorem parse_copies (o : Occasion) (p : Parameter) (n : Nat) :
    (all {} (List.replicate n p)).parse o = (parseAll o (List.replicate n p)).atomic :=
  parse_of_isPlain (p := all {} (List.replicate n p)) o ⟨rfl, rfl⟩

/-- **Unless a copy fails, a counted repetition is the sequence of its copies.** -/
theorem parse_repeated_of_not_fails (n : Nat)
    (h : ¬((all {} (List.replicate n p)).parse o).Fails s) :
    (p.wrapped [.repeated n]).parse o s = (all {} (List.replicate n p)).parse o s := by
  rw [parse_copies] at h ⊢
  by_cases hmay : p.mayUse o.source = true
  · have hcopies : ¬(parseAll o (List.replicate n p)).Fails s := by
      rintro ⟨e, he⟩
      exact h ⟨e, by rw [Step.result_atomic, he]⟩
    rw [parse_repeated hmay]
    exact Step.atomic_congr (runTimes_of_not_fails n 1 hcopies)
  · have hmay := Bool.of_not_eq_true hmay
    rw [parseAll_replicate_of_not_mayUse hmay, parse_of_not_mayUse (by rw [mayUse_wrapped, hmay])]
    rfl

/-- **If a copy fails, a counted repetition fails with it and tells which one it was.** -/
theorem parse_repeated_of_failed {n : Nat}
    (h : (all {} (List.replicate n p)).parse o s = ⟨.error (.failed e), q, asked⟩) :
    q = s ∧ ∃ k m, k < n ∧ Step.Successive (p.parse o).Leads k s m ∧
      (p.parse o m).result = .error (.failed e) ∧
      (p.wrapped [.repeated n]).parse o s =
        ⟨.error (.failed { e with problem := .inAttempt e.problem (1 + k) n }), s, asked⟩ := by
  rw [parse_copies] at h
  by_cases hmay : p.mayUse o.source = true
  · rcases hcopies : parseAll o (List.replicate n p) s with ⟨x, r, more⟩
    cases x with
    | ok a =>
      rw [Step.atomic_of_ok hcopies] at h
      cases h
    | error f =>
      rw [Step.atomic_of_error hcopies] at h
      cases h
      obtain ⟨k, m, hk, hruns, hm, hrun⟩ := runTimes_of_copy_failed n 1 hcopies
      refine ⟨rfl, k, m, hk, hruns, hm, ?_⟩
      rw [parse_repeated hmay, Step.atomic_of_error hrun]
  · rw [parseAll_replicate_of_not_mayUse (Bool.of_not_eq_true hmay)] at h
    cases h

end copies

/-- **The parameter that reads nothing does nothing.** -/
theorem parse_nothing (o : Occasion) : nothing.parse o = Step.done () := by
  rw [parse_of_isPlain (p := nothing) o ⟨rfl, rfl⟩]
  rfl

/-- **Weakly optional is the choice of the parameter or nothing.** -/
theorem parse_optionalWeak (o : Occasion) (p : Parameter) :
    (p.wrapped [.optionalWeak]).parse o = (first {} p [nothing]).parse o := by
  have hchoice : (first {} p [nothing]).parse o = (p.parse o).orElse (Step.done ()) := by
    rw [parse_of_isPlain (p := first {} p [nothing]) o ⟨rfl, rfl⟩, core_first_eq_firstOf,
      List.map_singleton, parse_nothing]
    exact Step.atomic_orElse_left _ _
  rw [hchoice]
  by_cases hmay : p.mayUse o.source = true
  · rw [parse_wrapped hmay, ← runOptionalWeak_eq_orElse]
    rfl
  · have hmay := Bool.of_not_eq_true hmay
    rw [parse_of_not_mayUse hmay, parse_of_not_mayUse (by rw [mayUse_wrapped, hmay])]
    rfl

/-- **A counted repetition is the sequence of its copies, and weakly optional is the choice of the
parameter or nothing.**  The repetition succeeds exactly if the copies do, and leads to the same
place.  Where a copy fails, both undo everything; the failure of the repetition has the class, the
line and the offset of that of the copy, and its message tells which copy it was. -/
theorem repeated_is_copies_and_optional_weak_is_choice (o : Occasion) (p : Parameter) :
    (∀ n s,
      match (all {} (List.replicate n p)).parse o s with
      | ⟨.ok (), q, asked⟩ => (p.wrapped [.repeated n]).parse o s = ⟨.ok (), q, asked⟩
      | ⟨.error (.failed e), q, asked⟩ =>
        q = s ∧ ∃ k m e', 1 ≤ k ∧ k ≤ n ∧ Step.Successive (p.parse o).Leads (k - 1) s m ∧
          (p.parse o m).result = .error (.failed e) ∧
          (p.wrapped [.repeated n]).parse o s = ⟨.error (.failed e'), s, asked⟩ ∧
          e'.kind = e.kind ∧ e'.position = e.position ∧ e'.raw = e.raw ∧
          e'.message = s!"{e.message} (value {k} of {n})"
      | ⟨.error (.broken b), q, asked⟩ =>
        q = s ∧ (p.wrapped [.repeated n]).parse o s = ⟨.error (.broken b), s, asked⟩) ∧
    (p.wrapped [.optionalWeak]).parse o = (first {} p [nothing]).parse o := by
  refine ⟨fun n s => ?_, parse_optionalWeak o p⟩
  rcases h : (all {} (List.replicate n p)).parse o s with ⟨(e | b) | ⟨⟩, q, asked⟩
  · obtain ⟨hq, k, m, hk, hruns, hm, hrun⟩ := parse_repeated_of_failed h
    refine ⟨hq, 1 + k, m, _, by omega, by omega, ?_, hm, hrun, rfl, rfl, rfl, rfl⟩
    rwa [Nat.add_sub_cancel_left]
  · have hq : q = s := by
      rw [parse_copies] at h
      have hback := Step.progress_atomic_of_error (congrArg Report.result h)
      rwa [h] at hback
    subst hq
    exact ⟨rfl, (parse_repeated_of_not_fails n (Step.not_fails h nofun)).trans h⟩
  · exact (parse_repeated_of_not_fails n (Step.not_fails h nofun)).trans h

/-- **A greedy repetition runs for as long as it reads something.**  It fails, and undoes
everything, exactly if nothing is ahead or its first run fails.  Otherwise there are one or more runs
in a row, all but the last of which have read something; behind the last one nothing is ahead, or a
further run fails, or the last one has read nothing itself.  There are no more runs than there is to
read.  Where a run breaks off, so does the repetition. -/
theorem all_of_is_greedy (h : p.mayUse o.source = true) (s : Progress) :
    (((p.wrapped [.allOf]).parse o).Fails s ↔
      s.stream.hasNext = false ∨ (p.parse o).Fails s) ∧
    match (p.wrapped [.allOf]).parse o s with
    | ⟨.error (.failed _), r, _⟩ => r = s
    | ⟨.ok (), r, _⟩ =>
      ∃ k q, 1 ≤ k ∧ k ≤ s.stream.remaining ∧
        Step.Successive (p.parse o).Consumes (k - 1) s q ∧ (p.parse o).Leads q r ∧
        (r.stream.hasNext = false ∨ (p.parse o).Fails r ∨ r.stream.cursor = q.stream.cursor)
    | ⟨.error (.broken b), r, _⟩ =>
      ∃ k, 1 ≤ k ∧ k ≤ s.stream.remaining ∧ Step.Successive (p.parse o).Consumes (k - 1) s r ∧
        (p.parse o r).result = .error (.broken b) := by
  have honward := governs_onward o p
  rw [parse_allOf h]
  by_cases hfails : s.stream.hasNext = false ∨ (p.parse o).Fails s
  · obtain ⟨⟨e, he⟩, hback⟩ := runAllOf_of_failing p.key hfails
    refine ⟨⟨fun _ => hfails, fun _ => ⟨e, he⟩⟩, ?_⟩
    rw [Report.eq_of_result he]
    exact hback
  · have hnext : s.stream.hasNext = true := Bool.of_not_eq_false (mt Or.inl hfails)
    have hgreedy := greedy_runAllOf p.key honward hnext (mt Or.inr hfails)
    have hcount : ∀ {k q}, Step.Successive (p.parse o).Consumes k s q → q.stream.hasNext = true →
        k + 1 ≤ s.stream.remaining := by
      intro k q hruns hq
      have hle := hruns.add_remaining_le honward
      rw [TokenStream.hasNext_eq, decide_eq_true_eq] at hq
      omega
    refine ⟨⟨fun ⟨e, he⟩ => absurd he (hgreedy.result_ne_failed e), fun h => absurd h hfails⟩, ?_⟩
    rcases hr : runAllOf p.key (p.parse o) s with ⟨x, r, asked⟩
    rw [hr] at hgreedy
    cases hgreedy with
    | @stopped k q _ _ runs ahead last stops =>
      exact ⟨k + 1, q, by omega, hcount runs ahead, runs, last, stops⟩
    | @broken k _ _ b runs ahead breaks =>
      exact ⟨k + 1, by omega, hcount runs ahead, runs, breaks⟩

/-- **In `1 2 x`, a greedy repetition of integers reads two of them.**  Where only `x` is left, it
fails. -/
theorem integers_up_to_word :
    let o : Occasion := ⟨.trusted "tester", ⟨2024, 5, 31, 12, 34, 56, 789012, none⟩, .usual⟩
    let number : Parameter := .leaf { key := "n" } .integer
    let line (raw : String) : Progress := .ofStream (.ofLine .spaced raw)
    (((number.wrapped [.allOf]).parse o).Fails (line "x") ∧ (line "x").stream.hasNext = true ∧
      (number.parse o).Fails (line "x")) ∧
    ∃ k q r asked, (number.wrapped [.allOf]).parse o (line "1 2 x") = ⟨.ok (), r, asked⟩ ∧
      1 ≤ k ∧ k ≤ 3 ∧
      Step.Successive (number.parse o).Consumes (k - 1) (line "1 2 x") q ∧
      (number.parse o).Leads q r ∧ r.stream.cursor = 2 ∧
      (r.context.values "n").map Value.shown = ["1", "2"] := by
  intro o number line
  have hmay : number.mayUse o.source = true := rfl
  have hbad : (number.parse o).Fails (line "x") := by
    subst line
    exact ⟨⟨.notAnInteger "x", "x", 0⟩, rfl⟩
  refine ⟨⟨(all_of_is_greedy hmay (line "x")).1.2 (.inr hbad), by decide +kernel, hbad⟩, ?_⟩
  obtain ⟨-, hends⟩ := all_of_is_greedy hmay (line "1 2 x")
  have hread : ((number.wrapped [.allOf]).parse o (line "1 2 x")).result.toOption = some () ∧
      ((number.wrapped [.allOf]).parse o (line "1 2 x")).progress.stream.cursor = 2 ∧
      (((number.wrapped [.allOf]).parse o (line "1 2 x")).progress.context.values "n").map
        Value.shown = ["1", "2"] := by
    decide +kernel
  rcases hr : (number.wrapped [.allOf]).parse o (line "1 2 x") with ⟨e | ⟨⟩, r, asked⟩
  · rw [hr] at hread
    cases hread.1
  · rw [hr] at hends hread
    obtain ⟨-, hcursor, hvalues⟩ := hread
    obtain ⟨k, q, hone, hcount, hruns, hlast, -⟩ := hends
    have hthree : (line "1 2 x").stream.remaining = 3 := by decide +kernel
    rw [hthree] at hcount
    exact ⟨k, q, r, asked, rfl, hone, hcount, hruns, hlast, hcursor, hvalues⟩

end Parameter
end CommandGrammar
