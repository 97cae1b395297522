/-
# Sequences and choices as operations on steps

A grammar combines steps in two ways.  A sequence (`Step.andThen`) goes on where its first step has
ended, and stops with it.  A choice (`Step.orElse`) takes back a step that fails and runs the other
one from the same place.

| operation | associative because |
| --- | --- |
| `andThen` | what was asked for is listed in order |
| `orElse` | of three failures the deepest is the same, however they are compared (`deeper_assoc`) |

A choice of several steps is a left fold of `orElse` (`Step.firstOf`), so a choice inside a choice
comes apart into its alternatives.  A sequence inside a sequence is undone before the one around it
is; that makes no difference to what is undone in the end (`Step.atomic_andThen_atomic`).
-/

import CommandGrammar.Proofs.Steps.Undoing

namespace CommandGrammar

namespace ParseError

/-- Of two failures the one that stands further in the line, the first one on a tie. -/
def deeper (e f : ParseError) : ParseError := if f.position > e.position then f else e

/-- **The deeper of two errors stands at least as far on as each.** -/
theorem position_le_deeper (e f : ParseError) :
    e.position ≤ (e.deeper f).position ∧ f.position ≤ (e.deeper f).position := by
  unfold deeper
  split <;> constructor <;> omega

/-- **Which failure is the deepest does not depend on which are compared first.** -/
theorem deeper_assoc (e f g : ParseError) : (e.deeper f).deeper g = e.deeper (f.deeper g) := by
  have hdeeper : ∀ a b : ParseError, a.deeper b = if b.position > a.position then b else a :=
    fun _ _ => rfl
  by_cases hef : f.position > e.position
  · rw [hdeeper e f, if_pos hef]
    have hle := (position_le_deeper f g).1
    rw [hdeeper e (f.deeper g), if_pos (by omega)]
  · rw [hdeeper e f, if_neg hef]
    by_cases hfg : g.position > f.position
    · rw [hdeeper f g, if_pos hfg]
    · rw [hdeeper f g, if_neg hfg, hdeeper e f, if_neg hef, hdeeper e g, if_neg (by omega)]

/-- **The deepest of several failures stands among them**: those before it stand less far, and none
behind it stands further. -/
theorem exists_deepest (e : ParseError) (es : List ParseError) :
    ∃ before after, e :: es = before ++ deepest e es :: after ∧
      (∀ f ∈ before, f.position < (deepest e es).position) ∧
      ∀ f ∈ after, f.position ≤ (deepest e es).position := by
  induction es generalizing e with
  | nil => exact ⟨[], [], rfl, by simp, by simp⟩
  | cons f es ih =>
    have hcons : deepest e (f :: es) = deepest (e.deeper f) es := rfl
    obtain ⟨before, after, hsplit, hbefore, hafter⟩ := ih (e.deeper f)
    rw [← hcons] at hsplit hbefore hafter
    have hle := position_le_deeper e f
    cases before with
    | nil =>
      obtain ⟨hd, rfl⟩ := List.cons.inj hsplit
      rw [← hd] at hafter ⊢
      by_cases hef : f.position > e.position
      · have hdeeper : e.deeper f = f := if_pos hef
        rw [hdeeper] at hafter ⊢
        exact ⟨[e], es, rfl, by simpa using hef, hafter⟩
      · have hdeeper : e.deeper f = e := if_neg hef
        rw [hdeeper] at hafter ⊢
        have hf : f.position ≤ e.position := by omega
        exact ⟨[], f :: es, rfl, by simp, List.forall_mem_cons.2 ⟨hf, hafter⟩⟩
    | cons g before =>
      obtain ⟨hg, htail⟩ := List.cons.inj hsplit
      obtain ⟨hlt, hbefore⟩ := List.forall_mem_cons.1 hbefore
      rw [← hg] at hlt
      have he : e.position < (deepest e (f :: es)).position := by omega
      have hf : f.position < (deepest e (f :: es)).position := by omega
      refine ⟨e :: f :: before, after, congrArg (e :: f :: ·) htail, ?_, hafter⟩
      exact List.forall_mem_cons.2 ⟨he, List.forall_mem_cons.2 ⟨hf, hbefore⟩⟩

end ParseError

namespace Report

variable {α : Type}

/-- **A report is its result with where it has come to.** -/
theorem eq_of_result {r : Report α} {x : Except Stop α} (h : r.result = x) :
    r = ⟨x, r.progress, r.asked⟩ := by
  subst h
  rfl

/-- **Words that were asked for add up.** -/
theorem after_after (r : Report α) (xs ys : List String) :
    (r.after ys).after xs = r.after (xs ++ ys) := by
  unfold after
  rw [List.append_assoc]

/-- **A report behind others is one of its own, with those in front.** -/
theorem exists_of_after {r : Report α} {xs zs : List String} {x : Except Stop α} {q : Progress}
    (h : r.after xs = ⟨x, q, zs⟩) : ∃ ys, r = ⟨x, q, ys⟩ ∧ xs ++ ys = zs := by
  obtain ⟨result, progress, ys⟩ := r
  obtain ⟨rfl, rfl, rfl⟩ := Report.mk.inj h
  exact ⟨ys, rfl, rfl⟩

/-- The report with an earlier failure in place of its own, unless its own stands further. -/
def deepened (e : ParseError) : Report α → Report α
  | ⟨.error (.failed f), q, asked⟩ => ⟨.error (.failed (e.deeper f)), q, asked⟩
  | r => r

/-- **Words that were asked for do not change which error is deeper.** -/
theorem deepened_after (r : Report α) (e : ParseError) (asked : List String) :
    (r.after asked).deepened e = (r.deepened e).after asked := by
  rcases r with ⟨(f | b) | a, q, more⟩ <;> rfl

/-- **Of three errors the deepest stays, whichever are compared first.** -/
theorem deepened_deepened (r : Report α) (e f : ParseError) :
    (r.deepened f).deepened e = r.deepened (e.deeper f) := by
  rcases r with ⟨(g | b) | a, q, asked⟩
  · show (⟨.error (.failed (e.deeper (f.deeper g))), q, asked⟩ : Report α) = _
    rw [← ParseError.deeper_assoc]
    rfl
  · rfl
  · rfl

end Report

namespace Step

section sequence

variable {α β γ : Type} {s : Step α} {p q : Progress} {asked : List String}

/-- **Behind a success the next step runs.** -/
theorem andThen_of_ok {a : α} (h : s p = ⟨.ok a, q, asked⟩) (t : α → Step β) :
    s.andThen t p = (t a q).after asked := bind_of_ok h t

/-- **Behind a stop it does not.** -/
theorem andThen_of_error {e : Stop} (h : s p = ⟨.error e, q, asked⟩) (t : α → Step β) :
    s.andThen t p = ⟨.error e, q, asked⟩ := bind_of_error h t

/-- **An atomic step that succeeds is the step.** -/
theorem atomic_of_ok {a : α} (h : s p = ⟨.ok a, q, asked⟩) : s.atomic p = ⟨.ok a, q, asked⟩ := by
  rw [atomic, h]

/-- **One that stops is where it began.** -/
theorem atomic_of_error {e : Stop} (h : s p = ⟨.error e, q, asked⟩) :
    s.atomic p = ⟨.error e, p, asked⟩ := by
  rw [atomic, h]

/-- **Steps that come to the same do so when they are atomic.** -/
theorem atomic_congr {t : Step α} (h : s p = t p) : s.atomic p = t.atomic p := by
  rw [atomic, atomic, h]

/-- **Undoing twice is undoing once.** -/
theorem atomic_atomic (s : Step α) : s.atomic.atomic = s.atomic := by
  funext p
  rcases hs : s p with ⟨e | a, q, asked⟩
  · rw [atomic_of_error hs, atomic_of_error (atomic_of_error hs)]
  · rw [atomic_of_ok hs, atomic_of_ok (atomic_of_ok hs)]

/-- **Sequences are associative.** -/
theorem andThen_assoc (s : Step α) (t : α → Step β) (u : β → Step γ) :
    (s.andThen t).andThen u = s.andThen fun a => (t a).andThen u := by
  funext p
  rcases hs : s p with ⟨e | a, q, asked⟩
  · rw [andThen_of_error hs, andThen_of_error (andThen_of_error hs t)]
  · have hst := andThen_of_ok hs t
    rw [andThen_of_ok hs]
    rcases ht : t a q with ⟨e | b, r, more⟩ <;> rw [ht] at hst
    · rw [andThen_of_error ht, andThen_of_error hst]
      rfl
    · rw [andThen_of_ok ht, andThen_of_ok hst, Report.after_after]

/-- **What is undone when it stops may as well be undone in its second part first.** -/
theorem atomic_andThen_atomic (s : Step α) (t : α → Step β) :
    (s.andThen fun a => (t a).atomic).atomic = (s.andThen t).atomic := by
  funext p
  rcases hs : s p with ⟨e | a, q, asked⟩
  · rw [atomic_of_error (andThen_of_error hs _), atomic_of_error (andThen_of_error hs t)]
  · have hinner := andThen_of_ok hs fun a => (t a).atomic
    have hst := andThen_of_ok hs t
    rcases ht : t a q with ⟨e | b, r, more⟩ <;> rw [ht] at hst
    · rw [atomic_of_error ht] at hinner
      rw [atomic_of_error hinner, atomic_of_error hst]
    · rw [atomic_of_ok ht] at hinner
      rw [atomic_of_ok hinner, atomic_of_ok hst]

/-- **Or in its first part.** -/
theorem atomic_atomic_andThen (s : Step α) (t : α → Step β) :
    (s.atomic.andThen t).atomic = (s.andThen t).atomic := by
  funext p
  rcases hs : s p with ⟨e | a, q, asked⟩
  · have hfirst := andThen_of_error (atomic_of_error hs) t
    rw [atomic_of_error hfirst, atomic_of_error (andThen_of_error hs t)]
  · apply atomic_congr
    rw [andThen_of_ok (atomic_of_ok hs), andThen_of_ok hs]

end sequence

section choice

variable {s t u : Step Unit} {p q : Progress} {asked : List String}

/-- A step and, if it fails, another one from the same place.  A step that stops is undone; of two
failures the deeper one is reported. -/
def orElse (s t : Step Unit) : Step Unit := fun p =>
  match s.atomic p with
  | ⟨.error (.failed e), _, asked⟩ => ((t.atomic p).deepened e).after asked
  | r => r

/-- **After a success no other step is tried.** -/
theorem orElse_of_ok (h : s p = ⟨.ok (), q, asked⟩) (t : Step Unit) :
    s.orElse t p = ⟨.ok (), q, asked⟩ := by
  rw [orElse, atomic_of_ok h]

/-- **After a failure the other step is tried, and the deeper error counts.** -/
theorem orElse_of_failed {e : ParseError} (h : s p = ⟨.error (.failed e), q, asked⟩)
    (t : Step Unit) : s.orElse t p = ((t.atomic p).deepened e).after asked := by
  rw [orElse, atomic_of_error h]

/-- **After a breakdown no other step is tried.** -/
theorem orElse_of_broken {b : Breakdown} (h : s p = ⟨.error (.broken b), q, asked⟩)
    (t : Step Unit) : s.orElse t p = ⟨.error (.broken b), p, asked⟩ := by
  rw [orElse, atomic_of_error h]

section second

variable {e : ParseError} {r : Progress} {more : List String}

/-- **If both fail, the deeper error is reported.** -/
theorem orElse_of_both_failed {f : ParseError} (hs : s p = ⟨.error (.failed e), q, asked⟩)
    (ht : t p = ⟨.error (.failed f), r, more⟩) :
    s.orElse t p = ⟨.error (.failed (e.deeper f)), p, asked ++ more⟩ := by
  rw [orElse_of_failed hs, atomic_of_error ht]
  rfl

/-- **If the second succeeds, that is the result.** -/
theorem orElse_of_second_ok (hs : s p = ⟨.error (.failed e), q, asked⟩)
    (ht : t p = ⟨.ok (), r, more⟩) : s.orElse t p = ⟨.ok (), r, asked ++ more⟩ := by
  rw [orElse_of_failed hs, atomic_of_ok ht]
  rfl

/-- **If the second breaks off, so do both together.** -/
theorem orElse_of_second_broken {b : Breakdown} (hs : s p = ⟨.error (.failed e), q, asked⟩)
    (ht : t p = ⟨.error (.broken b), r, more⟩) :
    s.orElse t p = ⟨.error (.broken b), p, asked ++ more⟩ := by
  rw [orElse_of_failed hs, atomic_of_error ht]
  rfl

end second

/-- **A choice is undone when it stops.** -/
theorem atomic_orElse (s t : Step Unit) : (s.orElse t).atomic = s.orElse t := by
  funext p
  rcases hs : s p with ⟨(e | b) | ⟨⟩, q, asked⟩
  · rcases ht : t p with ⟨(f | b) | ⟨⟩, r, more⟩
    · have hst := orElse_of_both_failed hs ht
      rw [atomic_of_error hst, hst]
    · have hst := orElse_of_second_broken hs ht
      rw [atomic_of_error hst, hst]
    · have hst := orElse_of_second_ok hs ht
      rw [atomic_of_ok hst, hst]
  · have hst := orElse_of_broken hs t
    rw [atomic_of_error hst, hst]
  · have hst := orElse_of_ok hs t
    rw [atomic_of_ok hst, hst]

/-- **Choices are associative.** -/
theorem orElse_assoc (s t u : Step Unit) : (s.orElse t).orElse u = s.orElse (t.orElse u) := by
  funext p
  rcases hs : s p with ⟨(e | b) | ⟨⟩, q, asked⟩
  · rcases ht : t p with ⟨(f | b) | ⟨⟩, r, more⟩
    · -- Both have failed, so the third is tried, and all three failures are compared.
      rw [orElse_of_failed (orElse_of_both_failed hs ht), orElse_of_failed hs, atomic_orElse,
        orElse_of_failed ht, Report.deepened_after, Report.deepened_deepened, Report.after_after]
    · rw [orElse_of_broken (orElse_of_second_broken hs ht),
        orElse_of_second_broken hs (orElse_of_broken ht u)]
    · rw [orElse_of_ok (orElse_of_second_ok hs ht), orElse_of_second_ok hs (orElse_of_ok ht u)]
  · rw [orElse_of_broken (orElse_of_broken hs t), orElse_of_broken hs]
  · rw [orElse_of_ok (orElse_of_ok hs t), orElse_of_ok hs]

instance : Std.Associative orElse := ⟨orElse_assoc⟩

/-- **The second step is tried atomically in any case.** -/
theorem orElse_atomic (s t : Step Unit) : s.orElse t.atomic = s.orElse t := by
  unfold orElse
  rw [atomic_atomic]

/-- **So is the first.** -/
theorem atomic_orElse_left (s t : Step Unit) : s.atomic.orElse t = s.orElse t := by
  unfold orElse
  rw [atomic_atomic]

/-- **A success ends a row of alternatives.** -/
theorem foldl_orElse_of_ok (h : s p = ⟨.ok (), q, asked⟩) (ts : List (Step Unit)) :
    ts.foldl orElse s p = ⟨.ok (), q, asked⟩ := by
  induction ts generalizing s with
  | nil => exact h
  | cons t ts ih => exact ih (orElse_of_ok h t)

/-- **So does a breakdown.** -/
theorem foldl_orElse_of_broken {b : Breakdown} (h : s p = ⟨.error (.broken b), p, asked⟩)
    (ts : List (Step Unit)) : ts.foldl orElse s p = ⟨.error (.broken b), p, asked⟩ := by
  induction ts generalizing s with
  | nil => exact h
  | cons t ts ih => exact ih (orElse_of_broken h t)

/-- **Steps that fail hand on to the first one that succeeds.** -/
theorem foldl_orElse_of_found {e : ParseError} {more : List String} {ss : List (Step Unit)}
    (hs : s p = ⟨.error (.failed e), p, asked⟩)
    (hss : ∀ x ∈ ss, ∃ f, (x p).result = .error (.failed f))
    (ht : t p = ⟨.ok (), q, more⟩) (us : List (Step Unit)) :
    ∃ all, (ss ++ t :: us).foldl orElse s p = ⟨.ok (), q, all⟩ := by
  induction ss generalizing s e asked with
  | nil =>
    exact ⟨_, foldl_orElse_of_ok (orElse_of_second_ok hs ht) us⟩
  | cons x ss ih =>
    obtain ⟨⟨f, hf⟩, hss⟩ := List.forall_mem_cons.1 hss
    exact ih (orElse_of_both_failed hs (Report.eq_of_result hf)) hss

/-- **If all steps fail, the deepest failure is reported.** -/
theorem foldl_orElse_of_failures {e : ParseError} {ts : List (Step Unit)} {es : List ParseError}
    (hs : s p = ⟨.error (.failed e), p, asked⟩)
    (hts : ts.map (fun t => (t p).result) = es.map fun f => .error (.failed f)) :
    ∃ all, ts.foldl orElse s p = ⟨.error (.failed (ParseError.deepest e es)), p, all⟩ := by
  induction ts generalizing s e asked es with
  | nil =>
    obtain rfl : es = [] := List.map_eq_nil_iff.1 hts.symm
    exact ⟨asked, hs⟩
  | cons t ts ih =>
    cases es with
    | nil => cases hts
    | cons f es =>
      obtain ⟨ht, hts⟩ := List.cons.inj hts
      have hrest := ih (orElse_of_both_failed hs (Report.eq_of_result ht)) hts
      exact hrest

/-- The first of the steps that succeeds, each one tried from the same place. -/
def firstOf (s : Step Unit) (ts : List (Step Unit)) : Step Unit := ts.foldl orElse s.atomic

/-- **A row of alternatives may be cut in two.** -/
theorem firstOf_append (s : Step Unit) (ts us : List (Step Unit)) :
    firstOf s (ts ++ us) = us.foldl orElse (firstOf s ts) := List.foldl_append

/-- **A row of alternatives is atomic.** -/
theorem atomic_firstOf (s : Step Unit) (ts : List (Step Unit)) :
    (firstOf s ts).atomic = firstOf s ts := by
  have hfold : ∀ x : Step Unit, x.atomic = x → (ts.foldl orElse x).atomic = ts.foldl orElse x := by
    induction ts with
    | nil => exact fun x hx => hx
    | cons t ts ih => exact fun x _ => ih (x.orElse t) (atomic_orElse x t)
  exact hfold s.atomic (atomic_atomic s)

/-- **A choice in front of other steps comes apart.** -/
theorem firstOf_firstOf (s : Step Unit) (ts us : List (Step Unit)) :
    firstOf (firstOf s ts) us = firstOf s (ts ++ us) := by
  rw [firstOf_append, firstOf, atomic_firstOf]

/-- **So does a choice behind other steps.** -/
theorem firstOf_append_firstOf (s t : Step Unit) (ss ts us : List (Step Unit)) :
    firstOf s (ss ++ firstOf t ts :: us) = firstOf s (ss ++ t :: ts ++ us) := by
  rw [firstOf_append, List.foldl_cons, firstOf_append, firstOf_append, List.foldl_cons]
  have hinner : (firstOf s ss).orElse (firstOf t ts) =
      ts.foldl orElse ((firstOf s ss).orElse t) := by
    rw [← orElse_atomic (firstOf s ss) t]
    exact List.foldl_assoc.symm
  rw [hinner]

end choice

end Step
end CommandGrammar
