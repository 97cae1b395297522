/-
# What completers see

A completer is handed the context, so what it offers may depend on what is bound.  A `Trail` is the
way of a completion to a completer, or to a leaf, with all that is tried on it:

| way | tries that count | tries that do not |
| --- | --- | --- |
| through a repetition | the rounds that go on | the last round |
| past a child of a sequence | the child, if it is satisfied | it and all that it tries, if it is optional |
| into a child of a sequence | | the child itself |
| into an alternative | | |

What is seen at its end is what was bound before the completion and what all these tries have bound,
in order (`Trail.context_eq`).  Tries that do not count are taken back in the line but not in the
context, so what is seen is what the words in front have bound if and only if no such try has bound
anything (`completers_see_what_is_tried`); and the word that is being typed is bound as soon as it
can be read (`completer_sees_typed_word`).  Only what the alternatives of a choice bind is taken
back from each other.
-/

import CommandGrammar.Host.Usual
import CommandGrammar.Proofs.Completing.Trying

namespace CommandGrammar

variable {o : Occasion}

/-- **A try of a child is a run of it.** -/
theorem Try.satisfied_eq {t : Try o} {c : Parameter} {b : Bool} (tried : t.tried = .child c)
    (passed : t.passed = b) :
    Parameter.satisfied o c t.start = ⟨.ok b, t.stop, t.asked⟩ := by
  have hran := t.ran
  rwa [tried, passed] at hran

namespace Parameter

variable {c : Parameter} {p q r : Progress} {ts : List (Try o)} {words : List String}

/-- `c.Rounds o n p ts q`: in at most `n` rounds, the tries `ts`, a repetition goes over words from
`p` to `q`. -/
inductive Rounds (o : Occasion) (c : Parameter) : Nat → Progress → List (Try o) → Progress → Prop
  | spent (p : Progress) : Rounds o c 0 p [] p
  | ended {n : Nat} {p : Progress} (last : ¬ p.stream.remaining > 1) : Rounds o c (n + 1) p [] p
  | back {n : Nat} {t : Try o} (ahead : t.start.stream.remaining > 1) (tried : t.tried = .round c)
      (stays : t.passed = false) (counts : t.counts = false) :
      Rounds o c (n + 1) t.start [t] ⟨t.start.stream, t.stop.context⟩
  | on {n : Nat} {t : Try o} {ts : List (Try o)} {q : Progress}
      (ahead : t.start.stream.remaining > 1) (tried : t.tried = .round c) (goes : t.passed = true)
      (counts : t.counts = true) (onward : Rounds o c n t.stop ts q) :
      Rounds o c (n + 1) t.start (t :: ts) q

/-- A parameter that a source may use completes at `q`, behind the words that it repeats, and has
tried `ts`. -/
inductive Over (o : Occasion) (c : Parameter) (p : Progress) : List (Try o) → Progress → Prop
  | once (usable : c.mayUse o.source = true) (repeats : c.isRepeating = false) : Over o c p [] p
  | again {ts : List (Try o)} {q : Progress} (usable : c.mayUse o.source = true)
      (repeats : c.isRepeating = true) (rounds : c.Rounds o p.stream.remaining p ts q) :
      Over o c p ts q

/-- What a parameter offers by itself. -/
def own (o : Occasion) : Parameter → Step (List String)
  | leaf _ l => l.complete o
  | all _ cs => completeAll o cs
  | first _ c cs => completeEach o (c :: cs)

/-- **A parameter completes by what it offers by itself, behind what its repetition reads.** -/
theorem complete_eq_offered (o : Occasion) (c : Parameter) :
    c.complete o = offered o c (c.own o) := by
  cases c with
  | leaf f l => rw [complete, own]
  | all f cs => rw [complete, own]
  | first f c cs => rw [complete, own, completeEach]

namespace Rounds

variable {n : Nat}

/-- **Rounds of a repetition bind what is tried in them.** -/
theorem context_eq (h : c.Rounds o n p ts q) :
    q.context = p.context.bindAll (Try.allBound ts) := by
  induction h with
  | spent p => rfl
  | ended last => rfl
  | @back n t ahead tried stays counts => simp [t.adds]
  | @on n t ts q ahead tried goes counts onward ih =>
    rw [ih, t.adds, Try.allBound_cons, Context.bindAll_append]

/-- **These are the rounds of a repetition.** -/
theorem exists_passOver (h : c.Rounds o n p ts q) :
    ∃ asked, passOver (c.core o) n p = ⟨.ok (), q, asked⟩ := by
  have hround : ∀ (t : Try o) (b : Bool), t.tried = .round c → t.passed = b →
      (c.core o).judged roundGoesOn t.start = ⟨.ok b, t.stop, t.asked⟩ := fun t b tried passed => by
    have hran := t.ran
    rwa [tried, passed] at hran
  induction h with
  | spent p => exact ⟨[], rfl⟩
  | ended last => exact ⟨[], by rw [passOver_succ, if_neg last]⟩
  | @back n t ahead tried stays counts =>
    rw [passOver_succ, if_pos ahead, Step.bind_of_ok (hround t false tried stays)]
    exact ⟨_, rfl⟩
  | @on n t ts q ahead tried goes counts onward ih =>
    obtain ⟨asked, hrest⟩ := ih
    rw [passOver_succ, if_pos ahead, Step.bind_of_ok (hround t true tried goes), if_pos rfl, hrest]
    exact ⟨_, rfl⟩

end Rounds

/-- **A repetition goes over words in rounds**, or it breaks off. -/
theorem rounds_cases (o : Occasion) (c : Parameter) (n : Nat) (p : Progress) :
    (∃ ts q, c.Rounds o n p ts q) ∨
      ∃ b, (passOver (c.core o) n p).result = .error (.broken b) := by
  induction n generalizing p with
  | zero => exact .inl ⟨[], p, .spent p⟩
  | succ n ih =>
    rw [passOver_succ]
    by_cases ahead : p.stream.remaining > 1
    · rw [if_pos ahead]
      rcases hround : (c.core o).judged roundGoesOn p with ⟨(e | b) | more, m, xs⟩
      · exact absurd (congrArg Report.result hround) (Step.judged_ne_failed e)
      · exact .inr ⟨b, Step.result_bind_of_error (congrArg Report.result hround)⟩
      · have hadds := (adds_core o c p).1
        rw [← Step.progress_judged roundGoesOn, hround] at hadds
        have hran : (Tried.round c).step o p = ⟨.ok more, m, xs⟩ := hround
        obtain ⟨t, tried, rfl, hpassed, rfl, hcounts⟩ := Try.exists_of_ran hran hadds more
        rw [Step.bind_of_ok hround]
        cases more with
        | true => exact (ih t.stop).imp_left fun ⟨ts, q, hrounds⟩ =>
            ⟨t :: ts, q, .on ahead tried hpassed hcounts hrounds⟩
        | false => exact .inl ⟨[t], _, .back ahead tried hpassed hcounts⟩
    · exact .inl ⟨[], p, .ended ahead⟩

/-- **Going over words binds what is tried on the way.** -/
theorem Over.context_eq (h : c.Over o p ts q) :
    q.context = p.context.bindAll (Try.allBound ts) := by
  cases h with
  | once usable repeats => rfl
  | again usable repeats rounds => exact rounds.context_eq

/-- **Only a parameter that the source may use goes over words.** -/
theorem Over.usable (h : c.Over o p ts q) : c.mayUse o.source = true := by
  cases h <;> assumption

/-- **A parameter without a completer offers its own words from there.** -/
theorem Over.complete_eq (h : c.Over o p ts q) (free : c.frame.completer = none) :
    ∃ asked, c.complete o p =
      ((c.own o >>= fun words => pure (Text.distinct words)) q).after asked := by
  rw [complete_eq_offered]
  unfold offered
  rw [h.usable, free, Bool.not_true, if_neg Bool.false_ne_true]
  dsimp only
  cases h with
  | once usable repeats =>
    rw [repeats]
    exact ⟨[], rfl⟩
  | again usable repeats rounds =>
    obtain ⟨asked, hover⟩ := rounds.exists_passOver
    have hall : passOverAll (c.core o) p = ⟨.ok (), q, asked⟩ := hover
    rw [repeats, if_pos rfl]
    exact ⟨asked, Step.bind_of_ok hall _⟩

/-- **A parameter without a completer gets over the words that it repeats**, or it breaks off. -/
theorem over_cases (usable : c.mayUse o.source = true) (free : c.frame.completer = none)
    (p : Progress) :
    (∃ ts q, c.Over o p ts q) ∨ ∃ b, (c.complete o p).result = .error (.broken b) := by
  cases hrepeats : c.isRepeating with
  | false => exact .inl ⟨[], p, .once usable hrepeats⟩
  | true =>
    refine (rounds_cases o c p.stream.remaining p).imp
      (fun ⟨ts, q, hrounds⟩ => ⟨ts, q, .again usable hrepeats hrounds⟩) fun ⟨b, hbroken⟩ => ⟨b, ?_⟩
    have hover : (passOverAll (c.core o) p).result = .error (.broken b) := hbroken
    rw [complete_eq_offered, offered, usable, free, Bool.not_true, if_neg Bool.false_ne_true]
    dsimp only
    rw [hrepeats, if_pos rfl]
    exact Step.result_bind_of_error hover

/-- **A completer that is there is asked at once.** -/
theorem complete_of_completer {k : Completer} (usable : c.mayUse o.source = true)
    (own : c.frame.completer = some k) (p : Progress) :
    c.complete o p = (k o.source >>= fun words => pure (Text.distinct words)) p := by
  rw [complete_eq_offered, offered, usable, own, Bool.not_true, if_neg Bool.false_ne_true]

/-- A parameter asks its completer, or it is a leaf and is asked itself. -/
inductive Tells (o : Occasion) : Parameter → Progress → List (Try o) → Teller → Progress → Prop
  | completer {c : Parameter} {k : Completer} {p : Progress} (usable : c.mayUse o.source = true)
      (own : c.frame.completer = some k) : Tells o c p [] (.completer k) p
  | leaf {f : Frame} {l : Leaf} {p q : Progress} {ts : List (Try o)} (free : f.completer = none)
      (reached : (leaf f l).Over o p ts q) : Tells o (.leaf f l) p ts (.leaf l) q

/-- **Behind a child that is satisfied the others are completed.** -/
theorem completeAll_of_passed {t : Try o} (tried : t.tried = .child c) (passed : t.passed = true)
    {cs : List Parameter} :
    completeAll o (c :: cs) t.start = (completeAll o cs t.stop).after t.asked := by
  rw [completeAll_cons, Step.bind_of_ok (t.satisfied_eq tried passed), if_pos rfl]

/-- **A child that is not satisfied is completed**, and if it is optional, so are the others. -/
theorem completeAll_of_stays {t : Try o} (tried : t.tried = .child c) (stays : t.passed = false)
    {cs : List Parameter} :
    completeAll o (c :: cs) t.start = ((complete o c >>= fun words =>
      if !c.isOptional then pure words
      else Step.goTo t.start.stream >>= fun _ => completeAll o cs >>= fun more =>
        pure (words ++ more)) ⟨t.start.stream, t.stop.context⟩).after t.asked := by
  rw [completeAll_cons, Step.bind_of_ok (t.satisfied_eq tried stays), if_neg Bool.false_ne_true,
    Step.goTo_bind]

end Parameter

/-- What is completed. -/
inductive Extent
  | one (c : Parameter)
  /-- The children of a sequence. -/
  | row (cs : List Parameter)
  /-- The alternatives of a choice. -/
  | each (cs : List Parameter)

/-- The words that it offers. -/
def Extent.complete (o : Occasion) : Extent → Step (List String)
  | one c => c.complete o
  | row cs => Parameter.completeAll o cs
  | each cs => Parameter.completeEach o cs

/-- Where a trail ends. -/
inductive End
  /-- At a leaf or a completer that is asked. -/
  | told (teller : Teller) (q : Progress)
  /-- Where the completion has come to its end. -/
  | ended (context : Context)

/-- What is bound there. -/
def End.context : End → Context
  | told _ q => q.context
  | ended c => c

/-- The ways of a completion, with all that is tried on them. -/
inductive Trail (o : Occasion) : Extent → Progress → List (Try o) → End → Prop
  | forbidden {c : Parameter} {p : Progress} (unusable : c.mayUse o.source = false) :
      Trail o (.one c) p [] (.ended p.context)
  | tells {c : Parameter} {p q : Progress} {ts : List (Try o)} {teller : Teller}
      (asks : c.Tells o p ts teller q) : Trail o (.one c) p ts (.told teller q)
  | answers {c : Parameter} {p : Progress} {ts : List (Try o)} {teller : Teller} {t : Try o}
      (asks : c.Tells o p ts teller t.start) (tried : t.tried = .teller teller)
      (counts : t.counts = false) : Trail o (.one c) p (ts ++ [t]) (.ended t.stop.context)
  | all {f : Frame} {cs : List Parameter} {p q : Progress} {ts us : List (Try o)} {e : End}
      (free : f.completer = none) (reached : (Parameter.all f cs).Over o p ts q)
      (inside : Trail o (.row cs) q us e) : Trail o (.one (.all f cs)) p (ts ++ us) e
  | first {f : Frame} {c : Parameter} {cs : List Parameter} {p q : Progress} {ts us : List (Try o)}
      {e : End} (free : f.completer = none) (reached : (Parameter.first f c cs).Over o p ts q)
      (inside : Trail o (.each (c :: cs)) q us e) : Trail o (.one (.first f c cs)) p (ts ++ us) e
  | exhausted {p : Progress} : Trail o (.row []) p [] (.ended p.context)
  /-- A child is satisfied. -/
  | passed {c : Parameter} {cs : List Parameter} {t : Try o} {ts : List (Try o)} {e : End}
      (tried : t.tried = .child c) (passed : t.passed = true) (counts : t.counts = true)
      (onward : Trail o (.row cs) t.stop ts e) : Trail o (.row (c :: cs)) t.start (t :: ts) e
  /-- A child is not satisfied, and the way leads into it. -/
  | inside {c : Parameter} {cs : List Parameter} {t : Try o} {ts : List (Try o)} {e : End}
      (tried : t.tried = .child c) (stays : t.passed = false) (counts : t.counts = false)
      (inside : Trail o (.one c) ⟨t.start.stream, t.stop.context⟩ ts e)
      (last : c.isOptional = true → ∃ teller q, e = .told teller q) :
      Trail o (.row (c :: cs)) t.start (t :: ts) e
  /-- A child is not satisfied, but optional, and the way leads past it. -/
  | behind {c : Parameter} {cs : List Parameter} {t : Try o} {ts us : List (Try o)} {e : End}
      {words asked : List String} {r : Progress} (tried : t.tried = .child c)
      (stays : t.passed = false) (counts : t.counts = false) (front : c.isOptional = true)
      (offers : c.complete o ⟨t.start.stream, t.stop.context⟩ = ⟨.ok words, r, asked⟩)
      (left : Trail o (.one c) ⟨t.start.stream, t.stop.context⟩ us (.ended r.context))
      (onward : Trail o (.row cs) ⟨t.start.stream, r.context⟩ ts e) :
      Trail o (.row (c :: cs)) t.start (t :: (us.map Try.dropped ++ ts)) e
  | chosen {c : Parameter} {cs : List Parameter} {p q : Progress} {ts : List (Try o)}
      {teller : Teller} (inside : Trail o (.one c) p ts (.told teller q)) :
      Trail o (.each (c :: cs)) p ts (.told teller q)
  | other {c : Parameter} {cs : List Parameter} {p q r : Progress} {ts : List (Try o)}
      {teller : Teller} {words asked : List String}
      (earlier : c.complete o p = ⟨.ok words, r, asked⟩)
      (onward : Trail o (.each cs) p ts (.told teller q)) :
      Trail o (.each (c :: cs)) p ts (.told teller q)
  /-- What the alternatives bind is taken back. -/
  | undone {cs : List Parameter} {p : Progress} : Trail o (.each cs) p [] (.ended p.context)

namespace Trail

variable {x : Extent} {p q : Progress} {ts : List (Try o)} {e : End} {teller : Teller}

/-- **What is bound at the end is what was bound before and what all tries have bound.** -/
theorem context_eq (h : Trail o x p ts e) :
    e.context = p.context.bindAll (Try.allBound ts) := by
  have htells : ∀ {c : Parameter} {p q : Progress} {ts : List (Try o)} {teller : Teller},
      c.Tells o p ts teller q → q.context = p.context.bindAll (Try.allBound ts) := by
    rintro c p q ts teller (⟨usable, own⟩ | ⟨free, reached⟩)
    · rfl
    · exact reached.context_eq
  induction h with
  | forbidden unusable => rfl
  | tells asks => exact htells asks
  | @answers c p ts teller t asks tried counts =>
    show t.stop.context = _
    rw [t.adds, htells asks, Try.allBound_append, Context.bindAll_append]
    simp
  | all free reached inside ih =>
    rw [ih, reached.context_eq, Try.allBound_append, Context.bindAll_append]
  | first free reached inside ih =>
    rw [ih, reached.context_eq, Try.allBound_append, Context.bindAll_append]
  | exhausted => rfl
  | @passed c cs t ts e tried passed counts onward ih =>
    rw [ih, t.adds, Try.allBound_cons, Context.bindAll_append]
  | @inside c cs t ts e tried stays counts inside last ih =>
    rw [ih, t.adds, Try.allBound_cons, Context.bindAll_append]
  | @behind c cs t ts us e words asked r tried stays counts front offers left onward ihl iho =>
    have hleft : r.context = t.stop.context.bindAll (Try.allBound us) := ihl
    rw [iho, hleft, t.adds, Try.allBound_cons, Try.allBound_append, Try.allBound_dropped,
      Context.bindAll_append, Context.bindAll_append]
  | chosen inside ih => exact ih
  | other earlier onward ih => exact ih
  | undone => rfl

/-- **What a trail ends at is asked there**: if it stops, the completion does. -/
theorem called (h : Trail o x p ts (.told teller q)) {why : Stop}
    (stops : (teller.tell o q).result = .error why) :
    (x.complete o p).result = .error why := by
  have hbelow : ∀ {c : Parameter} {p m : Progress} {ts : List (Try o)},
      c.frame.completer = none → c.Over o p ts m → (c.own o m).result = .error why →
        (c.complete o p).result = .error why := by
    intro c p m ts free reached hown
    obtain ⟨xs, hcomplete⟩ := reached.complete_eq free
    rw [hcomplete]
    exact Step.result_bind_of_error hown
  generalize hend : End.told teller q = e at h
  induction h with
  | forbidden unusable => cases hend
  | @tells c p q ts teller asks =>
    cases hend
    cases asks with
    | @completer c k p usable own =>
      have hk : (k o.source q).result = .error why := stops
      show (c.complete o q).result = _
      rw [Parameter.complete_of_completer usable own]
      exact Step.result_bind_of_error hk
    | leaf free reached =>
      refine hbelow free reached ?_
      exact stops
  | answers asks tried counts => cases hend
  | all free reached inside ih => exact hbelow free reached (ih hend)
  | first free reached inside ih => exact hbelow free reached (ih hend)
  | exhausted => cases hend
  | @passed c cs t ts e tried passed counts onward ih =>
    show (Parameter.completeAll o (c :: cs) t.start).result = _
    rw [Parameter.completeAll_of_passed tried passed]
    exact ih hend
  | @inside c cs t ts e tried stays counts inside last ih =>
    have hchild : (c.complete o ⟨t.start.stream, t.stop.context⟩).result = .error why := ih hend
    show (Parameter.completeAll o (c :: cs) t.start).result = _
    rw [Parameter.completeAll_of_stays tried stays]
    exact Step.result_bind_of_error hchild
  | @behind c cs t ts us e words asked r tried stays counts front offers left onward ihl iho =>
    have hrest : (Parameter.completeAll o cs ⟨t.start.stream, r.context⟩).result = .error why :=
      iho hend
    show (Parameter.completeAll o (c :: cs) t.start).result = _
    rw [Parameter.completeAll_of_stays tried stays, Step.bind_of_ok offers, front, Bool.not_true,
      if_neg Bool.false_ne_true, Step.goTo_bind]
    exact Step.result_bind_of_error hrest
  | @chosen c cs p q ts teller inside ih =>
    have hchild : (c.complete o p).result = .error why := ih hend
    show (Parameter.completeEach o (c :: cs) p).result = _
    rw [Parameter.completeEach]
    exact Step.result_bind_of_error hchild
  | @other c cs p q r ts teller words asked earlier onward ih =>
    have hrest : (Parameter.completeEach o cs p).result = .error why := ih hend
    show (Parameter.completeEach o (c :: cs) p).result = _
    rw [Parameter.completeEach,
      Step.bind_of_ok (s := (c.complete o).undone) (by unfold Step.undone; rw [earlier])]
    exact Step.result_bind_of_error hrest
  | undone => cases hend

end Trail

/-- A leaf or a completer is asked on a trail, and `P` holds of what it comes to. -/
def Extent.Asked (o : Occasion) (x : Extent) (p : Progress)
    (P : Except Stop (List String) → Prop) : Prop :=
  ∃ ts teller q, Trail o x p ts (.told teller q) ∧ P (teller.tell o q).result

/-- A report is accounted for by trails: it comes to its end on one, and each word that is offered,
or the failure, is that of a leaf or a completer that is asked on one. -/
def Extent.Accounts (o : Occasion) (x : Extent) (p : Progress) : Report (List String) → Prop
  | ⟨.ok words, r, _⟩ => (∃ ts, Trail o x p ts (.ended r.context)) ∧
      ∀ w ∈ words, x.Asked o p fun said => ∃ own, said = .ok own ∧ w ∈ own
  | ⟨.error (.failed e), _, _⟩ => x.Asked o p (· = .error (.failed e))
  | ⟨.error (.broken _), _, _⟩ => True

/-- All reports of a completion are. -/
def Extent.Accounted (o : Occasion) (x : Extent) : Prop :=
  ∀ p, x.Accounts o p (x.complete o p)

namespace Extent

variable {x y : Extent} {p q : Progress} {report : Report (List String)}
  {P : Except Stop (List String) → Prop}

/-- **Who is asked inside a part is asked inside the whole, on a longer trail.** -/
theorem Asked.imp (h : y.Asked o q P)
    (longer : ∀ ts teller r, Trail o y q ts (.told teller r) →
      ∃ us, Trail o x p us (.told teller r)) : x.Asked o p P := by
  obtain ⟨ts, teller, r, htold, hP⟩ := h
  obtain ⟨us, htold⟩ := longer ts teller r htold
  exact ⟨us, teller, r, htold, hP⟩

/-- **Where all trails lead on, an account does.** -/
theorem Accounts.imp (h : y.Accounts o q report)
    (longer : ∀ ts e, Trail o y q ts e → ∃ us, Trail o x p us e) : x.Accounts o p report := by
  rcases report with ⟨(e | b) | words, r, asked⟩
  · exact Asked.imp (P := (· = .error (.failed e))) h fun ts teller r =>
      longer ts (.told teller r)
  · trivial
  · obtain ⟨⟨ts, hend⟩, hwords⟩ := h
    exact ⟨longer ts _ hend, fun w hw =>
      (hwords w hw).imp fun ts teller r => longer ts (.told teller r)⟩

/-- **Words that were asked for before change no account.** -/
theorem Accounts.after (h : x.Accounts o p report) (asked : List String) :
    x.Accounts o p (report.after asked) := by
  rcases report with ⟨(e | b) | words, r, xs⟩ <;> exact h

/-- **An account of words is one of the distinct ones.** -/
theorem Accounts.distinct {s : Step (List String)} (h : x.Accounts o p (s q)) :
    x.Accounts o p ((s >>= fun words => pure (Text.distinct words)) q) := by
  rcases hs : s q with ⟨(e | b) | words, r, xs⟩ <;> rw [hs] at h
  · rw [Step.bind_of_error hs]
    exact h
  · rw [Step.bind_of_error hs]
    trivial
  · rw [Step.bind_of_ok hs]
    obtain ⟨hend, hwords⟩ := h
    exact ⟨hend, fun w hw => hwords w (Text.mem_distinctFrom.1 hw).1⟩

end Extent

namespace Parameter

open Extent

/-- **The alternatives of a choice leave everything as it was.** -/
theorem progress_completeEach : ∀ (cs : List Parameter) (p : Progress),
    (completeEach o cs p).progress = p
  | [], p => by rw [completeEach]; rfl
  | c :: cs, p => by
    rw [completeEach]
    rcases hc : (c.complete o).undone p with ⟨why | own, q, asked⟩
    · obtain rfl : p = q := congrArg Report.progress hc
      rw [Step.bind_of_error hc]
    · obtain rfl : p = q := congrArg Report.progress hc
      rw [Step.bind_of_ok hc, Step.bind_apply]
      have hrest := progress_completeEach cs p
      rcases hmore : completeEach o cs p with ⟨why | more, q, asked⟩ <;> rw [hmore] at hrest <;>
        exact hrest

section

variable {c : Parameter} {cs : List Parameter}

/-- **What is said of a child that is not satisfied is said of its sequence.** -/
theorem asked_inside {t : Try o} {P : Except Stop (List String) → Prop}
    (tried : t.tried = .child c) (stays : t.passed = false) (counts : t.counts = false)
    (h : (Extent.one c).Asked o ⟨t.start.stream, t.stop.context⟩ P) :
    (Extent.row (c :: cs)).Asked o t.start P :=
  h.imp fun ts teller r htold =>
    ⟨t :: ts, .inside tried stays counts htold fun _ => ⟨teller, r, rfl⟩⟩

/-- **A sequence is accounted for if the child at which it stays is.** -/
theorem accounts_stays {t : Try o} (tried : t.tried = .child c) (stays : t.passed = false)
    (counts : t.counts = false) (hc : (Extent.one c).Accounted o)
    (hcs : (Extent.row cs).Accounted o) :
    (Extent.row (c :: cs)).Accounts o t.start (completeAll o (c :: cs) t.start) := by
  rw [completeAll_of_stays tried stays]
  refine Accounts.after ?_ t.asked
  have hchild : (Extent.one c).Accounts o ⟨t.start.stream, t.stop.context⟩
      (c.complete o ⟨t.start.stream, t.stop.context⟩) := hc _
  rcases hoffers : c.complete o ⟨t.start.stream, t.stop.context⟩ with
    ⟨(e | b) | words, r, asked⟩ <;> rw [hoffers] at hchild
  · rw [Step.bind_of_error hoffers]
    exact asked_inside (P := (· = .error (.failed e))) tried stays counts hchild
  · rw [Step.bind_of_error hoffers]
    trivial
  · obtain ⟨⟨us, hleft⟩, hinside⟩ := hchild
    rw [Step.bind_of_ok hoffers]
    refine Accounts.after ?_ asked
    cases hopt : c.isOptional with
    | false =>
      refine ⟨⟨t :: us, .inside tried stays counts hleft fun hyes => ?_⟩, fun w hw =>
        asked_inside tried stays counts (hinside w hw)⟩
      rw [hopt] at hyes
      cases hyes
    | true =>
      rw [Bool.not_true, if_neg Bool.false_ne_true, Step.goTo_bind]
      have hrest : (Extent.row cs).Accounts o ⟨t.start.stream, r.context⟩
          (completeAll o cs ⟨t.start.stream, r.context⟩) := hcs _
      have hbehind : ∀ ts e, Trail o (.row cs) ⟨t.start.stream, r.context⟩ ts e →
          ∃ us, Trail o (.row (c :: cs)) t.start us e := fun ts e onward =>
        ⟨_, .behind tried stays counts hopt hoffers hleft onward⟩
      replace hrest := hrest.imp hbehind
      rcases hmore : completeAll o cs ⟨t.start.stream, r.context⟩ with
        ⟨(e | b) | more, v, xs⟩ <;> rw [hmore] at hrest
      · rw [Step.bind_of_error hmore]
        exact hrest
      · rw [Step.bind_of_error hmore]
        trivial
      · rw [Step.bind_of_ok hmore]
        obtain ⟨hend, hwords⟩ := hrest
        refine ⟨hend, fun w hw => ?_⟩
        rcases List.mem_append.1 hw with hw | hw
        · exact asked_inside tried stays counts (hinside w hw)
        · exact hwords w hw

/-- **A sequence accounts for what its children do.** -/
theorem accounted_row (hcs : ∀ c ∈ cs, (Extent.one c).Accounted o) :
    (Extent.row cs).Accounted o := by
  induction cs with
  | nil =>
    intro p
    show (Extent.row []).Accounts o p (completeAll o [] p)
    rw [completeAll]
    exact ⟨⟨[], .exhausted⟩, by simp⟩
  | cons c cs ih =>
    intro p
    have hrest : (Extent.row cs).Accounted o := ih fun d hd => hcs d (List.mem_cons_of_mem c hd)
    show (Extent.row (c :: cs)).Accounts o p (completeAll o (c :: cs) p)
    rcases htried : satisfied o c p with ⟨(e | b) | passed, m, asked⟩
    · rw [satisfied_eq] at htried
      exact absurd (congrArg Report.result htried) (Step.judged_ne_failed e)
    · rw [completeAll_cons, Step.bind_of_error htried]
      trivial
    · have hadds := (adds_parse o c p).1
      rw [← Step.progress_judged fun _ q => q.stream.hasNext, ← satisfied_eq, htried] at hadds
      have hran : (Tried.child c).step o p = ⟨.ok passed, m, asked⟩ := htried
      obtain ⟨t, tried, rfl, hpassed, rfl, hcounts⟩ := Try.exists_of_ran hran hadds passed
      cases passed with
      | true =>
        rw [completeAll_of_passed tried hpassed]
        refine Accounts.after ((hrest t.stop).imp fun ts e onward => ?_) t.asked
        exact ⟨t :: ts, .passed tried hpassed hcounts onward⟩
      | false => exact accounts_stays tried hpassed hcounts (hcs c List.mem_cons_self) hrest

/-- **So do alternatives.** -/
theorem accounted_each (hcs : ∀ c ∈ cs, (Extent.one c).Accounted o) :
    (Extent.each cs).Accounted o := by
  induction cs with
  | nil =>
    intro p
    show (Extent.each []).Accounts o p (completeEach o [] p)
    rw [completeEach]
    exact ⟨⟨[], .undone⟩, by simp⟩
  | cons c cs ih =>
    intro p
    have hrest : (Extent.each cs).Accounts o p (completeEach o cs p) :=
      ih (fun d hd => hcs d (List.mem_cons_of_mem c hd)) p
    have hchild : (Extent.one c).Accounts o p (c.complete o p) := hcs c List.mem_cons_self p
    have hchosen : ∀ {P : Except Stop (List String) → Prop}, (Extent.one c).Asked o p P →
        (Extent.each (c :: cs)).Asked o p P := fun h =>
      h.imp fun ts teller r htold => ⟨ts, .chosen htold⟩
    show (Extent.each (c :: cs)).Accounts o p (completeEach o (c :: cs) p)
    rw [completeEach]
    rcases hfirst : c.complete o p with ⟨(e | b) | own, q, asked⟩ <;> rw [hfirst] at hchild
    · have hundone : (c.complete o).undone p = ⟨.error (.failed e), p, asked⟩ := by
        rw [Step.undone, hfirst]
      rw [Step.bind_of_error hundone]
      exact hchosen (P := (· = .error (.failed e))) hchild
    · have hundone : (c.complete o).undone p = ⟨.error (.broken b), p, asked⟩ := by
        rw [Step.undone, hfirst]
      rw [Step.bind_of_error hundone]
      trivial
    · have hundone : (c.complete o).undone p = ⟨.ok own, p, asked⟩ := by
        rw [Step.undone, hfirst]
      rw [Step.bind_of_ok hundone]
      refine Accounts.after ?_ asked
      have hother : ∀ {P : Except Stop (List String) → Prop}, (Extent.each cs).Asked o p P →
          (Extent.each (c :: cs)).Asked o p P := fun h =>
        h.imp fun ts teller r htold => ⟨ts, .other hfirst htold⟩
      have hsame : (completeEach o cs p).progress = p := progress_completeEach cs p
      rcases hmore : completeEach o cs p with ⟨(e | b) | more, v, xs⟩ <;> rw [hmore] at hrest hsame
      · rw [Step.bind_of_error hmore]
        exact hother (P := (· = .error (.failed e))) hrest
      · rw [Step.bind_of_error hmore]
        trivial
      · obtain rfl : v = p := hsame
        rw [Step.bind_of_ok hmore]
        refine ⟨⟨[], .undone⟩, fun w hw => ?_⟩
        rcases List.mem_append.1 hw with hw | hw
        · exact hchosen (hchild.2 w hw)
        · exact hother (hrest.2 w hw)

/-- **Whoever tells the words accounts for them**, and what is left behind is left by a try. -/
theorem accounts_tells {p q : Progress} {ts : List (Try o)} {teller : Teller}
    (asks : c.Tells o p ts teller q)
    (adds : ∃ added, (teller.tell o q).progress.context = q.context.bindAll added) :
    (Extent.one c).Accounts o p (teller.tell o q) := by
  rcases hsaid : teller.tell o q with ⟨(e | b) | said, r, xs⟩ <;> rw [hsaid] at adds
  · exact ⟨ts, teller, q, .tells asks, congrArg Report.result hsaid⟩
  · trivial
  · have hran : (Tried.teller teller).step o q = ⟨.ok false, r, xs ++ []⟩ :=
      Step.bind_of_ok hsaid _
    obtain ⟨t, tried, rfl, hpassed, rfl, hcounts⟩ := Try.exists_of_ran hran adds false
    exact ⟨⟨_, .answers asks tried hcounts⟩, fun w hw =>
      ⟨ts, teller, t.start, .tells asks, said, congrArg Report.result hsaid, hw⟩⟩

end

/-- **A completion is accounted for by trails**, if the completers of the grammar only add to what
is bound. -/
theorem accounted (c : Parameter) (adds : c.CompletersAdd) : (Extent.one c).Accounted o := by
  induction c using inductionOnChildren with
  | step c ih =>
    have hchildren : ∀ d ∈ c.children, (Extent.one d).Accounted o := fun d hd =>
      ih d hd fun n hn => adds n (.child hd hn)
    intro p
    show (Extent.one c).Accounts o p (c.complete o p)
    cases usable : c.mayUse o.source with
    | false =>
      rw [complete_eq_offered, offered, usable]
      exact ⟨⟨[], .forbidden usable⟩, by simp⟩
    | true =>
      cases hown : c.frame.completer with
      | some k =>
        have hadds := adds c (.self c) k hown o.source p
        rw [complete_of_completer usable hown]
        exact (accounts_tells (.completer usable hown) hadds).distinct
      | none =>
        rcases over_cases usable hown p with ⟨ts, q, reached⟩ | ⟨b, hbroken⟩
        · obtain ⟨asked, hcomplete⟩ := reached.complete_eq hown
          rw [hcomplete]
          refine Accounts.after (Accounts.distinct ?_) asked
          cases c with
          | leaf f l => exact accounts_tells (.leaf hown reached) ⟨[], Leaf.context_complete o l q⟩
          | all f cs => exact (accounted_row hchildren q).imp fun us e inside =>
              ⟨_, .all hown reached inside⟩
          | first f d ds => exact (accounted_each hchildren q).imp fun us e inside =>
              ⟨_, .first hown reached inside⟩
        · rcases hreport : c.complete o p with ⟨result, r, asked⟩
          rw [hreport] at hbroken
          obtain rfl : result = .error (.broken b) := hbroken
          trivial

/-- **A completer sees what was bound before and what is tried on the way to it.**  Wherever a
completion asks a completer or a leaf, at whatever depth of sequences, choices and repetitions, all
that the tries on the way have bound is bound there, in order.  So what is seen is what the words in
front of it have bound if and only if the tries that are taken back, of the child itself or of
optional children in front of it, have bound nothing; and such a try binds something only if it has
read the word that is being typed, failed by counting, or lies inside of a child that the way leads
past.  Every word that is offered is offered at such a place, and a completion fails exactly if what
is asked at such a place fails. -/
theorem completers_see_what_is_tried (o : Occasion) (c : Parameter) (adds : c.CompletersAdd)
    (p : Progress) :
    (∀ ts teller q, Trail o (.one c) p ts (.told teller q) →
      (∀ why, (teller.tell o q).result = .error why → (c.complete o p).result = .error why) ∧
      q.context = p.context.bindAll (Try.allBound ts) ∧
      (q.context = p.context.bindAll (Try.allBound (ts.filter (·.counts))) ↔
        ∀ t ∈ ts, t.counts = false → t.bound = []) ∧
      ∀ t ∈ ts, t.bound ≠ [] → t.Strays) ∧
    (∀ words w, (c.complete o p).result = .ok words → w ∈ words →
      ∃ ts teller q, Trail o (.one c) p ts (.told teller q) ∧
        ∃ own, (teller.tell o q).result = .ok own ∧ w ∈ own) ∧
    ∀ e, (c.complete o p).result = .error (.failed e) ↔
      ∃ ts teller q, Trail o (.one c) p ts (.told teller q) ∧
        (teller.tell o q).result = .error (.failed e) := by
  have haccounts : (Extent.one c).Accounts o p (c.complete o p) := c.accounted adds p
  refine ⟨fun ts teller q trail => ?_, fun words w hwords hw => ?_, fun e => ⟨fun hfails => ?_, ?_⟩⟩
  · have hcontext : q.context = p.context.bindAll (Try.allBound ts) := trail.context_eq
    refine ⟨fun why stops => trail.called stops, hcontext, ?_, fun t _ => t.strays_of_bound⟩
    rw [hcontext]
    exact Try.allBound_filter p.context ts
  · rcases hreport : c.complete o p with ⟨result, r, asked⟩
    rw [hreport] at haccounts hwords
    obtain rfl : result = .ok words := hwords
    exact haccounts.2 w hw
  · rcases hreport : c.complete o p with ⟨result, r, asked⟩
    rw [hreport] at haccounts hfails
    obtain rfl : result = .error (.failed e) := hfails
    exact haccounts
  · rintro ⟨ts, teller, q, trail, hfails⟩
    exact trail.called hfails

/-- **A completer sees the words in front of it**: behind `alba` the completer of a pair of towns,
which offers the keys that are bound, sees the one town, and nothing of `x`, which is no pair. -/
theorem completer_sees_word_in_front :
    let o : Occasion := ⟨.trusted "tester", ⟨2024, 5, 31, 12, 34, 56, 789012, none⟩, .usual⟩
    let keys : Completer := fun _ => do return (← Step.here).context.keys
    let town : Parameter := .leaf { key := "town" } .text
    let pair : Parameter :=
      .all { completer := some keys } [.leaf { key := "from" } .text, .leaf { key := "to" } .text]
    let c : Parameter := .all {} [town, pair]
    let p : Progress := .ofStream (.ofTyped .spaced "alba x")
    c.CompletersAdd ∧ (c.complete o p).result = .ok ["town"] ∧
      ∃ ts q, Trail o (.one c) p ts (.told (.completer keys) q) ∧
        ts.map (·.counts) = [true, false] ∧
        q.context = p.context.bindAll [("town", .text "alba")] ∧
        q.context = p.context.bindAll (Try.allBound (ts.filter (·.counts))) := by
  intro o keys town pair c p
  have adds : c.CompletersAdd := by
    intro n hn k hk
    rcases hn.cases with rfl | ⟨d, hd, hn⟩
    · cases hk
    · have hd : d ∈ [town, pair] := hd
      rcases List.mem_cons.1 hd with rfl | hd
      · obtain rfl := hn.of_leaf
        cases hk
      · obtain rfl := List.mem_singleton.1 hd
        rcases hn.of_pair with rfl | rfl | rfl
        · obtain rfl := Option.some.inj hk
          exact fun source q => ⟨[], rfl⟩
        · cases hk
        · cases hk
  let behind : Context := { entries := [("town", [.text "alba"])] }
  let front : Progress := ⟨⟨"alba x", [⟨"alba", 0, 4⟩, ⟨"x", 5, 6⟩], none, 1, by decide⟩, behind⟩
  have htown : satisfied o town p = ⟨.ok true, front, []⟩ := rfl
  have hpair : satisfied o pair front = ⟨.ok false, front, []⟩ := rfl
  let first : Try o := ⟨.child town, p, true, front, [], htown, [("town", .text "alba")], rfl, true⟩
  let second : Try o := ⟨.child pair, front, false, front, [], hpair, [], rfl, false⟩
  have trail : Trail o (.one c) p ([] ++ [first, second]) (.told (.completer keys) front) :=
    .all rfl (.once rfl rfl) (.passed (t := first) rfl rfl rfl
      (.inside (t := second) rfl rfl rfl (.tells (.completer rfl rfl)) fun _ => ⟨_, _, rfl⟩))
  obtain ⟨-, hcontext, hfront, -⟩ := (completers_see_what_is_tried o c adds p).1 _ _ _ trail
  refine ⟨adds, rfl, _, _, trail, rfl, hcontext, hfront.2 fun t ht hcounts => ?_⟩
  have ht : t ∈ [first, second] := ht
  rcases List.mem_cons.1 ht with rfl | ht
  · cases hcounts
  · obtain rfl := List.mem_singleton.1 ht
    rfl

/-- **A completer sees the word that is being typed**, if it can be read: in a sequence the
completer of a number sees the number that is there for now, and the one that an optional child in
front of it has tried to be, though alone it sees nothing. -/
theorem completer_sees_typed_word :
    let o : Occasion := ⟨.trusted "tester", ⟨2024, 5, 31, 12, 34, 56, 789012, none⟩, .usual⟩
    let keys : Completer := fun _ => do return (← Step.here).context.keys
    let day : Parameter := .leaf { key := "day", modifiers := [.optional] } .integer
    let hour : Parameter := .leaf { key := "hour", completer := some keys } .integer
    let p : Progress := .ofStream (.ofTyped .spaced "5")
    p.context.keys = [] ∧ (hour.complete o p).result = .ok [] ∧
      ((all {} [hour]).complete o p).result = .ok ["hour"] ∧
      ((all {} [day, hour]).complete o p).result = .ok ["day", "hour"] := by
  exact ⟨rfl, rfl, rfl, rfl⟩

end Parameter
end CommandGrammar
