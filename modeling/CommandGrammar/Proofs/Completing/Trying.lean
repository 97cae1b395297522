/-
# What a completion tries

To find out where the word that is being typed belongs, a completion runs parts of the grammar and
then often goes back to where it was.  It goes back in the line only: what such a run has bound
stays.  A `Try` is one run of that kind, with all that it has bound.

| tried | to find out | goes back |
| --- | --- | --- |
| a child of a sequence | whether it is satisfied | unless it succeeds and leaves a word |
| a round of a repetition | whether the repetition goes on | unless it reads a word and leaves one |
| a leaf or a completer | what it offers | always |

A run binds nothing unless it succeeds: a failure takes back what was bound, but for one kind.  If
an `onlyOne` finds two values, they are bound already, and they stay (`Try.strays_of_bound`).
-/

import CommandGrammar.Proofs.Completing.Asking
import CommandGrammar.Proofs.Steps.Footprint
import CommandGrammar.Proofs.Steps.Undoing

namespace CommandGrammar

namespace Context

variable {c : Context}

/-- **Two lists of values are bound one after the other.** -/
theorem bindAll_append (c : Context) (a b : List (String × Value)) :
    c.bindAll (a ++ b) = (c.bindAll a).bindAll b := List.foldl_append

/-- How many values are bound. -/
def size (c : Context) : Nat := (c.entries.flatMap fun e => e.2).length

/-- **Binding a value adds one.** -/
theorem size_put (c : Context) (key : String) (v : Value) : (c.put key v).size = c.size + 1 := by
  show ((c.entries.put key v).flatMap fun e => e.2).length = _
  unfold size
  induction c.entries with
  | nil => rfl
  | cons e rest ih =>
    obtain ⟨k, vs⟩ := e
    by_cases hk : k = key
    · simp [Entries.put, hk]
      omega
    · simp [Entries.put, hk, ih]
      omega

/-- **Each binding adds one value.** -/
theorem size_bindAll (c : Context) (added : List (String × Value)) :
    (c.bindAll added).size = c.size + added.length := by
  induction added generalizing c with
  | nil => rfl
  | cons e rest ih =>
    have hrest : (c.bindAll (e :: rest)).size = (c.put e.1 e.2).size + rest.length := ih _
    rw [hrest, size_put, List.length_cons]
    omega

/-- **A context that bindings leave as it is has got none.** -/
theorem bindAll_eq_self {added : List (String × Value)} (h : c.bindAll added = c) : added = [] := by
  have hsize := congrArg size h
  rw [size_bindAll] at hsize
  exact List.eq_nil_of_length_eq_zero (by omega)

end Context

/-- Whether a completer only adds to what is bound. -/
def Completer.Adds (k : Completer) : Prop :=
  ∀ source p, ∃ added, (k source p).progress.context = p.context.bindAll added

/-- Whether the completers of a grammar do. -/
def Parameter.CompletersAdd (c : Parameter) : Prop :=
  ∀ n, c.Has n → ∀ k, n.frame.completer = some k → Completer.Adds k

/-- The course of a parse that binds values. -/
def ParseCourse.adding : ParseCourse where
  leads p q := ∃ added, q.context = p.context.bindAll added
  stops _ _ := True
  binds _ _ := True
  refl _ := ⟨[], rfl⟩
  trans := by
    rintro p q r ⟨a, ha⟩ ⟨b, hb⟩
    exact ⟨a ++ b, by rw [hb, ha, Context.bindAll_append]⟩
  back _ _ := trivial
  next _ _ := ⟨[], rfl⟩
  put _ key v _ := ⟨[(key, v)], rfl⟩
  atEnd _ _ := trivial
  fails _ _ := trivial
  reworded _ _ := trivial

/-- The course of a parse that binds nothing. -/
def ParseCourse.still : ParseCourse where
  leads p q := q.context = p.context
  stops _ _ := True
  binds _ _ := False
  refl _ := rfl
  trans h h' := h'.trans h
  back _ _ := trivial
  next _ _ := rfl
  put _ _ _ h := h.elim
  atEnd _ _ := trivial
  fails _ _ := trivial
  reworded _ _ := trivial

namespace Step

/-- Whether a step succeeds and has come far enough. -/
def judged (enough : Progress → Progress → Bool) (s : Step Unit) : Step Bool := fun p =>
  match s p with
  | ⟨.ok (), q, asked⟩ => ⟨.ok (enough p q), q, asked⟩
  | ⟨.error (.failed _), q, asked⟩ => ⟨.ok false, q, asked⟩
  | ⟨.error (.broken b), q, asked⟩ => ⟨.error (.broken b), q, asked⟩

variable {enough : Progress → Progress → Bool} {s : Step Unit} {p q : Progress} {b : Bool}
  {asked : List String}

/-- **A step that stops stops what is made of it.** -/
theorem result_bind_of_error {α β : Type} {t : Step α} {next : α → Step β} {why : Stop}
    (h : (t p).result = .error why) : ((t >>= next) p).result = .error why := by
  rcases ht : t p with ⟨result, r, xs⟩
  rw [ht] at h
  obtain rfl : result = .error why := h
  rw [bind_of_error ht]

/-- **Judging a step leaves it where it ends.** -/
theorem progress_judged (enough : Progress → Progress → Bool) :
    (s.judged enough p).progress = (s p).progress := by
  unfold judged
  rcases s p with ⟨(e | b) | ⟨⟩, q, asked⟩ <;> rfl

/-- **What is judged does not fail**: that is what it tells. -/
theorem judged_ne_failed (e : ParseError) : (s.judged enough p).result ≠ .error (.failed e) := by
  unfold judged
  rcases s p with ⟨(e | b) | ⟨⟩, q, asked⟩ <;> exact fun h => nomatch h

/-- **What is judged has succeeded or failed.** -/
theorem of_judged (h : s.judged enough p = ⟨.ok b, q, asked⟩) :
    (s p = ⟨.ok (), q, asked⟩ ∧ b = enough p q) ∨
      ∃ e, s p = ⟨.error (.failed e), q, asked⟩ ∧ b = false := by
  unfold judged at h
  rcases hs : s p with ⟨(e | k) | ⟨⟩, r, xs⟩ <;> rw [hs] at h <;> cases h
  · exact .inr ⟨e, rfl, rfl⟩
  · exact .inl ⟨rfl, rfl⟩

end Step

/-- **A leaf binds nothing by what it offers.** -/
theorem Leaf.context_complete (o : Occasion) (l : Leaf) (p : Progress) :
    (l.complete o p).progress.context = p.context := by
  obtain ⟨result, stream, asked, c, d, ⟨rfl, -⟩, hrun, -⟩ :=
    (Leaf.alike_complete (R := fun c d => c = p.context ∧ d = p.context)) o l p.stream p.context
      p.context ⟨rfl, rfl⟩
  exact congrArg (·.progress.context) hrun

namespace Parameter

variable {o : Occasion} {c : Parameter} {p q : Progress}

/-- Whether a round of a repetition reads a word and leaves one. -/
def roundGoesOn (p q : Progress) : Bool := q.stream.cursor != p.stream.cursor && q.stream.hasNext

/-- **A child is satisfied if it parses and something is left.** -/
theorem satisfied_eq (o : Occasion) (c : Parameter) :
    satisfied o c = (c.parse o).judged fun _ q => q.stream.hasNext := rfl

/-- **A repetition goes over the words in rounds**, and goes back behind the last one that
counts. -/
theorem passOver_succ (core : Step Unit) (n : Nat) (p : Progress) :
    passOver core (n + 1) p = if p.stream.remaining > 1 then
        (core.judged roundGoesOn >>= fun more =>
          if more then passOver core n else Step.goTo p.stream) p
      else ⟨.ok (), p, []⟩ := by
  rw [passOver]
  dsimp only
  split
  · rw [Step.bind_apply, Step.judged]
    rcases core p with ⟨(e | b) | ⟨⟩, q, asked⟩
    · exact congrArg (Report.mk _ _) (List.append_nil asked).symm
    · rfl
    · dsimp only
      cases hround : roundGoesOn p q with
      | true =>
        have hon : ¬ (q.stream.cursor = p.stream.cursor ∨ (!q.stream.hasNext) = true) := by
          simpa [roundGoesOn] using hround
        rw [if_neg hon]
        rfl
      | false =>
        have hback : q.stream.cursor = p.stream.cursor ∨ (!q.stream.hasNext) = true := by
          rw [roundGoesOn, Bool.and_eq_false_iff] at hround
          simpa using hround
        rw [if_pos hback]
        exact congrArg (Report.mk _ _) (List.append_nil asked).symm
  · rfl

/-- **A leaf that fails has bound nothing.** -/
theorem restores_readAndBind (o : Occasion) (key : String) (l : Leaf) :
    (readAndBind o key l).Restores (·.context) := by
  have hread : (l.read o).Restores (·.context) := fun p _ _ =>
    (ParseCourse.allows_read (C := ParseCourse.still) fun _ _ _ _ => trivial).1
  refine hread.bind fun vs p e => ?_
  split <;> exact fun h => nomatch h

/-- **The core of a parameter binds nothing if it fails.** -/
theorem restores_core (o : Occasion) (c : Parameter) : (c.core o).Restores (·.context) := by
  cases c with
  | leaf f l => exact restores_readAndBind o f.key l
  | all f cs => exact (traceless_core rfl).restores _
  | first f d ds => exact (traceless_core rfl).restores _

/-- **A parameter binds nothing if it fails**, unless an `onlyOne` counts values outside of what
takes failures back. -/
theorem restores_parse (houter : ∀ m ∈ c.frame.modifiers.takeWhile (!·.takesBack),
    m.countsValues = false) : (c.parse o).Restores (·.context) := by
  rw [parse_eq_framed]
  unfold framed
  split
  · exact Modifier.restores_chain (.inl (restores_core o c)) houter
  · exact (Step.traceless_done ()).restores _

/-- **A parse only adds bindings.** -/
theorem adds_parse (o : Occasion) (c : Parameter) : ParseCourse.adding.Governs (c.parse o) :=
  ParseCourse.governs_parse
    (ParseCourse.covers_of_binds (fun _ _ => trivial) fun _ _ _ _ _ _ _ _ => trivial)

/-- **So does what is inside the modifiers.** -/
theorem adds_core (o : Occasion) (c : Parameter) : ParseCourse.adding.Governs (c.core o) :=
  ParseCourse.governs_core
    (ParseCourse.covers_of_binds (fun _ _ => trivial) fun _ _ _ _ _ _ _ _ => trivial)

end Parameter

/-- What offers the words of a completion. -/
inductive Teller
  | leaf (l : Leaf)
  | completer (k : Completer)

/-- The words that are offered. -/
def Teller.tell (o : Occasion) : Teller → Step (List String)
  | leaf l => l.complete o
  | completer k => k o.source

/-- What a completion may try. -/
inductive Tried
  /-- Whether a child of a sequence is satisfied. -/
  | child (c : Parameter)
  /-- Whether a repetition goes on. -/
  | round (c : Parameter)
  /-- What a leaf or a completer offers. -/
  | teller (t : Teller)

/-- The run that is tried; it tells whether the completion goes on behind it. -/
def Tried.step (o : Occasion) : Tried → Step Bool
  | child c => Parameter.satisfied o c
  | round c => (c.core o).judged Parameter.roundGoesOn
  | teller t => t.tell o >>= fun _ => pure false

/-- One run that a completion has tried. -/
structure Try (o : Occasion) where
  tried : Tried
  start : Progress
  /-- Whether the completion goes on behind what is read. -/
  passed : Bool
  stop : Progress
  asked : List String
  ran : tried.step o start = ⟨.ok passed, stop, asked⟩
  /-- What the run has bound. -/
  bound : List (String × Value)
  adds : stop.context = start.context.bindAll bound
  /-- Whether the words that it has read stand before what is completed in the end. -/
  counts : Bool

namespace Try

variable {o : Occasion}

/-- A try inside of something that the completion goes back from. -/
def dropped (t : Try o) : Try o := { t with counts := false }

/-- All that tries have bound, in order. -/
def allBound (ts : List (Try o)) : List (String × Value) := ts.flatMap bound

/-- **Without a try nothing is bound.** -/
@[simp] theorem allBound_nil : allBound ([] : List (Try o)) = [] := rfl

/-- **Tries bind one after the other.** -/
@[simp] theorem allBound_cons (t : Try o) (ts : List (Try o)) :
    allBound (t :: ts) = t.bound ++ allBound ts := rfl

/-- **So do two lists of them.** -/
@[simp] theorem allBound_append (ts us : List (Try o)) :
    allBound (ts ++ us) = allBound ts ++ allBound us := List.flatMap_append

/-- **A try that is dropped keeps what it has bound.** -/
@[simp] theorem allBound_dropped (ts : List (Try o)) : allBound (ts.map dropped) = allBound ts := by
  simp [allBound, List.flatMap_map, dropped]

/-- **The tries that count have bound all exactly if the others have bound nothing.** -/
theorem allBound_filter (c : Context) (ts : List (Try o)) :
    c.bindAll (allBound ts) = c.bindAll (allBound (ts.filter (·.counts))) ↔
      ∀ t ∈ ts, t.counts = false → t.bound = [] := by
  have hle : ∀ us : List (Try o),
      (allBound (us.filter (·.counts))).length ≤ (allBound us).length := by
    intro us
    induction us with
    | nil => exact Nat.le_refl 0
    | cons u us ih =>
      cases hu : u.counts <;> simp [hu] <;> omega
  constructor
  · intro h
    have hsize := congrArg Context.size h
    rw [Context.size_bindAll, Context.size_bindAll] at hsize
    have hlength : (allBound ts).length = (allBound (ts.filter (·.counts))).length := by omega
    clear h hsize
    induction ts with
    | nil => simp
    | cons u us ih =>
      have hus := hle us
      cases hu : u.counts with
      | true =>
        have hrest := ih (by simpa [hu] using hlength)
        simpa [hu] using hrest
      | false =>
        simp only [allBound_cons, List.length_append, hu, Bool.false_eq_true, not_false_eq_true,
          List.filter_cons_of_neg] at hlength
        have hnone : u.bound = [] := List.eq_nil_of_length_eq_zero (by omega)
        have hrest := ih (by omega)
        simpa [hu, hnone] using hrest
  · intro h
    induction ts generalizing c with
    | nil => rfl
    | cons u us ih =>
      have hrest := fun d => ih d fun t ht => h t (List.mem_cons_of_mem u ht)
      cases hu : u.counts with
      | true => simp [hu, Context.bindAll_append, hrest]
      | false => simp [hu, h u List.mem_cons_self hu, hrest]

/-- **A run that is tried is a try**, if it only adds to what is bound. -/
theorem exists_of_ran {tried : Tried} {p q : Progress} {b : Bool} {asked : List String}
    (hran : tried.step o p = ⟨.ok b, q, asked⟩)
    (hadds : ∃ added, q.context = p.context.bindAll added) (counts : Bool) :
    ∃ t : Try o, t.tried = tried ∧ t.start = p ∧ t.passed = b ∧ t.stop = q ∧ t.counts = counts := by
  obtain ⟨bound, hbound⟩ := hadds
  exact ⟨⟨tried, p, b, q, asked, hran, bound, hbound, counts⟩, rfl, rfl, rfl, rfl, rfl⟩

/-- What lets a run bind something that the completion does not go on behind. -/
inductive Strays (t : Try o) : Prop
  /-- A child succeeds and leaves no word. -/
  | readAll {c : Parameter} (tried : t.tried = .child c)
      (succeeds : ∃ asked, c.parse o t.start = ⟨.ok (), t.stop, asked⟩)
      (all : t.stop.stream.hasNext = false)
  /-- A child fails because an `onlyOne` has found several values. -/
  | counted {c : Parameter} (tried : t.tried = .child c)
      (fails : ∃ e asked, c.parse o t.start = ⟨.error (.failed e), t.stop, asked⟩)
      {m : Modifier} (outer : m ∈ c.frame.modifiers.takeWhile (!·.takesBack))
      (counts : m.countsValues = true)
  /-- A round succeeds, and it reads nothing or leaves no word. -/
  | lastRound {c : Parameter} (tried : t.tried = .round c)
      (succeeds : ∃ asked, c.core o t.start = ⟨.ok (), t.stop, asked⟩)
      (last : Parameter.roundGoesOn t.start t.stop = false)
  /-- The completion did go on behind it, and went back behind that. -/
  | passed (passed : t.passed = true)
  /-- A completer has bound it. -/
  | completer {k : Completer} (tried : t.tried = .teller (.completer k))

/-- **A try that ends with the bindings it began with binds nothing.** -/
theorem bound_eq_nil {t : Try o} (h : t.stop.context = t.start.context) : t.bound = [] :=
  Context.bindAll_eq_self (t.adds.symm.trans h)

/-- **Whatever binds something does it in one of these ways.** -/
theorem strays_of_bound (t : Try o) (h : t.bound ≠ []) : t.Strays := by
  cases hpassed : t.passed with
  | true => exact .passed hpassed
  | false =>
    have hran := t.ran
    rcases htried : t.tried with c | c | (l | k)
    · have hchild : (c.parse o).judged (fun _ q => q.stream.hasNext) t.start =
          ⟨.ok t.passed, t.stop, t.asked⟩ := by rwa [htried] at hran
      rcases Step.of_judged hchild with ⟨hparse, hall⟩ | ⟨e, hparse, -⟩
      · exact .readAll htried ⟨t.asked, hparse⟩ (hall.symm.trans hpassed)
      · by_cases houter : ∀ m ∈ c.frame.modifiers.takeWhile (!·.takesBack), m.countsValues = false
        · have hsame := Parameter.restores_parse (o := o) houter t.start e (by rw [hparse])
          rw [hparse] at hsame
          exact absurd (bound_eq_nil hsame) h
        · obtain ⟨m, hnot⟩ := Classical.not_forall.1 houter
          obtain ⟨hm, hcounts⟩ := Classical.not_imp.1 hnot
          exact .counted htried ⟨e, t.asked, hparse⟩ hm (by simpa using hcounts)
    · have hround : (c.core o).judged Parameter.roundGoesOn t.start =
          ⟨.ok t.passed, t.stop, t.asked⟩ := by rwa [htried] at hran
      rcases Step.of_judged hround with ⟨hcore, hlast⟩ | ⟨e, hcore, -⟩
      · exact .lastRound htried ⟨t.asked, hcore⟩ (hlast.symm.trans hpassed)
      · have hsame := Parameter.restores_core o c t.start e (by rw [hcore])
        rw [hcore] at hsame
        exact absurd (bound_eq_nil hsame) h
    · have hleaf : (l.complete o >>= fun _ => pure false) t.start =
          ⟨.ok t.passed, t.stop, t.asked⟩ := by rwa [htried] at hran
      obtain ⟨words, q, xs, ys, hwords, hstop, -⟩ := Step.exists_of_bind_ok hleaf
      obtain rfl : t.stop = q := (congrArg Report.progress hstop).symm
      have hsame := Leaf.context_complete o l t.start
      rw [hwords] at hsame
      exact absurd (bound_eq_nil hsame) h
    · exact .completer htried

end Try
end CommandGrammar
