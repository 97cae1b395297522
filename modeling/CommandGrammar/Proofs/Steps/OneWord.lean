/-
# Leaves that read one word

Most leaves read one word, and all that they look at is that word.  So what they make of it is a
ruling (`Ruling`) that does not depend on the line that the word is read from, on where it stands
there or on what follows it; only the place of a failure does.

| ruling | report |
| --- | --- |
| `taken` | a result, with the line read one word further |
| `refused` | the problem, where the word begins |
| `broken` | the breakdown |

A step `Step.Judges` a word if it comes to such a ruling on it.  Behind the word it may only settle
on one (`Step.Settles`): what it does then neither reads nor looks ahead.  Modifiers that run what
they wrap once keep this up (`Parameter.judges_parse`).
-/

import CommandGrammar.Parameter.Parse
import CommandGrammar.Proofs.Steps.Modifiers

namespace CommandGrammar

variable {α β : Type} {w : String} {c : Context} {o : Occasion}

/-- What a step makes of one word. -/
inductive Ruling (α : Type)
  /-- The word is read: the result, and what is bound then. -/
  | taken (a : α) (context : Context)
  | refused (problem : Problem)
  | broken (b : Breakdown)

/-- The report tells the ruling on a word that is read from `s` to `r`. -/
inductive Ruling.Told (s r : TokenStream) (asked : List String) : Ruling α → Report α → Prop
  | taken (a : α) (c : Context) : Told s r asked (.taken a c) ⟨.ok a, ⟨r, c⟩, asked⟩
  | refused (problem : Problem) (q : Progress) :
      Told s r asked (.refused problem)
        ⟨.error (.failed (s.errorAt s.position problem)), q, asked⟩
  | broken (b : Breakdown) (q : Progress) :
      Told s r asked (.broken b) ⟨.error (.broken b), q, asked⟩

/-- **A ruling is told behind further questions.** -/
theorem Ruling.Told.after {s r : TokenStream} {asked : List String} {v : Ruling α} {x : Report α}
    (h : v.Told s r asked x) (more : List String) : v.Told s r (more ++ asked) (x.after more) := by
  cases h with
  | taken a c => exact .taken a c
  | refused problem q => exact .refused problem q
  | broken b q => exact .broken b q

/-- **Reading a word stays on the line**, and there was something ahead. -/
theorem TokenStream.of_next_ok {s r : TokenStream} (h : s.next = .ok (w, r)) :
    r.raw = s.raw ∧ s.hasNext = true := by
  rcases s.next_cases with ⟨hc, hnext, -⟩ | ⟨hnext, -⟩
  · rw [hnext] at h
    cases h
    exact ⟨rfl, by rw [TokenStream.hasNext, decide_eq_true hc, Bool.true_or]⟩
  · rw [hnext] at h
    cases h

namespace Step

/-- With the bindings `c`, the step comes to one ruling on a word, wherever the word is read. -/
def Judges (w : String) (c : Context) (step : Step α) : Prop :=
  ∃ (v : Ruling α) (asked : List String), ∀ s r, s.next = .ok (w, r) →
    v.Told s r asked (step ⟨s, c⟩)

/-- With the bindings `c`, the step comes to one ruling behind a word that begins at the place it
is given, wherever that is. -/
def Settles (c : Context) (step : Int → Step α) : Prop :=
  ∃ (v : Ruling α) (asked : List String), ∀ s r : TokenStream, r.raw = s.raw →
    v.Told s r asked (step s.position ⟨r, c⟩)

section settles

variable {step : Int → Step α} {next : α → Int → Step β}

/-- **A step that only returns is settled.** -/
theorem settles_pure (a : α) : Settles c fun _ => (pure a : Step α) :=
  ⟨.taken a c, [], fun _ _ _ => .taken a c⟩

/-- **A breakdown is settled.** -/
theorem settles_broken (b : Breakdown) : Settles c fun _ => (Step.stop (.broken b) : Step α) :=
  ⟨.broken b, [], fun _ _ _ => .broken b _⟩

/-- **A failure at the place of the word is settled.** -/
theorem settles_failAt (problem : Problem) :
    Settles c fun i => (Step.failAt i problem : Step α) := by
  refine ⟨.refused problem, [], fun s r hraw => ?_⟩
  have herror : r.errorAt s.position problem = s.errorAt s.position problem := by
    rw [TokenStream.errorAt, hraw]
    rfl
  show Ruling.Told s r [] _ ⟨.error (.failed (r.errorAt s.position problem)), ⟨r, c⟩, []⟩
  rw [herror]
  exact .refused problem _

/-- **A question is settled.** -/
theorem settles_note (word : String) : Settles c fun _ => Step.note word :=
  ⟨.taken () c, [word], fun _ _ _ => .taken () c⟩

/-- **The binding of a value is settled.** -/
theorem settles_put (key : String) (v : Value) : Settles c fun _ => Step.put key v :=
  ⟨.taken () (c.put key v), [], fun _ _ _ => .taken () _⟩

/-- **The binding of several values is settled.** -/
theorem settles_putAll (key : String) (vs : List Value) :
    Settles c fun _ => Step.putAll key vs :=
  ⟨.taken () (c.putAll key vs), [], fun _ _ _ => .taken () _⟩

/-- **What follows a ruling comes to a ruling.** -/
theorem exists_told_bind (v : Ruling α) (asked : List String)
    (hnext : ∀ a d, Settles d (next a)) :
    ∃ (v' : Ruling β) (asked' : List String), ∀ (s r : TokenStream) (step : Step α) (p : Progress),
      r.raw = s.raw → v.Told s r asked (step p) →
        v'.Told s r asked' ((step >>= fun a => next a s.position) p) := by
  cases v with
  | taken a d =>
    obtain ⟨v', more, hv'⟩ := hnext a d
    refine ⟨v', asked ++ more, fun s r step p hraw h => ?_⟩
    generalize hx : step p = x at h
    cases h
    rw [Step.bind_of_ok hx]
    exact (hv' s r hraw).after asked
  | refused problem =>
    refine ⟨.refused problem, asked, fun s r step p _ h => ?_⟩
    generalize hx : step p = x at h
    cases h with
    | refused _ q =>
      rw [Step.bind_of_error hx]
      exact .refused problem q
  | broken b =>
    refine ⟨.broken b, asked, fun s r step p _ h => ?_⟩
    generalize hx : step p = x at h
    cases h with
    | broken _ q =>
      rw [Step.bind_of_error hx]
      exact .broken b q

/-- **Settled steps behind one another are settled.** -/
theorem Settles.bind (h : Settles c step) (hnext : ∀ a d, Settles d (next a)) :
    Settles c fun i => step i >>= fun a => next a i := by
  obtain ⟨v, asked, hv⟩ := h
  obtain ⟨v', asked', hv'⟩ := exists_told_bind v asked hnext
  exact ⟨v', asked', fun s r hraw => hv' s r (step s.position) ⟨r, c⟩ hraw (hv s r hraw)⟩

end settles

section judges

variable {step : Step α}

/-- **Reading the word and settling what follows judges the word.** -/
theorem judges_next_bind {next : String → Step β} (h : Settles c fun _ => next w) :
    Judges w c (Step.next >>= next) := by
  obtain ⟨v, asked, hv⟩ := h
  refine ⟨v, asked, fun s r hnext => ?_⟩
  have hread : Step.next ⟨s, c⟩ = ⟨.ok w, ⟨r, c⟩, []⟩ := by
    unfold Step.next
    rw [hnext]
  rw [Step.bind_of_ok hread]
  exact hv s r (TokenStream.of_next_ok hnext).1

/-- **Reading the word with its place and settling what follows judges the word.** -/
theorem judges_token_bind {next : String × Int → Step β} (h : Settles c fun i => next (w, i)) :
    Judges w c (Step.token >>= next) := by
  obtain ⟨v, asked, hv⟩ := h
  refine ⟨v, asked, fun s r hnext => ?_⟩
  have hread : Step.token ⟨s, c⟩ = ⟨.ok (w, s.position), ⟨r, c⟩, []⟩ := by
    unfold Step.token
    rw [hnext]
  rw [Step.bind_of_ok hread]
  exact hv s r (TokenStream.of_next_ok hnext).1

/-- **A look at the word goes on to judge it.** -/
theorem judges_peek_bind {next : String → Step β} (h : Judges w c (next w)) :
    Judges w c (Step.peek >>= next) := by
  obtain ⟨v, asked, hv⟩ := h
  refine ⟨v, asked, fun s r hnext => ?_⟩
  have hread : Step.peek ⟨s, c⟩ = ⟨.ok w, ⟨s, c⟩, []⟩ := by
    unfold Step.peek
    rw [TokenStream.peek_eq_map_next, hnext]
    rfl
  rw [Step.bind_of_ok hread]
  exact hv s r hnext

/-- **Behind the word, the step may go on to settle**, and tell a failure where the word begins. -/
theorem Judges.here_bind (h : Judges w c step) (next : α → Int → Step β)
    (hnext : ∀ a d, Settles d (next a)) :
    Judges w c (Step.here >>= fun p => step >>= fun a => next a p.stream.position) := by
  obtain ⟨v, asked, hv⟩ := h
  obtain ⟨v', asked', hv'⟩ := exists_told_bind v asked hnext
  exact ⟨v', asked', fun s r hread =>
    hv' s r step ⟨s, c⟩ (TokenStream.of_next_ok hread).1 (hv s r hread)⟩

/-- **What is settled behind a judgement belongs to it.** -/
theorem Judges.bind {next : α → Step β} (h : Judges w c step)
    (hnext : ∀ a d, Settles d fun _ => next a) : Judges w c (step >>= next) :=
  h.here_bind (fun a _ => next a) hnext

/-- **What changes the wording of failures alone judges a word, too.** -/
theorem Judges.reworded {outer : Step α} (h : Judges w c step) (f : Problem → Problem)
    (ok : ∀ p q a asked, step p = ⟨.ok a, q, asked⟩ → outer p = ⟨.ok a, q, asked⟩)
    (failed : ∀ p e q asked, p.stream.hasNext = true → step p = ⟨.error (.failed e), q, asked⟩ →
      ∃ q', outer p = ⟨.error (.failed { e with problem := f e.problem }), q', asked⟩)
    (broken : ∀ p b q asked, step p = ⟨.error (.broken b), q, asked⟩ →
      ∃ q', outer p = ⟨.error (.broken b), q', asked⟩) : Judges w c outer := by
  obtain ⟨v, asked, hv⟩ := h
  cases v with
  | taken a d =>
    refine ⟨.taken a d, asked, fun s r hread => ?_⟩
    have hrun := hv s r hread
    generalize hx : step ⟨s, c⟩ = x at hrun
    cases hrun
    rw [ok _ _ _ _ hx]
    exact .taken a d
  | refused problem =>
    refine ⟨.refused (f problem), asked, fun s r hread => ?_⟩
    have hrun := hv s r hread
    generalize hx : step ⟨s, c⟩ = x at hrun
    cases hrun with
    | refused _ q =>
      obtain ⟨q', hout⟩ := failed _ _ _ _ (TokenStream.of_next_ok hread).2 hx
      rw [hout]
      exact .refused (f problem) q'
  | broken b =>
    refine ⟨.broken b, asked, fun s r hread => ?_⟩
    have hrun := hv s r hread
    generalize hx : step ⟨s, c⟩ = x at hrun
    cases hrun with
    | broken _ q =>
      obtain ⟨q', hout⟩ := broken _ _ _ _ hx
      rw [hout]
      exact .broken b q'

/-- **Going back on failure does not change the judgement.** -/
theorem Judges.atomic (h : Judges w c step) : Judges w c step.atomic := by
  refine h.reworded id (fun p q a asked hx => ?_) (fun p e q asked _ hx => ⟨p, ?_⟩)
    fun p b q asked hx => ⟨p, ?_⟩ <;> unfold Step.atomic <;> rw [hx]
  rfl

end judges

end Step

namespace Leaf

open Step

/-- Whether a leaf reads one word, whatever it makes of it. -/
def readsOne : Leaf → Bool
  | nothing | restJoined | restRaw => false
  | literal _ words => words.length == 1
  | _ => true

/-- **A leaf that reads one token judges a word.** -/
theorem judges_readToken (read : String → Except Problem Value) :
    Judges w c (readToken read) := by
  refine judges_token_bind ?_
  dsimp only
  split
  · exact settles_pure _
  · exact settles_failAt _

/-- **The values of the candidates are settled.** -/
theorem settles_valuesOf (ch : Choice) :
    ∀ (names : List String) (c : Context), Settles c fun i => valuesOf ch i names
  | [], _ => settles_pure _
  | name :: rest, c => by
    unfold valuesOf
    split
    · exact (settles_valuesOf ch rest c).bind fun _ _ => settles_pure _
    · exact settles_failAt _
    · exact settles_broken _

/-- **The choice of candidates is settled.** -/
theorem settles_candidates (ch : Choice) (word : String) :
    Settles c fun _ => candidates ch word := by
  unfold candidates
  cases ch.reported with
  | false => exact settles_pure _
  | true => exact (settles_note word).bind fun _ _ => settles_pure _

/-- **A choice judges a word.** -/
theorem judges_readChoice (h : Host) (ch : Choice) : Judges w c (readChoice h ch) := by
  refine judges_token_bind ((settles_candidates ch w).bind fun names d => ?_)
  split
  · exact settles_broken _
  · exact settles_failAt _
  · exact (settles_valuesOf ch _ d).bind fun _ _ => settles_pure _

/-- **A selector judges a word.** -/
theorem judges_readSelector (o : Occasion) (sel : Selector) :
    Judges w c (readSelector o sel) := by
  refine judges_peek_bind ?_
  split
  · refine judges_token_bind ?_
    dsimp only
    split
    · exact settles_failAt _
    · exact settles_failAt _
    · split
      · exact settles_failAt _
      · exact settles_pure _
  · exact judges_readChoice _ _

/-- **A duration judges a word.** -/
theorem judges_readDuration : Judges w c readDuration := by
  refine judges_token_bind ?_
  dsimp only
  split
  · exact settles_pure _
  · exact settles_broken _
  · exact settles_failAt _

/-- **A literal of one word judges a word.** -/
theorem judges_readWord (word : String) : Judges w c (readWords [word]) := by
  have hword : Settles c fun i =>
      if sameWord w word then readWords [] else Step.failAt i (.literalExpected word w) := by
    split
    · exact settles_pure ()
    · exact settles_failAt _
  exact judges_token_bind hword

/-- **A leaf that reads one word judges it.** -/
theorem judges_read {l : Leaf} (h : l.readsOne = true) : Judges w c (l.read o) := by
  cases l <;> unfold read
  case text => exact judges_next_bind (settles_pure _)
  case integer | real | truth | moment => exact judges_readToken _
  case nothing | restJoined | restRaw => cases h
  case duration => exact judges_readDuration
  case literal v words =>
    obtain ⟨word, rfl⟩ := List.length_eq_one_iff.1 (beq_iff_eq.1 h)
    exact (judges_readWord word).bind fun _ _ => settles_pure _
  case choice ch => exact judges_readChoice o.host ch
  case selector sel => exact judges_readSelector o sel

end Leaf

namespace Modifier

open Step

/-- Whether a modifier runs what it wraps once, where a word is ahead. -/
def runsOnce : Modifier → Bool
  | allOf | optionalWeak => false
  | repeated n => n == 1
  | _ => true

variable {inner : Step Unit} {key : String}

/-- **What may be given only once judges a word if the inner step does.** -/
theorem judges_runOnlyOne (h : Judges w c inner) : Judges w c (runOnlyOne key inner) := by
  have hcount : ∀ d : Context, Settles d fun i => if (d.values key).length > 1 then
      Step.failAt i (.severalValues key) else pure () := fun d => by
    split
    · exact settles_failAt _
    · exact settles_pure ()
  -- The values are counted where the inner step ends, which is what `d` stands for.
  exact h.here_bind (fun _ i => Step.here >>= fun p =>
    if (p.context.values key).length > 1 then Step.failAt i (.severalValues key) else pure ())
    fun _ d => hcount d

/-- **A step with a default judges a word if the inner one does.** -/
theorem judges_runDefault (h : Judges w c inner) (value : Option Value) :
    Judges w c (runDefault key value inner) := by
  have hdefault : ∀ (d : Context) (put : Step Unit), Settles d (fun _ => put) →
      Settles d fun _ => if !d.has key then put else pure () := fun d put hput => by
    split
    · exact hput
    · exact settles_pure ()
  cases value with
  | some v => exact h.bind fun _ d => hdefault d (Step.put key v) (settles_put key v)
  | none => exact h.bind fun _ d => hdefault d (pure ()) (settles_pure ())

/-- **A single run judges a word if the inner step does.** -/
theorem judges_runTimes (h : Judges w c inner) : Judges w c (runTimes inner 1 1 1) := by
  refine h.reworded (.inAttempt · 1 1) (fun p q a asked hx => ?_) (fun p e q asked _ hx => ⟨q, ?_⟩)
    fun p b q asked hx => ⟨q, ?_⟩ <;> unfold runTimes <;> rw [hx]
  exact congrArg (Report.mk _ _) (List.append_nil asked)

/-- **An optional step judges a word if the inner one does.** -/
theorem judges_runOptional (h : Judges w c inner) : Judges w c (runOptional inner) := by
  refine h.atomic.reworded id (fun p q a asked hx => ?_) (fun p e q asked hnext hx => ⟨q, ?_⟩)
    fun p b q asked hx => ⟨q, ?_⟩ <;> unfold runOptional <;> rw [hx]
  exact if_pos hnext

/-- **Modifiers that run the inner step once judge a word if it does.** -/
theorem judges_chain (source : Source) (h : Judges w c inner) :
    ∀ {ms : List Modifier}, ms.all runsOnce = true → Judges w c (chain key source ms inner)
  | [], _ => h
  | m :: ms, hms => by
    rw [List.all_cons, Bool.and_eq_true] at hms
    have hinner := judges_chain source h hms.2
    rw [chain_cons]
    cases m with
    | onlyOne => exact judges_runOnlyOne hinner
    | allOf => cases hms.1
    | repeated n =>
      obtain rfl : n = 1 := beq_iff_eq.1 hms.1
      exact (judges_runTimes hinner).atomic
    | optional => exact judges_runOptional hinner
    | optionalWeak => cases hms.1
    | default v => exact judges_runDefault hinner (some v)
    | defaultBy value => exact judges_runDefault hinner (value source)
    | plain => exact hinner

end Modifier

namespace Parameter

/-- Whether a parameter is a leaf that reads one word. -/
def readsOne : Parameter → Bool
  | leaf f l => l.readsOne && f.modifiers.all Modifier.runsOnce
  | _ => false

/-- **A parameter that is a leaf of one word judges the word**, for those who may use it. -/
theorem judges_parse {p : Parameter} (hone : p.readsOne = true) (hmay : p.mayUse o.source = true) :
    Step.Judges w c (p.parse o) := by
  cases p with
  | leaf f l =>
    obtain ⟨hleaf, hmodifiers⟩ := Bool.and_eq_true_iff.1 hone
    have hmay : o.source.may f.permission = true := hmay
    rw [parse, framed, if_pos hmay]
    refine Modifier.judges_chain o.source ((Leaf.judges_read hleaf).bind fun vs d => ?_) hmodifiers
    split
    · exact Step.settles_putAll f.key vs
    · exact Step.settles_pure ()
  | all f cs => cases hone
  | first f d cs => cases hone

end Parameter
end CommandGrammar
