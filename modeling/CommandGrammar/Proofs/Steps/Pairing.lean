/-
# Runs in step

Two runs of a grammar may go side by side though their lines, their contexts or their places differ.
A `Pairing` says what may differ: which streams, contexts, places and errors of the one run go with
which of the other.  Its laws are what the simplest steps ask for, and so, in the end, whole
grammars (`Pairing.paired_parse`).

| law | asked for by |
| --- | --- |
| `next`, `position`, `errorAt` | reading a token, and failing where it begins |
| `remaining`, `sameCursor` | a repetition, which goes on while it reads something |
| `fromHere`, if `sameTail` holds | the leaf that takes the line as it was typed |
| `inAttempt` | a counted repetition, which rewords a failure |
| `further` | alternatives, which report the failure that stands furthest |

What a modifier asks of a context is settled by `Parameter.Preserves`.
-/

import CommandGrammar.Proofs.Steps.Parameters

namespace CommandGrammar

variable {α α' β β' : Type}

/-- **Something is ahead exactly if something remains.** -/
theorem TokenStream.hasNext_eq (s : TokenStream) : s.hasNext = decide (0 < s.remaining) := by
  unfold hasNext remaining
  by_cases hpending : s.pending.isSome = true
  · simp [hpending]
  · simp only [hpending, Bool.or_false, Bool.false_eq_true, if_false, Nat.add_zero]
    exact decide_eq_decide.2 (by omega)

/-- What goes with what in two runs that go side by side. -/
structure Pairing where
  lines : TokenStream → TokenStream → Prop
  contexts : Context → Context → Prop
  places : Int → Int → Prop
  errors : ParseError → ParseError → Prop
  /-- Both lines have the same word ahead, or both are at their end. -/
  next : ∀ {s s'}, lines s s' →
    (∃ w r r', s.next = .ok (w, r) ∧ s'.next = .ok (w, r') ∧ lines r r') ∨
      (s.next = .error s.endError ∧ s'.next = .error s'.endError ∧ errors s.endError s'.endError)
  remaining : ∀ {s s'}, lines s s' → s.remaining = s'.remaining
  position : ∀ {s s'}, lines s s' → places s.position s'.position
  /-- Whether what is left of both lines is the same text. -/
  sameTail : Prop
  fromHere : sameTail → ∀ {s s'}, lines s s' →
    Text.dropped s.position.toNat s.raw = Text.dropped s'.position.toNat s'.raw
  /-- One run has moved its cursor if the other has. -/
  sameCursor : ∀ {s s' r r'}, lines s s' → lines r r' →
    (r.cursor = s.cursor ↔ r'.cursor = s'.cursor)
  errorAt : ∀ {s s' i i'} problem, lines s s' → places i i' →
    errors (s.errorAt i problem) (s'.errorAt i' problem)
  inAttempt : ∀ {e e'} k n, errors e e' →
    errors { e with problem := .inAttempt e.problem k n }
      { e' with problem := .inAttempt e'.problem k n }
  /-- Errors stand in the same order on both lines. -/
  further : ∀ {e e' f f'}, errors e e' → errors f f' →
    (f.position > e.position ↔ f'.position > e'.position)

namespace Parameter

/-- A relation between contexts outlasts what a node binds and settles what its modifiers ask. -/
structure Preserves (R : Context → Context → Prop) (n : Parameter) : Prop where
  puts : ∀ v c c', R c c' → R (c.put n.key v) (c'.put n.key v)
  defaults : ∀ value c c', R c c' → R (c.withDefault n.key value) (c'.withDefault n.key value)
  counts : Modifier.onlyOne ∈ n.frame.modifiers → ∀ c c', R c c' →
    (c.values n.key).length = (c'.values n.key).length

/-- **Every parameter keeps equal contexts equal.** -/
theorem preserves_eq (n : Parameter) : n.Preserves Eq where
  puts v _ _ h := congrArg (Context.put · n.key v) h
  defaults value _ _ h := congrArg (Context.withDefault · n.key value) h
  counts _ _ _ h := congrArg (fun c : Context => (c.values n.key).length) h

end Parameter

namespace Pairing

/-- The places that two runs may stand at, with what they have bound. -/
structure At (M : Pairing) (p p' : Progress) : Prop where
  lines : M.lines p.stream p'.stream
  contexts : M.contexts p.context p'.context

variable {M : Pairing} {p p' : Progress}

/-- **At paired places, either both have a token ahead or none has.** -/
theorem At.hasNext_eq (h : M.At p p') : p.stream.hasNext = p'.stream.hasNext := by
  rw [TokenStream.hasNext_eq, TokenStream.hasNext_eq, M.remaining h.lines]

end Pairing

/-- Two reports of runs side by side, with results that `V` relates. -/
inductive Report.Paired (M : Pairing) (V : α → β → Prop) : Report α → Report β → Prop
  | ok {a : α} {b : β} {p q : Progress} (value : V a b) (place : M.At p q)
      (asked : List String) : Paired M V ⟨.ok a, p, asked⟩ ⟨.ok b, q, asked⟩
  | failed {e e' : ParseError} {p q : Progress} (error : M.errors e e') (place : M.At p q)
      (asked : List String) :
      Paired M V ⟨.error (.failed e), p, asked⟩ ⟨.error (.failed e'), q, asked⟩
  | broken {p q : Progress} (b : Breakdown) (place : M.At p q) (asked : List String) :
      Paired M V ⟨.error (.broken b), p, asked⟩ ⟨.error (.broken b), q, asked⟩

/-- **Paired reports stay so behind the same questions.** -/
theorem Report.Paired.after {M : Pairing} {V : α → β → Prop} {x : Report α} {y : Report β}
    (h : Report.Paired M V x y) (asked : List String) :
    Report.Paired M V (x.after asked) (y.after asked) := by
  cases h with
  | ok value place => exact .ok value place _
  | failed error place => exact .failed error place _
  | broken b place => exact .broken b place _

/-- **Paired reports end with paired contexts.** -/
theorem Report.Paired.contexts {M : Pairing} {V : α → β → Prop} {x : Report α} {y : Report β}
    (h : Report.Paired M V x y) : M.contexts x.progress.context y.progress.context := by
  cases h with
  | ok _ place _ => exact place.contexts
  | failed _ place _ => exact place.contexts
  | broken _ place _ => exact place.contexts

/-- Two steps that keep runs side by side, with results that `V` relates. -/
def Step.Paired (M : Pairing) (V : α → β → Prop) (s : Step α) (t : Step β) : Prop :=
  ∀ p p', M.At p p' → Report.Paired M V (s p) (t p')

namespace Pairing

variable {M : Pairing} {V : α → α' → Prop} {W : β → β' → Prop}

section steps

variable {s : Step α} {s' : Step α'} {next : α → Step β} {next' : α' → Step β'}

/-- **Steps that only return are paired if their results are.** -/
theorem paired_pure {a : α} {a' : α'} (h : V a a') :
    Step.Paired M V (pure a : Step α) (pure a' : Step α') := fun _ _ hp => .ok h hp []

/-- **Steps that do nothing are paired if their results are.** -/
theorem paired_done {a : α} {a' : α'} (h : V a a') :
    Step.Paired M V (Step.done a) (Step.done a') := fun _ _ hp => .ok h hp []

/-- **Failures are paired if their errors are.** -/
theorem paired_failed {e e' : ParseError} (h : M.errors e e') :
    Step.Paired M V (Step.stop (.failed e)) (Step.stop (.failed e')) := fun _ _ hp =>
  .failed h hp []

/-- **A breakdown is paired with itself.** -/
theorem paired_broken (b : Breakdown) :
    Step.Paired M V (Step.stop (.broken b)) (Step.stop (.broken b)) := fun _ _ hp =>
  .broken b hp []

/-- **Failures at paired places are paired.** -/
theorem paired_failAt {i i' : Int} (h : M.places i i') (problem : Problem) :
    Step.Paired M V (Step.failAt i problem) (Step.failAt i' problem) := fun _ _ hp =>
  .failed (M.errorAt problem hp.lines h) hp []

/-- **Failures at the token ahead are paired.** -/
theorem paired_fail (problem : Problem) :
    Step.Paired M V (Step.fail problem) (Step.fail problem) := fun _ _ hp =>
  .failed (M.errorAt problem hp.lines (M.position hp.lines)) hp []

/-- **The same question is asked on both sides.** -/
theorem paired_note (word : String) : Step.Paired M Eq (Step.note word) (Step.note word) :=
  fun _ _ hp => .ok rfl hp [word]

/-- **Reading a token gives the same text on both sides.** -/
theorem paired_next : Step.Paired M Eq Step.next Step.next := fun p p' hp => by
  unfold Step.next
  rcases M.next hp.lines with ⟨w, r, r', hr, hr', hlines⟩ | ⟨hr, hr', herror⟩
  · rw [hr, hr']
    exact .ok (p := ⟨r, p.context⟩) (q := ⟨r', p'.context⟩) rfl ⟨hlines, hp.contexts⟩ []
  · rw [hr, hr']
    exact .failed herror hp []

/-- A token with the place where it begins goes with the same token at the place that goes with
it. -/
def SameToken (M : Pairing) (t t' : String × Int) : Prop := t.1 = t'.1 ∧ M.places t.2 t'.2

/-- **Reading a token with its place gives the same one on both sides.** -/
theorem paired_token : Step.Paired M M.SameToken Step.token Step.token := fun p p' hp => by
  unfold Step.token
  rcases M.next hp.lines with ⟨w, r, r', hr, hr', hlines⟩ | ⟨hr, hr', herror⟩
  · rw [hr, hr']
    exact .ok (p := ⟨r, p.context⟩) (q := ⟨r', p'.context⟩) ⟨rfl, M.position hp.lines⟩
      ⟨hlines, hp.contexts⟩ []
  · rw [hr, hr']
    exact .failed herror hp []

/-- **A look at the next token gives the same text on both sides.** -/
theorem paired_peek : Step.Paired M Eq Step.peek Step.peek := fun p p' hp => by
  unfold Step.peek
  rw [TokenStream.peek_eq_map_next, TokenStream.peek_eq_map_next]
  rcases M.next hp.lines with ⟨w, r, r', hr, hr', -⟩ | ⟨hr, hr', herror⟩
  · rw [hr, hr']
    exact .ok rfl hp []
  · rw [hr, hr']
    exact .failed herror hp []

/-- **A sequence keeps runs side by side if its parts do.** -/
theorem paired_bind (hs : Step.Paired M V s s')
    (hnext : ∀ a a', V a a' → Step.Paired M W (next a) (next' a')) :
    Step.Paired M W (s >>= next) (s' >>= next') := by
  intro p p' hp
  have hfirst := hs p p' hp
  rw [Step.bind_apply, Step.bind_apply]
  generalize s p = x at hfirst
  generalize s' p' = y at hfirst
  cases hfirst with
  | ok value place asked => exact (hnext _ _ value _ _ place).after asked
  | failed error place asked => exact .failed error place asked
  | broken b place asked => exact .broken b place asked

/-- **What follows may look at the places that the runs stand at.** -/
theorem paired_here_bind {next : Progress → Step β} {next' : Progress → Step β'}
    (h : ∀ p p', M.At p p' → Report.Paired M W (next p p) (next' p' p')) :
    Step.Paired M W (Step.here >>= next) (Step.here >>= next') := fun p p' hp => h p p' hp

/-- **Going back on failure keeps steps paired.** -/
theorem paired_atomic (hs : Step.Paired M V s s') : Step.Paired M V s.atomic s'.atomic := by
  intro p p' hp
  have h := hs p p' hp
  unfold Step.atomic
  generalize s p = x at h
  generalize s' p' = y at h
  cases h with
  | ok value place asked => exact .ok value place asked
  | failed error place asked => exact .failed error hp asked
  | broken b place asked => exact .broken b hp asked

/-- **Several values are bound alike if each of them is.** -/
theorem paired_putAll {key : String}
    (hput : ∀ v c c', M.contexts c c' → M.contexts (c.put key v) (c'.put key v)) :
    ∀ vs, Step.Paired M Eq (Step.putAll key vs) (Step.putAll key vs)
  | [] => fun _ _ hp => .ok rfl hp []
  | v :: vs => fun p p' hp =>
    paired_putAll hput vs ⟨p.stream, p.context.put key v⟩ ⟨p'.stream, p'.context.put key v⟩
      ⟨hp.lines, hput v _ _ hp.contexts⟩

end steps

section modifiers

open Modifier

variable {inner inner' : Step Unit} {key : String}

/-- **What may be given only once is paired if both sides count alike.** -/
theorem paired_runOnlyOne (h : Step.Paired M Eq inner inner') (hcount : ∀ c c', M.contexts c c' →
    (c.values key).length = (c'.values key).length) :
    Step.Paired M Eq (runOnlyOne key inner) (runOnlyOne key inner') := by
  refine paired_here_bind fun p p' hp => ?_
  have hplace : M.places p.stream.position p'.stream.position := M.position hp.lines
  refine paired_bind h (fun _ _ _ => paired_here_bind fun q q' hq => ?_) p p' hp
  rw [hcount _ _ hq.contexts]
  split
  · exact paired_failAt hplace _ q q' hq
  · exact paired_pure rfl q q' hq

/-- **Further runs are paired if the inner steps are.** -/
theorem paired_runAgain (h : Step.Paired M Eq inner inner') :
    ∀ n, Step.Paired M Eq (runAgain inner n) (runAgain inner' n)
  | 0 => paired_done rfl
  | n + 1 => fun p p' hp => by
    have hrun := paired_atomic h p p' hp
    unfold runAgain
    rw [hp.hasNext_eq]
    by_cases hnext : p'.stream.hasNext = true
    · rw [if_pos hnext, if_pos hnext]
      generalize inner.atomic p = x at hrun
      generalize inner'.atomic p' = y at hrun
      cases hrun with
      | @ok _ _ q q' _ place asked =>
        dsimp only
        by_cases hsame : q.stream.cursor = p.stream.cursor
        · rw [if_pos hsame, if_pos ((M.sameCursor hp.lines place.lines).1 hsame)]
          exact .ok rfl place asked
        · rw [if_neg hsame, if_neg (mt (M.sameCursor hp.lines place.lines).2 hsame)]
          exact (paired_runAgain h n q q' place).after asked
      | failed _ place asked => exact .ok rfl place asked
      | broken b place asked => exact .broken b place asked
    · rw [if_neg hnext, if_neg hnext]
      exact .ok rfl hp []

/-- **As many runs as succeed are paired if the inner steps are.** -/
theorem paired_runAllOf (h : Step.Paired M Eq inner inner') :
    Step.Paired M Eq (runAllOf key inner) (runAllOf key inner') := by
  intro p p' hp
  have hrun := paired_atomic h p p' hp
  unfold runAllOf
  rw [hp.hasNext_eq]
  by_cases hnext : p'.stream.hasNext = true
  · rw [if_pos hnext, if_pos hnext]
    generalize inner.atomic p = x at hrun
    generalize inner'.atomic p' = y at hrun
    cases hrun with
    | @ok _ _ q q' _ place asked =>
      dsimp only
      by_cases hsame : q.stream.cursor = p.stream.cursor
      · rw [if_pos hsame, if_pos ((M.sameCursor hp.lines place.lines).1 hsame)]
        exact .ok rfl place asked
      · rw [if_neg hsame, if_neg (mt (M.sameCursor hp.lines place.lines).2 hsame),
          M.remaining place.lines]
        exact (paired_runAgain h _ q q' place).after asked
    | failed error place asked => exact .failed error place asked
    | broken b place asked => exact .broken b place asked
  · rw [if_neg hnext, if_neg hnext]
    exact paired_fail _ p p' hp

/-- **Repeated runs are paired if the inner steps are.** -/
theorem paired_runTimes (h : Step.Paired M Eq inner inner') (times : Nat) :
    ∀ left attempt,
      Step.Paired M Eq (runTimes inner times left attempt) (runTimes inner' times left attempt)
  | 0, _ => paired_done rfl
  | left + 1, attempt => fun p p' hp => by
    have hrun := h p p' hp
    unfold runTimes
    generalize inner p = x at hrun
    generalize inner' p' = y at hrun
    cases hrun with
    | ok _ place asked => exact (paired_runTimes h times left _ _ _ place).after asked
    | failed error place asked => exact .failed (M.inAttempt attempt times error) place asked
    | broken b place asked => exact .broken b place asked

/-- **Optional steps are paired if the inner ones are.** -/
theorem paired_runOptional (h : Step.Paired M Eq inner inner') :
    Step.Paired M Eq (runOptional inner) (runOptional inner') := by
  intro p p' hp
  have hrun := paired_atomic h p p' hp
  unfold runOptional
  generalize inner.atomic p = x at hrun
  generalize inner'.atomic p' = y at hrun
  cases hrun with
  | ok value place asked => exact .ok value place asked
  | failed error place asked =>
    dsimp only
    rw [hp.hasNext_eq]
    split
    · exact .failed error place asked
    · exact .ok rfl place asked
  | broken b place asked => exact .broken b place asked

/-- **Weakly optional steps are paired if the inner ones are.** -/
theorem paired_runOptionalWeak (h : Step.Paired M Eq inner inner') :
    Step.Paired M Eq (runOptionalWeak inner) (runOptionalWeak inner') := by
  intro p p' hp
  have hrun := paired_atomic h p p' hp
  unfold runOptionalWeak
  generalize inner.atomic p = x at hrun
  generalize inner'.atomic p' = y at hrun
  cases hrun with
  | ok value place asked => exact .ok value place asked
  | failed _ place asked => exact .ok rfl place asked
  | broken b place asked => exact .broken b place asked

/-- **Steps with a default are paired if both sides bind it alike.** -/
theorem paired_runDefault (h : Step.Paired M Eq inner inner') (value : Option Value)
    (hdefault : ∀ c c', M.contexts c c' →
      M.contexts (c.withDefault key value) (c'.withDefault key value)) :
    Step.Paired M Eq (runDefault key value inner) (runDefault key value inner') := by
  intro p p' hp
  have hrun := h p p' hp
  rw [runDefault_apply, runDefault_apply]
  generalize inner p = x at hrun
  generalize inner' p' = y at hrun
  cases hrun with
  | @ok _ _ q q' _ place asked =>
    exact .ok (p := ⟨q.stream, q.context.withDefault key value⟩)
      (q := ⟨q'.stream, q'.context.withDefault key value⟩) rfl
      ⟨place.lines, hdefault _ _ place.contexts⟩ asked
  | failed error place asked => exact .failed error place asked
  | broken b place asked => exact .broken b place asked

end modifiers

section leaves

open Leaf

/-- **Reading a token as a value is paired.** -/
theorem paired_readToken (read : String → Except Problem Value) :
    Step.Paired M Eq (readToken read) (readToken read) := by
  refine paired_bind paired_token fun t t' ht => ?_
  obtain ⟨w, i⟩ := t
  obtain ⟨w', i'⟩ := t'
  obtain ⟨rfl, hplace⟩ := ht
  dsimp only
  split
  · exact paired_pure rfl
  · exact paired_failAt hplace _

/-- **Reading the tokens that are left is paired.** -/
theorem paired_restTokens : ∀ n, Step.Paired M Eq (restTokens n) (restTokens n)
  | 0 => paired_pure rfl
  | n + 1 => paired_here_bind fun p p' hp => by
    rw [hp.hasNext_eq]
    split
    · refine paired_bind paired_next (fun w w' hw => ?_) p p' hp
      refine paired_bind (paired_restTokens n) fun ws ws' hws => ?_
      rw [hw, hws]
      exact paired_pure rfl
    · exact paired_pure rfl p p' hp

/-- **Reading the words of a literal is paired.** -/
theorem paired_readWords : ∀ words, Step.Paired M Eq (readWords words) (readWords words)
  | [] => paired_pure rfl
  | w :: rest => by
    refine paired_bind paired_token fun t t' ht => ?_
    obtain ⟨u, i⟩ := t
    obtain ⟨u', i'⟩ := t'
    obtain ⟨rfl, hplace⟩ := ht
    dsimp only
    split
    · exact paired_readWords rest
    · exact paired_failAt hplace _

/-- **The values of the candidates are paired.** -/
theorem paired_valuesOf (c : Choice) {i i' : Int} (hplace : M.places i i') :
    ∀ names, Step.Paired M Eq (valuesOf c i names) (valuesOf c i' names)
  | [] => paired_pure rfl
  | name :: rest => by
    unfold valuesOf
    split
    · refine paired_bind (paired_valuesOf c hplace rest) fun vs vs' hvs => ?_
      rw [hvs]
      exact paired_pure rfl
    · exact paired_failAt hplace _
    · exact paired_broken _

/-- **The choice of candidates is paired.** -/
theorem paired_candidates (c : Choice) (word : String) :
    Step.Paired M Eq (candidates c word) (candidates c word) := by
  unfold candidates
  cases c.reported with
  | false => exact paired_pure rfl
  | true => exact paired_bind (paired_note word) fun _ _ _ => paired_pure rfl

/-- **A choice is paired.** -/
theorem paired_readChoice (h : Host) (c : Choice) :
    Step.Paired M Eq (readChoice h c) (readChoice h c) := by
  refine paired_bind paired_token fun t t' ht => ?_
  obtain ⟨w, i⟩ := t
  obtain ⟨w', i'⟩ := t'
  obtain ⟨rfl, hplace⟩ := ht
  refine paired_bind (paired_candidates c w) fun names names' hnames => ?_
  subst hnames
  dsimp only
  split
  · exact paired_broken _
  · exact paired_failAt hplace _
  · refine paired_bind (paired_valuesOf c hplace _) fun vs vs' hvs => ?_
    rw [hvs]
    exact paired_pure rfl

/-- **A selector is paired.** -/
theorem paired_readSelector (o : Occasion) (s : Selector) :
    Step.Paired M Eq (readSelector o s) (readSelector o s) := by
  refine paired_bind paired_peek fun ahead ahead' hahead => ?_
  subst hahead
  dsimp only
  split
  · refine paired_bind paired_token fun t t' ht => ?_
    obtain ⟨w, i⟩ := t
    obtain ⟨w', i'⟩ := t'
    obtain ⟨rfl, hplace⟩ := ht
    dsimp only
    split
    · exact paired_failAt hplace _
    · exact paired_failAt hplace _
    · split
      · exact paired_failAt hplace _
      · exact paired_pure rfl
  · exact paired_readChoice o.host s.choice

/-- **A duration is paired.** -/
theorem paired_readDuration : Step.Paired M Eq readDuration readDuration := by
  refine paired_bind paired_token fun t t' ht => ?_
  obtain ⟨w, i⟩ := t
  obtain ⟨w', i'⟩ := t'
  obtain ⟨rfl, hplace⟩ := ht
  dsimp only
  split
  · exact paired_pure rfl
  · exact paired_broken _
  · exact paired_failAt hplace _

/-- **A leaf keeps runs side by side, and reads the same.** -/
theorem paired_read (o : Occasion) (l : Leaf) (htail : l = .restRaw → M.sameTail) :
    Step.Paired M Eq (l.read o) (l.read o) := by
  cases l <;> unfold Leaf.read
  case text =>
    refine paired_bind paired_next fun w w' hw => ?_
    rw [hw]
    exact paired_pure rfl
  case integer | real | truth | moment => exact paired_readToken _
  case nothing => exact paired_pure rfl
  case restJoined =>
    refine paired_bind paired_next fun w w' hw => paired_here_bind fun p p' hp => ?_
    rw [hw, M.remaining hp.lines]
    refine paired_bind (paired_restTokens _) (fun ws ws' hws => ?_) p p' hp
    rw [hws]
    exact paired_pure rfl
  case restRaw =>
    refine paired_here_bind fun p p' hp => ?_
    refine paired_bind paired_next (fun _ _ _ => paired_here_bind fun q q' hq => ?_) p p' hp
    rw [M.remaining hq.lines, M.fromHere (htail rfl) hp.lines]
    exact paired_bind (paired_restTokens _) (fun _ _ _ => paired_pure rfl) q q' hq
  case duration => exact paired_readDuration
  case literal v words => exact paired_bind (paired_readWords words) fun _ _ _ => paired_pure rfl
  case choice c => exact paired_readChoice o.host c
  case selector s => exact paired_readSelector o s

end leaves

section parameters

open Parameter

variable {o : Occasion} {p : Parameter}

/-- **A chain of modifiers is paired if its core is.** -/
theorem paired_chain {n : Parameter} (h : n.Preserves M.contexts) {core core' : Step Unit}
    (hcore : Step.Paired M Eq core core') (source : Source) :
    ∀ ms, (∀ m ∈ ms, m ∈ n.frame.modifiers) →
      Step.Paired M Eq (Modifier.chain n.key source ms core) (Modifier.chain n.key source ms core')
  | [], _ => hcore
  | m :: ms, hms => by
    rw [Modifier.chain_cons, Modifier.chain_cons]
    have hinner := paired_chain h hcore source ms fun k hk => hms k (List.mem_cons_of_mem m hk)
    have hm := hms m List.mem_cons_self
    cases m with
    | onlyOne => exact paired_runOnlyOne hinner (h.counts hm)
    | allOf => exact paired_runAllOf hinner
    | repeated n => exact paired_atomic (paired_runTimes hinner n n 1)
    | optional => exact paired_runOptional hinner
    | optionalWeak => exact paired_runOptionalWeak hinner
    | default v => exact paired_runDefault hinner (some v) (h.defaults _)
    | defaultBy value => exact paired_runDefault hinner (value source) (h.defaults _)
    | plain => exact hinner

/-- **A sequence is paired if its children are.** -/
theorem paired_parseAll : ∀ cs : List Parameter,
    (∀ c ∈ cs, Step.Paired M Eq (c.parse o) (c.parse o)) →
      Step.Paired M Eq (parseAll o cs) (parseAll o cs)
  | [], _ => by
    rw [parseAll]
    exact paired_done rfl
  | c :: cs, h => by
    rw [parseAll]
    refine paired_bind (h c List.mem_cons_self) fun _ _ _ => ?_
    exact paired_parseAll cs fun d hd => h d (List.mem_cons_of_mem c hd)

/-- **Alternatives are paired if each of them is.** -/
theorem paired_parseFirst : ∀ (cs : List Parameter) {best best' : ParseError},
    (∀ c ∈ cs, Step.Paired M Eq (c.parse o) (c.parse o)) → M.errors best best' →
      Step.Paired M Eq (parseFirst o best cs) (parseFirst o best' cs)
  | [], best, best', _, hbest => by
    rw [parseFirst, parseFirst]
    exact paired_failed hbest
  | c :: cs, best, best', h, hbest => fun p p' hp => by
    have hrun := paired_atomic (h c List.mem_cons_self) p p' hp
    rw [parseFirst, parseFirst]
    dsimp only
    generalize (c.parse o).atomic p = x at hrun
    generalize (c.parse o).atomic p' = y at hrun
    cases hrun with
    | ok value place asked => exact .ok value place asked
    | @failed e e' _ _ error _ asked =>
      have hmore := fun {f f'} (hf : M.errors f f') =>
        paired_parseFirst cs (fun d hd => h d (List.mem_cons_of_mem c hd)) hf p p' hp
      dsimp only
      by_cases hfurther : e.position > best.position
      · rw [if_pos hfurther, if_pos ((M.further hbest error).1 hfurther)]
        exact (hmore error).after asked
      · rw [if_neg hfurther, if_neg (mt (M.further hbest error).2 hfurther)]
        exact (hmore hbest).after asked
    | broken b place asked => exact .broken b place asked

/-- **A core keeps runs side by side if the parameters inside it do.** -/
theorem paired_core (h : p.Preserves M.contexts) (htail : ∀ f, p = .leaf f .restRaw → M.sameTail)
    (hcs : ∀ c ∈ p.children, Step.Paired M Eq (c.parse o) (c.parse o)) :
    Step.Paired M Eq (p.core o) (p.core o) := by
  cases p with
  | leaf f l =>
    have hread : Step.Paired M Eq (l.read o) (l.read o) :=
      paired_read o l fun hl => htail f (by rw [hl])
    refine paired_bind hread fun vs vs' hvs => ?_
    rw [hvs]
    split
    · exact paired_putAll h.puts vs'
    · exact paired_pure rfl
  | all f cs => exact paired_atomic (paired_parseAll cs hcs)
  | first f c cs =>
    intro q q' hq
    have hrun := paired_atomic (hcs c List.mem_cons_self) q q' hq
    unfold core
    dsimp only
    generalize (c.parse o).atomic q = x at hrun
    generalize (c.parse o).atomic q' = y at hrun
    cases hrun with
    | ok value place asked => exact .ok value place asked
    | failed error _ asked =>
      have hothers := fun d hd => hcs d (List.mem_cons_of_mem c hd)
      exact (paired_parseFirst cs hothers error q q' hq).after asked
    | broken b place asked => exact .broken b place asked

/-- **A grammar keeps runs side by side whose contexts are related as its nodes preserve it**, and
whose lines go on with the same text if it takes a line as it was typed. -/
theorem paired_parse (h : ∀ n, p.Has n → n.Preserves M.contexts)
    (htail : ∀ f, p.Has (.leaf f .restRaw) → M.sameTail) :
    Step.Paired M Eq (p.parse o) (p.parse o) := by
  induction p using inductionOnChildren with
  | step p ih =>
    have hcore : Step.Paired M Eq (p.core o) (p.core o) := by
      refine paired_core (h p (.self p)) (fun f hf => htail f (hf ▸ .self p)) fun c hc => ?_
      exact ih c hc (fun n hn => h n (.child hc hn)) fun f hf => htail f (.child hc hf)
    rw [parse_eq_framed]
    unfold framed
    split
    · exact paired_chain (h p (.self p)) hcore o.source _ fun _ hm => hm
    · exact paired_done rfl

end parameters

end Pairing
end CommandGrammar
