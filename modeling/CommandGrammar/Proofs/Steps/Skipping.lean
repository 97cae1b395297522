/-
# What is skipped at the end of a line

Where nothing is ahead, no token can be read, so what a grammar comes to there can be told from its
form and from the keys that have several values already: it succeeds without a move, or it fails
without one (`Step.Idles`).  Nothing that it binds there gives a key several values, because only
defaults are bound.

| at the end of a line | is skipped |
| --- | --- |
| what a source may not use | always |
| a leaf | if it reads nothing by itself |
| a sequence | if all of its children are |
| a choice | if one of its children is |
| `optional`, `optionalWeak` | always |
| `allOf` | never, since it wants one success |
| `onlyOne` | if what it wraps is, and its key does not have several values |
| any other modifier | if what it wraps is |

`Parameter.isOptional` does not look at the order of the modifiers, nor at the context.  So it tells
the truth unless an `allOf`, or an `onlyOne` whose key has several values, stands outside of all
optional ones (`Parameter.skipped_at_end_iff`).
-/

import CommandGrammar.Host.Usual
import CommandGrammar.Proofs.Steps.Onward

namespace CommandGrammar

/-- Whether a key has several values. -/
def Context.crowded (c : Context) (key : String) : Bool := 1 < (c.values key).length

/-- **A default gives no key several values.** -/
theorem Context.crowded_withDefault (c : Context) (key : String) (value : Option Value) :
    (c.withDefault key value).crowded = c.crowded := by
  unfold withDefault
  split
  · rfl
  · rename_i hhas
    have hnone : c.values key = [] := by simpa [has] using hhas
    cases value with
    | none => rfl
    | some v =>
      funext other
      show decide (1 < ((c.put key v).values other).length) = decide (1 < (c.values other).length)
      by_cases hother : key = other
      · subst hother
        rw [show (c.put key v).values key = c.values key ++ [v] from
          Entries.values_put_self c.entries key v, hnone]
        rfl
      · rw [show (c.put key v).values other = c.values other from
          Entries.values_put_of_ne c.entries v hother]

/-- A run has stayed at the end of a line, with the same keys that have several values; the flag
tells whether it has succeeded. -/
inductive Report.Idle (s : TokenStream) (crowded : String → Bool) : Bool → Report Unit → Prop
  | ok {c : Context} (same : c.crowded = crowded) (asked : List String) :
      Idle s crowded true ⟨.ok (), ⟨s, c⟩, asked⟩
  | failed {c : Context} (same : c.crowded = crowded) (e : ParseError) (asked : List String) :
      Idle s crowded false ⟨.error (.failed e), ⟨s, c⟩, asked⟩

/-- **A run that stays at the end of a line does so behind further questions.** -/
theorem Report.Idle.after {s : TokenStream} {crowded : String → Bool} {skipped : Bool}
    {r : Report Unit} (h : r.Idle s crowded skipped) (asked : List String) :
    (r.after asked).Idle s crowded skipped := by
  cases h with
  | ok same _ => exact .ok same _
  | failed same e _ => exact .failed same e _

/-- Where nothing is ahead, a step stays; the flag tells whether it succeeds. -/
def Step.Idles (crowded : String → Bool) (skipped : Bool) (step : Step Unit) : Prop :=
  ∀ s c, s.hasNext = false → c.crowded = crowded → (step ⟨s, c⟩).Idle s crowded skipped

namespace Step

variable {crowded : String → Bool} {b b' : Bool} {step inner : Step Unit}

/-- **A step that does nothing is skipped.** -/
theorem idles_done : (Step.done ()).Idles crowded true := fun _ _ _ hc => .ok hc []

/-- **A step that goes back on failure is skipped as the step itself is.** -/
theorem Idles.atomic (h : step.Idles crowded b) : step.atomic.Idles crowded b := by
  intro s c hs hc
  have hrun := h s c hs hc
  unfold Step.atomic
  generalize step ⟨s, c⟩ = r at hrun
  cases hrun with
  | ok same asked => exact .ok same asked
  | failed _ e asked => exact .failed hc e asked

/-- **Two steps are skipped if both are.** -/
theorem Idles.andThen (h : step.Idles crowded b) (h' : inner.Idles crowded b') :
    (step.andThen fun _ => inner).Idles crowded (b && b') := by
  intro s c hs hc
  have hrun := h s c hs hc
  unfold Step.andThen
  generalize step ⟨s, c⟩ = r at hrun
  cases hrun with
  | ok same asked => exact (h' s _ hs same).after asked
  | failed same e asked => exact .failed same e asked

end Step

namespace Modifier

open Step

variable {crowded : String → Bool} {b : Bool} {inner : Step Unit}

/-- Whether a step is skipped inside a modifier; `crowded` tells that the key has several values, and
`inner` that the step is skipped by itself. -/
def skips (crowded inner : Bool) : Modifier → Bool
  | onlyOne => inner && !crowded
  | allOf => false
  | repeated n => n == 0 || inner
  | optional | optionalWeak => true
  | default _ | defaultBy _ | plain => inner

/-- **What may be given only once is skipped as the inner step is, unless its key has several
values.** -/
theorem idles_runOnlyOne (h : inner.Idles crowded b) (key : String) :
    (runOnlyOne key inner).Idles crowded (b && !crowded key) := by
  intro s c hs hc
  have hrun := h s c hs hc
  unfold runOnlyOne
  rw [Step.here_bind, Step.bind_apply]
  generalize inner ⟨s, c⟩ = r at hrun
  cases hrun with
  | failed same e asked => exact .failed same e asked
  | @ok d same asked =>
    refine Report.Idle.after ?_ asked
    rw [Step.here_bind, Bool.true_and, ← same]
    unfold Context.crowded
    split
    · rename_i hseveral
      rw [decide_eq_true hseveral]
      exact .failed rfl _ _
    · rename_i hseveral
      rw [decide_eq_false hseveral]
      exact .ok rfl _

/-- **What must succeed at least once at a token is never skipped.** -/
theorem idles_runAllOf (key : String) (inner : Step Unit) :
    (runAllOf key inner).Idles crowded false := by
  intro s c hs hc
  unfold runAllOf
  dsimp only
  rw [if_neg (by rw [hs]; exact Bool.false_ne_true)]
  exact .failed hc _ _

/-- **Repeated runs are skipped if there is none left or the inner step is.** -/
theorem idles_runTimes (h : inner.Idles crowded b) (times left attempt : Nat) :
    (runTimes inner times left attempt).Idles crowded (left == 0 || b) := by
  induction left generalizing attempt with
  | zero => exact idles_done
  | succ left ih =>
    intro s c hs hc
    have hrun := h s c hs hc
    unfold runTimes
    generalize inner ⟨s, c⟩ = r at hrun
    cases hrun with
    | failed same e asked => exact .failed same _ asked
    | ok same asked =>
      have hmore := ih (attempt + 1) s _ hs same
      rw [Bool.or_true] at hmore ⊢
      exact hmore.after asked

/-- **An optional step is skipped.** -/
theorem idles_runOptional (h : inner.Idles crowded b) :
    (runOptional inner).Idles crowded true := by
  intro s c hs hc
  have hrun := h.atomic s c hs hc
  unfold runOptional
  dsimp only
  generalize inner.atomic ⟨s, c⟩ = r at hrun
  cases hrun with
  | ok same asked => exact .ok same asked
  | failed same e asked =>
    dsimp only
    rw [if_neg (by rw [hs]; exact Bool.false_ne_true)]
    exact .ok same asked

/-- **A weakly optional step is skipped.** -/
theorem idles_runOptionalWeak (h : inner.Idles crowded b) :
    (runOptionalWeak inner).Idles crowded true := by
  intro s c hs hc
  have hrun := h.atomic s c hs hc
  unfold runOptionalWeak
  generalize inner.atomic ⟨s, c⟩ = r at hrun
  cases hrun with
  | ok same asked => exact .ok same asked
  | failed same e asked => exact .ok same asked

/-- **A step with a default is skipped as the inner one is.** -/
theorem idles_runDefault (h : inner.Idles crowded b) (key : String) (value : Option Value) :
    (runDefault key value inner).Idles crowded b := by
  intro s c hs hc
  have hrun := h s c hs hc
  rw [runDefault_apply]
  generalize inner ⟨s, c⟩ = r at hrun
  cases hrun with
  | ok same asked => exact .ok ((Context.crowded_withDefault _ key value).trans same) asked
  | failed same e asked => exact .failed same e asked

/-- **A modifier skips what it wraps as its rule says.** -/
theorem idles_apply (h : inner.Idles crowded b) (key : String) (source : Source) (m : Modifier) :
    (m.apply key source inner).Idles crowded (m.skips (crowded key) b) := by
  cases m with
  | onlyOne => exact idles_runOnlyOne h key
  | allOf => exact idles_runAllOf key inner
  | repeated n => exact (idles_runTimes h n n 1).atomic
  | optional => exact idles_runOptional h
  | optionalWeak => exact idles_runOptionalWeak h
  | default v => exact idles_runDefault h key (some v)
  | defaultBy value => exact idles_runDefault h key (value source)
  | plain => exact h

/-- **So does a chain of modifiers**, from the inside out. -/
theorem idles_chain (h : inner.Idles crowded b) (key : String) (source : Source) :
    ∀ ms : List Modifier,
    (chain key source ms inner).Idles crowded (ms.foldr (fun m => m.skips (crowded key)) b)
  | [] => h
  | m :: ms => idles_apply (idles_chain h key source ms) key source m

/-- A modifier that does not skip what is skipped by itself: `allOf`, and `onlyOne` where the key has
several values. -/
def Blocks (crowded : Bool) : Modifier → Prop
  | allOf => True
  | onlyOne => crowded = true
  | _ => False

/-- **A modifier that does not block skips what is skipped by itself.** -/
theorem skips_of_not_blocks {crowded : Bool} {m : Modifier} (h : ¬m.Blocks crowded) :
    m.skips crowded true = true := by
  cases m with
  | allOf => exact absurd trivial h
  | onlyOne => exact (Bool.true_and _).trans (by simpa [Blocks] using h)
  | repeated n => exact Bool.or_true _
  | _ => rfl

/-- **An optional modifier skips whatever it is around.** -/
theorem skips_of_isSkippable {m : Modifier} (h : m.isSkippable = true) (crowded inner : Bool) :
    m.skips crowded inner = true := by
  cases m <;> first | rfl | cases h

/-- **A chain of modifiers with an optional one, or around what is skipped, skips unless one outside
of all optional ones blocks.** -/
theorem skips_chain {crowded core : Bool} : ∀ ms : List Modifier,
    (ms.any isSkippable || core) = true →
    (∀ m ∈ ms.takeWhile (!·.isSkippable), ¬m.Blocks crowded) →
    ms.foldr (fun m => m.skips crowded) core = true
  | [], hcore, _ => hcore
  | m :: ms, hany, hfree => by
    rw [List.foldr_cons]
    cases hskip : m.isSkippable with
    | true => exact skips_of_isSkippable hskip _ _
    | false =>
      rw [List.any_cons, hskip, Bool.false_or] at hany
      rw [List.takeWhile_cons_of_pos (by rw [hskip]; rfl), List.forall_mem_cons] at hfree
      rw [skips_chain ms hany hfree.2]
      exact skips_of_not_blocks hfree.1

end Modifier

/-- **Where nothing is ahead, a leaf that reads fails at once.** -/
theorem Leaf.fails_at_end {o : Occasion} {l : Leaf} (hreads : l.readsNothing = false)
    (hwords : ∀ v, l ≠ .literal v []) {s : TokenStream} (hs : s.hasNext = false) (c : Context) :
    l.read o ⟨s, c⟩ = ⟨.error (.failed s.endError), ⟨s, c⟩, []⟩ := by
  have hhead : s.head? = none := by
    have hunread := ((TokenStream.hasNext_eq_false_iff s).1 hs).1
    exact List.getElem?_eq_none (List.drop_eq_nil_iff.1 hunread)
  have hnext : Step.next ⟨s, c⟩ = ⟨.error (.failed s.endError), ⟨s, c⟩, []⟩ := by
    unfold Step.next
    rw [show TokenStream.next _ = _ from TokenStream.next_of_head?_none hhead]
  have htoken : Step.token ⟨s, c⟩ = ⟨.error (.failed s.endError), ⟨s, c⟩, []⟩ := by
    unfold Step.token
    rw [show TokenStream.next _ = _ from TokenStream.next_of_head?_none hhead]
  have hpeek : Step.peek ⟨s, c⟩ = ⟨.error (.failed s.endError), ⟨s, c⟩, []⟩ := by
    unfold Step.peek TokenStream.peek
    rw [hhead]
  cases l with
  | nothing => cases hreads
  | text | restJoined => exact Step.bind_of_error hnext _
  | restRaw => exact (Step.here_bind _ _).trans (Step.bind_of_error hnext _)
  | literal v words =>
    cases words with
    | nil => exact absurd rfl (hwords v)
    | cons w rest =>
      have hread : readWords (w :: rest) ⟨s, c⟩ = _ := Step.bind_of_error htoken _
      exact Step.bind_of_error hread _
  | selector sel => exact Step.bind_of_error hpeek _
  | integer | real | truth | duration | moment | choice => exact Step.bind_of_error htoken _

namespace Parameter

variable {o : Occasion} {crowded : String → Bool}

/-- Whether a parameter is skipped at the end of a line if its core is. -/
def skipsIn (source : Source) (crowded : String → Bool) (f : Frame) (core : Bool) : Bool :=
  !source.may f.permission || f.modifiers.foldr (fun m => m.skips (crowded f.key)) core

mutual

/-- Whether a parameter is skipped at the end of a line, where `crowded` tells which keys have
several values. -/
def skips (source : Source) (crowded : String → Bool) : Parameter → Bool
  | leaf f l => skipsIn source crowded f l.readsNothing
  | all f cs => skipsIn source crowded f (allSkip source crowded cs)
  | first f c cs =>
    skipsIn source crowded f (skips source crowded c || someSkips source crowded cs)

/-- Whether all parameters are. -/
def allSkip (source : Source) (crowded : String → Bool) : List Parameter → Bool
  | [] => true
  | c :: cs => skips source crowded c && allSkip source crowded cs

/-- Whether one of the parameters is. -/
def someSkips (source : Source) (crowded : String → Bool) : List Parameter → Bool
  | [] => false
  | c :: cs => skips source crowded c || someSkips source crowded cs

end

/-- **A leaf is skipped if it reads nothing.** -/
theorem idles_readAndBind {key : String} {l : Leaf} (hwords : ∀ v, l ≠ .literal v []) :
    (readAndBind o key l).Idles crowded l.readsNothing := by
  intro s c hs hc
  cases hreads : l.readsNothing with
  | false =>
    unfold readAndBind
    rw [Step.bind_of_error (Leaf.fails_at_end hreads hwords hs c)]
    exact .failed hc _ _
  | true =>
    obtain rfl : l = .nothing := by
      cases l <;> first | rfl | cases hreads
    have hread : Leaf.nothing.read o ⟨s, c⟩ = ⟨.ok [], ⟨s, c⟩, []⟩ := rfl
    unfold readAndBind
    rw [Step.bind_of_ok hread]
    split <;> exact .ok hc _

/-- **A parameter is skipped as its modifiers skip its core.** -/
theorem idles_framed {core : Step Unit} {b : Bool} (h : core.Idles crowded b) (f : Frame) :
    (framed o f core).Idles crowded (skipsIn o.source crowded f b) := by
  unfold framed skipsIn
  split
  · rename_i hmay
    rw [hmay]
    exact Modifier.idles_chain h f.key o.source f.modifiers
  · rename_i hmay
    rw [Bool.eq_false_iff.2 hmay]
    exact Step.idles_done

/-- **A sequence is skipped if all its children are.** -/
theorem idles_parseAll : ∀ cs : List Parameter,
    (∀ c ∈ cs, (c.parse o).Idles crowded (c.skips o.source crowded)) →
    (parseAll o cs).Idles crowded (allSkip o.source crowded cs)
  | [], _ => by
    rw [parseAll, allSkip]
    exact Step.idles_done
  | c :: cs, h => by
    rw [parseAll, allSkip]
    exact (h c List.mem_cons_self).andThen
      (idles_parseAll cs fun d hd => h d (List.mem_cons_of_mem c hd))

/-- **Where nothing is ahead, alternatives come to the first one that is skipped.** -/
theorem idles_orElse {c : Parameter} {b b' : Bool} (h : (c.parse o).Idles crowded b)
    (others : ParseError → Step Unit) (h' : ∀ e, (others e).Idles crowded b') :
    Step.Idles crowded (b || b') fun p => match (c.parse o).atomic p with
      | ⟨.error (.failed e), _, asked⟩ => (others e p).after asked
      | r => r := by
  intro s context hs hc
  have hrun := h.atomic s context hs hc
  dsimp only
  generalize (c.parse o).atomic ⟨s, context⟩ = r at hrun
  cases hrun with
  | ok same asked => exact .ok same asked
  | failed _ e asked => exact (h' e s context hs hc).after asked

/-- **A choice is skipped if one of its alternatives is.** -/
theorem idles_parseFirst : ∀ (cs : List Parameter) (best : ParseError),
    (∀ c ∈ cs, (c.parse o).Idles crowded (c.skips o.source crowded)) →
    (parseFirst o best cs).Idles crowded (someSkips o.source crowded cs)
  | [], best, _ => by
    rw [parseFirst, someSkips]
    exact fun _ _ _ hc => .failed hc best []
  | c :: cs, best, h => by
    have hcs := fun e => idles_parseFirst cs e fun d hd => h d (List.mem_cons_of_mem c hd)
    rw [parseFirst, someSkips]
    exact idles_orElse (h c List.mem_cons_self)
      (fun e => parseFirst o (if e.position > best.position then e else best) cs) fun _ => hcs _

/-- **A grammar idles at the end of a line as its form says**, if its literals have words. -/
theorem idles_parse (p : Parameter) (hwords : ∀ f v, ¬p.Has (.leaf f (.literal v []))) :
    (p.parse o).Idles crowded (p.skips o.source crowded) := by
  induction p using inductionOnChildren with
  | step p ih =>
    have hchildren : ∀ c ∈ p.children, (c.parse o).Idles crowded (c.skips o.source crowded) :=
      fun c hc => ih c hc fun f v hn => hwords f v (.child hc hn)
    cases p with
    | leaf f l =>
      rw [parse, skips]
      exact idles_framed (idles_readAndBind fun v hl => hwords f v (hl ▸ .self _)) f
    | all f cs =>
      rw [parse, skips]
      exact idles_framed (idles_parseAll cs hchildren).atomic f
    | first f c cs =>
      rw [parse, skips]
      exact idles_framed (idles_orElse (hchildren c List.mem_cons_self) (fun e => parseFirst o e cs)
        fun e => idles_parseFirst cs e fun d hd => hchildren d (List.mem_cons_of_mem c hd)) f

/-- **All of several parameters are skipped if each of them is.** -/
theorem allSkip_eq_all (source : Source) (crowded : String → Bool) (cs : List Parameter) :
    allSkip source crowded cs = cs.all (skips source crowded) := by
  induction cs with
  | nil => rfl
  | cons c cs ih => rw [allSkip, ih, List.all_cons]

/-- **Some of several parameters are skipped if one of them is.** -/
theorem someSkips_eq_any (source : Source) (crowded : String → Bool) (cs : List Parameter) :
    someSkips source crowded cs = cs.any (skips source crowded) := by
  induction cs with
  | nil => rfl
  | cons c cs ih => rw [someSkips, ih, List.any_cons]

/-- A modifier that does not skip what is skipped by itself stands outside of all optional ones. -/
def Blocked (crowded : String → Bool) (n : Parameter) : Prop :=
  ∃ m ∈ n.frame.modifiers.takeWhile (!·.isSkippable), m.Blocks (crowded n.key)

/-- **What is optional by its form is skipped, unless something that is reached is blocked.** -/
theorem skips_of_isOptional {source : Source} (p : Parameter)
    (hfree : ∀ n, p.Reaches source n → ¬n.Blocked crowded) (h : p.isOptional = true) :
    p.skips source crowded = true := by
  induction p using inductionOnChildren with
  | step p ih =>
    have hframe : ∀ core, (p.frame.modifiers.any Modifier.isSkippable || core) = true →
        p.mayUse source = true → p.frame.modifiers.foldr (fun m => m.skips (crowded p.key)) core =
          true := by
      intro core hany hmay
      exact Modifier.skips_chain _ hany fun m hm hblocks => hfree p (.self hmay) ⟨m, hm, hblocks⟩
    have hchildren : p.mayUse source = true → ∀ c ∈ p.children, c.isOptional = true →
        c.skips source crowded = true :=
      fun hmay c hc => ih c hc fun n hn => hfree n (.child hmay hc hn)
    -- What the source may not use is skipped; elsewhere the core is skipped if its form tells so.
    have hskips : ∀ optional core, p.isOptional =
          (p.frame.modifiers.any Modifier.isSkippable || optional) →
        (p.mayUse source = true → optional = true → core = true) →
        skipsIn source crowded p.frame core = true := by
      intro optional core hform hcore
      unfold skipsIn
      cases hmay : source.may p.frame.permission with
      | false => rfl
      | true =>
        rw [Bool.not_true, Bool.false_or]
        refine hframe core ?_ hmay
        rw [hform, Bool.or_eq_true] at h
        rw [Bool.or_eq_true]
        exact h.imp_right (hcore hmay)
    cases p with
    | leaf f l =>
      rw [skips]
      exact hskips l.readsNothing _ (by rw [isOptional]; rfl) fun _ hl => hl
    | all f cs =>
      rw [skips]
      refine hskips (allOptional cs) _ (by rw [isOptional]; rfl) fun hmay hcs => ?_
      rw [allOptional_eq_all, List.all_eq_true] at hcs
      rw [allSkip_eq_all, List.all_eq_true]
      exact fun c hc => hchildren hmay c hc (hcs c hc)
    | first f c cs =>
      rw [skips]
      refine hskips (c.isOptional || someOptional cs) _ (by rw [isOptional]; rfl) fun hmay hcs => ?_
      rw [someOptional_eq_any, ← List.any_cons, List.any_eq_true] at hcs
      rw [someSkips_eq_any, ← List.any_cons, List.any_eq_true]
      obtain ⟨d, hd, hoptional⟩ := hcs
      exact ⟨d, hd, hchildren hmay d hd hoptional⟩

section

variable {p : Parameter} {q : Progress} (hwords : ∀ f v, ¬p.Has (.leaf f (.literal v [])))
  (hend : q.stream.hasNext = false)

include hwords hend

/-- **At the end of a line a parameter stays, and succeeds if it is skipped.** -/
theorem idle_parse : (p.parse o q).Idle q.stream q.context.crowded
    (p.skips o.source q.context.crowded) :=
  idles_parse p hwords q.stream q.context hend rfl

/-- **What is skipped at the end of a line succeeds there.** -/
theorem ok_at_end (h : p.skips o.source q.context.crowded = true) :
    (p.parse o q).result = .ok () := by
  have hidle := idle_parse (o := o) hwords hend
  rw [h] at hidle
  generalize p.parse o q = r at hidle
  cases hidle with
  | ok _ asked => rfl

/-- **What is not skipped there fails.** -/
theorem fails_at_end (h : p.skips o.source q.context.crowded = false) :
    ∃ e, (p.parse o q).result = .error (.failed e) := by
  have hidle := idle_parse (o := o) hwords hend
  rw [h] at hidle
  generalize p.parse o q = r at hidle
  cases hidle with
  | failed _ e asked => exact ⟨e, rfl⟩

end

/-- **At the end of a line a grammar is skipped exactly if its form says so, and what is optional is
skipped unless it is blocked.**  For every grammar whose literals have words, everyone who types a
line and every context, where no token and no error is ahead: the cursor stays; the grammar succeeds
exactly if `Parameter.skips` tells so, and fails otherwise.  So a grammar that is optional by its form
succeeds, unless at a node that is reached an `allOf`, or an `onlyOne` whose key has several values
already, stands outside of all optional modifiers. -/
theorem skipped_at_end_iff {p : Parameter} (hwords : ∀ f v, ¬p.Has (.leaf f (.literal v [])))
    {q : Progress} (hend : q.stream.hasNext = false) :
    (p.parse o q).progress.stream = q.stream ∧
    ((p.parse o q).result = .ok () ↔ p.skips o.source q.context.crowded = true) ∧
    (p.skips o.source q.context.crowded = false → ∃ e, (p.parse o q).result = .error (.failed e)) ∧
    (p.isOptional = true → (∀ n, p.Reaches o.source n → ¬n.Blocked q.context.crowded) →
      (p.parse o q).result = .ok ()) := by
  refine ⟨?_, ⟨fun h => ?_, ok_at_end hwords hend⟩, fails_at_end hwords hend,
    fun hoptional hfree => ok_at_end hwords hend (skips_of_isOptional p hfree hoptional)⟩
  · have hidle := idle_parse (o := o) hwords hend
    generalize p.skips o.source q.context.crowded = skipped at hidle
    generalize p.parse o q = r at hidle ⊢
    cases hidle <;> rfl
  · refine Bool.of_not_eq_false fun hno => ?_
    obtain ⟨e, he⟩ := fails_at_end hwords hend hno
    rw [h] at he
    cases he

/-- **A number that may be left out is skipped**, in a sequence with a leaf that reads nothing. -/
theorem optional_number_is_skipped :
    let o : Occasion := ⟨.bare "tester", ⟨2024, 5, 31, 12, 34, 56, 789012, none⟩, .usual⟩
    let p : Parameter := .all {} [.leaf { key := "n", modifiers := [.onlyOne, .optional] } .integer,
      .leaf { key := "none" } .nothing]
    let q : Progress := .ofStream (.ofLine .quoted "")
    (∀ f v, ¬p.Has (.leaf f (.literal v []))) ∧ q.stream.hasNext = false ∧ p.isOptional = true ∧
      (p.parse o q).result = .ok () ∧ (p.parse o q).progress.stream = q.stream := by
  intro o p q
  have hwords : ∀ f v, ¬p.Has (.leaf f (.literal v [])) := by
    intro f v hn
    rcases hn.of_pair with h | h | h <;> cases h
  have hend : q.stream.hasNext = false := by decide +kernel
  have hfree : ∀ n, p.Reaches o.source n → ¬n.Blocked q.context.crowded := by
    rintro n hn ⟨m, hm, hblocks⟩
    rcases hn.has.of_pair with rfl | rfl | rfl
    · cases hm
    · cases List.mem_singleton.1 hm
      cases hblocks
    · cases hm
  obtain ⟨hstays, -, -, hoptional⟩ := skipped_at_end_iff (o := o) hwords hend
  exact ⟨hwords, hend, rfl, hoptional rfl hfree, hstays⟩

/-- **What is optional by its form is not always skipped**: not inside of an `onlyOne` whose key has
two values already, and not inside of an `allOf`, whatever is bound. -/
theorem optional_number_is_not_always_skipped :
    (¬∀ (p : Parameter) (o : Occasion) (q : Progress), p.isOptional = true →
      p.mayUse o.source = true → q.stream.hasNext = false → (p.parse o q).result = .ok ()) ∧
    ¬∀ (p : Parameter) (o : Occasion) (q : Progress), p.isOptional = true →
      p.mayUse o.source = true → q.stream.hasNext = false → q.context.entries = [] →
        (p.parse o q).result = .ok () := by
  let o : Occasion := ⟨.bare "tester", ⟨2024, 5, 31, 12, 34, 56, 789012, none⟩, .usual⟩
  let line : TokenStream := .ofLine .quoted ""
  have hend : line.hasNext = false := by decide +kernel
  have hwords : ∀ g f v, ¬(leaf g .integer).Has (.leaf f (.literal v [])) := by
    intro g f v hn
    cases hn.of_leaf
  refine ⟨fun h => ?_, fun h => ?_⟩
  · have hok := h (.leaf { key := "n", modifiers := [.onlyOne, .optional] } .integer) o
      ⟨line, { entries := [("n", [.integer 1, .integer 2])] }⟩ rfl rfl hend
    obtain ⟨e, he⟩ := fails_at_end (o := o) (p := .leaf { key := "n", modifiers :=
      [.onlyOne, .optional] } .integer) (hwords _)
      (q := ⟨line, { entries := [("n", [.integer 1, .integer 2])] }⟩) hend (by decide +kernel)
    rw [he] at hok
    cases hok
  · have hok := h (.leaf { key := "n", modifiers := [.allOf, .optional] } .integer) o ⟨line, {}⟩ rfl
      rfl hend rfl
    obtain ⟨e, he⟩ := fails_at_end (o := o) (p := .leaf { key := "n", modifiers :=
      [.allOf, .optional] } .integer) (hwords _) (q := ⟨line, {}⟩) hend (by decide +kernel)
    rw [he] at hok
    cases hok

end Parameter
end CommandGrammar
