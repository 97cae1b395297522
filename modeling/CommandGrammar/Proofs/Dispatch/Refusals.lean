/-
# What is reported when everybody refuses

A line may come down a chain of commands each of which falls back from its child, and be refused by
all of them: first by the command at the far end of the chain, then by each command above it, which
may not be run or cannot read the line.  `Command.RefusedAbove` is such a course, with what every
command above the far end says of the line.

The failures are weighed in pairs on the way up (`CommandFailure.blame`).  A command that may not be
run adds nothing; of two parse errors the one that got further counts, the lower command's on a tie.
So a whole chain reports the deepest of its parse errors, counted from the far end
(`blamed_unparsed`), and a denial at the far end stands against all of them (`blamed_denied`).
-/

import CommandGrammar.Host.Usual
import CommandGrammar.Proofs.Dispatch.Agreement
import CommandGrammar.Proofs.Dispatch.FailedChildren
import CommandGrammar.Proofs.Laws.Combining
import Mathlib.Data.List.ReduceOption

namespace CommandGrammar

namespace CommandFrame

variable {o : Occasion} {f : CommandFrame} {p : Progress}

/-- **Who lacks the permission is denied.** -/
theorem exists_checkPermission_of_not_may {source : Source}
    (h : source.may f.permission = false) (p : Progress) :
    ∃ k, f.checkPermission source p = ⟨.error (.denied k), p, []⟩ := by
  unfold checkPermission
  cases hk : f.permission with
  | none =>
    rw [hk] at h
    cases h
  | some k =>
    rw [hk] at h
    simp only [show source.grants k = false from h]
    exact ⟨k, rfl⟩

/-- `f.Declines o p said`: a command does not take the line at `p` as its own, because the source
may not run it (and then it says nothing), or because the line does not match. -/
inductive Declines (o : Occasion) (f : CommandFrame) (p : Progress) : Option ParseError → Prop
  | denied (lacks : o.source.may f.permission = false) : Declines o f p none
  | unparsed {e : ParseError} (allowed : o.source.may f.permission = true)
      (own : (f.parseOwn o p).result = .error (.unparsed e)) : Declines o f p (some e)

end CommandFrame

/-- The failure of a command, after the failure of its child, that says `said` of the line. -/
def CommandFailure.weighed (child : CommandFailure) : Option ParseError → CommandFailure
  | none => child
  | some e => child.blame (.unparsed e)

namespace CommandFrame

variable {o : Occasion} {f : CommandFrame} {p : Progress}

/-- **A command that declines weighs its own failure against its child's.** -/
theorem Declines.fallBack_eq {said : Option ParseError} (h : f.Declines o p said)
    (child : CommandFailure) :
    ∃ q, f.fallBack o child p = ⟨.error (child.weighed said), q, []⟩ := by
  unfold fallBack
  dsimp only
  cases h with
  | denied lacks =>
    obtain ⟨k, hk⟩ := exists_checkPermission_of_not_may lacks p
    rw [Attempt.bind_of_error hk]
    cases child <;> exact ⟨p, rfl⟩
  | @unparsed e allowed own =>
    obtain ⟨q, hown⟩ : ∃ q, f.parseOwn o p = ⟨.error (.unparsed e), q, []⟩ := by
      rcases hown : f.parseOwn o p with ⟨r, q, runs⟩
      rw [hown] at own
      obtain rfl : r = .error (.unparsed e) := own
      rw [(quiet_parseOwn o f).runs_eq_nil hown]
      exact ⟨q, rfl⟩
    rw [Attempt.bind_of_ok (checkPermission_of_may allowed p), hown]
    exact ⟨q, rfl⟩

end CommandFrame

/-- The failure that a chain of commands reports, the first command's word being the last. -/
def CommandFailure.blamed (why : CommandFailure) (said : List (Option ParseError)) :
    CommandFailure :=
  said.foldr (fun own child => child.weighed own) why

/-- **A further error counts if it stands further than all before it.** -/
theorem ParseError.deepest_concat (e f : ParseError) (es : List ParseError) :
    e.deepest (es ++ [f]) = (e.deepest es).deeper f := by
  unfold deepest
  rw [List.foldl_append]
  rfl

namespace CommandFailure

/-- **Every rejection may be recovered from.** -/
theorem isRecoverable_of_isRejection {why : CommandFailure} (h : why.isRejection = true) :
    why.isRecoverable = true := by
  cases why with
  | unparsed e => rfl
  | denied k => rfl
  | _ => cases h

/-- **A rejection that is weighed against an own problem stays one.** -/
theorem isRejection_weighed {why : CommandFailure} (h : why.isRejection = true)
    (own : Option ParseError) : (why.weighed own).isRejection = true := by
  cases own with
  | none => exact h
  | some e =>
    cases why with
    | unparsed f => rfl
    | denied k => rfl
    | _ => cases h

/-- **So does a rejection that is blamed on the deepest problem.** -/
theorem isRejection_blamed {why : CommandFailure} (h : why.isRejection = true)
    (said : List (Option ParseError)) : (why.blamed said).isRejection = true := by
  induction said with
  | nil => exact h
  | cons own said ih => exact isRejection_weighed ih own

/-- **A denial stands against whatever is said above it.** -/
theorem blamed_denied (k : String) (said : List (Option ParseError)) :
    (denied k).blamed said = denied k := by
  induction said with
  | nil => rfl
  | cons own said ih =>
    show ((denied k).blamed said).weighed own = _
    rw [ih]
    cases own <;> rfl

/-- **Of parse errors the deepest one is reported**, the one nearest to the far end on a tie. -/
theorem blamed_unparsed (e : ParseError) (said : List (Option ParseError)) :
    (unparsed e).blamed said = unparsed (e.deepest said.reverse.reduceOption) := by
  induction said with
  | nil => rfl
  | cons own said ih =>
    show ((unparsed e).blamed said).weighed own = _
    rw [ih, List.reverse_cons, List.reduceOption_append]
    cases own with
    | none =>
      rw [List.reduceOption_singleton, Option.toList_none, List.append_nil]
      rfl
    | some f =>
      rw [List.reduceOption_singleton, Option.toList_some, ParseError.deepest_concat]
      rfl

end CommandFailure

namespace Command

/-- `RefusedAbove o levels c p q said`: the line goes from the root of the tree at `p` down all
levels, and comes to `c` at `q`.  Every command that it passes falls back from its child, and
declines the line if this fails; `said` is what they say of it, the root first. -/
inductive RefusedAbove (o : Occasion) :
    List Level → Command → Progress → Progress → List (Option ParseError) → Prop
  | here (c : Command) (p : Progress) : RefusedAbove o [] c p p []
  | down {l : Level} {levels : List Level} {c : Command} {p m r q : Progress}
      {own : Option ParseError} {said : List (Option ParseError)}
      (passes : Passes o l (within levels c) p m r)
      (isOpen : (!l.frame.guardsChildren || o.source.may l.frame.permission) = true)
      (fallsBack : l.frame.mayFallBack = true)
      (declines : l.frame.Declines o m own)
      (onward : RefusedAbove o levels c r q said) : RefusedAbove o (l :: levels) c p q (own :: said)

variable {o : Occasion} {levels : List Level} {l : Level} {c : Command} {p m r q : Progress}

/-- **A command weighs what it says of a line against the failure of its child.** -/
theorem Passes.result_of_declines {own : Option ParseError} {why : CommandFailure}
    (h : Passes o l c p m r)
    (isOpen : (!l.frame.guardsChildren || o.source.may l.frame.permission) = true)
    (fallsBack : l.frame.mayFallBack = true) (declines : l.frame.Declines o m own)
    (hchild : (resolve o c r).result = .error why) (hrec : why.isRecoverable = true) :
    (resolve o (l.around c) p).result = .error (why.weighed own) := by
  obtain ⟨t, -, hnext, -⟩ := h.named
  obtain ⟨runs, hsub⟩ : ∃ runs, resolveSub o c m = ⟨.error why, m, runs⟩ := by
    have hgo := goInto_of_next hnext c (resolve o c)
    rcases hc : resolve o c r with ⟨result, s, runs⟩
    rw [hc] at hchild hgo
    obtain rfl : result = .error why := hchild
    exact ⟨_, resolveSub_of_error hgo⟩
  obtain ⟨s, hback⟩ := declines.fallBack_eq why
  rw [h.resolve_eq, viaChild_of_error isOpen hsub fallsBack hrec, Attempt.bind_of_error hback]

/-- **A chain reports what its far end is blamed for.** -/
theorem RefusedAbove.result_resolve {said : List (Option ParseError)} {why : CommandFailure}
    (h : RefusedAbove o levels c p q said) (hwhy : (resolve o c q).result = .error why)
    (hrej : why.isRejection = true) :
    (resolve o (within levels c) p).result = .error (why.blamed said) := by
  induction h with
  | here c p => exact hwhy
  | @down l levels c p m r q own said passes isOpen fallsBack declines _ ih =>
    exact passes.result_of_declines isOpen fallsBack declines (ih hwhy)
      (CommandFailure.isRecoverable_of_isRejection (CommandFailure.isRejection_blamed hrej said))

/-- `c.Reports o line context why`: the line has no target, for a reason; it is not run either, and
the same reason is given, when it is run with nothing bound. -/
structure Reports (o : Occasion) (c : Command) (line : String) (context : Context)
    (why : CommandFailure) : Prop where
  parse : (c.parse o line context).result = .error why
  process : context = {} → (c.process o line).result = .error why ∧ (c.process o line).runs = []

/-- **A line that has no target is not run**, for the same reason. -/
theorem dispatch_of_resolve_error {why : CommandFailure}
    (h : (resolve o c p).result = .error why) :
    (dispatch o c p).result = .error why ∧ (dispatch o c p).runs = [] := by
  have hagree := agrees_resolve_dispatch o c p
  generalize resolve o c p = found at h hagree
  generalize dispatch o c p = run at hagree
  cases hagree with
  | rejected e q =>
    cases h
    exact ⟨rfl, rfl⟩
  | accepted executor later => cases h

/-- **What ends the resolving of a line is reported.** -/
theorem reports_of_resolve {line : String} {context : Context} {why : CommandFailure}
    (h : (resolve o c (c.atStart line context)).result = .error why) :
    c.Reports o line context why where
  parse := h
  process := by
    rintro rfl
    exact dispatch_of_resolve_error h

/-- **Of the failures of a chain the deepest is reported.**  Let a line come down a chain of
commands that fall back from their children, however long, and let all of them decline it after the
command at the far end has rejected it.  If the far end found that the line does not match, the
error reported is the one that got furthest, of this error and those of the commands above; of two
that got equally far, the lower command's.  Commands that the source may not run add nothing.  If
the far end denied the line to the source, the denial is reported. -/
theorem deepest_refusal_is_reported {o : Occasion} {levels : List Level} {c : Command}
    {line : String} {context : Context} {q : Progress} {said : List (Option ParseError)}
    (h : RefusedAbove o levels c ((within levels c).atStart line context) q said) :
    (∀ e, (resolve o c q).result = .error (.unparsed e) →
      ∃ lower deepest upper, e :: said.reverse.reduceOption = lower ++ deepest :: upper ∧
        (∀ f ∈ lower, f.position < deepest.position) ∧
        (∀ f ∈ upper, f.position ≤ deepest.position) ∧
        (within levels c).Reports o line context (.unparsed deepest)) ∧
    ∀ k, (resolve o c q).result = .error (.denied k) →
      (within levels c).Reports o line context (.denied k) := by
  constructor
  · intro e he
    obtain ⟨lower, upper, hsplit, hlower, hupper⟩ :=
      ParseError.exists_deepest e said.reverse.reduceOption
    refine ⟨lower, _, upper, hsplit, hlower, hupper, reports_of_resolve ?_⟩
    rw [h.result_resolve he rfl, CommandFailure.blamed_unparsed]
  · intro k hk
    refine reports_of_resolve ?_
    rw [h.result_resolve hk rfl, CommandFailure.blamed_denied]

/-- **The root got furthest**: of `ask bob why now` the command `bob` reads no number at `why`, its
parent may not be run, and the root has a word too many at `now`. -/
theorem root_got_furthest :
    let o : Occasion := ⟨.bare "tester", ⟨2024, 5, 31, 12, 34, 56, 789012, none⟩, .usual⟩
    let speak : Executor := ⟨"speak", fun _ _ => { ending := .silent }⟩
    let word : Parameter := .leaf { key := "word" } .text
    let root : Level :=
      ⟨{ parameter := .all {} [word, word, word], executor := some speak
         onChildFailure := .fallBack, splitting := .spaced }, [], []⟩
    let ask : Level :=
      ⟨{ names := ["ask"], executor := some speak, permission := some "talk"
         guardsChildren := false, onChildFailure := .fallBack }, [], []⟩
    let bob : Command :=
      .node { names := ["bob"], parameter := .leaf { key := "n" } .integer
              executor := some speak } []
    let line := "ask bob why now"
    let s : TokenStream :=
      .ofTokens line [⟨"ask", 0, 3⟩, ⟨"bob", 4, 7⟩, ⟨"why", 8, 11⟩, ⟨"now", 12, 15⟩] none
    let s₂ := s.withCursor 2 (by decide)
    let atWhy : ParseError := ⟨.notAnInteger "why", line, 8⟩
    let atNow : ParseError := ⟨.tooManyArguments, line, 12⟩
    (within [root, ask] bob).atStart line {} = ⟨s, {}⟩ ∧
      RefusedAbove o [root, ask] bob ⟨s, {}⟩ ⟨s₂, {}⟩ [some atNow, none] ∧
      (resolve o bob ⟨s₂, {}⟩).result = .error (.unparsed atWhy) ∧
      (within [root, ask] bob).Reports o line {} (.unparsed atNow) := by
  intro o speak word root ask bob line s s₂ atWhy atNow
  let s₁ := s.withCursor 1 (by decide)
  have hsplit : Splitting.spaced.split "ask bob why now" false =
      ([⟨"ask", 0, 3⟩, ⟨"bob", 4, 7⟩, ⟨"why", 8, 11⟩, ⟨"now", 12, 15⟩], none) := rfl
  have hstart : (within [root, ask] bob).atStart line {} = ⟨s, {}⟩ :=
    congrArg (Progress.mk · {}) (TokenStream.ofLine_of_split hsplit)
  have hbob : (resolve o bob ⟨s₂, {}⟩).result = .error (.unparsed atWhy) := by
    simp only [o, bob, line, s, s₂, atWhy]
    rfl
  have hrefused : RefusedAbove o [root, ask] bob ⟨s, {}⟩ ⟨s₂, {}⟩ [some atNow, none] := by
    refine .down (m := ⟨s, {}⟩) (r := ⟨s₁, {}⟩) ⟨rfl, _, rfl, rfl, rfl, ?_⟩ rfl rfl
      (.unparsed rfl rfl) (.down (m := ⟨s₁, {}⟩) (r := ⟨s₂, {}⟩) ⟨rfl, _, rfl, rfl, rfl, ?_⟩ rfl rfl
        (.denied rfl) (.here _ _))
    · exact fun _ h => absurd h List.not_mem_nil
    · exact fun _ h => absurd h List.not_mem_nil
  refine ⟨hstart, hrefused, hbob, ?_⟩
  obtain ⟨lower, deepest, upper, hsplit, -, hupper, hreports⟩ :=
    (deepest_refusal_is_reported (hstart ▸ hrefused)).1 atWhy hbob
  have hboth : [atWhy, atNow] = lower ++ deepest :: upper := hsplit
  rcases lower with _ | ⟨_, _ | ⟨_, _⟩⟩
  · -- The error at `why` is not the deepest one.
    obtain ⟨rfl, rfl⟩ := List.cons.inj hboth
    exact absurd (hupper atNow (List.mem_singleton.2 rfl)) (by decide)
  · obtain ⟨-, hrest⟩ := List.cons.inj hboth
    obtain ⟨rfl, -⟩ := List.cons.inj hrest
    exact hreports
  · simp at hboth

end Command
end CommandGrammar
