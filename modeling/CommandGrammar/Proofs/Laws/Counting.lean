/-
# One value, run after run

`onlyOne` looks at everything that is bound under its key, whichever run has bound it.  Inside a
repetition it counts the values of the earlier runs too.  With nothing bound before, and with a
parameter that binds one value whenever it succeeds:

| | `allOf` around `onlyOne` | `repeated n` around `onlyOne` |
| --- | --- | --- |
| no two runs in a row succeed | as without `onlyOne` | as without `onlyOne` |
| two runs in a row succeed | stops behind the first value | refuses the second value |
-/

import CommandGrammar.Host.Usual
import CommandGrammar.Proofs.Laws.Repeating
import CommandGrammar.Proofs.Steps.Bindings

namespace CommandGrammar

namespace Modifier

variable {inner inner' : Step Unit} {key : String} {p q r : Progress} {asked : List String}

section onlyOne

/-- **What stops inside `onlyOne` stops so outside.** -/
theorem runOnlyOne_of_error {e : Stop} (h : inner p = ⟨.error e, q, asked⟩) :
    runOnlyOne key inner p = ⟨.error e, q, asked⟩ := by
  rw [runOnlyOne, Step.here_bind, Step.bind_of_error h]

/-- **One value is what `onlyOne` asks for.** -/
theorem runOnlyOne_of_single (h : inner p = ⟨.ok (), q, asked⟩)
    (hq : (q.context.values key).length ≤ 1) : runOnlyOne key inner p = ⟨.ok (), q, asked⟩ := by
  rw [runOnlyOne, Step.here_bind, Step.bind_of_ok h, Step.here_bind, if_neg (Nat.not_lt.2 hq)]
  exact congrArg (Report.mk _ q) (List.append_nil asked)

/-- **Several values are refused where the reading began.** -/
theorem runOnlyOne_of_several (h : inner p = ⟨.ok (), q, asked⟩)
    (hq : 1 < (q.context.values key).length) :
    runOnlyOne key inner p =
      ⟨.error (.failed (q.stream.errorAt p.stream.position (.severalValues key))), q, asked⟩ := by
  rw [runOnlyOne, Step.here_bind, Step.bind_of_ok h, Step.here_bind, if_pos hq]
  exact congrArg (Report.mk _ q) (List.append_nil asked)

/-- **A step that does not succeed is left as it is.** -/
theorem runOnlyOne_of_not_leads (h : ∀ q, ¬inner.Leads p q) :
    runOnlyOne key inner p = inner p := by
  rcases hp : inner p with ⟨e | ⟨⟩, q, asked⟩
  · exact runOnlyOne_of_error hp
  · exact absurd ⟨asked, hp⟩ (h q)

end onlyOne

section alike

/-- **Repetitions of steps that run alike here, and repeat alike from there, are alike.** -/
theorem runAgain_congr {n : Nat} (h : inner q = inner' q)
    (hrest : ∀ r, inner.Leads q r → runAgain inner n r = runAgain inner' n r) :
    runAgain inner (n + 1) q = runAgain inner' (n + 1) q := by
  rw [runAgain, runAgain]
  dsimp only
  rcases hq : inner q with ⟨(e | b) | ⟨⟩, r, asked⟩
  · rw [Step.atomic_of_error hq, Step.atomic_of_error (h.symm.trans hq)]
  · rw [Step.atomic_of_error hq, Step.atomic_of_error (h.symm.trans hq)]
  · rw [Step.atomic_of_ok hq, Step.atomic_of_ok (h.symm.trans hq)]
    dsimp only
    rw [hrest r ⟨asked, hq⟩]

/-- **Greedy repetitions come to the same if their rounds do.** -/
theorem runAllOf_congr (h : inner p = inner' p)
    (hrest : ∀ q, inner.Leads p q → ∀ n, runAgain inner n q = runAgain inner' n q) :
    runAllOf key inner p = runAllOf key inner' p := by
  rw [runAllOf, runAllOf]
  rcases hp : inner p with ⟨(e | b) | ⟨⟩, q, asked⟩
  · rw [Step.atomic_of_error hp, Step.atomic_of_error (h.symm.trans hp)]
  · rw [Step.atomic_of_error hp, Step.atomic_of_error (h.symm.trans hp)]
  · rw [Step.atomic_of_ok hp, Step.atomic_of_ok (h.symm.trans hp)]
    dsimp only
    rw [hrest q ⟨asked, hp⟩]

/-- **So do counted ones.** -/
theorem runTimes_congr {times left attempt : Nat} (h : inner p = inner' p)
    (hrest : ∀ q, inner.Leads p q →
      runTimes inner times left (attempt + 1) q = runTimes inner' times left (attempt + 1) q) :
    runTimes inner times (left + 1) attempt p = runTimes inner' times (left + 1) attempt p := by
  rcases hp : inner p with ⟨(e | b) | ⟨⟩, q, asked⟩
  · rw [runTimes_of_failed hp, runTimes_of_failed (h.symm.trans hp)]
  · rw [runTimes_of_broken hp, runTimes_of_broken (h.symm.trans hp)]
  · rw [runTimes_of_ok hp, runTimes_of_ok (h.symm.trans hp), hrest q ⟨asked, hp⟩]

end alike

/-- **A further run that fails ends a repetition where it stands.** -/
theorem runAgain_of_fails (h : inner.Fails q) (n : Nat) : (runAgain inner n).Leads q q := by
  obtain ⟨e, he⟩ := h
  unfold Step.Leads
  cases n with
  | zero => exact ⟨[], rfl⟩
  | succ n =>
    rw [runAgain]
    dsimp only
    rw [Step.atomic_of_error (Report.eq_of_result he)]
    split <;> exact ⟨_, rfl⟩

/-- **A greedy repetition ends where its second round fails.** -/
theorem runAllOf_of_second_fails (hnext : p.stream.hasNext = true) (hpq : inner.Consumes p q)
    (hq : inner.Fails q) : (runAllOf key inner).Leads p q := by
  obtain ⟨⟨asked, hp⟩, hcursor⟩ := hpq
  obtain ⟨more, hagain⟩ := runAgain_of_fails hq q.stream.remaining
  refine ⟨asked ++ more, ?_⟩
  rw [runAllOf, if_pos hnext, Step.atomic_of_ok hp]
  dsimp only
  rw [if_neg hcursor, hagain]
  rfl

end Modifier

/-- **Reading a token moves the cursor behind it and binds nothing.** -/
theorem Step.of_token_ok {s q : Progress} {t : String × Int} {asked : List String}
    (h : Step.token s = ⟨.ok t, q, asked⟩) :
    q.context = s.context ∧ q.stream.cursor = s.stream.cursor + 1 := by
  unfold Step.token at h
  rcases s.stream.next_cases with ⟨hc, hn, -⟩ | ⟨hn, -⟩ <;> rw [hn] at h <;> cases h
  exact ⟨rfl, rfl⟩

namespace Leaf

variable {o : Occasion} {s q : Progress} {vs : List Value} {asked : List String}

/-- Whether a leaf makes one value of every token that it accepts. -/
def makesOne : Leaf → Bool
  | text | integer | real | truth | duration | moment => true
  | _ => false

/-- **Such a leaf reads the token, makes one value, and leaves the bindings to its parameter.** -/
theorem of_read_ok {l : Leaf} (hl : l.makesOne = true) (h : l.read o s = ⟨.ok vs, q, asked⟩) :
    vs.length = 1 ∧ q.context = s.context ∧ q.stream.cursor = s.stream.cursor + 1 := by
  cases l <;> unfold read at h
  case integer | real | truth | moment =>
    obtain ⟨t, v, xs, htoken, -, rfl⟩ := of_readToken_ok h
    exact ⟨rfl, Step.of_token_ok htoken⟩
  case text =>
    obtain ⟨t, r, xs, ys, hnext, hr, -⟩ := Step.exists_of_bind_ok h
    cases hr
    unfold Step.next at hnext
    rcases s.stream.next_cases with ⟨hc, hn, -⟩ | ⟨hn, -⟩ <;> rw [hn] at hnext <;> cases hnext
    exact ⟨rfl, rfl, rfl⟩
  case duration =>
    obtain ⟨⟨t, i⟩, r, xs, ys, htoken, hr, -⟩ := Step.exists_of_bind_ok h
    cases hv : Duration.read t with
    | ok us =>
      simp only [hv] at hr
      cases hr
      exact ⟨rfl, Step.of_token_ok htoken⟩
    | error fault => cases fault <;> simp only [hv] at hr <;> cases hr
  all_goals cases hl

end Leaf

namespace Parameter

open Modifier

variable {o : Occasion} {p : Parameter} {s q z : Progress}

/-- Whenever those who may use the parameter run it and it succeeds, it reads something and binds
one value more under its key. -/
def TakesOne (o : Occasion) (p : Parameter) : Prop :=
  p.mayUse o.source = true → ∀ s q, (p.parse o).Leads s q → (p.parse o).Consumes s q ∧
    (q.context.values p.key).length = (s.context.values p.key).length + 1

/-- **A keyed leaf that makes one value of every token takes one.** -/
theorem takesOne_leaf {f : Frame} {l : Leaf} (hkey : f.key ≠ "") (hm : f.modifiers = [])
    (hl : l.makesOne = true) : (leaf f l).TakesOne o := by
  intro hmay s q hlead
  obtain ⟨asked, h⟩ := id hlead
  have hkey : (!f.key.isEmpty) = true := by simpa using hkey
  rw [parse_of_modifiers_nil (p := leaf f l) hm hmay] at h
  obtain ⟨vs, r, xs, ys, hread, hbind, -⟩ := Step.exists_of_bind_ok h
  rw [if_pos hkey] at hbind
  cases hbind
  obtain ⟨hone, hcontext, hcursor⟩ := Leaf.of_read_ok hl hread
  refine ⟨⟨hlead, ?_⟩, ?_⟩
  · show r.stream.cursor ≠ _
    omega
  · show ((r.context.putAll f.key vs).values f.key).length = _
    rw [Context.values_putAll_self, List.length_append, hone, hcontext]
    rfl

/-- **The first value is the only one so far.** -/
theorem runOnlyOne_first (hp : p.TakesOne o) (hmay : p.mayUse o.source = true)
    (hs : s.context.values p.key = []) : runOnlyOne p.key (p.parse o) s = p.parse o s := by
  rcases h : p.parse o s with ⟨e | ⟨⟩, q, asked⟩
  · exact runOnlyOne_of_error h
  · obtain ⟨-, hone⟩ := hp hmay s q ⟨asked, h⟩
    rw [hs] at hone
    exact runOnlyOne_of_single h (Nat.le_of_eq hone)

/-- **The second value is one too many.** -/
theorem runOnlyOne_second (hp : p.TakesOne o) (hmay : p.mayUse o.source = true)
    (hs : s.context.values p.key = []) (hq : (p.parse o).Leads s q) (hz : (p.parse o).Leads q z) :
    ∃ asked, runOnlyOne p.key (p.parse o) q =
      ⟨.error (.failed ⟨.severalValues p.key, s.stream.raw, q.stream.position⟩), z, asked⟩ := by
  obtain ⟨-, hone⟩ := hp hmay s q hq
  obtain ⟨-, htwo⟩ := hp hmay q z hz
  rw [hone, hs] at htwo
  have honward := governs_onward o p
  have hraw : z.stream.raw = s.stream.raw := ((hq.onward honward).trans (hz.onward honward)).raw
  obtain ⟨more, hz⟩ := hz
  refine ⟨more, ?_⟩
  rw [runOnlyOne_of_several hz (by rw [htwo]; decide), TokenStream.errorAt, hraw]

/-- **A parameter keeps its key inside more modifiers.** -/
theorem key_wrapped (p : Parameter) (ms : List Modifier) : (p.wrapped ms).key = p.key := by
  rw [key, wrapped, frame_withFrame]
  rfl

/-- **A usable parameter inside `onlyOne` is counted after it is parsed.** -/
theorem parse_onlyOne (h : p.mayUse o.source = true) :
    (p.wrapped [.onlyOne]).parse o = runOnlyOne p.key (p.parse o) := parse_wrapped h [.onlyOne]

/-- **Without a second value, `onlyOne` makes no difference to repetitions.** -/
theorem repetitions_of_single (hp : p.TakesOne o) (hmay : p.mayUse o.source = true)
    (hs : s.context.values p.key = [])
    (hlast : ∀ q z, (p.parse o).Leads s q → ¬(p.parse o).Leads q z) :
    runAllOf p.key (runOnlyOne p.key (p.parse o)) s = runAllOf p.key (p.parse o) s ∧
      ∀ n, runTimes (runOnlyOne p.key (p.parse o)) n n 1 s = runTimes (p.parse o) n n 1 s := by
  have hfirst := runOnlyOne_first hp hmay hs
  have hsecond : ∀ q, (p.parse o).Leads s q → runOnlyOne p.key (p.parse o) q = p.parse o q :=
    fun q hq => runOnlyOne_of_not_leads fun z => hlast q z hq
  constructor
  · refine (runAllOf_congr hfirst.symm fun q hq n => ?_).symm
    cases n with
    | zero => rfl
    | succ n => exact runAgain_congr (hsecond q hq).symm fun z hz => absurd hz (hlast q z hq)
  · intro n
    cases n with
    | zero => rfl
    | succ n =>
      refine (runTimes_congr hfirst.symm fun q hq => ?_).symm
      cases n with
      | zero => rfl
      | succ n => exact runTimes_congr (hsecond q hq).symm fun z hz => absurd hz (hlast q z hq)

/-- **At the second value, `onlyOne` ends the greedy repetition and stops the counted one.** -/
theorem repetitions_of_several (hp : p.TakesOne o) (hmay : p.mayUse o.source = true)
    (hs : s.context.values p.key = []) (hq : (p.parse o).Leads s q) (hz : (p.parse o).Leads q z) :
    (runAllOf p.key (runOnlyOne p.key (p.parse o))).Leads s q ∧
      ∀ n, 2 ≤ n → ∃ asked, runTimes (runOnlyOne p.key (p.parse o)) n n 1 s =
        ⟨.error (.failed ⟨.inAttempt (.severalValues p.key) 2 n, s.stream.raw,
          q.stream.position⟩), z, asked⟩ := by
  have hfirst := runOnlyOne_first hp hmay hs
  obtain ⟨more, hsecond⟩ := runOnlyOne_second hp hmay hs hq hz
  have hconsumes := (hp hmay s q hq).1
  have hnext : s.stream.hasNext = true := by
    have hlt := hconsumes.remaining_lt (governs_onward o p)
    rw [TokenStream.hasNext_eq, decide_eq_true_eq]
    omega
  obtain ⟨⟨asked, hrun⟩, hcursor⟩ := hconsumes
  have hone := hfirst.trans hrun
  constructor
  · exact runAllOf_of_second_fails hnext ⟨⟨asked, hone⟩, hcursor⟩ ⟨_, by rw [hsecond]⟩
  · intro n hn
    obtain ⟨left, rfl⟩ := Nat.exists_eq_add_of_le' hn
    rw [runTimes_of_ok hone, runTimes_of_failed hsecond]
    exact ⟨_, rfl⟩

/-- **`onlyOne` counts the values of all runs.**  Let the parameter bind one value whenever it
succeeds, and let nothing be bound under its key.  If no two runs in a row succeed, `onlyOne` inside
a repetition makes no difference.  Otherwise the greedy repetition stops behind the first value; and
a repetition that is to read two values or more refuses the second one, naming the attempt, and
undoes everything. -/
theorem only_one_counts_all_runs (hp : p.TakesOne o) (hs : s.context.values p.key = []) :
    (p.mayUse o.source = false ∨ (∀ q z, (p.parse o).Leads s q → ¬(p.parse o).Leads q z) →
      ((p.wrapped [.onlyOne]).wrapped [.allOf]).parse o s = (p.wrapped [.allOf]).parse o s ∧
        ∀ n, ((p.wrapped [.onlyOne]).wrapped [.repeated n]).parse o s =
          (p.wrapped [.repeated n]).parse o s) ∧
    ((p.wrapped [.onlyOne]).wrapped [.repeated 1]).parse o s =
      (p.wrapped [.repeated 1]).parse o s ∧
    ∀ q z, p.mayUse o.source = true → (p.parse o).Leads s q → (p.parse o).Leads q z →
      (((p.wrapped [.onlyOne]).wrapped [.allOf]).parse o).Leads s q ∧
        ∀ n, 2 ≤ n → ∃ asked, ((p.wrapped [.onlyOne]).wrapped [.repeated n]).parse o s =
          ⟨.error (.failed ⟨.inAttempt (.severalValues p.key) 2 n, s.stream.raw,
            q.stream.position⟩), s, asked⟩ := by
  by_cases hmay : p.mayUse o.source = true
  · have honce : (p.wrapped [.onlyOne]).mayUse o.source = true := by rw [mayUse_wrapped, hmay]
    rw [parse_allOf honce, parse_allOf hmay, parse_repeated honce, parse_repeated hmay,
      parse_onlyOne hmay, key_wrapped]
    refine ⟨?_, ?_, ?_⟩
    · intro hlast
      obtain ⟨hall, htimes⟩ :=
        repetitions_of_single hp hmay hs (hlast.resolve_left (ne_false_of_eq_true hmay))
      refine ⟨hall, fun n => ?_⟩
      rw [parse_repeated honce, parse_repeated hmay, parse_onlyOne hmay]
      exact Step.atomic_congr (htimes n)
    · exact Step.atomic_congr
        (runTimes_congr (runOnlyOne_first hp hmay hs).symm fun _ _ => rfl).symm
    · intro q z _ hq hz
      obtain ⟨hall, htimes⟩ := repetitions_of_several hp hmay hs hq hz
      refine ⟨hall, fun n hn => ?_⟩
      obtain ⟨asked, hrun⟩ := htimes n hn
      rw [parse_repeated honce, parse_onlyOne hmay, Step.atomic_of_error hrun]
      exact ⟨asked, rfl⟩
  · have hmay := Bool.of_not_eq_true hmay
    have hsame : ∀ m, ((p.wrapped [.onlyOne]).wrapped [m]).parse o = (p.wrapped [m]).parse o := by
      intro m
      rw [parse_of_not_mayUse (by rw [mayUse_wrapped, mayUse_wrapped, hmay]),
        parse_of_not_mayUse (by rw [mayUse_wrapped, hmay])]
    refine ⟨fun _ => ⟨by rw [hsame], fun n => by rw [hsame]⟩, by rw [hsame], ?_⟩
    intro q z hmay'
    exact absurd (hmay'.symm.trans hmay) (by decide)

/-- **In `1 2`, the second number is refused.**  In `1 x`, the greedy repetition reads the one
number there is, with `onlyOne` inside as without. -/
theorem second_number_is_refused :
    let o : Occasion := ⟨.trusted "tester", ⟨2024, 5, 31, 12, 34, 56, 789012, none⟩, .usual⟩
    let number : Parameter := .leaf { key := "n" } .integer
    let single : Parameter := number.wrapped [.onlyOne]
    let line (raw : String) : Progress := .ofStream (.ofLine .spaced raw)
    number.TakesOne o ∧
      (single.wrapped [.allOf]).parse o (line "1 x") =
        (number.wrapped [.allOf]).parse o (line "1 x") ∧
      ∃ q asked, ((single.wrapped [.allOf]).parse o).Leads (line "1 2") q ∧ q.stream.cursor = 1 ∧
        (single.wrapped [.repeated 2]).parse o (line "1 2") =
          ⟨.error (.failed ⟨.inAttempt (.severalValues "n") 2 2, "1 2", 2⟩), line "1 2",
            asked⟩ := by
  intro o number single line
  have hone : number.TakesOne o := takesOne_leaf (by decide) rfl rfl
  refine ⟨hone, ?_, ?_⟩
  · refine ((only_one_counts_all_runs (s := line "1 x") hone rfl).1 (.inr ?_)).1
    rintro q z ⟨asked, hq⟩ ⟨more, hz⟩
    have hx : (number.parse o (number.parse o (line "1 x")).progress).result.toOption = none := by
      decide +kernel
    rw [hq, hz] at hx
    cases hx
  · obtain ⟨-, -, hseveral⟩ := only_one_counts_all_runs (s := line "1 2") hone rfl
    have hruns : (number.parse o (line "1 2")).result.toOption = some () ∧
        (number.parse o (number.parse o (line "1 2")).progress).result.toOption = some () ∧
        (number.parse o (line "1 2")).progress.stream.cursor = 1 ∧
        (number.parse o (line "1 2")).progress.stream.position = 2 := by
      decide +kernel
    rcases hq : number.parse o (line "1 2") with ⟨e | ⟨⟩, q, asked⟩
    · rw [hq] at hruns
      cases hruns.1
    · rw [hq] at hruns
      obtain ⟨-, hz, hcursor, hposition⟩ := hruns
      rcases hz' : number.parse o q with ⟨e | ⟨⟩, z, more⟩
      · rw [hz'] at hz
        cases hz
      · obtain ⟨hall, htimes⟩ := hseveral q z rfl ⟨asked, hq⟩ ⟨more, hz'⟩
        obtain ⟨words, hrepeated⟩ := htimes 2 (Nat.le_refl 2)
        refine ⟨q, words, hall, hcursor, ?_⟩
        rw [hrepeated, hposition]
        rfl

/-- **`onlyOne` inside a repetition is not judged run by run**: of `1 2`, the greedy repetition
reads both numbers without it and one number with it, and the repetition of two succeeds without it
and fails with it. -/
theorem only_one_spoils_repetition :
    let o : Occasion := ⟨.trusted "tester", ⟨2024, 5, 31, 12, 34, 56, 789012, none⟩, .usual⟩
    let number : Parameter := .leaf { key := "n" } .integer
    let single : Parameter := number.wrapped [.onlyOne]
    let s : Progress := .ofStream (.ofLine .spaced "1 2")
    let shown (p : Parameter) := ((p.parse o s).progress.context.values "n").map Value.shown
    (number.TakesOne o ∧ s.context.values "n" = []) ∧
      (shown (single.wrapped [.allOf]) = ["1"] ∧ shown (number.wrapped [.allOf]) = ["1", "2"]) ∧
      ((single.wrapped [.repeated 2]).parse o s).result.toOption = none ∧
      ((number.wrapped [.repeated 2]).parse o s).result.toOption = some () := by
  intro o number single s shown
  have hone : number.TakesOne o := takesOne_leaf (by decide) rfl rfl
  have hshown : shown (single.wrapped [.allOf]) = ["1"] ∧
      shown (number.wrapped [.allOf]) = ["1", "2"] := by
    decide +kernel
  have hcounted : ((single.wrapped [.repeated 2]).parse o s).result.toOption = none ∧
      ((number.wrapped [.repeated 2]).parse o s).result.toOption = some () := by
    decide +kernel
  exact ⟨⟨hone, rfl⟩, hshown, hcounted⟩

end Parameter
end CommandGrammar
