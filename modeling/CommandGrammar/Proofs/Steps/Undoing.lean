/-
# Failures that leave no trace

A parameter that fails has often read and bound something before.  What is left of that depends on
which of its parts stands outside of which:

| part | what is left when it fails |
| --- | --- |
| a leaf | the cursor stands wherever the leaf has stopped |
| `all`, `first` | nothing |
| `optional`, `optionalWeak`, `allOf`, `repeated` | nothing |
| `onlyOne` | all that was read and bound, if it fails because of it |
| `default`, `defaultBy`, `plain` | what the part inside leaves |

So a parameter leaves no trace if one of its parts takes failures back and no `onlyOne` stands outside
of that part, however the parameters inside it are nested.
-/

import CommandGrammar.Host.Usual
import CommandGrammar.Parameter.Parse
import CommandGrammar.Proofs.Steps.Course

namespace CommandGrammar

namespace Step

variable {α : Type}

/-- **An atomic step succeeds, or it ends where it began.** -/
theorem atomic_cases (s : Step α) (p : Progress) :
    (∃ a q asked, s p = ⟨.ok a, q, asked⟩ ∧ s.atomic p = ⟨.ok a, q, asked⟩) ∨
      ∃ e q asked, s p = ⟨.error e, q, asked⟩ ∧ s.atomic p = ⟨.error e, p, asked⟩ := by
  rcases h : s p with ⟨e | a, q, asked⟩
  · exact .inr ⟨e, q, asked, rfl, by rw [atomic, h]⟩
  · exact .inl ⟨a, q, asked, rfl, by rw [atomic, h]⟩

/-- If the step fails, everything is as it was before it. -/
def Traceless (s : Step α) : Prop :=
  ∀ p e, (s p).result = .error (.failed e) → (s p).progress = p

/-- **A step that does nothing leaves no trace.** -/
theorem traceless_done (a : α) : (Step.done a).Traceless := fun _ _ h => nomatch h

/-- **A step that goes back on failure leaves no trace.** -/
theorem traceless_atomic (s : Step α) : s.atomic.Traceless :=
  fun _ _ h => progress_atomic_of_error h

/-- If the step fails, a part of the progress is as it was before it. -/
def Restores {β : Type} (part : Progress → β) (s : Step α) : Prop :=
  ∀ p e, (s p).result = .error (.failed e) → part (s p).progress = part p

/-- **What leaves no trace restores each part.** -/
theorem Traceless.restores {β : Type} {s : Step α} (h : s.Traceless) (part : Progress → β) :
    s.Restores part := fun p e hfail => by rw [h p e hfail]

/-- **A step that only adds to a success restores what its first part does.** -/
theorem Restores.bind {β γ : Type} {part : Progress → γ} {s : Step α} {next : α → Step β}
    (hs : s.Restores part) (hnext : ∀ a p e, (next a p).result ≠ .error (.failed e)) :
    (s >>= next).Restores part := by
  intro p e h
  rcases hp : s p with ⟨f | a, q, asked⟩
  · have hleft := hs p e
    rw [bind_of_error hp] at h ⊢
    rw [hp] at hleft
    cases h
    exact hleft rfl
  · rw [bind_of_ok hp] at h
    exact absurd h (hnext a q e)

end Step

namespace Modifier

variable {inner : Step Unit} {key : String} {source : Source} {β : Type} {part : Progress → β}

/-- Whether a modifier takes back what it wraps when that fails. -/
def takesBack : Modifier → Bool
  | optional | optionalWeak | allOf | repeated _ => true
  | _ => false

/-- Whether a modifier counts the values that are bound. -/
def countsValues : Modifier → Bool
  | onlyOne => true
  | _ => false

/-- **Further runs end a repetition, they do not make it fail.** -/
theorem result_runAgain_ne_failed (inner : Step Unit) (e : ParseError) :
    ∀ n p, (runAgain inner n p).result ≠ .error (.failed e)
  | 0, _ => fun h => nomatch h
  | n + 1, p => by
    unfold runAgain
    split
    · split
      · split
        · exact fun h => nomatch h
        · exact result_runAgain_ne_failed inner e n _
      · exact fun h => nomatch h
      · exact fun h => nomatch h
    · exact fun h => nomatch h

/-- **As many runs as succeed leave no trace on failure.** -/
theorem traceless_runAllOf (key : String) (inner : Step Unit) :
    (runAllOf key inner).Traceless := by
  intro p e h
  unfold runAllOf at h ⊢
  split at h
  · rename_i hnext
    rw [if_pos hnext]
    rcases inner.atomic_cases p with ⟨_, q, asked, -, hr⟩ | ⟨_, _, _, -, hr⟩ <;> rw [hr] at h ⊢
    -- If the first run succeeds, nothing fails from then on.
    dsimp only at h
    split at h
    · cases h
    · exact absurd h (result_runAgain_ne_failed inner e _ _)
  · rename_i hnext
    rw [if_neg hnext]
    rfl

/-- **An optional step leaves no trace on failure.** -/
theorem traceless_runOptional (inner : Step Unit) : (runOptional inner).Traceless := by
  intro p e h
  unfold runOptional at h ⊢
  rcases inner.atomic_cases p with ⟨_, q, asked, -, hr⟩ | ⟨f | b, _, asked, -, hr⟩ <;>
    rw [hr] at h ⊢
  · cases h
  · dsimp only
    split <;> rfl

/-- **A weakly optional step leaves no trace on failure.** -/
theorem traceless_runOptionalWeak (inner : Step Unit) : (runOptionalWeak inner).Traceless := by
  intro p e h
  unfold runOptionalWeak at h ⊢
  rcases inner.atomic_cases p with ⟨_, q, asked, -, hr⟩ | ⟨f | b, _, asked, -, hr⟩ <;>
    rw [hr] at h ⊢
  cases h

/-- **What takes failures back leaves no trace, whatever it wraps.** -/
theorem traceless_apply_of_takesBack {m : Modifier} (h : m.takesBack = true) :
    (m.apply key source inner).Traceless := by
  cases m with
  | allOf => exact traceless_runAllOf key inner
  | repeated n => exact Step.traceless_atomic _
  | optional => exact traceless_runOptional inner
  | optionalWeak => exact traceless_runOptionalWeak inner
  | _ => cases h

/-- **A step with a default restores what the inner one restores.** -/
theorem restores_runDefault (h : inner.Restores part) (key : String) (value : Option Value) :
    (runDefault key value inner).Restores part := by
  refine h.bind fun _ p e => ?_
  rw [Step.here_bind]
  split
  · split <;> exact fun h => nomatch h
  · exact fun h => nomatch h

/-- **What does not count values restores what the part it wraps restores.** -/
theorem restores_apply (h : inner.Restores part) {m : Modifier} (hm : m.countsValues = false) :
    (m.apply key source inner).Restores part := by
  cases m with
  | onlyOne => cases hm
  | default v => exact restores_runDefault h key _
  | defaultBy value => exact restores_runDefault h key _
  | plain => exact h
  | _ => exact (traceless_apply_of_takesBack rfl).restores part

/-- **A chain restores everything if a part of it takes failures back**, and otherwise what the step
inside does, unless a part outside of that one counts values. -/
theorem restores_chain {ms : List Modifier}
    (hback : inner.Restores part ∨ ∃ m ∈ ms, m.takesBack = true)
    (houter : ∀ m ∈ ms.takeWhile (!·.takesBack), m.countsValues = false) :
    (chain key source ms inner).Restores part := by
  induction ms with
  | nil => exact hback.resolve_right fun ⟨_, hm, _⟩ => List.not_mem_nil hm
  | cons m ms ih =>
    rw [chain_cons]
    cases hm : m.takesBack with
    | true => exact (traceless_apply_of_takesBack hm).restores part
    | false =>
      rw [List.takeWhile_cons_of_pos (by rw [hm]; rfl)] at houter
      refine restores_apply (ih (hback.imp_right ?_) fun k hk => ?_) ?_
      · rintro ⟨k, hk, htakes⟩
        rcases List.mem_cons.1 hk with rfl | hk
        · exact absurd (hm.symm.trans htakes) Bool.false_ne_true
        · exact ⟨k, hk, htakes⟩
      · exact houter k (List.mem_cons_of_mem m hk)
      · exact houter m List.mem_cons_self

end Modifier

namespace Parameter

variable {o : Occasion} {p : Parameter}

/-- Whether a parameter is made of other parameters. -/
def isComposite : Parameter → Bool
  | leaf _ _ => false
  | all _ _ | first _ _ _ => true

/-- **An alternative that fails hands on to the next one**, the deeper failure being kept. -/
theorem parseFirst_cons (o : Occasion) (best : ParseError) (c : Parameter) (cs : List Parameter)
    (s : Progress) : parseFirst o best (c :: cs) s = match (c.parse o).atomic s with
      | ⟨.error (.failed e), _, asked⟩ =>
        (parseFirst o (if e.position > best.position then e else best) cs s).after asked
      | r => r :=
  congrFun (parseFirst.eq_2 o best c cs) s

/-- **A choice begins with its first alternative.** -/
theorem core_first (o : Occasion) (f : Frame) (c : Parameter) (cs : List Parameter)
    (s : Progress) : (first f c cs).core o s = match (c.parse o).atomic s with
      | ⟨.error (.failed e), _, asked⟩ => (parseFirst o e cs s).after asked
      | r => r :=
  congrFun (core.eq_3 o f c cs) s

/-- **Alternatives leave no trace on failure.** -/
theorem traceless_parseFirst (o : Occasion) : ∀ (cs : List Parameter) (best : ParseError),
    (parseFirst o best cs).Traceless
  | [], best => by
    rw [parseFirst]
    exact fun _ _ _ => rfl
  | c :: cs, best => by
    intro p e h
    rw [parseFirst_cons] at h ⊢
    rcases (c.parse o).atomic_cases p with ⟨_, q, asked, -, hr⟩ | ⟨f | b, _, asked, -, hr⟩ <;>
      rw [hr] at h ⊢
    · cases h
    · exact traceless_parseFirst o cs _ p e h

/-- **The core of a composite leaves no trace.** -/
theorem traceless_core (h : p.isComposite = true) : (p.core o).Traceless := by
  cases p with
  | leaf f l => cases h
  | all f cs => exact Step.traceless_atomic _
  | first f c cs =>
    intro p e h
    rw [core_first] at h ⊢
    rcases (c.parse o).atomic_cases p with ⟨_, q, asked, -, hr⟩ | ⟨f | b, _, asked, -, hr⟩ <;>
      rw [hr] at h ⊢
    · cases h
    · exact traceless_parseFirst o cs _ p e h

/-- **A parameter that fails leaves no trace**, if it is a composite or one of its modifiers takes
failures back, and no `onlyOne` stands outside of the outermost such part: the stream and everything
that is bound are what they were before. -/
theorem failure_leaves_no_trace {s : Progress} {e : ParseError}
    (hback : p.isComposite = true ∨ ∃ m ∈ p.frame.modifiers, m.takesBack = true)
    (houter : ∀ m ∈ p.frame.modifiers.takeWhile (!·.takesBack), m.countsValues = false)
    (hfail : (p.parse o s).result = .error (.failed e)) : (p.parse o s).progress = s := by
  refine (?_ : (p.parse o).Restores id) s e hfail
  rw [parse_eq_framed]
  unfold framed
  split
  · exact Modifier.restores_chain (hback.imp_left fun h => (traceless_core h).restores id) houter
  · exact (Step.traceless_done ()).restores id

/-- **An ambiguous choice in a sequence leaves no trace**: `yes al` binds one value and then two of
another key, of which only one is allowed, and all of it is taken back. -/
theorem ambiguous_choice_leaves_no_trace :
    let o : Occasion := ⟨.trusted "tester", ⟨2024, 5, 31, 12, 34, 56, 789012, none⟩, .usual⟩
    let towns : Choice := .ofList [("alba", .integer 1), ("alton", .integer 2)] true
    let p : Parameter := .all { modifiers := [.default (.integer 0)] }
      [.leaf { key := "sure" } .truth, .leaf { key := "town", modifiers := [.onlyOne] } (.choice towns)]
    let s : Progress := .ofStream (.ofLine .spaced "yes al")
    p.isComposite = true ∧
      (∀ m ∈ p.frame.modifiers.takeWhile (!·.takesBack), m.countsValues = false) ∧
      (p.parse o s).result = .error (.failed ⟨.severalValues "town", "yes al", 4⟩) ∧
      (p.parse o s).progress = s := by
  have houter : ∀ m ∈ [Modifier.default (.integer 0)].takeWhile (!·.takesBack),
      m.countsValues = false := by decide
  exact ⟨rfl, houter, rfl, failure_leaves_no_trace (.inl rfl) houter rfl⟩

/-- An `onlyOne` outside of a sequence does leave a trace: both words are read and bound. -/
example :
    let o : Occasion := ⟨.trusted "tester", ⟨2024, 5, 31, 12, 34, 56, 789012, none⟩, .usual⟩
    let p : Parameter := .all { key := "town", modifiers := [.onlyOne] }
      [.leaf { key := "town" } .text, .leaf { key := "town" } .text]
    let r := p.parse o (.ofStream (.ofLine .spaced "alba alton"))
    r.result = .error (.failed ⟨.severalValues "town", "alba alton", 0⟩) ∧
      r.progress.stream.cursor = 2 ∧
      r.progress.context.entries = [("town", [.text "alba", .text "alton"])] := by
  exact ⟨rfl, rfl, rfl⟩

end Parameter
end CommandGrammar
