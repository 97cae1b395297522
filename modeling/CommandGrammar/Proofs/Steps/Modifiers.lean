/-
# Modifiers keep to the course

Whatever course a step keeps to, a modifier around it keeps to it as well, provided that the course
lets the modifier bind its default.  A run that is taken back leads nowhere, and a failure that a
modifier rewords or puts at the entry is one that the course allows there.
-/

import CommandGrammar.Modifier
import CommandGrammar.Proofs.Steps.Course

namespace CommandGrammar

/-- Whether a modifier binds only what the course lets it bind. -/
def Modifier.BindsIn (C : ParseCourse) (key : String) (source : Source) : Modifier → Prop
  | .default v => C.binds key v
  | .defaultBy value => ∀ v, value source = some v → C.binds key v
  | _ => True

/-- The context with a value, if there is one, under a key that has none. -/
def Context.withDefault (c : Context) (key : String) (value : Option Value) : Context :=
  if c.has key then c else value.elim c (c.put key)

/-- **A default is bound behind what it wraps.** -/
theorem Modifier.runDefault_apply (key : String) (value : Option Value) (inner : Step Unit)
    (p : Progress) : runDefault key value inner p = match inner p with
      | ⟨.ok (), q, asked⟩ => ⟨.ok (), { q with context := q.context.withDefault key value }, asked⟩
      | ⟨.error e, q, asked⟩ => ⟨.error e, q, asked⟩ := by
  unfold runDefault
  rw [Step.bind_apply]
  rcases inner p with ⟨e | ⟨⟩, ⟨stream, c⟩, asked⟩
  · rfl
  · dsimp only
    rw [Step.here_bind, Context.withDefault]
    cases c.has key <;> cases value <;>
      exact congrArg (Report.mk _ _) (List.append_nil asked)

namespace Course

open ParseCourse

variable {C : ParseCourse} {inner : Step Unit}

/-- **A course governs what may be given only once if it governs the inner step.** -/
theorem Governs.runOnlyOne (h : C.Governs inner) (key : String) :
    C.Governs (Modifier.runOnlyOne key inner) := by
  refine governs_of_carries fun p => carries_here_bind fun q _ => ?_
  refine h.carries.bind fun _ => ?_
  -- The problem is put where the step began, so the comparison stays with that place.
  intro r hr
  dsimp only [Bind.bind, Step.andThen, Step.here]
  split
  · exact (carries_failAt _ r hr).after _
  · exact (carries_pure () r hr).after _

/-- **A course governs further runs if it governs the inner step.** -/
theorem Governs.runAgain (h : C.Governs inner) : ∀ n, C.Governs (Modifier.runAgain inner n)
  | 0 => fun p => carries_done () p (C.refl p)
  | n + 1 => fun p => by
    have hs := h.carries.atomic p (C.refl p)
    unfold Modifier.runAgain
    split
    · split
      · rename_i hp
        have hq := hs.leads_of_eq hp
        split
        · exact allows_ok hq _ _
        · exact ((h.runAgain n _).back hq).after _
      · rename_i hp
        exact allows_ok (hs.leads_of_eq hp) _ _
      · rename_i hp
        exact allows_error (hs.leads_of_eq hp) (hs.stops_of_eq hp) _
    · exact allows_ok (C.refl p) _ _

/-- **A course governs as many runs as succeed if it governs the inner step.** -/
theorem Governs.runAllOf (h : C.Governs inner) (key : String) :
    C.Governs (Modifier.runAllOf key inner) := fun p => by
  have hs := h.carries.atomic p (C.refl p)
  unfold Modifier.runAllOf
  split
  · split
    · rename_i hp
      have hq := hs.leads_of_eq hp
      split
      · exact allows_ok hq _ _
      · exact ((h.runAgain _ _).back hq).after _
    · rename_i hp
      exact allows_error (hs.leads_of_eq hp) (hs.stops_of_eq hp) _
  · exact carries_fail _ p (C.refl p)

/-- **A course governs repeated runs if it governs the inner step.** -/
theorem Governs.runTimes (h : C.Governs inner) (times : Nat) :
    ∀ left attempt, C.Governs (Modifier.runTimes inner times left attempt)
  | 0, _ => fun p => carries_done () p (C.refl p)
  | left + 1, attempt => fun p => by
    have hs := h p
    unfold Modifier.runTimes
    split
    · rename_i hp
      exact ((h.runTimes times left _ _).back (hs.leads_of_eq hp)).after _
    · rename_i hp
      exact allows_error (hs.leads_of_eq hp) (C.reworded _ (hs.stops_of_eq hp)) _
    · rename_i hp
      exact allows_error (hs.leads_of_eq hp) (hs.stops_of_eq hp) _

/-- **A course governs an optional step if it governs the inner one.** -/
theorem Governs.runOptional (h : C.Governs inner) : C.Governs (Modifier.runOptional inner) :=
  fun p => by
  have hs := h.carries.atomic p (C.refl p)
  unfold Modifier.runOptional
  split
  · rename_i hp
    split
    · exact allows_error (hs.leads_of_eq hp) (hs.stops_of_eq hp) _
    · exact allows_ok (hs.leads_of_eq hp) _ _
  · exact hs

/-- **A course governs a weakly optional step if it governs the inner one.** -/
theorem Governs.runOptionalWeak (h : C.Governs inner) :
    C.Governs (Modifier.runOptionalWeak inner) := fun p => by
  have hs := h.carries.atomic p (C.refl p)
  unfold Modifier.runOptionalWeak
  split
  · rename_i hp
    exact allows_ok (hs.leads_of_eq hp) _ _
  · exact hs

/-- **A course governs a step with a default if it lets the default be bound.** -/
theorem Governs.runDefault (h : C.Governs inner) {key : String} {value : Option Value}
    (hv : ∀ v, value = some v → C.binds key v) : C.Governs (Modifier.runDefault key value inner) :=
  governs_of_carries fun p => by
  refine h.carries.bind fun _ => carries_here_bind fun q _ => ?_
  split
  · split
    · exact carries_put (hv _ rfl)
    · exact carries_pure ()
  · exact carries_pure ()

/-- **A modifier keeps to the course of what it wraps.** -/
theorem Governs.apply (h : C.Governs inner) {key : String} {source : Source} {m : Modifier}
    (hm : m.BindsIn C key source) : C.Governs (m.apply key source inner) := by
  cases m with
  | onlyOne => exact h.runOnlyOne key
  | allOf => exact h.runAllOf key
  | repeated n => exact governs_of_carries fun _ => ((h.runTimes n n 1).carries).atomic
  | optional => exact h.runOptional
  | optionalWeak => exact h.runOptionalWeak
  | default v => exact h.runDefault fun w hw => by cases hw; exact hm
  | defaultBy value => exact h.runDefault hm
  | plain => exact h

/-- **So does a chain of modifiers.** -/
theorem Governs.chain (h : C.Governs inner) {key : String} {source : Source} {ms : List Modifier}
    (hms : ∀ m ∈ ms, m.BindsIn C key source) : C.Governs (Modifier.chain key source ms inner) := by
  induction ms with
  | nil => exact h
  | cons m ms ih =>
    rw [Modifier.chain_cons]
    exact (ih fun k hk => hms k (List.mem_cons_of_mem m hk)).apply (hms m List.mem_cons_self)

end Course
end CommandGrammar
