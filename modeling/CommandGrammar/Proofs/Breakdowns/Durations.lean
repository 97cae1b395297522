/-
# Durations that break a line off

The letters of a unit are found in any case, and the long `ſ` counts as an `s` there; the name of a
unit is looked up in lowercase, and the lowercase of the long `ſ` is itself.  So letters name no
unit if and only if the long `ſ` is one of them, and a text without it is never at an unknown unit:
it is a duration, or it is refused.
-/

import CommandGrammar.Duration

namespace CommandGrammar
namespace Duration

open Text

variable {cs letters rest : List Char} {c d : Char}

/-- **Three characters are an `s` in some case, and one of them is the long `ſ`.** -/
theorem isLetterS_iff : isLetterS c = true ↔ (c = 's' ∨ c = 'S') ∨ c = 'ſ' := by
  unfold isLetterS
  rw [Bool.or_eq_true, Bool.or_eq_true, beq_iff_eq, beq_iff_eq, beq_iff_eq]

/-- **A unit has one letter, or it is a thousandth with two.** -/
theorem of_unitLetters? (h : unitLetters? cs = some (letters, rest)) : cs = letters ++ rest ∧
    ((∃ c, letters = [c] ∧ isUnitLetter c = true) ∨
      ∃ c d, letters = [c, d] ∧ (c = 'm' ∨ c = 'M') ∧ isLetterS d = true) := by
  unfold unitLetters? at h
  split at h
  · rename_i c d more
    split at h
    · rename_i hms
      cases h
      exact ⟨rfl, .inr ⟨c, d, rfl, hms⟩⟩
    · split at h
      · rename_i hc
        cases h
        exact ⟨rfl, .inl ⟨c, rfl, hc⟩⟩
      · cases h
  · rename_i c
    split at h
    · rename_i hc
      cases h
      exact ⟨rfl, .inl ⟨c, rfl, hc⟩⟩
    · cases h
  · cases h

/-- **Letters name no unit if and only if the long `ſ` is one of them.** -/
theorem ofLetters?_eq_none_iff (h : unitLetters? cs = some (letters, rest)) :
    TimeUnit.ofLetters? (lowercase (String.ofList letters)) = none ↔ 'ſ' ∈ letters := by
  obtain ⟨-, ⟨c, rfl, hc⟩ | ⟨c, d, rfl, hc, hd⟩⟩ := of_unitLetters? h
  · unfold isUnitLetter at hc
    rw [Bool.or_eq_true, List.contains_iff_mem] at hc
    rcases hc with hc | hc
    · simp only [List.mem_cons, List.not_mem_nil, or_false] at hc
      rcases hc with rfl | rfl | rfl | rfl | rfl | rfl | rfl | rfl <;> decide +kernel
    · rcases isLetterS_iff.1 hc with (rfl | rfl) | rfl <;> decide +kernel
  · rcases isLetterS_iff.1 hd with (rfl | rfl) | rfl <;> rcases hc with rfl | rfl <;>
      decide +kernel

/-- **The letters of counts with units are found in the text.** -/
theorem exists_unitLetters?_of_mem {counts : List (List Char × List Char)}
    (h : unitCounts? cs = some counts) {x : List Char × List Char} (hx : x ∈ counts) :
    ∃ ds rest, unitLetters? ds = some (x.2, rest) ∧ ds <:+ cs := by
  fun_induction unitCounts? cs generalizing counts with
  | case1 cs _ =>
    cases h
    cases hx
  | case2 | case3 => cases h
  | case4 cs _ _ letters rest hletters ih =>
    obtain ⟨more, hmore, rfl⟩ := Option.map_eq_some_iff.1 h
    have hdrop : cs.dropWhile isDecimalDigit <:+ cs := List.dropWhile_suffix _
    rcases List.mem_cons.1 hx with rfl | hx
    · exact ⟨_, rest, hletters, hdrop⟩
    · obtain ⟨ds, rest', hds, hsuffix⟩ := ih hmore hx
      have hrest : rest <:+ cs.dropWhile isDecimalDigit :=
        ⟨letters, (of_unitLetters? hletters).1.symm⟩
      exact ⟨ds, rest', hds, hsuffix.trans (hrest.trans hdrop)⟩

/-- **What a second step refuses or the first one refuses, both refuse.** -/
theorem isRefusal_bind {α β : Type} {x : Except Fault α} {next : α → Except Fault β} {fault : Fault}
    (hx : ∀ f, x = .error f → f.isRefusal = true)
    (hn : ∀ a f, next a = .error f → f.isRefusal = true) (h : (x >>= next) = .error fault) :
    fault.isRefusal = true := by
  cases x with
  | error f =>
    cases h
    exact hx fault rfl
  | ok a => exact hn a fault h

/-- **A result is no fault.** -/
theorem isRefusal_pure {α : Type} {a : α} {fault : Fault}
    (h : (pure a : Except Fault α) = .error fault) : fault.isRefusal = true := by
  cases h

/-- **An amount beyond the bounds is refused.** -/
theorem isRefusal_of_bounded {n : Nat} {fault : Fault} (h : bounded n = .error fault) :
    fault.isRefusal = true := by
  unfold bounded at h
  split at h <;> cases h
  rfl

/-- **Digits that make no count are refused.** -/
theorem isRefusal_of_count {fault : Fault} (h : count cs = .error fault) :
    fault.isRefusal = true := by
  unfold count at h
  split at h <;> cases h
  rfl

/-- **So are several of them.** -/
theorem isRefusal_of_mapM_count : ∀ {parts : List (List Char)} {fault : Fault},
    parts.mapM count = .error fault → fault.isRefusal = true
  | [], _, h => by cases h
  | part :: more, _, h => by
    rw [List.mapM_cons] at h
    refine isRefusal_bind (fun _ => isRefusal_of_count) (fun n f hf => ?_) h
    exact isRefusal_bind (fun _ => isRefusal_of_mapM_count) (fun _ _ => isRefusal_pure) hf

/-- **A text with a colon is a clock or is refused.** -/
theorem isRefusal_of_readClock {text : String} {fault : Fault} (h : readClock text = .error fault) :
    fault.isRefusal = true := by
  unfold readClock at h
  dsimp only at h
  split at h
  · cases h
    rfl
  · exact isRefusal_bind (fun _ => isRefusal_of_mapM_count) (fun _ _ => isRefusal_of_bounded) h

/-- **A number is so many seconds or is refused.** -/
theorem isRefusal_of_ofSeconds {x : Binary64} {fault : Fault} (h : ofSeconds x = .error fault) :
    fault.isRefusal = true := by
  unfold ofSeconds at h
  split at h
  · cases h
    rfl
  · split at h
    · exact isRefusal_of_bounded h
    · cases h
      rfl
    · cases h
      rfl

/-- **Counts are read or refused if all their letters name units.** -/
theorem isRefusal_of_countsMicros {counts : List (List Char × List Char)} {fault : Fault}
    (hunits : ∀ x ∈ counts, TimeUnit.ofLetters? (lowercase (String.ofList x.2)) ≠ none)
    (h : countsMicros counts = .error fault) : fault.isRefusal = true := by
  induction counts generalizing fault with
  | nil => cases h
  | cons x more ih =>
    obtain ⟨digits, letters⟩ := x
    unfold countsMicros at h
    split at h
    · rename_i hnone
      exact absurd hnone (hunits (digits, letters) List.mem_cons_self)
    · refine isRefusal_bind (fun _ => isRefusal_of_count) (fun n f hf => ?_) h
      refine isRefusal_bind (fun g hg => ?_) (fun _ _ => isRefusal_pure) hf
      exact ih (fun y hy => hunits y (List.mem_cons_of_mem _ hy)) hg

/-- **Without the long `ſ`, amounts with units are at most refused.** -/
theorem isRefusal_of_readUnits {text : String} {fault : Fault} (hs : 'ſ' ∉ text.toList)
    (h : readUnits text = .error fault) : fault.isRefusal = true := by
  unfold readUnits at h
  split at h
  · cases h
    rfl
  · cases h
    rfl
  · rename_i counts _ hcounts
    refine isRefusal_bind (fun _ => isRefusal_of_countsMicros fun x hx hnone => ?_)
      (fun _ _ => isRefusal_of_bounded) h
    obtain ⟨ds, rest, hletters, hds⟩ := exists_unitLetters?_of_mem hcounts hx
    have hmem := (ofLetters?_eq_none_iff hletters).1 hnone
    have hletters := (of_unitLetters? hletters).1
    exact hs (hds.subset (hletters ▸ List.mem_append_left rest hmem))

/-- **Trimming adds no character.** -/
theorem mem_of_mem_trim {s : String} (h : c ∈ (trim s).toList) : c ∈ s.toList := by
  unfold trim trimLeft at h
  rw [String.toList_ofList, List.mem_reverse] at h
  have hleft := (List.dropWhile_suffix _).subset h
  rw [List.mem_reverse] at hleft
  exact (List.dropWhile_suffix _).subset hleft

/-- **A text without the long `ſ` is a duration or is refused.** -/
theorem isRefusal_of_read {s : String} {fault : Fault} (hs : 'ſ' ∉ s.toList)
    (h : read s = .error fault) : fault.isRefusal = true := by
  unfold read at h
  dsimp only at h
  split at h
  · cases h
    rfl
  · split at h
    · exact isRefusal_of_readClock h
    · split at h
      · exact isRefusal_of_ofSeconds h
      · exact isRefusal_of_readUnits (fun hmem => hs (mem_of_mem_trim hmem)) h

end Duration
end CommandGrammar
