/-
# Where flags end

Flags that may stand anywhere in a line are read until a first word that names a child; from there
on all tokens are left as they are.  So the children of a command have a say in what its flags take.

| question | answer |
| --- | --- |
| when do other children change nothing? | when the first word is no name that only they have |
| when are the bindings the same? | when the same tokens are left |

Completing walks over the flags by the same rule, and the first answer is the same for it.  A set of
flags that is anchored is read at the head of the line and does not look at children.
-/

import CommandGrammar.Proofs.Breakdowns.Completions
import CommandGrammar.Proofs.Flags.Sifting

namespace CommandGrammar

section

variable {α β : Type} {first : α → Progress → Token → Prop} {stop stop' : String → Bool}

/-- The report succeeds, and the first word that it leaves is one where `stop` ends and `stop'` does
not. -/
def Report.EndsOnlyAt (first : α → Progress → Token → Prop) (stop stop' : String → Bool)
    (r : Report α) : Prop :=
  ∃ a q asked t, r = ⟨.ok a, q, asked⟩ ∧ first a q t ∧ stop t.text = true ∧ stop' t.text = false

/-- The reports are the same, unless one of them ends at a word where the other would not. -/
def Report.SameUnlessEnded (first : α → Progress → Token → Prop) (stop stop' : String → Bool)
    (r r' : Report α) : Prop :=
  r = r' ∨ r.EndsOnlyAt first stop stop' ∨ r'.EndsOnlyAt first stop' stop

/-- **Words that were asked for before do not change where a report ends.** -/
theorem Report.EndsOnlyAt.after {r : Report α} (h : r.EndsOnlyAt first stop stop')
    (asked : List String) : (r.after asked).EndsOnlyAt first stop stop' := by
  obtain ⟨a, q, xs, t, rfl, ht⟩ := h
  exact ⟨a, q, asked ++ xs, t, rfl, ht⟩

/-- **Nor do they change that two reports are the same.** -/
theorem Report.SameUnlessEnded.after {r r' : Report α} (h : r.SameUnlessEnded first stop stop' r')
    (asked : List String) : (r.after asked).SameUnlessEnded first stop stop' (r'.after asked) := by
  rcases h with rfl | h | h
  · exact .inl rfl
  · exact .inr (.inl (h.after asked))
  · exact .inr (.inr (h.after asked))

/-- **Behind one step, two go on alike if they do so where it ends.** -/
theorem Step.sameUnlessEnded_bind {s : Step β} {next next' : β → Step α} {p : Progress}
    (h : ∀ b q asked, s p = ⟨.ok b, q, asked⟩ →
      (next b q).SameUnlessEnded first stop stop' (next' b q)) :
    ((s >>= next) p).SameUnlessEnded first stop stop' ((s >>= next') p) := by
  rcases hs : s p with ⟨e | b, q, asked⟩
  · rw [Step.bind_of_error hs, Step.bind_of_error hs]
    exact .inl rfl
  · rw [Step.bind_of_ok hs, Step.bind_of_ok hs]
    exact (h b q asked hs).after asked

/-- **What ends at a word still does, if the next step leaves that word.** -/
theorem Report.EndsOnlyAt.bind {s : Step α} {next : α → Step β} {p : Progress}
    {first' : β → Progress → Token → Prop} (h : (s p).EndsOnlyAt first stop stop')
    (onward : ∀ a q t, first a q t → ∃ b r asked, next a q = ⟨.ok b, r, asked⟩ ∧ first' b r t) :
    ((s >>= next) p).EndsOnlyAt first' stop stop' := by
  obtain ⟨a, q, xs, t, hs, hfirst, hstops⟩ := h
  obtain ⟨b, r, ys, hnext, hfirst'⟩ := onward a q t hfirst
  rw [Step.bind_of_ok hs, hnext]
  exact ⟨b, r, xs ++ ys, t, rfl, hfirst', hstops⟩

/-- **Two steps that go on alike may be followed by a third.** -/
theorem Report.SameUnlessEnded.bind {s s' : Step α} {p : Progress}
    (h : (s p).SameUnlessEnded first stop stop' (s' p)) (next : α → Step β)
    (first' : β → Progress → Token → Prop)
    (onward : ∀ a q t, first a q t → ∃ b r asked, next a q = ⟨.ok b, r, asked⟩ ∧ first' b r t) :
    ((s >>= next) p).SameUnlessEnded first' stop stop' ((s' >>= next) p) := by
  rcases h with h | h | h
  · rw [Step.bind_apply, Step.bind_apply, h]
    exact .inl rfl
  · exact .inr (.inl (h.bind onward))
  · exact .inr (.inr (h.bind onward))

/-- **Reports are the same if neither ends where only one of the rules does.** -/
theorem Report.SameUnlessEnded.eq {r r' : Report α} (h : r.SameUnlessEnded first stop stop' r')
    (left : ∀ a q asked t, r = ⟨.ok a, q, asked⟩ → first a q t → stop t.text = true →
      stop' t.text = true)
    (right : ∀ a q asked t, r' = ⟨.ok a, q, asked⟩ → first a q t → stop' t.text = true →
      stop t.text = true) : r = r' := by
  rcases h with h | ⟨a, q, asked, t, hr, hfirst, hstop, hgoes⟩ |
    ⟨a, q, asked, t, hr, hfirst, hstop, hgoes⟩
  · exact h
  · rw [left a q asked t hr hfirst hstop] at hgoes
    cases hgoes
  · rw [right a q asked t hr hfirst hstop] at hgoes
    cases hgoes

end

namespace Flags

variable {o : Occasion} {fs : Flags} {stop stop' : String → Bool}

/-- **Behind a token that is kept, no word ends the flags.** -/
theorem readAnywhere_of_kept (o : Occasion) (fs : Flags) (stop stop' : String → Bool) :
    ∀ (n : Nat) {kept : List Token}, kept ≠ [] →
      readAnywhere o fs stop n kept = readAnywhere o fs stop' n kept
  | 0, _, _ => rfl
  | n + 1, kept, h => by
    have hkept : kept.isEmpty = false := by simp [h]
    have hmore := readAnywhere_of_kept o fs stop stop' n h
    have hnext : ∀ t, readAnywhere o fs stop n (kept ++ [t]) =
        readAnywhere o fs stop' n (kept ++ [t]) := fun t =>
      readAnywhere_of_kept o fs stop stop' n (by simp)
    funext p
    rw [readAnywhere_succ, readAnywhere_succ]
    simp only [hkept, Bool.false_and, hmore, hnext]

/-- **Flags anywhere are read alike up to a word that ends only one of them.** -/
theorem sameUnlessEnded_readAnywhere (o : Occasion) (fs : Flags) (stop stop' : String → Bool) :
    ∀ (n : Nat) (p : Progress), (readAnywhere o fs stop n [] p).SameUnlessEnded
      (fun kept _ t => kept.head? = some t) stop stop' (readAnywhere o fs stop' n [] p)
  | 0, p => .inl rfl
  | n + 1, p => by
    rw [readAnywhere_succ, readAnywhere_succ]
    cases hhead : p.stream.head? with
    | none => exact .inl rfl
    | some t =>
      obtain ⟨more, hunread⟩ := TokenStream.unread_of_head? hhead
      rw [hunread]
      dsimp only [List.isEmpty_nil, Bool.true_and]
      -- Both rules go on here, or this is the first word that they do not agree on, or both end.
      cases hs : stop t.text <;> cases hs' : stop' t.text
      · refine Step.sameUnlessEnded_bind fun found q asked _ => ?_
        cases found with
        | true => exact sameUnlessEnded_readAnywhere o fs stop stop' n q
        | false =>
          refine Step.sameUnlessEnded_bind fun _ r _ _ => .inl ?_
          rw [readAnywhere_of_kept o fs stop stop' n (by simp)]
      · exact .inr (.inr ⟨t :: more, _, [], t, rfl, rfl, hs', hs⟩)
      · exact .inr (.inl ⟨t :: more, _, [], t, rfl, rfl, hs, hs'⟩)
      · exact .inl rfl

/-- **The arguments are left alike up to a word that ends only one of the readings.** -/
theorem sameUnlessEnded_parse (o : Occasion) (fs : Flags) (stop stop' : String → Bool)
    (p : Progress) : (fs.parse o stop p).SameUnlessEnded
      (fun s? _ t => ∃ s, s? = some s ∧ s.head? = some t) stop stop' (fs.parse o stop' p) := by
  unfold parse
  rw [Step.here_bind, Step.here_bind]
  split
  · exact .inl rfl
  · refine (sameUnlessEnded_readAnywhere o fs stop stop' _ p).bind _ _ fun kept q t hhead => ?_
    refine ⟨_, q, [], rfl, _, rfl, ?_⟩
    rw [← hhead, List.head?_eq_getElem?]
    rfl

/-- **Flags at the head of a line do not look at words that may end them.** -/
theorem parse_of_anchored (h : fs.anchored = true) : fs.parse o stop = fs.parse o stop' := by
  unfold parse
  simp only [h, if_true]

/-- **Behind a word that is kept, no word ends the walk over flags.** -/
theorem walk_of_kept (o : Occasion) (fs : Flags) (stop stop' : String → Bool) :
    ∀ (n : Nat) {kept : List Token} (started : Bool), kept ≠ [] →
      fs.walk o stop n kept started = fs.walk o stop' n kept started
  | 0, _, _, _ => rfl
  | n + 1, kept, started, h => by
    have hkept : kept.isEmpty = false := by simp [h]
    have hmore := walk_of_kept o fs stop stop' n started h
    have hnext : ∀ t, fs.walk o stop n (kept ++ [t]) true = fs.walk o stop' n (kept ++ [t]) true :=
      fun t => walk_of_kept o fs stop stop' n true (by simp)
    funext p
    rw [walk_succ, walk_succ]
    simp only [hkept, Bool.false_and, hmore, hnext]

/-- **So does the walk over the flags of a line being typed.** -/
theorem sameUnlessEnded_walk (o : Occasion) (fs : Flags) (stop stop' : String → Bool) :
    ∀ (n : Nat) (started : Bool) (p : Progress), (fs.walk o stop n [] started p).SameUnlessEnded
      (fun w _ t => ∃ rest u more, w = .ended ⟨some rest, none⟩ ∧ rest.unread = t :: u :: more)
      stop stop' (fs.walk o stop' n [] started p)
  | 0, _, p => .inl rfl
  | n + 1, started, p => by
    rw [walk_succ, walk_succ]
    rcases p.stream.unread with _ | ⟨t, _ | ⟨u, more⟩⟩
    · exact .inl rfl
    · exact .inl rfl
    simp only [List.isEmpty_nil, Bool.true_and]
    cases hs : stop t.text <;> cases hs' : stop' t.text
    · rw [if_neg Bool.false_ne_true, if_neg Bool.false_ne_true]
      split
      · exact .inl rfl
      · refine Step.sameUnlessEnded_bind fun found q asked _ => ?_
        cases found with
        | true => exact sameUnlessEnded_walk o fs stop stop' n started q
        | false =>
          rw [if_neg Bool.false_ne_true, if_neg Bool.false_ne_true]
          split
          · exact .inl rfl
          · refine Step.sameUnlessEnded_bind fun _ r _ _ => .inl ?_
            rw [walk_of_kept o fs stop stop' n true
              (by simp)]
    · exact .inr (.inr ⟨_, p, [], t, rfl, ⟨_, u, more, rfl, rfl⟩, hs', hs⟩)
    · exact .inr (.inl ⟨_, p, [], t, rfl, ⟨_, u, more, rfl, rfl⟩, hs, hs'⟩)
    · exact .inl rfl

/-- **The flags of a line being typed leave it alike up to such a word.** -/
theorem sameUnlessEnded_complete (o : Occasion) (fs : Flags) (stop stop' : String → Bool)
    (p : Progress) : (fs.complete o stop p).SameUnlessEnded
      (fun c _ t => ∃ rest u more, c = ⟨some rest, none⟩ ∧ rest.unread = t :: u :: more)
      stop stop' (fs.complete o stop' p) := by
  unfold complete
  rw [Step.here_bind, Step.here_bind]
  refine (sameUnlessEnded_walk o fs stop stop' _ false p).bind _ _ fun walk q t hfirst => ?_
  obtain ⟨rest, u, more, rfl, hunread⟩ := hfirst
  exact ⟨_, q, [], rfl, rest, u, more, rfl, hunread⟩

/-- **Flags that take no token bind nothing.** -/
theorem context_of_readAnywhere_all {stop : String → Bool} :
    ∀ (n : Nat) {p q : Progress} {kept : List Token} {asked : List String},
      readAnywhere o fs stop n kept p = ⟨.ok (kept ++ p.stream.unread), q, asked⟩ →
        p.stream.unread.length ≤ n → q.context = p.context
  | 0, p, q, kept, asked, h, _ => by
    obtain ⟨-, rfl, -⟩ := Report.mk.inj h
    rfl
  | n + 1, p, q, kept, asked, h, hn => by
    rw [readAnywhere_succ] at h
    cases hhead : p.stream.head? with
    | none =>
      rw [hhead] at h
      obtain ⟨-, rfl, -⟩ := Report.mk.inj h
      rfl
    | some t =>
      rw [hhead] at h
      dsimp only at h
      split at h
      · obtain ⟨-, rfl, -⟩ := Report.mk.inj h
        rfl
      · obtain ⟨found, m, _, _, hone, hmore, -⟩ := Step.exists_of_bind_ok h
        cases found with
        | true =>
          -- The token of a flag is not among the tokens that are left.
          obtain ⟨-, t', values, hunread, -⟩ := of_readOne_true hone
          have hlen : m.stream.unread.length ≤ n := by
            rw [hunread, List.length_cons, List.length_append] at hn
            omega
          obtain ⟨taken, left, hall, hsift⟩ := sifts_of_readAnywhere n hmore hlen
          have hleft := hsift.sublist.length_le
          rw [← List.append_cancel_left hall, hunread, List.length_cons,
            List.length_append] at hleft
          omega
        | false =>
          obtain rfl := of_readOne_false hone
          obtain ⟨r, hnext⟩ := Step.next_of_head? hhead
          obtain ⟨hunread, -⟩ := Progress.unread_of_next hhead hnext
          rw [if_neg Bool.false_ne_true, Step.bind_of_ok hnext, Report.after_nil, hunread,
            List.append_cons kept t r.stream.unread] at hmore
          rw [hunread, List.length_cons] at hn
          rw [context_of_readAnywhere_all n hmore (Nat.le_of_succ_le_succ hn)]
          exact Progress.context_of_next hnext

/-- **Flags that leave the same tokens bind the same.** -/
theorem context_of_readAnywhere_same :
    ∀ (n : Nat) {p q q' : Progress} {left : List Token} {asked asked' : List String},
      readAnywhere o fs stop n [] p = ⟨.ok left, q, asked⟩ →
        readAnywhere o fs stop' n [] p = ⟨.ok left, q', asked'⟩ → p.stream.unread.length ≤ n →
          q'.context = q.context
  | 0, p, q, q', left, asked, asked', h, h', _ => by
    obtain ⟨-, rfl, -⟩ := Report.mk.inj h
    obtain ⟨-, rfl, -⟩ := Report.mk.inj h'
    rfl
  | n + 1, p, q, q', left, asked, asked', h, h', hn => by
    have hall := h
    have hall' := h'
    rw [readAnywhere_succ] at h h'
    cases hhead : p.stream.head? with
    | none =>
      rw [hhead] at h h'
      obtain ⟨-, rfl, -⟩ := Report.mk.inj h
      obtain ⟨-, rfl, -⟩ := Report.mk.inj h'
      rfl
    | some t =>
      rw [hhead] at h h'
      dsimp only [List.isEmpty_nil] at h h'
      split at h
      · -- One of them ends here and takes nothing more, so the other has taken nothing either.
        obtain ⟨hleft, rfl, -⟩ := Report.mk.inj h
        cases hleft
        exact (context_of_readAnywhere_all (n + 1) hall' hn : q'.context = p.context)
      · split at h'
        · obtain ⟨hleft, rfl, -⟩ := Report.mk.inj h'
          cases hleft
          exact (context_of_readAnywhere_all (n + 1) hall hn : q.context = p.context).symm
        · obtain ⟨found, m, _, _, hone, hmore, -⟩ := Step.exists_of_bind_ok h
          obtain ⟨_, _, _, _, hone', hmore', -⟩ := Step.exists_of_bind_ok h'
          obtain ⟨hfound, rfl, -⟩ := Report.mk.inj (hone.symm.trans hone')
          cases hfound
          cases found with
          | true =>
            obtain ⟨-, t', values, hunread, -⟩ := of_readOne_true hone
            rw [hunread, List.length_cons, List.length_append] at hn
            exact context_of_readAnywhere_same n hmore hmore' (by omega)
          | false =>
            have hkept :
                readAnywhere o fs stop' n ([] ++ [t]) = readAnywhere o fs stop n ([] ++ [t]) :=
              readAnywhere_of_kept o fs stop' stop n (by simp)
            rw [hkept] at hmore'
            obtain ⟨-, rfl, -⟩ := Report.mk.inj (hmore.symm.trans hmore')
            rfl

end Flags

namespace CommandFrame

variable {o : Occasion} {f : CommandFrame} {cs cs' : List Command} {p q q' : Progress}

/-- **A command reads its flags alike with other children**, if the first word of its arguments
names children of both kinds or none. -/
theorem readFlags_congr
    (left : ∀ m t, f.readFlags o cs p = ⟨.ok (), m, []⟩ → m.stream.head? = some t →
      cs.any (·.goesBy t.text) = true → cs'.any (·.goesBy t.text) = true)
    (right : ∀ m t, f.readFlags o cs' p = ⟨.ok (), m, []⟩ → m.stream.head? = some t →
      cs'.any (·.goesBy t.text) = true → cs.any (·.goesBy t.text) = true) :
    f.readFlags o cs p = f.readFlags o cs' p := by
  unfold readFlags at left right ⊢
  cases hf : f.flags with
  | none => rfl
  | some fs =>
    rw [hf] at left right
    have hsame := Flags.sameUnlessEnded_parse o fs (fun t => cs.any (·.goesBy t))
      (fun t => cs'.any (·.goesBy t)) p
    refine Attempt.ofStep_congr ((hsame.bind _ (fun _ q t => q.stream.head? = some t) ?_).eq
      (fun _ m _ t hm => left m t (Attempt.ofStep_of_ok hm))
      fun _ m _ t hm => right m t (Attempt.ofStep_of_ok hm))
    rintro s? q t ⟨s, rfl, hhead⟩
    exact ⟨(), _, [], rfl, hhead⟩

/-- **A command completes by its flags alike with other children**, if the first word of its
arguments does so, or is the one being typed. -/
theorem completeFlags_congr
    (left : ∀ m asked t u more, f.completeFlags o cs p = ⟨.ok none, m, asked⟩ →
      m.stream.unread = t :: u :: more →
      cs.any (·.goesBy t.text) = true → cs'.any (·.goesBy t.text) = true)
    (right : ∀ m asked t u more, f.completeFlags o cs' p = ⟨.ok none, m, asked⟩ →
      m.stream.unread = t :: u :: more →
      cs'.any (·.goesBy t.text) = true → cs.any (·.goesBy t.text) = true) :
    f.completeFlags o cs p = f.completeFlags o cs' p := by
  unfold completeFlags at left right ⊢
  cases hf : f.flags with
  | none => rfl
  | some fs =>
    rw [hf] at left right
    have hsame := Flags.sameUnlessEnded_complete o fs (fun t => cs.any (·.goesBy t))
      (fun t => cs'.any (·.goesBy t)) p
    refine (hsame.bind _ (fun words? q t => words? = none ∧
      ∃ u more, q.stream.unread = t :: u :: more) ?_).eq ?_ ?_
    · rintro c q t ⟨rest, u, more, rfl, hunread⟩
      exact ⟨none, _, [], rfl, rfl, u, more, hunread⟩
    · rintro _ m asked t hm ⟨rfl, u, more, hunread⟩
      exact left m asked t u more hm hunread
    · rintro _ m asked t hm ⟨rfl, u, more, hunread⟩
      exact right m asked t u more hm hunread

/-- **A command reads anchored flags alike with any children.** -/
theorem readFlags_of_anchored (h : ∀ fs, f.flags = some fs → fs.anchored = true) :
    f.readFlags o cs = f.readFlags o cs' := by
  unfold readFlags
  cases hf : f.flags with
  | none => rfl
  | some fs =>
    dsimp only
    rw [Flags.parse_of_anchored (h fs hf)]

/-- **A command whose flags leave the same tokens with other children binds the same by them.** -/
theorem readFlags_unique {runs runs' : List Run} (h : f.readFlags o cs p = ⟨.ok (), q, runs⟩)
    (h' : f.readFlags o cs' p = ⟨.ok (), q', runs'⟩) (same : q'.stream.unread = q.stream.unread) :
    q' = q := by
  by_cases hanchored : ∀ fs, f.flags = some fs → fs.anchored = true
  · rw [readFlags_of_anchored hanchored] at h'
    exact (Trial.mk.inj (h'.symm.trans h)).2.1
  · obtain ⟨fs, himp⟩ := Classical.not_forall.1 hanchored
    obtain ⟨hfs, hfree⟩ := Classical.not_imp.1 himp
    unfold readFlags at h h'
    rw [hfs] at h h'
    obtain ⟨_, h⟩ := Attempt.exists_of_ofStep_ok h
    obtain ⟨_, h'⟩ := Attempt.exists_of_ofStep_ok h'
    obtain ⟨_, m, _, _, hparse, h, -⟩ := Step.exists_of_bind_ok h
    obtain ⟨_, m', _, _, hparse', h', -⟩ := Step.exists_of_bind_ok h'
    obtain ⟨kept, hread, rfl⟩ := Flags.exists_of_parse_ok (Bool.eq_false_iff.2 hfree) hparse
    obtain ⟨kept', hread', rfl⟩ := Flags.exists_of_parse_ok (Bool.eq_false_iff.2 hfree) hparse'
    obtain ⟨-, rfl, -⟩ := Report.mk.inj h
    obtain ⟨-, rfl, -⟩ := Report.mk.inj h'
    obtain rfl : kept' = kept := same
    exact congrArg (Progress.mk _)
      (Flags.context_of_readAnywhere_same _ hread hread' (Nat.le_refl _))

end CommandFrame
end CommandGrammar
