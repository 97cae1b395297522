/-
# What flags leave of a line being typed

The walk over the words of a line being typed keeps the words that are no flags, and what it does
not come to is left as it is.  So the arguments are completed from a stream of the same line, made
of some of its tokens (`Flags.rest_of_complete`).
-/

import CommandGrammar.Proofs.Breakdowns.Completions

namespace CommandGrammar

namespace Flags

/-- The walk that began at `p` with the tokens `kept`, and is at `q` now, leaves some of the tokens
of the line. -/
def Walk.LeavesSome (p : Progress) (kept : List Token) (q : Progress) : Walk → Prop
  | .ended c => ∀ s, c.rest = some s →
      ∃ ts, s = .ofTokens p.stream.raw ts none ∧ ts.Sublist p.stream.unread
  | .over kept' _ => p.Onward q ∧
      ∃ more, kept' = kept ++ more ∧ (more ++ q.stream.unread).Sublist p.stream.unread

variable {o : Occasion} {fs : Flags}

/-- **A walk that began earlier leaves what it leaves further on.** -/
theorem Walk.LeavesSome.back {p q r : Progress} {kept : List Token} {w : Walk} (hpq : p.Onward q)
    (h : w.LeavesSome q kept r) : w.LeavesSome p kept r := by
  obtain ⟨read, hread⟩ := hpq.exists_unread
  have hsub : q.stream.unread.Sublist p.stream.unread := by
    rw [hread]
    exact List.sublist_append_right read _
  rcases w with c | ⟨kept', started⟩
  · intro s hs
    obtain ⟨ts, hts, hsome⟩ := h s hs
    exact ⟨ts, by rw [hts, hpq.raw], hsome.trans hsub⟩
  · obtain ⟨hqr, more, hmore, hsome⟩ := h
    exact ⟨hpq.trans hqr, more, hmore, hsome.trans hsub⟩

/-- **A walk over flags leaves some of the tokens.** -/
theorem leavesSome_walk (stopAt : String → Bool) :
    ∀ (n : Nat) {kept : List Token} {started : Bool} {p q : Progress} {w : Walk}
      {asked : List String}, fs.walk o stopAt n kept started p = ⟨.ok w, q, asked⟩ →
        w.LeavesSome p kept q
  | 0, kept, started, p, q, w, asked, h => by
    obtain ⟨hw, rfl, -⟩ := Report.mk.inj h
    cases hw
    exact ⟨.refl p, [], (List.append_nil _).symm, .refl _⟩
  | n + 1, kept, started, p, q, w, asked, h => by
    have hover : ∀ b, (Walk.over kept b).LeavesSome p kept p := fun _ =>
      ⟨.refl p, [], (List.append_nil _).symm, .refl _⟩
    cases walkRound_of_walk h with
    | ended => exact hover started
    | @stopped t next more ahead stop =>
      intro s hs
      cases hs
      exact ⟨t :: next :: more, rfl, ahead.symm ▸ .refl _⟩
    | value ahead reads read completes => exact fun _ hs => nomatch hs
    | flag ahead goesOn reads one rest =>
      have hpm := (of_readOne_true (readOne_of_tryOne_true one)).1
      exact (leavesSome_walk stopAt n rest).back hpm
    | anchored bound => exact hover true
    | @keep t next more r q w _ _ ahead goesOn reads one free read rest =>
      obtain ⟨hbehind, hpr⟩ := Progress.unread_of_next (TokenStream.head?_of_unread ahead) read
      have hwalk := leavesSome_walk stopAt n rest
      rcases w with c | ⟨kept', b⟩
      · have hback := hwalk.back hpr
        exact hback
      · obtain ⟨hrq, left, rfl, hsome⟩ := hwalk
        refine ⟨hpr.trans hrq, t :: left, List.append_assoc kept [t] left, ?_⟩
        rw [hbehind]
        exact hsome.cons_cons t

/-- **The arguments of a line being typed are completed from some of its tokens.** -/
theorem rest_of_complete {stopAt : String → Bool} {p q : Progress} {c : FlagCompletion}
    {asked : List String} (h : fs.complete o stopAt p = ⟨.ok c, q, asked⟩) {s : TokenStream}
    (hs : c.rest = some s) :
    ∃ ts, s = .ofTokens p.stream.raw ts none ∧ ts.Sublist p.stream.unread := by
  unfold complete at h
  rw [Step.here_bind] at h
  obtain ⟨w, m, _, _, hwalk, h, -⟩ := Step.exists_of_bind_ok h
  have hleaves := leavesSome_walk stopAt _ hwalk
  rcases w with c' | ⟨kept, started⟩
  · obtain ⟨hc, -, -⟩ := Report.mk.inj h
    cases hc
    exact hleaves s hs
  · obtain ⟨hpm, _, rfl, hsome⟩ := hleaves
    dsimp only at h
    rw [Step.here_bind] at h
    obtain ⟨own, hown⟩ : ∃ own, own = if started && fs.anchored then none else
        m.stream.unread.getLast?.filter fun t =>
          Text.beginsWith "-" t.text && !isNegativeNumber t.text := ⟨_, rfl⟩
    rw [← hown] at h
    cases own with
    | some t =>
      obtain ⟨words, _, _, _, -, h, -⟩ := Step.exists_of_bind_ok h
      obtain ⟨hc, -, -⟩ := Report.mk.inj h
      cases hc
      cases hs
    | none =>
      replace h : (if fs.anchored then pure ⟨none, none⟩ else pure ⟨some (.ofTokens m.stream.raw
          (kept ++ m.stream.unread) none), none⟩ : Step FlagCompletion) m =
            ⟨.ok c, q, _⟩ := h
      split at h
      · obtain ⟨hc, -, -⟩ := Report.mk.inj h
        cases hc
        cases hs
      · obtain ⟨hc, -, -⟩ := Report.mk.inj h
        cases hc
        cases hs
        exact ⟨_, by rw [hpm.raw], hsome⟩

end Flags
end CommandGrammar
