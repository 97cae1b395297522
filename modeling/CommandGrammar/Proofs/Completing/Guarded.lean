/-
# Completing for a source that is not let in

A line being typed comes down to a command by the names of commands (`Command.TypedInto`).  What the
command then offers to a source without its permission, if it guards its children with it:

| asked for the last word | offered |
| --- | --- |
| its children | nothing: a guarded command does not let the source dispatch |
| its own arguments | nothing: they are for those who may run it |
| its flags, which are asked first | names and values (`flags_of_guarded_command_are_offered`) |

So what such a source is offered comes from the flags, and then the last word is theirs
(`Flags.OwnsLast`).
-/

import CommandGrammar.Host.Usual
import CommandGrammar.Proofs.Completing.Lines
import CommandGrammar.Proofs.Dispatch.FailedChildren

namespace CommandGrammar

/-- The last word of a line is for the flags to complete: it has a dash and is no number, or the
word before it is a flag that awaits a value. -/
def Flags.OwnsLast (o : Occasion) (fs : Flags) (line : List Token) : Prop :=
  (∃ t, line.getLast? = some t ∧ Text.beginsWith "-" t.text = true ∧
    isNegativeNumber t.text = false) ∨
  ∃ t u value, [t, u] <:+ line ∧ looksLikeFlag t.text = true ∧ fs.awaitedBy o t.text = some value

namespace Flags

variable {o : Occasion} {fs : Flags} {stop : String → Bool} {line : List Token}

/-- **A walk over flags that completes the last word was awaiting it**; any other one ends on the
line. -/
theorem ownsLast_of_walk : ∀ (n : Nat) {kept : List Token} {started : Bool} {p q : Progress}
    {walk : Walk} {asked : List String}, p.stream.unread <:+ line →
    fs.walk o stop n kept started p = ⟨.ok walk, q, asked⟩ →
      match walk with
      | .ended c => c.words.isSome = true → fs.OwnsLast o line
      | .over _ _ => q.stream.unread <:+ line
  | 0, kept, started, p, q, walk, asked, hline, h => by
    obtain ⟨hwalk, rfl, -⟩ := Report.mk.inj h
    cases hwalk
    exact hline
  | n + 1, kept, started, p, q, walk, asked, hline, h => by
    cases walkRound_of_walk h with
    | ended => exact hline
    | stopped ahead stop => exact fun hwords => nomatch hwords
    | @value t next more param r q words _ ahead reads read completes =>
      intro _
      split at reads
      · rename_i hatLast
        obtain ⟨hlooks, hmore⟩ := Bool.and_eq_true_iff.1 hatLast
        rw [ahead, List.isEmpty_iff.1 hmore] at hline
        exact .inr ⟨t, next, param, hline, hlooks, reads⟩
      · cases reads
    | @flag t next more m q w _ _ ahead goesOn reads one rest =>
      obtain ⟨-, t', values, htaken, -⟩ := of_readOne_true (readOne_of_tryOne_true one)
      have hbehind : m.stream.unread <:+ p.stream.unread := ⟨t' :: values, htaken.symm⟩
      exact ownsLast_of_walk n (hbehind.trans hline) rest
    | anchored bound => exact hline
    | @keep t next more r q w _ _ ahead goesOn reads one free read rest =>
      have hbehind : r.stream.unread <:+ p.stream.unread := by
        rw [ahead, (Progress.unread_of_next_of_cons ahead read).1]
        exact List.suffix_cons t _
      exact ownsLast_of_walk n (hbehind.trans hline) rest

/-- **Flags complete only what is theirs.** -/
theorem ownsLast_of_complete {p q : Progress} {c : FlagCompletion} {asked : List String}
    (h : fs.complete o stop p = ⟨.ok c, q, asked⟩) (hwords : c.words.isSome = true) :
    fs.OwnsLast o p.stream.unread := by
  change (Step.here >>= _) p = _ at h
  rw [Step.here_bind] at h
  obtain ⟨walk, m, _, _, hwalk, h, -⟩ := Step.exists_of_bind_ok h
  have howns := ownsLast_of_walk _ (List.suffix_refl p.stream.unread) hwalk
  rcases walk with c' | ⟨kept, started⟩
  · obtain ⟨hc, -, -⟩ := Report.mk.inj h
    cases hc
    exact howns hwords
  · dsimp only at h
    rw [Step.here_bind] at h
    obtain ⟨own, hown⟩ : ∃ own, own = if started && fs.anchored then none else
        m.stream.unread.getLast?.filter fun t =>
          Text.beginsWith "-" t.text && !isNegativeNumber t.text := ⟨_, rfl⟩
    rw [← hown] at h
    cases own with
    | none =>
      dsimp only at h
      split at h <;>
        (obtain ⟨hc, -, -⟩ := Report.mk.inj h
         cases hc
         cases hwords)
    | some t =>
      split at hown
      · cases hown
      · obtain ⟨hlast, hform⟩ := Option.filter_eq_some_iff.1 hown.symm
        obtain ⟨hdash, hnumber⟩ := Bool.and_eq_true_iff.1 hform
        obtain ⟨front, hfront⟩ := howns
        refine .inl ⟨t, ?_, hdash, by simpa using hnumber⟩
        rw [← hfront]
        exact getLast?_append_of_eq_some hlast

end Flags

namespace CommandFrame

variable {o : Occasion} {f : CommandFrame} {cs : List Command} {p q : Progress}

/-- **A command completes by its flags only what is theirs.** -/
theorem ownsLast_of_completeFlags {words : List String} {asked : List String}
    (h : f.completeFlags o cs p = ⟨.ok (some words), q, asked⟩) :
    ∃ fs, f.flags = some fs ∧ fs.OwnsLast o p.stream.unread := by
  unfold completeFlags at h
  cases hfs : f.flags with
  | none =>
    rw [hfs] at h
    cases (Report.mk.inj h).1
  | some fs =>
    rw [hfs] at h
    obtain ⟨⟨rest, words?⟩, m, _, _, hc, hret, -⟩ := Step.exists_of_bind_ok h
    have hwords : words?.isSome = true := by
      cases rest <;> (cases (Report.mk.inj hret).1; rfl)
    exact ⟨fs, rfl, Flags.ownsLast_of_complete hc hwords⟩

end CommandFrame

namespace Command

variable {o : Occasion} {l : Level} {levels : List Level} {c : Command} {f : CommandFrame}
  {cs : List Command} {p q m r : Progress}

/-- `l.HandsOver o c p m r`: completing at `p` with the child `c`, the flags of the command leave
the line at `m`, and the next word, which is not the one being typed, leaves it to this child at
`r`. -/
structure HandsOver (o : Occasion) (l : Level) (c : Command) (p m r : Progress) : Prop where
  flags : ∃ asked, l.frame.completeFlags o (l.fill c) p = ⟨.ok none, m, asked⟩
  named : ∃ t u more, m.stream.unread = t :: u :: more ∧ Step.next m = ⟨.ok t.text, r, []⟩ ∧
    c.goesBy t.text = true ∧ ∀ b ∈ l.before, b.goesBy t.text = false

/-- `TypedInto o levels c p q`: the line being typed goes from the root of the tree at `p` down all
levels, and `c` completes it at `q` if the source may get there. -/
inductive TypedInto (o : Occasion) : List Level → Command → Progress → Progress → Prop
  | here (c : Command) (p : Progress) : TypedInto o [] c p p
  | down {l : Level} {levels : List Level} {c : Command} {p m r q : Progress}
      (hands : HandsOver o l (within levels c) p m r) (onward : TypedInto o levels c r q) :
      TypedInto o (l :: levels) c p q

/-- **The child completes what is left to it**, if the command lets the source dispatch. -/
theorem HandsOver.complete_eq (h : HandsOver o l c p m r) : ∃ asked,
    complete o (l.around c) p =
      (if l.frame.mayDispatch o.source then complete o c r else ⟨.ok [], m, []⟩).after asked := by
  obtain ⟨asked, hflags⟩ := h.flags
  obtain ⟨t, u, more, hunread, hnext, hgoes, hbefore⟩ := h.named
  refine ⟨asked, ?_⟩
  rw [Level.around, complete, Step.bind_of_ok hflags]
  dsimp only
  rw [Step.here_bind, hunread]
  dsimp only
  rw [completeIn_eq, find?_fill hgoes hbefore]
  dsimp only
  split
  · rw [Step.bind_of_ok hnext, Report.after_nil]
  · rfl

/-- **A guarded command has only words of its flags** for a source without its permission. -/
theorem result_complete_of_denied (denied : o.source.may f.permission = false)
    (guards : f.guardsChildren = true) (p : Progress) : (complete o (.node f cs) p).result =
      (f.completeFlags o cs p).result.map fun own? => Text.distinct (own?.getD []) := by
  have hdispatch : f.mayDispatch o.source = false := by
    simp [CommandFrame.mayDispatch, denied, guards]
  have hown : f.completeOwn o = pure [] := by
    simp [CommandFrame.completeOwn, denied]
  rw [complete]
  rcases hflags : f.completeFlags o cs p with ⟨e | _ | words, q, asked⟩
  · rw [Step.bind_of_error hflags]
    rfl
  · rw [Step.bind_of_ok hflags]
    dsimp only
    rw [Step.here_bind]
    rcases q.stream.unread with _ | ⟨t, _ | ⟨u, more⟩⟩
    · rw [hown]
      rfl
    · simp only [CommandFrame.childrenBeginning, hdispatch, hown]
      rfl
    · dsimp only
      rw [completeIn_eq, hown, hdispatch]
      cases cs.find? (·.goesBy t.text) <;> rfl
  · rw [Step.bind_of_ok hflags]
    rfl

/-- **What a line being typed comes to is completed there**, or nothing is. -/
theorem TypedInto.result_complete (h : TypedInto o levels c p q) :
    (complete o (within levels c) p).result = .ok [] ∨
      (complete o (within levels c) p).result = (complete o c q).result := by
  induction h with
  | here c p => exact .inr rfl
  | @down l levels c p m r q hands _ ih =>
    obtain ⟨asked, heq⟩ := hands.complete_eq
    have hroot : complete o (within (l :: levels) c) p = _ := heq
    rw [hroot]
    split
    · exact ih
    · exact .inl rfl

/-- **Whom a guarded command does not let in, it offers nothing but its flags.**  Let a line being
typed come down to a command that guards its children, for a source without its permission, wherever
the command stands and whatever it has.  Then nothing is completed; or all that is completed is what
the flags of the command come to, and the last word is theirs or reading a value breaks off. -/
theorem guarded_command_offers_only_flags (line : String)
    (comes : TypedInto o levels (.node f cs)
      ⟨.ofTyped (within levels (.node f cs)).frame.splitting line, { completing := true }⟩ q)
    (denied : o.source.may f.permission = false) (guards : f.guardsChildren = true) :
    ((within levels (.node f cs)).completions o line).result = .ok [] ∨
      ∃ fs, f.flags = some fs ∧
        ((within levels (.node f cs)).completions o line).result =
          (f.completeFlags o cs q).result.map (fun own? => Text.distinct (own?.getD [])) ∧
        (fs.OwnsLast o q.stream.unread ∨
          ∃ why, ((within levels (.node f cs)).completions o line).result = .error why) := by
  rcases comes.result_complete with hnone | hsame
  · exact .inl hnone
  have hresult := hsame.trans (result_complete_of_denied denied guards q)
  unfold completions
  rw [hresult]
  rcases hflags : f.completeFlags o cs q with ⟨e | _ | words, r, asked⟩
  · cases hfs : f.flags with
    | none =>
      unfold CommandFrame.completeFlags at hflags
      rw [hfs] at hflags
      cases (Report.mk.inj hflags).1
    | some fs => exact .inr ⟨fs, rfl, rfl, .inr ⟨e, rfl⟩⟩
  · exact .inl rfl
  · obtain ⟨fs, hfs, howns⟩ := CommandFrame.ownsLast_of_completeFlags hflags
    exact .inr ⟨fs, hfs, rfl, .inl howns⟩

/-- **Nothing is offered behind the name of a command that does not let the source in**, as the word
being typed has no dash. -/
theorem nothing_is_offered_behind_guarded_name :
    let o : Occasion := ⟨.bare "tester", ⟨2024, 5, 31, 12, 34, 56, 789012, none⟩, .usual⟩
    let silent : Executor := ⟨"silent", fun _ _ => { ending := .silent }⟩
    let reload : Command := .node { names := ["reload"], executor := some silent } []
    let admin : CommandFrame := { names := ["admin"], permission := some "admin"
                                  executor := some silent, parameter := .leaf { key := "v" } .truth
                                  flags := some { flags := [⟨"force", [], .switch none⟩] } }
    let levels : List Level := [⟨{ splitting := .spaced }, [], []⟩]
    let s : TokenStream := .ofTokens "admin r" [⟨"admin", 0, 5⟩, ⟨"r", 6, 7⟩] none
    TypedInto o levels (.node admin [reload]) ⟨s, { completing := true }⟩
        ⟨s.withCursor 1 (by decide), { completing := true }⟩ ∧
      o.source.may admin.permission = false ∧ admin.guardsChildren = true ∧
      ((within levels (.node admin [reload])).completions o "admin r").result = .ok [] := by
  intro o silent reload admin levels s
  have comes : TypedInto o levels (.node admin [reload]) ⟨s, { completing := true }⟩
      ⟨s.withCursor 1 (by decide), { completing := true }⟩ :=
    .down ⟨⟨[], rfl⟩, _, _, _, rfl, rfl, rfl, fun _ h => absurd h List.not_mem_nil⟩ (.here _ _)
  refine ⟨comes, rfl, rfl, ?_⟩
  rcases guarded_command_offers_only_flags "admin r" comes rfl rfl with h | ⟨_, _, h, _⟩
  · exact h
  · exact h

/-- **The flags of a guarded command are offered to everybody.** -/
theorem flags_of_guarded_command_are_offered :
    let o : Occasion := ⟨.bare "tester", ⟨2024, 5, 31, 12, 34, 56, 789012, none⟩, .usual⟩
    let silent : Executor := ⟨"silent", fun _ _ => { ending := .silent }⟩
    let admin : CommandFrame := { names := ["admin"], permission := some "admin"
                                  executor := some silent
                                  flags := some { flags := [⟨"force", [], .switch none⟩] } }
    let levels : List Level := [⟨{ splitting := .spaced }, [], []⟩]
    let s : TokenStream := .ofTokens "admin --" [⟨"admin", 0, 5⟩, ⟨"--", 6, 8⟩] none
    TypedInto o levels (.node admin []) ⟨s, { completing := true }⟩
        ⟨s.withCursor 1 (by decide), { completing := true }⟩ ∧
      o.source.may admin.permission = false ∧ admin.guardsChildren = true ∧
      ((within levels (.node admin [])).completions o "admin --").result = .ok ["--force"] := by
  refine ⟨.down ⟨⟨[], rfl⟩, _, _, _, rfl, rfl, rfl, ?_⟩ (.here _ _), rfl, rfl, rfl⟩
  exact fun _ h => absurd h List.not_mem_nil

end Command
end CommandGrammar
