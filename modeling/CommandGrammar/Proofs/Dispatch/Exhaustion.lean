/-
# A line that is accepted is read to its end

No executor is run, and no target is found, on a part of a line.  The line is used up: each command
on its way takes its flags out and the name of a child off the front, and what is left are arguments
that the last command reads, all of them (`Command.UsesUp`).

The error of a quote that is not closed stands at the end of a line, behind every token.  Flags keep
it there, grammars do not move it, and a command that has read its arguments to the end would have
met it.  So such a line is never accepted.
-/

import CommandGrammar.Proofs.Dispatch.Climbing
import CommandGrammar.Proofs.Flags.Sifting

namespace CommandGrammar

namespace CommandFrame

/-- **The own arguments of a command are read to the end of the line.** -/
theorem of_parseOwn {o : Occasion} {f : CommandFrame} {p q : Progress} {runs : List Run}
    (h : f.parseOwn o p = ⟨.ok (), q, runs⟩) :
    (∃ asked, f.parameter.parse o p = ⟨.ok (), q, asked⟩) ∧ q.stream.hasNext = false := by
  obtain ⟨_, h⟩ := Attempt.exists_of_ofStep_ok h
  obtain ⟨_, m, asked, _, hparse, h, -⟩ := Step.exists_of_bind_ok h
  rw [Step.here_bind] at h
  cases hnext : m.stream.hasNext with
  | false =>
    rw [hnext] at h
    obtain ⟨-, rfl, -⟩ := Report.mk.inj h
    exact ⟨⟨asked, hparse⟩, hnext⟩
  | true =>
    rw [hnext, if_pos rfl] at h
    dsimp only at h
    cases hempty : m.stream.unread.isEmpty <;> rw [hempty] at h
    · cases (Report.mk.inj h).1
    · obtain ⟨_, _, _, _, -, h, -⟩ := Step.exists_of_bind_ok h
      cases (Report.mk.inj h).1

end CommandFrame

namespace Command

/-- `UsesUp o line way d arguments`: along a way to the command `d`, the flags and the names of
children are taken from a line, and then the flags of `d`; the arguments are what is left. -/
inductive UsesUp (o : Occasion) : List Token → List Passage → Command → List Token → Prop
  | own {line taken arguments : List Token} {d : Command}
      (flags : d.frame.Sifts o line taken arguments) : UsesUp o line [] d arguments
  | pass {line taken rest arguments : List Token} {g : Passage} {way : List Passage} {d : Command}
      (flags : g.frame.Sifts o line taken (g.alias_ :: rest))
      (onward : UsesUp o rest way d arguments) : UsesUp o line (g :: way) d arguments

section

variable {o : Occasion} {c d : Command} {p s m q : Progress} {way : List Passage}
  {line arguments : List Token}

/-- **No token of a line that is used up is lost or made up.** -/
theorem UsesUp.exists_perm (h : UsesUp o line way d arguments) :
    ∃ taken, (taken ++ (way.map Passage.alias_ ++ arguments)).Perm line := by
  induction h with
  | own flags => exact ⟨_, flags.perm⟩
  | @pass line taken rest arguments g way d flags _ ih =>
    obtain ⟨later, hlater⟩ := ih
    refine ⟨taken ++ later, .trans ?_ flags.perm⟩
    rw [List.append_assoc]
    exact (List.perm_middle.trans (hlater.cons g.alias_)).append_left taken

/-- **On its way a line is used up, but for its arguments and its end.** -/
theorem Reaches.usesUp (h : c.Reaches o p way d s)
    (flags : d.frame.readFlags o d.children s = ⟨.ok (), m, []⟩) :
    UsesUp o p.stream.unread way d m.stream.unread ∧ m.stream.pending = p.stream.pending := by
  induction h with
  | here c p =>
    obtain ⟨hpending, taken, hsift⟩ := CommandFrame.sifts_of_readFlags flags
    exact ⟨.own hsift, hpending⟩
  | child hflags head named next onward ih =>
    obtain ⟨hpending, taken, hsift⟩ := CommandFrame.sifts_of_readFlags hflags
    obtain ⟨hunread, honward⟩ := Progress.unread_of_next head next
    obtain ⟨huses, hend⟩ := ih flags
    rw [hunread] at hsift
    exact ⟨.pass hsift huses, hend.trans (honward.pending.trans hpending)⟩

/-- `c.ReadsWhole o p path d context`: the line that `c` stands before at `p` is used up on the way
to `d` but for arguments, and the grammar of `d` reads these to the end, where no error stands.
Besides the names on the way and the arguments there are only the tokens that flags have taken.
What is bound then is `context`. -/
def ReadsWhole (o : Occasion) (c : Command) (p : Progress) (path : List String) (d : Command)
    (context : Context) : Prop :=
  ∃ way s m q asked, c.Reaches o p way d s ∧ path = Passage.path way ∧
    UsesUp o p.stream.unread way d m.stream.unread ∧
    (∃ taken, (taken ++ (way.map Passage.alias_ ++ m.stream.unread)).Perm p.stream.unread) ∧
    d.frame.parameter.parse o m = ⟨.ok (), q, asked⟩ ∧
    q.stream.unread = [] ∧ q.stream.pending = none ∧ q.context = context

/-- **A command that serves a line has read it to its end**, and no error stood there. -/
theorem Serves.readsWhole {path : List String} (h : c.Serves o p path d q) :
    c.ReadsWhole o p path d q.context ∧ p.stream.pending = none := by
  obtain ⟨way, s, m, hway, hpath, htakes, -⟩ := h
  obtain ⟨huses, hpending⟩ := hway.usesUp htakes.flags
  obtain ⟨⟨asked, hparse⟩, hnext⟩ := CommandFrame.of_parseOwn htakes.own
  obtain ⟨hunread, hend⟩ := q.stream.hasNext_eq_false_iff.1 hnext
  have honward := Parameter.onward_parse o d.frame.parameter m
  rw [hparse] at honward
  refine ⟨⟨way, s, m, q, asked, hway, hpath, huses, huses.exists_perm, hparse, hunread, hend,
    rfl⟩, ?_⟩
  rw [← hpending, ← honward.pending]
  exact hend

end

/-- **Lines are accepted as a whole.**  Whenever an executor is run or a target is found, no quote
of the line was left open, and the line was read to its end: its flags with their values, the names
of children, and the arguments of the command that takes it. -/
theorem runs_and_targets_read_whole_lines (o : Occasion) (c : Command) (line : String) :
    (∀ x ∈ (c.process o line).runs,
      (c.frame.splitting.split line false).2 = none ∧
      ∃ d e, d.frame.executor = some e ∧ x = e.runAt o x.path x.context ∧
        c.ReadsWhole o (c.atStart line {}) x.path d x.context) ∧
    ∀ context t, (c.parse o line context).result = .ok t →
      (c.frame.splitting.split line false).2 = none ∧
      c.ReadsWhole o (c.atStart line context) t.path t.command
        (c.parse o line context).progress.context := by
  constructor
  · intro x hx
    obtain ⟨d, q, e, hserves, hexec, hrun⟩ := serves_of_mem_runs o c hx
    obtain ⟨hwhole, hpending⟩ := hserves.readsWhole
    have hcontext : x.context = q.context := by rw [hrun]; rfl
    rw [← hcontext] at hwhole hrun
    exact ⟨hpending, d, e, hexec, hrun, hwhole⟩
  · intro context t ht
    obtain ⟨hwhole, hpending⟩ := (serves_of_parse ht).readsWhole
    exact ⟨hpending, hwhole⟩

end Command
end CommandGrammar
