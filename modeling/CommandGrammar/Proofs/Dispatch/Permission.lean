/-
# Nobody runs what they may not run

An executor is run only for a source that has the permission of its command, and of every command
above it that guards its children.  Which commands are above it is told by the way of the line
(`Command.Leads`): the path of a run or of a target names one command.

No policy and no executor gets around this: a command that takes the line after its child has failed
or was denied is checked like any other, and so is a child of a command whose own check is waived.
-/

import CommandGrammar.Proofs.Dispatch.Climbing

namespace CommandGrammar
namespace Command

/-- Whether a source may run the command `d` when the line has come to it along `way`. -/
structure MayRunAlong (source : Source) (way : List Passage) (d : Command) : Prop where
  own : source.may d.frame.permission = true
  above : ∀ g ∈ way, g.frame.guardsChildren = true → source.may g.frame.permission = true

/-- **Whoever is served by a command may run it.** -/
theorem Serves.mayRunAlong {o : Occasion} {c d : Command} {p q : Progress} {path : List String}
    (h : c.Serves o p path d q) : ∃ way, c.Leads o p path way d ∧ MayRunAlong o.source way d := by
  obtain ⟨way, s, _, hway, rfl, htakes, hopen⟩ := h
  refine ⟨way, hway.leads, htakes.allowed, fun g hg hguards => ?_⟩
  have hpass := hopen g hg
  unfold Passage.isOpenTo at hpass
  rw [hguards] at hpass
  exact hpass

/-- **Every run is permitted, and so is every target.**  The source has the permission of the
command whose executor is run, and of each command above it that guards its children.  The names in
the path of the run or the target lead the line to that command and to no other. -/
theorem runs_and_targets_permitted (o : Occasion) (c : Command) (line : String) :
    (∀ x ∈ (c.process o line).runs, ∃ way d e, c.Leads o (c.atStart line {}) x.path way d ∧
      d.frame.executor = some e ∧ x = e.runAt o x.path x.context ∧ MayRunAlong o.source way d) ∧
    ∀ context t, (c.parse o line context).result = .ok t →
      ∃ way, c.Leads o (c.atStart line context) t.path way t.command ∧
        MayRunAlong o.source way t.command := by
  constructor
  · intro x hx
    obtain ⟨d, q, e, hserves, hexec, hrun⟩ := serves_of_mem_runs o c hx
    obtain ⟨way, hway, hmay⟩ := hserves.mayRunAlong
    refine ⟨way, d, e, hway, hexec, ?_, hmay⟩
    rw [hrun]
    rfl
  · intro context t ht
    exact (serves_of_parse ht).mayRunAlong

end Command
end CommandGrammar
