/-
# Defining commands

A command is put together as a draft: a frame, the parameters of its own arguments in order, and the
children added so far.  A child is added under one or more names; none of them is empty, has a
blank, or is a name of another child in any case.
-/

import CommandGrammar.Command
import CommandGrammar.Parameter.Definition

namespace CommandGrammar

open Text

/-- A command that is being defined. -/
structure CommandDraft where
  frame : CommandFrame := {}
  /-- The parameters of its own arguments, in order. -/
  parameters : List Parameter := []
  children : List Command := []

namespace CommandDraft

/-- A draft that starts from settings. -/
def ofSettings (s : Settings) : CommandDraft where
  frame :=
    { guardsChildren := s.guardsChildren, onChildFailure := s.onChildFailure
      splitting := s.splitting }

/-- The draft with more parameters. -/
def addParameters (d : CommandDraft) (parts : List Part) : Except DefinitionError CommandDraft := do
  return { d with parameters := d.parameters ++ (← parts.mapM Part.parameter) }

/-- The draft with what it is run with. -/
def setExecutor (d : CommandDraft) : Given Executor → Except DefinitionError CommandDraft
  | .fitting e => .ok { d with frame := { d.frame with executor := some e } }
  | .other shown => .error (.notAnExecutor shown)

/-- The names in lowercase that the children go by. -/
def taken (d : CommandDraft) : List String := (Command.node d.frame d.children).childNames

/-- The first problem with names for one more child. -/
def nameProblem? (taken : List String) : List String → Option DefinitionError
  | [] => none
  | n :: names =>
    if n.isEmpty || n.toList.any isBlank then some (.badChildAlias n)
    else if taken.contains (lowercase n) then some (.duplicateChildAlias n)
    else nameProblem? taken names

/-- One more child under names of its own. -/
def newChild (taken : List String) (child : Given Command) (names : List String) :
    Except DefinitionError Command :=
  match child with
  | .other kind => .error (.notACommand kind)
  | .fitting c =>
    if names.isEmpty then .error .noChildAlias
    else
      match nameProblem? taken names with
      | some e => .error e
      | none => .ok (c.named names)

/-- The draft with one more child. -/
def push (d : CommandDraft) (c : Command) : CommandDraft := { d with children := d.children ++ [c] }

/-- The draft with one more child under names of its own. -/
def addChild (d : CommandDraft) (child : Given Command) (names : List String) :
    Except DefinitionError CommandDraft := do
  let c ← newChild d.taken child names
  return d.push c

/-- The grammar of a command's own arguments: all parameters in order, or none. -/
def grammar : List Parameter → Parameter
  | [] => .nothing
  | [p] => p
  | p :: ps => .all {} (p :: ps)

/-- The command that a draft defines; there must be something that it can run. -/
def build (d : CommandDraft) : Except DefinitionError Command :=
  if d.frame.executor.isNone && d.children.isEmpty then .error .nothingToRun
  else .ok (.node { d.frame with parameter := grammar d.parameters } d.children)

/-- **A command that is built has the children that were added.** -/
theorem children_build {d : CommandDraft} {c : Command} (h : d.build = .ok c) :
    c.children = d.children := by
  unfold build at h
  split at h
  · simp at h
  · simp only [Except.ok.injEq] at h
    subst h
    rfl

end CommandDraft

/-- An empty set of flags that starts from settings. -/
def Flags.ofSettings (s : Settings) : Flags where
  unknownShort := s.unknownShort
  unknownLong := s.unknownLong
  anchored := s.anchorFlags

end CommandGrammar
