/-
# Defining children

The children of a command are added by calls on its draft, each under one or more names that no
child so far goes by.  What is given as a child may be a draft itself, which is built first.

A child is looked up by its name in a table that ignores case.
-/

import CommandGrammar.Caseless
import CommandGrammar.Command.Definition
import CommandGrammar.Register

namespace CommandGrammar

open Text

/-- What a caller gives where a child belongs. -/
inductive ChildPart
  | finished (c : Command)
  | draft (d : CommandDraft)
  /-- A thing of another kind. -/
  | other (kind : String)

/-- What is given as a child, with a draft built. -/
def ChildPart.given : ChildPart → Except DefinitionError (Given Command)
  | finished c => .ok (.fitting c)
  | draft d => d.build.map .fitting
  | other kind => .ok (.other kind)

/-- A call that adds a child to a command that is being defined. -/
structure ChildCall where
  child : ChildPart
  /-- The names that the child is to go by. -/
  names : List String

/-- What a call does. -/
def ChildCall.run (call : ChildCall) : Defining CommandDraft Unit := do
  let child ← MonadExcept.ofExcept call.child.given
  let r ← get
  let c ← MonadExcept.ofExcept (CommandDraft.newChild r.taken child call.names)
  Registered.enter (c.frame.names.map lowercase) (·.push c)

namespace Command

/-- Each name of a child with that child, in order. -/
def byName (c : Command) : List (String × Command) :=
  c.children.flatMap fun d => d.frame.names.map fun n => (n, d)

/-- The table of the names of the children. -/
def childTable (c : Command) : Caseless Command := .ofList c.byName

end Command
end CommandGrammar
