/-
# Commands

A command is a node of a tree.  It has its own arguments, which an executor is run with, and
children, which are found by their names in any case.  The root has no names.

What an executor does is a function of who runs it and of what was parsed: the text it prints, and
how it ends.  A result is a tally; anything else that an executor may come to is a kind of
failure.
-/

import CommandGrammar.Flag
import CommandGrammar.Settings
import CommandGrammar.Tally

namespace CommandGrammar

open Text

/-- How a run of an executor ends. -/
inductive Ending
  /-- It reports nothing. -/
  | silent
  | reported (t : Tally)
  /-- It reports something that is no tally, of the named kind. -/
  | foreign (kind : String)
  /-- It fails with a wording of its own. -/
  | refused (message : String)
  /-- It breaks down. -/
  | crashed (message : String)

/-- The ending of an executor that reports fields. -/
def Ending.ofFields (k : Coercion) (fields : List (String × Datum)) : Ending :=
  match Tally.ofFields k fields with
  | .ok t => .reported t
  | .error problems => .crashed (k.report Tally.recordName problems)

/-- What a run of an executor does. -/
structure Execution where
  /-- The text it prints. -/
  printed : String := ""
  ending : Ending

/-- What is run with the arguments of a command. -/
structure Executor where
  name : String
  run : Source → Context → Execution

/-- What a command has besides its children. -/
structure CommandFrame where
  /-- The names it goes by under its parent, the first one being shown. -/
  names : List String := []
  /-- The grammar of its own arguments. -/
  parameter : Parameter := .nothing
  flags : Option Flags := none
  executor : Option Executor := none
  /-- What a source must be granted to run it. -/
  permission : Option String := none
  /-- Whether its permission is needed for its children, too. -/
  guardsChildren : Bool := true
  onChildFailure : ChildFailurePolicy := .rethrow
  splitting : Splitting := .quoted
  /-- A short description. -/
  summary : String := ""
  /-- A long description. -/
  details : String := ""

/-- A tree of commands. -/
inductive Command
  | node (frame : CommandFrame) (children : List Command)

namespace Command

/-- What a command has besides its children. -/
def frame : Command → CommandFrame
  | node f _ => f

/-- The children of a command, in order. -/
def children : Command → List Command
  | node _ cs => cs

/-- The same command under other names. -/
def named (names : List String) : Command → Command
  | node f cs => node { f with names := names } cs

/-- The name by which a command is shown. -/
def name (c : Command) : String := c.frame.names.headD ""

/-- Whether a command goes by a name, in any case. -/
def goesBy (c : Command) (alias_ : String) : Bool :=
  c.frame.names.any fun n => lowercase n == lowercase alias_

/-- The child that goes by a name. -/
def child? (c : Command) (alias_ : String) : Option Command :=
  c.children.find? (·.goesBy alias_)

/-- The command that a path of names leads to. -/
def descendant? : List String → Command → Option Command
  | [], c => some c
  | n :: path, c => (c.child? n).bind (descendant? path)

/-- Whether a source may run a command. -/
def mayUse (c : Command) (source : Source) : Bool := source.may c.frame.permission

/-- The names in lowercase that the children go by. -/
def childNames (c : Command) : List String :=
  distinct (c.children.flatMap fun d => d.frame.names.map lowercase)

/-- The shown names of the children that a source may use. -/
def visibleNames (cs : List Command) (source : Source) : List String :=
  (cs.filter (·.mayUse source)).map name

/-- A command in one line. -/
def describe (c : Command) : String :=
  let names := joined ", " (c.children.map fun d => quoted d.name)
  let executor := if c.frame.executor.isSome then "True" else "False"
  let permission := (c.frame.permission.map quoted).getD "None"
  s!"CommandSpec(children=[{names}], executor={executor}, permission={permission})"

end Command
end CommandGrammar
