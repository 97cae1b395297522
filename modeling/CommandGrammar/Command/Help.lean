/-
# Usage and help

The usage line of a command shows the flags, and after them the children and the command's own
arguments, with bars between.  What a source may not use is not shown.

What is printed as help for a command is its usage, its descriptions, and a table of the children
that the source may use.  Descriptions and the names in the table may have markup; usages and the
descriptions in the table are shown as they are.
-/

import CommandGrammar.Command
import CommandGrammar.Console
import CommandGrammar.Flag.Usage

namespace CommandGrammar

open Text

namespace Command

/-- The usage line of a command for a source. -/
def usage (source : Source) (c : Command) : String :=
  let flags := (c.frame.flags.map (·.usage source)).getD ""
  let names := joined "|" (visibleNames c.children source)
  let own := if c.frame.executor.isSome then (c.frame.parameter.usage source).text else ""
  let line := joined "|" ([names, own].filter fun s => !s.isEmpty)
  joined " " ([flags, line].filter fun s => !s.isEmpty)

/-- Prints a description, if there is one. -/
def printDescription (k : Console) (s : String) : Printing Unit :=
  if s.isEmpty then return () else Printing.markup k s

/-- The table of children. -/
def childGrid (k : Console) (source : Source) (cs : List Command) : Grid where
  title := "Subcommands"
  heading := ["Command", "Usage", "Description"]
  rows := cs.map fun c =>
    [joined ", " c.frame.names, k.escape (c.usage source), k.escape c.frame.summary]

/-- Prints help for a command that is called by a name. -/
def help (k : Console) (source : Source) (name : String) (c : Command) : Printing Unit := do
  let line := joined " " ([name, c.usage source].filter fun s => !s.isEmpty)
  Printing.markup k ("[bold]usage:[/bold] " ++ styled "usage" (k.escape line) ++ "\n")
  printDescription k c.frame.summary
  printDescription k c.frame.details
  if !c.frame.summary.isEmpty || !c.frame.details.isEmpty then Printing.markup k ""
  let shown := c.children.filter (·.mayUse source)
  if !shown.isEmpty then Printing.table k (childGrid k source shown)

end Command
end CommandGrammar
