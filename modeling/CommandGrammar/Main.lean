/-
# The command line

Reads what surrounds the program, runs it, and writes what comes of it.  In a session every line is
read and handled before the next prompt.
-/

import CommandGrammar.Packages.Usual
import CommandGrammar.Program
import Std.Time

namespace CommandGrammar
namespace Program

/-- The text of a file, if it can be read. -/
def fileText? (path : String) : IO (Option String) := do
  try
    return some (← IO.FS.readFile path)
  catch _ => return none

/-- The time of day. -/
def currentMoment : IO Moment := do
  let t ← Std.Time.PlainDateTime.now
  let date := t.date
  let time := t.time
  return ⟨date.year.toInt.toNat, date.month.toInt.toNat, date.day.toInt.toNat,
    time.hour.toInt.toNat, time.minute.toInt.toNat, time.second.toInt.toNat,
    time.nanosecond.toInt.toNat / 1000, none⟩

/-- What surrounds the program. -/
def situation (r : Request) : IO Situation := do
  let inherited ← [Settings.fileVariable, logModeVariable].filterMapM fun name => do
    return (← IO.getEnv name).map fun value => (name, value)
  let named := inherited.lookup Settings.fileVariable
  let files ← (candidates r named).filterMapM fun path => do
    return (← fileText? path).map fun text => (path, text)
  return {
    files := ⟨files⟩
    environment := inherited
    groups := ← fileText? "/proc/1/cgroup"
    now := ← currentMoment
    packages := .usual }

/-- Begins the log. -/
def beginLog (p : Plan) : IO Unit := do
  if let some path := p.log.file? then
    let h ← IO.FS.Handle.mk path .append
    for row in p.log.fileRows [] do
      h.putStrLn row.text

/-- Writes why the program cannot go on. -/
def complain (f : Failure) : IO UInt32 := do
  IO.eprintln (f.message Packages.usual.coercion)
  return 1

/-- Holds a session from its next prompt on. -/
partial def converse (p : Plan) : IO UInt32 := do
  IO.print p.shell.prompt
  (← IO.getStdout).flush
  let line ← (← IO.getStdin).getLine
  if line.isEmpty then return 0
  let (r, goesOn) := p.shell.step {} (line.dropEndWhile (· == '\n')).toString
  for event in r.events do
    if let .rejected message _ := event then IO.println message
  IO.print r.printed
  match r.failure with
  | some f => complain (.shell f)
  | none => if goesOn then converse p else return 0

/-- Does what is asked for. -/
def execute (r : Request) : IO UInt32 := do
  let s ← situation r
  match plan r s with
  | .error f => complain f
  | .ok p =>
    beginLog p
    match p.line with
    | none => converse p
    | some line =>
      let o := p.runLine line s.files
      IO.print o.printed
      match o.finish with
      | .line code => return code.toUInt32
      | .failed f => complain f
      | _ => return 0

end Program
end CommandGrammar

/-- Runs the program with the arguments of the command line. -/
def main (arguments : List String) : IO UInt32 := do
  match CommandGrammar.Program.Invocation.ofArguments arguments with
  | .help =>
    IO.println CommandGrammar.Program.usage
    return 0
  | .misused =>
    IO.eprintln CommandGrammar.Program.usage
    return 2
  | .run r => CommandGrammar.Program.execute r
