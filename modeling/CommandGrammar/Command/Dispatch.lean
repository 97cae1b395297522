/-
# Dispatching a line

A command reads its flags and looks at the next token.  If a child goes by it, the rest of the
line is the child's; otherwise the line is the command's own, all of it.

| step | own line | child's line |
| --- | --- | --- |
| permission of the command | needed | needed if it guards its children |
| executor of the command | needed | only to fall back |
| a failure of the child | | rethrown, or the line is taken as the command's own |

`parse` finds the command that would run and what it would be run with; `process` runs it.
-/

import CommandGrammar.Command.Attempt
import CommandGrammar.Flag.Parse
import CommandGrammar.Text.Similarity

namespace CommandGrammar

open Text

namespace CommandFrame

/-- Fails for a source without the permission of a command. -/
def checkPermission (f : CommandFrame) (source : Source) : Attempt Unit :=
  match f.permission with
  | none => return ()
  | some q => if source.grants q then return () else Attempt.fail (.denied q)

/-- Reads the flags of a command, up to a token that names a child. -/
def readFlags (o : Occasion) (f : CommandFrame) (cs : List Command) : Attempt Unit :=
  match f.flags with
  | none => return ()
  | some fs => Attempt.ofStep do
    match ← fs.parse o fun t => cs.any (·.goesBy t) with
    | none => return ()
    | some s => Step.goTo s

/-- How many similar names are suggested at most. -/
def suggestionLimit : Nat := 3

/-- The problem of a line that needs a child and names none. -/
def missingChild (o : Occasion) (cs : List Command) (s : TokenStream) : Problem :=
  let known := Command.visibleNames cs o.source
  match s.head? with
  | none => .missingSubcommand known
  | some t =>
    let names := cs.flatMap fun c => c.frame.names
    .unknownSubcommand t.text (closest suggestionLimit t.text names) known

/-- Parses the line as the command's own arguments, to its end. -/
def parseOwn (o : Occasion) (f : CommandFrame) : Attempt Unit := Attempt.ofStep do
  f.parameter.parse o
  let p ← Step.here
  if p.stream.hasNext then
    if p.stream.unread.isEmpty then
      let _ ← Step.next
    Step.fail .tooManyArguments

/-- Takes the line as the command's own, if it may be run. -/
def enterOwn (o : Occasion) (f : CommandFrame) (cs : List Command) : Attempt Unit := do
  f.checkPermission o.source
  if f.executor.isNone then
    Attempt.ofStep do
      let p ← Step.here
      Step.fail (missingChild o cs p.stream)
  f.parseOwn o

/-- Checks what stands before a child: the permission of a command that guards its children. -/
def enterChild (o : Occasion) (f : CommandFrame) : Attempt Unit :=
  if f.guardsChildren then f.checkPermission o.source else return ()

/-- Whether a command takes the line as its own when a child fails. -/
def mayFallBack (f : CommandFrame) : Bool := f.onChildFailure == .fallBack && f.executor.isSome

/-- Takes the line as the command's own after its child failed. -/
def fallBack (o : Occasion) (f : CommandFrame) (child : CommandFailure) : Attempt Unit := fun p =>
  let own : Attempt Unit := do
    f.checkPermission o.source
    f.parseOwn o
  match own p with
  | ⟨.error e, q, runs⟩ => ⟨.error (child.blame e), q, runs⟩
  | t => t

/-- What an executor's ending means for its command. -/
def resultOf : Ending → Except CommandFailure Tally
  | .silent => .ok .empty
  | .reported t => .ok t
  | .foreign kind => .error (.foreignResult kind)
  | .refused m => .error (.refused m)
  | .crashed m => .error (.crashed m)

/-- Runs the executor of a command with what is bound. -/
def execute (o : Occasion) (f : CommandFrame) : Attempt Tally := fun p =>
  match f.executor with
  | none => ⟨.error .noExecutor, p, []⟩
  | some e =>
    let x := e.run o.source p.context
    ⟨resultOf x.ending, p, [⟨[], e.name, p.context, x⟩]⟩

end CommandFrame

/-- The command that would run. -/
structure Target where
  /-- The names that lead to it. -/
  path : List String
  command : Command

/-- The name of a command in a path. -/
def Command.pathName (c : Command) : String := lowercase c.name

namespace Command

/-- The token that may name a child. -/
def nextToken : Attempt (Option String) := fun p =>
  ⟨.ok (p.stream.head?.map Token.text), p, []⟩

/-- Reads the name of a child and goes on with it; a failure takes both back. -/
def goInto {α : Type} (c : Command) (goOn : Attempt α) : Attempt α :=
  Attempt.atomic do
    let _ ← Attempt.ofStep Step.next
    goOn.under c.pathName

mutual

/-- Finds the command that a line would run, and binds what it would be run with. -/
def resolve (o : Occasion) : Command → Attempt Target
  | node f cs => do
    f.readFlags o cs
    resolveIn o f cs (← nextToken) cs

/-- Finds the command that a line would run, where `token` may name one of the last children. -/
def resolveIn (o : Occasion) (f : CommandFrame) (cs : List Command) (token : Option String) :
    List Command → Attempt Target
  | [] => do
    f.enterOwn o cs
    return ⟨[], node f cs⟩
  | c :: rest =>
    if token.any c.goesBy then do
      f.enterChild o
      let found : Attempt Target := do
        let t ← c.goInto (resolve o c)
        return { t with path := c.pathName :: t.path }
      if f.mayFallBack then
        found.orElse fun e => do
          f.fallBack o e
          return ⟨[], node f cs⟩
      else found
    else resolveIn o f cs token rest

end

mutual

/-- Runs what a line asks for. -/
def dispatch (o : Occasion) : Command → Attempt Tally
  | node f cs => do
    f.readFlags o cs
    dispatchIn o f cs (← nextToken) cs

/-- Runs what a line asks for, where `token` may name one of the last children. -/
def dispatchIn (o : Occasion) (f : CommandFrame) (cs : List Command) (token : Option String) :
    List Command → Attempt Tally
  | [] => do
    f.enterOwn o cs
    f.execute o
  | c :: rest =>
    if token.any c.goesBy then do
      f.enterChild o
      let run := c.goInto (dispatch o c)
      if f.mayFallBack then
        run.orElse fun e => do
          f.fallBack o e
          f.execute o
      else run
    else dispatchIn o f cs token rest

end

/-- The progress at the start of a line. -/
def atStart (c : Command) (line : String) (context : Context) : Progress :=
  ⟨TokenStream.ofLine c.frame.splitting line, context⟩

/-- Finds the command that a line would run, from what is bound already. -/
def parse (o : Occasion) (c : Command) (line : String) (context : Context) : Trial Target :=
  resolve o c (c.atStart line context)

/-- Runs a line. -/
def process (o : Occasion) (c : Command) (line : String) : Trial Tally :=
  dispatch o c (c.atStart line {})

end Command
end CommandGrammar
