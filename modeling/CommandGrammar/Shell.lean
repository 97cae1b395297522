/-
# Shells

A shell takes lines for a command tree.  Some first words are its own: `help`, followed by a path of
names, prints help; `exit` and `quit` leave the shell.  Any other line is run, and its result or its
failure is printed, the failure of a line that does not match with a caret under its place.

In a session, lines are typed at a prompt, and a line that the command would not parse is rejected
there.  A session ends with a line that leaves the shell, at the end of the input, or when a line
cannot be handled at all.
-/

import CommandGrammar.Command.Help
import CommandGrammar.Command.Validation

namespace CommandGrammar

open Text

/-- Why a shell cannot go on. -/
inductive ShellFailure
  /-- Markup that is to be printed cannot be shown. -/
  | markup (p : MarkupProblem)
  /-- A token cannot be judged at all. -/
  | broken (b : Breakdown)
  /-- A number in the result is too long to be written. -/
  | unwritable
  deriving Repr

/-- What a shell does with a line. -/
structure Handling (α : Type) where
  /-- The text it prints. -/
  printed : String
  /-- The runs of executors. -/
  runs : List Run
  result : Except ShellFailure α

/-- Handling that only prints. -/
def Handling.ofPrinting {α : Type} (p : Printing α) : Handling α :=
  ⟨p.printed, [], p.result.mapError .markup⟩

/-- A shell for a command tree. -/
structure Shell where
  command : Command
  occasion : Occasion
  /-- Where everything is printed. -/
  console : Console
  /-- What is shown where a line is typed. -/
  prompt : String := "parlance > "

/-- What is typed at a prompt. -/
inductive Typed
  | line (s : String)
  /-- The key that ends the input, or the one that interrupts. -/
  | leave
  deriving DecidableEq, Repr

/-- What happens at the prompt of a session. -/
inductive PromptEvent
  /-- A prompt is set up. -/
  | opened (prompt : String)
  /-- A line is rejected. -/
  | rejected (message : String) (cursor : Int)
  deriving DecidableEq, Repr

namespace Shell

/-- The words that ask for help. -/
def helpWords : List String := ["help"]

/-- The words that leave a shell. -/
def exitWords : List String := ["exit", "quit"]

/-- The words that a shell takes for itself. -/
def ownWords : List String := helpWords ++ exitWords

/-- Prints a text in the style of errors. -/
def printError (k : Console) (message : String) : Printing Unit :=
  Printing.markup k (styled "error" (k.escape message))

/-- Prints why a line does not match. -/
def printProblem (k : Console) (e : ParseError) : Printing Unit := do
  printError k e.message
  if !e.raw.isEmpty then
    Printing.markup k (k.escape e.raw)
    Printing.markup k (styled "caret" (e.margin ++ "^"))

/-- Prints what came of a line; what broke down, or cannot be written, is not printed. -/
def printOutcome (k : Console) : Except CommandFailure Tally → Printing Unit
  | .ok t =>
    match t.summary? with
    | some text => Printing.markup k (styled "result" (k.escape text))
    | none => return ()
  | .error (.unparsed e) => printProblem k e
  | .error e => printError k (e.message?.getD "")

/-- Why a shell cannot print what came of a line, if it cannot. -/
def unprinted? : Except CommandFailure Tally → Option ShellFailure
  | .error (.broken b) => some (.broken b)
  | .ok t => if t.summary?.isNone then some .unwritable else none
  | _ => none

/-- What a shell reports of a line that was processed: it prints what came of it. -/
def report (k : Console) (t : Trial Tally) : Handling (Option Tally) :=
  match unprinted? t.result with
  | some failure => ⟨t.printed, t.runs, .error failure⟩
  | none =>
    let p := printOutcome k t.result
    ⟨t.printed ++ p.printed, t.runs, (p.result.mapError .markup).map fun _ => t.result.toOption⟩

/-- Runs a line and prints what came of it; its result, if it has one. -/
def runLine (s : Shell) (line : String) : Handling (Option Tally) :=
  report s.console (s.command.process s.occasion line)

/-- Prints help for the command that a path leads to, or the first name that leads nowhere. -/
def showHelp (s : Shell) (path : List String) : Printing Unit :=
  let rec go : List String → Command → Printing Unit
    | [], c => c.help s.console s.occasion.source (joined " " path)
    | n :: rest, c =>
      match c.child? n with
      | some d => go rest d
      | none =>
        let message := "Unknown command '" ++ s.console.escape n ++ "'."
        Printing.markup s.console (styled "error" message)
  go path s.command

/-- Handles a line; whether the shell goes on. -/
def handle (s : Shell) (line : String) : Handling Bool :=
  match words line with
  | [] => ⟨"", [], .ok true⟩
  | first :: path =>
    if exitWords.contains (lowercase first) then ⟨"", [], .ok false⟩
    else if helpWords.contains (lowercase first) then
      .ofPrinting do
        s.showHelp path
        return true
    else
      let h := s.runLine line
      ⟨h.printed, h.runs, h.result.map fun _ => true⟩

/-- What happened in a session. -/
structure Record where
  events : List PromptEvent := []
  printed : String := ""
  runs : List Run := []
  /-- Why the session broke off, if it did. -/
  failure : Option ShellFailure := none

/-- A record after a line was handled. -/
def Record.with {α : Type} (r : Record) (h : Handling α) : Record :=
  { r with printed := r.printed ++ h.printed, runs := r.runs ++ h.runs }

/-- What one typed line adds to the record of a session, and whether the session goes on. -/
def step (s : Shell) (r : Record) (line : String) : Record × Bool :=
  match Verdict.ofLine s.occasion s.command ownWords line with
  | .invalid message cursor =>
    ({ r with events := r.events ++ [.rejected message cursor] }, true)
  | .broken b => ({ r with failure := some (.broken b) }, false)
  | .valid =>
    let h := s.handle line
    match h.result with
    | .ok goesOn => (r.with h, goesOn)
    | .error e => ({ r.with h with failure := some e }, false)

/-- A session from a record on. -/
def sessionFrom (s : Shell) (r : Record) : List Typed → Record
  | [] => r
  | .leave :: _ => r
  | .line line :: more =>
    let (r, goesOn) := s.step r line
    if goesOn then s.sessionFrom r more else r

/-- The record at the beginning of a session. -/
def opening (s : Shell) : Record := { events := [.opened s.prompt] }

/-- A session at a prompt where the given things are typed. -/
def session (s : Shell) (typed : List Typed) : Record := s.sessionFrom s.opening typed

/-- **A session where nothing is typed only opens a prompt.** -/
theorem session_nil (s : Shell) : s.session [] = s.opening := rfl

/-- **A line that begins with a word of the shell is never rejected.** -/
theorem verdict_of_ownWord {o : Occasion} {c : Command} {line first : String} {path : List String}
    (hw : words line = first :: path) (hf : lowercase first ∈ ownWords.map lowercase) :
    Verdict.ofLine o c ownWords line = .valid := by
  have : (ownWords.map lowercase).contains (lowercase first) = true := by simpa using hf
  simp only [Verdict.ofLine, hw]
  rw [if_pos this]

end Shell
end CommandGrammar
