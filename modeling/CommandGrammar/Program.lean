/-
# The program

A shell for the demonstration tree.  The arguments say which file the settings come from, how the
log is written, and whether one line is run or a session held.  Nothing is set up before the
settings are read, and the log is set up before a line is run.

| end | meaning |
| --- | --- |
| code 0 | the line was run, or help was asked for |
| code 1 | the line failed |
| code 2 | the program was called wrongly |
| no code | a session was held |
-/

import CommandGrammar.Demo
import CommandGrammar.Log
import CommandGrammar.Program.Arguments
import CommandGrammar.Settings.File
import CommandGrammar.Shell

namespace CommandGrammar

open Text

namespace Program

/-- What surrounds the program when it is run. -/
structure Situation where
  files : Files := {}
  /-- The variables of the environment. -/
  environment : List (String × String) := []
  /-- The control groups of the first process, where they can be read. -/
  groups : Option String := none
  now : Moment
  /-- What the program is built on. -/
  packages : Packages

/-- Why the program cannot run. -/
inductive Failure
  /-- The settings cannot be read. -/
  | settings (p : SettingsProblem)
  /-- There is no such way to write a log. -/
  | logMode (name : String)
  /-- The shell cannot go on. -/
  | shell (f : ShellFailure)
  deriving Repr

namespace Failure

/-- The wording of a failure. -/
def message (k : Coercion) : Failure → String
  | settings p => (p.message? k).getD "The settings file is malformed."
  | logMode name => LogMode.refusal name
  | shell (.markup p) => p.message
  | shell (.broken _) => "The line cannot be read."
  | shell .unwritable => "The result cannot be written."

/-- **A missing file is named.** -/
theorem message_missing (k : Coercion) (path : String) :
    message k (settings (.missing path)) = s!"No such config file: {path}" := rfl

end Failure

/-- How the program is called. -/
def usage : String :=
  "usage: parlance [-h] [--config CONFIG] [--log-mode MODE] [-c COMMAND]"

/-- What the program does when all is set up. -/
structure Plan where
  shell : Shell
  log : LogPlan
  /-- The line to run instead of a session. -/
  line : Option String

/-- How the program comes to its end. -/
inductive Finish
  /-- With a word on how it is called. -/
  | usage (code : Nat)
  /-- With what came of a line. -/
  | line (code : Nat)
  /-- With the end of a session. -/
  | session
  | failed (f : Failure)
  deriving Repr

/-- What a run of the program comes to. -/
structure Outcome where
  finish : Finish
  files : Files
  printed : String := ""
  /-- What happened at the prompt, if there was one. -/
  events : Option (List PromptEvent) := none

/-- The variable of the environment that says how the log is written. -/
def logModeVariable : String := "PARLANCE_LOG_MODE"

/-- The file with settings that is read, if one is. -/
def settingsFile (r : Request) (s : Situation) : Option String :=
  (nonEmpty r.settings).or
    (Settings.find? s.files (s.environment.lookup Settings.fileVariable) none)

/-- The files that may hold the settings. -/
def candidates (r : Request) (named : Option String) : List String :=
  r.settings.toList ++ named.toList ++ Settings.usualNames

/-- The settings that the program runs with. -/
def settingsFor (r : Request) (s : Situation) : Except Failure Settings :=
  match settingsFile r s with
  | none => .ok {}
  | some path => (Settings.load s.packages s.files path).mapError .settings

/-- What the program does for a request. -/
def plan (r : Request) (s : Situation) : Except Failure Plan := do
  let settings ← settingsFor r s
  let asked := (r.logMode.or settings.logMode).map LogMode.name
  let around := ⟨s.environment.lookup logModeVariable, s.groups⟩
  let mode ← (LogMode.choose asked around).mapError .logMode
  return {
    shell := {
      command := Demo.tree s.packages settings
      occasion := ⟨Demo.console, s.now, s.packages.host⟩
      console := s.packages.console }
    log := { mode, file := settings.logFile }
    line := nonEmpty r.line }

namespace Plan

/-- The files when the log is set up. -/
def files (p : Plan) (fs : Files) : Files :=
  match p.log.file? with
  | none => fs
  | some path => fs.create path

/-- Runs a line. -/
def runLine (p : Plan) (line : String) (fs : Files) : Outcome :=
  let h := p.shell.runLine line
  let finish := match h.result with
    | .ok result => .line (if result.isSome then 0 else 1)
    | .error f => .failed (.shell f)
  { finish, files := p.files fs, printed := h.printed }

/-- Holds a session where the given things are typed. -/
def runSession (p : Plan) (typed : List Typed) (fs : Files) : Outcome :=
  let r := p.shell.session typed
  let finish := match r.failure with
    | none => .session
    | some f => .failed (.shell f)
  { finish, files := p.files fs, printed := r.printed, events := some r.events }

end Plan

/-- Runs the program with arguments; `typed` is what would be typed in a session. -/
def run (arguments : List String) (s : Situation) (typed : List Typed) : Outcome :=
  match Invocation.ofArguments arguments with
  | .help => { finish := .usage 0, files := s.files }
  | .misused => { finish := .usage 2, files := s.files }
  | .run r =>
    match plan r s with
    | .error f => { finish := .failed f, files := s.files }
    | .ok p =>
      match p.line with
      | some line => p.runLine line s.files
      | none => p.runSession typed s.files

/-- **A wrong call changes no file.** -/
theorem files_of_misused {arguments : List String} {s : Situation} {typed : List Typed}
    (h : Invocation.ofArguments arguments = .misused) :
    (run arguments s typed).files = s.files := by
  simp [run, h]

end Program
end CommandGrammar
