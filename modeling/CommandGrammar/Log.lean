/-
# Logs

How a shell keeps its log.  The way to write it is the one asked for, else the one that the
environment names, else records in a container and plain lines elsewhere.  Records go to the
terminal from one level on and to a file, if there is one, from another.
-/

import CommandGrammar.Document.Json
import CommandGrammar.Settings

namespace CommandGrammar

open Text

/-- What the surroundings of a program say about its log. -/
structure Surroundings where
  /-- The way to write a log that the environment names. -/
  mode : Option String := none
  /-- The control groups of the first process, where they can be read. -/
  groups : Option String := none

namespace LogMode

/-- The words by which control groups tell a container. -/
def containerWords : List String := ["docker", "kubepods", "containerd", "podman"]

/-- Whether a text stands in another one. -/
def standsIn (part : List Char) : List Char → Bool
  | [] => part.isEmpty
  | c :: cs => part.isPrefixOf (c :: cs) || standsIn part cs

/-- Whether the surroundings are those of a container. -/
def inContainer (s : Surroundings) : Bool :=
  s.groups.any fun g => containerWords.any fun w => standsIn w.toList g.toList

/-- The name of the way to write a log. -/
def chosenName (asked : Option String) (s : Surroundings) : String :=
  match nonEmpty asked, nonEmpty s.mode with
  | some name, _ => name
  | none, some name => name
  | none, none => if inContainer s then records.name else terminal.name

/-- The way to write a log, or the name that is none. -/
def choose (asked : Option String) (s : Surroundings) : Except String LogMode :=
  match ofName? (chosenName asked s) with
  | some m => .ok m
  | none => .error (chosenName asked s)

/-- The refusal of a name that is no way to write a log. -/
def refusal (name : String) : String := s!"Invalid log mode: {name}"

/-- **A way that is asked for is taken.** -/
theorem choose_name (m : LogMode) (s : Surroundings) : choose (some m.name) s = .ok m := by
  cases m <;> rfl

end LogMode

/-- The levels of log records. -/
inductive LogLevel
  | debug
  | info
  | warning
  | error
  | critical
  deriving DecidableEq, Repr

namespace LogLevel

/-- Every level, from the least. -/
def all : List LogLevel := [.debug, .info, .warning, .error, .critical]

/-- The rank of a level. -/
def rank : LogLevel → Nat
  | debug => 10
  | info => 20
  | warning => 30
  | error => 40
  | critical => 50

/-- The name of a level. -/
def name : LogLevel → String
  | debug => "DEBUG"
  | info => "INFO"
  | warning => "WARNING"
  | error => "ERROR"
  | critical => "CRITICAL"

/-- The level that a word names, in any case. -/
def ofName? (s : String) : Option LogLevel := all.find? fun l => l.name == uppercase s

end LogLevel

/-- A record of a log. -/
structure LogRecord where
  logger : String
  level : LogLevel
  message : String
  deriving DecidableEq, Repr

/-- A row of a log, without its time. -/
inductive LogRow
  | line (text : String)
  /-- A record with its parts named. -/
  | record (level message logger : String)
  deriving DecidableEq, Repr

/-- A row as it is written. -/
def LogRow.text : LogRow → String
  | line s => s
  | record level message logger =>
    Document.Json.write (.mapping
      [(.text "name", .text logger), (.text "levelname", .text level),
        (.text "message", .text message)])

/-- How a log is kept. -/
structure LogPlan where
  mode : LogMode
  /-- The file that records go to. -/
  file : Option String := some "parlance.log"
  /-- Whether the file has records with named parts. -/
  fileAsRecords : Bool := false
  fileLevel : LogLevel := .debug
  consoleLevel : LogLevel := .warning

namespace LogPlan

/-- The file that is written, if one is named. -/
def file? (p : LogPlan) : Option String := nonEmpty p.file

/-- The handlers of a log with their levels. -/
def handlers (p : LogPlan) : List (String × LogLevel) :=
  let console := match p.mode with
    | .terminal => "RichHandler"
    | .records => "StreamHandler"
  (console, p.consoleLevel) :: (p.file?.map fun _ => ("FileHandler", p.fileLevel)).toList

/-- The least level of a logger; a logger has that of the one whose name its own begins with, up to
a point. -/
def floor (logger : String) : LogLevel :=
  if logger = "asyncio" || beginsWith "asyncio." logger then .warning else .debug

/-- The record that a log begins with. -/
def opening (p : LogPlan) : LogRecord :=
  ⟨"parlance", .debug, s!"Logging initialized in '{p.mode.name}' mode."⟩

/-- The records that reach a handler of a level. -/
def reaching (p : LogPlan) (level : LogLevel) (rs : List LogRecord) : List LogRecord :=
  (p.opening :: rs).filter fun r =>
    (floor r.logger).rank ≤ r.level.rank && level.rank ≤ r.level.rank

/-- A record in one line. -/
def asLine (r : LogRecord) : LogRow := .line s!"[{r.logger}] [{r.level.name}] {r.message}"

/-- A record with its parts named. -/
def asRecord (r : LogRecord) : LogRow := .record r.level.name r.message r.logger

/-- The rows of the file. -/
def fileRows (p : LogPlan) (rs : List LogRecord) : List LogRow :=
  if p.file?.isNone then []
  else (p.reaching p.fileLevel rs).map (if p.fileAsRecords then asRecord else asLine)

/-- The rows on the terminal, where they are records. -/
def consoleRows (p : LogPlan) (rs : List LogRecord) : List LogRow :=
  match p.mode with
  | .terminal => []
  | .records => (p.reaching p.consoleLevel rs).map asRecord

end LogPlan
end CommandGrammar
