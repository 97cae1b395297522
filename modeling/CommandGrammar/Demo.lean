/-
# The demonstration tree

A small command tree to try a shell with: giving items, saying something, the time, the weather, and
a command for administrators.  Its executors print what they would do.
-/

import CommandGrammar.Command.Definition
import CommandGrammar.Packages
import CommandGrammar.Value.Plain

namespace CommandGrammar
namespace Demo

open Text

/-- The permission of administrators. -/
def adminPermission : String := "parlance.admin"

/-- Whoever sits at the console. -/
def console : Source := .holding "console" [adminPermission]

/-- The items that can be given, with their titles. -/
def items : List (String × Value) :=
  [("apple", .text "Apple"), ("apricot", .text "Apricot"), ("bread", .text "Bread"),
    ("stone", .text "Stone")]

/-- The kinds of weather. -/
def weathers : Enumeration where
  family := "Weather"
  members := ["CLEAR", "RAIN", "THUNDER"].map fun n => ⟨"Weather", n, quoted (lowercase n)⟩
  ownItems := false

/-- The execution that printing comes to, with an ending if nothing stops it. -/
def printing (p : Printing Ending) : Execution :=
  match p.result with
  | .ok ending => ⟨p.printed, ending⟩
  | .error e => ⟨p.printed, .crashed e.message⟩

/-- What is done with the only value of a key. -/
def withSingle (c : Context) (key : String) (use : Value → Printing Ending) : Printing Ending :=
  match c.single key with
  | .ok v => use v
  | .error e => return .crashed e.message

def give (ps : Packages) : Executor where
  name := "give"
  run source c := printing <| withSingle c "item" fun item => do
    let amount := (c.first? "amount").getD (.integer 1)
    if !c.has "q" then
      let n := amount.shown
      let what := item.shown
      Printing.markup ps.console s!"Gave {n} x {what} to {source.name}."
      for note in c.values "note" do
        let text := note.shown
        Printing.markup ps.console s!"  note: {text}"
    return .ofFields ps.coercion [(Counter.items.name, amount.datum)]

def say (ps : Packages) : Executor where
  name := "say"
  run source c := printing <| withSingle c "message" fun message => do
    let text := message.shown
    Printing.markup ps.console s!"[{source.name}] {text}"
    return .reported .success

def timeSet (ps : Packages) : Executor where
  name := "time_set"
  run _ c := printing <| withSingle c "time" fun time => do
    let text := time.shown
    Printing.markup ps.console s!"Time set to {text}."
    return .reported .success

def timeQuery : Executor where
  name := "time_query"
  run _ _ := ⟨"", .reported (.single .answer 6000 rfl)⟩

def weather (ps : Packages) : Executor where
  name := "weather"
  run _ c := printing <| withSingle c "weather" fun kind => do
    let word := match kind with
      | .member m => lowercase m.name
      | v => v.shown
    Printing.markup ps.console s!"Weather is now {word}."
    return .reported .success

def reload (ps : Packages) : Executor where
  name := "reload"
  run _ _ := printing do
    Printing.markup ps.console "Reloaded."
    return .reported .success

/-- A leaf under a key. -/
def leaf (key : String) (l : Leaf) : Parameter := .leaf { key } l

/-- A frame under the given names, with what settings say. -/
def frame (s : Settings) (names : List String) (summary : String) : CommandFrame :=
  { (CommandDraft.ofSettings s).frame with names, summary }

def giveFlags (s : Settings) : Flags :=
  { Flags.ofSettings s with
    flags := [⟨"q", ["quiet"], .switch none⟩, ⟨"n", ["note"], .valued (leaf "note" .text)⟩] }

def giveCommand (ps : Packages) (s : Settings) : Command :=
  .node
    { frame s ["give", "g"] "Give an item to yourself." with
      flags := some (giveFlags s)
      parameter := .all {} [
        .leaf { key := "item", modifiers := [.onlyOne] } (.choice (.ofList items true)),
        (leaf "amount" .integer).wrappedWith .optional (some (.integer 1))]
      executor := some (give ps) }
    []

def sayCommand (ps : Packages) (s : Settings) : Command :=
  .node
    { frame s ["say"] "Broadcast a message." with
      parameter := leaf "message" .restJoined
      executor := some (say ps) }
    []

def timeCommand (ps : Packages) (s : Settings) : Command :=
  .node (frame s ["time"] "Query or change the time.") [
    .node
      { frame s ["set"] "Set the time to a duration after midnight." with
        parameter := leaf "time" .duration
        executor := some (timeSet ps) }
      [],
    .node { frame s ["query"] "Query the current time." with executor := some timeQuery } []]

def weatherCommand (ps : Packages) (s : Settings) : Command :=
  .node
    { frame s ["weather"] "Change the weather." with
      parameter := .all {} [
        leaf "weather" (.choice (.ofMembers weathers)),
        (leaf "world" .text).wrappedWith .optionalWeak none]
      executor := some (weather ps) }
    []

def adminCommand (ps : Packages) (s : Settings) : Command :=
  let scopes := Choice.ofList [("all", .text "all"), ("config", .text "config")] true
  .node
    { frame s ["admin"] "Administrative commands." with permission := some adminPermission } [
    .node
      { frame s ["reload"] "Reload the demo configuration." with
        parameter := (leaf "scope" (.choice scopes)).wrappedWith .optional none
        executor := some (reload ps) }
      []]

/-- The demonstration tree with what settings say. -/
def tree (ps : Packages) (s : Settings) : Command :=
  .node (frame s [] "Parlance demo commands.") [
    giveCommand ps s, sayCommand ps s, timeCommand ps s, weatherCommand ps s, adminCommand ps s]

end Demo
end CommandGrammar
