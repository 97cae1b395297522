/-
# Completing a line

The words that a command offers for the last word of a line being typed.  Its flags are asked first.
If the last word is the only one left, the children that the source may use are offered with the
command's own words; if a child is named before it, the rest of the line is the child's.
-/

import CommandGrammar.Command
import CommandGrammar.Flag.Complete

namespace CommandGrammar

open Text

namespace CommandFrame

/-- What the flags of a command offer, if the last word is theirs. -/
def completeFlags (o : Occasion) (f : CommandFrame) (cs : List Command) :
    Step (Option (List String)) :=
  match f.flags with
  | none => return none
  | some fs => do
    let c ← fs.complete o fun t => cs.any (·.goesBy t)
    match c.rest with
    | none => return c.words
    | some s =>
      Step.goTo s
      return c.words

/-- What the own arguments of a command offer to a source that may run it. -/
def completeOwn (o : Occasion) (f : CommandFrame) : Step (List String) :=
  if f.executor.isSome && o.source.may f.permission then f.parameter.complete o else return []

/-- Whether a source may get to the children of a command. -/
def mayDispatch (f : CommandFrame) (source : Source) : Bool :=
  source.may f.permission || !f.guardsChildren

/-- The children that a source may use and that begin with a word, ignoring case. -/
def childrenBeginning (f : CommandFrame) (source : Source) (cs : List Command) (word : String) :
    List String :=
  if f.mayDispatch source then
    (Command.visibleNames cs source).filter fun n => beginsWith (lowercase word) (lowercase n)
  else []

end CommandFrame

namespace Command

mutual

/-- The words that a command offers for the last word of a line. -/
def complete (o : Occasion) : Command → Step (List String)
  | node f cs => do
    match ← f.completeFlags o cs with
    | some words => return distinct words
    | none =>
      let p ← Step.here
      match p.stream.unread with
      | [] => return distinct (← f.completeOwn o)
      | [t] =>
        let names := f.childrenBeginning o.source cs t.text
        return distinct (names ++ (← f.completeOwn o))
      | t :: _ => completeIn o f t.text cs

/-- The words that a command offers where `token` may name one of the last children. -/
def completeIn (o : Occasion) (f : CommandFrame) (token : String) :
    List Command → Step (List String)
  | [] => do return distinct (← f.completeOwn o)
  | c :: rest =>
    if c.goesBy token then
      if f.mayDispatch o.source then do
        let _ ← Step.next
        complete o c
      else return []
    else completeIn o f token rest

end

/-- The words that a command offers for the last word of a line. -/
def completions (o : Occasion) (c : Command) (line : String) : Report (List String) :=
  complete o c ⟨TokenStream.ofTyped c.frame.splitting line, { completing := true }⟩

end Command
end CommandGrammar
