/-
# Completing by a parameter

The words that a parameter offers for the last word of a line being typed.  A repeating parameter
first passes over the words before the last one.  In a sequence, the children that the typed words
satisfy are passed over; the first child that they do not satisfy offers words, and the ones after
it as long as the children before them are optional.  A choice offers the words of all its
children.

Passing over words binds what they mean, and going back to a word takes back the reading of it but
not what was bound on the way.
-/

import CommandGrammar.Parameter.Parse
import CommandGrammar.Leaf.Completing

namespace CommandGrammar
namespace Parameter

/-- Runs a step over the words before the last one, at most `n` times; the words of the last run
stay unread if it fails, reads nothing or reads the last word. -/
def passOver (core : Step Unit) : Nat → Step Unit
  | 0 => Step.done ()
  | n + 1 => fun p =>
    if p.stream.remaining > 1 then
      match core p with
      | ⟨.error (.broken b), q, asked⟩ => ⟨.error (.broken b), q, asked⟩
      | ⟨.error (.failed _), q, asked⟩ => ⟨.ok (), { q with stream := p.stream }, asked⟩
      | ⟨.ok (), q, asked⟩ =>
        if q.stream.cursor = p.stream.cursor ∨ !q.stream.hasNext then
          ⟨.ok (), { q with stream := p.stream }, asked⟩
        else (passOver core n q).after asked
    else ⟨.ok (), p, []⟩

/-- Passes over the words before the last one as often as the core of a parameter reads them. -/
def passOverAll (core : Step Unit) : Step Unit := fun p => passOver core p.stream.remaining p

/-- What is offered in a frame. -/
def offered (o : Occasion) (p : Parameter) (own : Step (List String)) : Step (List String) :=
  if !p.mayUse o.source then return []
  else
    match p.frame.completer with
    | some completer => do return Text.distinct (← completer o.source)
    | none => do
      if p.isRepeating then passOverAll (p.core o)
      return Text.distinct (← own)

/-- Whether a parameter reads what is typed and leaves the last word unread. -/
def satisfied (o : Occasion) (c : Parameter) : Step Bool := fun p =>
  match c.parse o p with
  | ⟨.ok (), q, asked⟩ => ⟨.ok q.stream.hasNext, q, asked⟩
  | ⟨.error (.failed _), q, asked⟩ => ⟨.ok false, q, asked⟩
  | ⟨.error (.broken b), q, asked⟩ => ⟨.error (.broken b), q, asked⟩

mutual

/-- The words that a parameter offers for the last word of a line being typed. -/
def complete (o : Occasion) : Parameter → Step (List String)
  | leaf f l => offered o (leaf f l) (l.complete o)
  | all f cs => offered o (all f cs) (completeAll o cs)
  | first f c cs => offered o (first f c cs) do
    return (← (complete o c).undone) ++ (← completeEach o cs)

/-- The words that parameters offer one after the other. -/
def completeAll (o : Occasion) : List Parameter → Step (List String)
  | [] => return []
  | c :: cs => do
    let start ← Step.here
    if ← satisfied o c then completeAll o cs
    else
      Step.goTo start.stream
      let words ← complete o c
      if !c.isOptional then return words
      Step.goTo start.stream
      return words ++ (← completeAll o cs)

/-- The words that each of the parameters offers. -/
def completeEach (o : Occasion) : List Parameter → Step (List String)
  | [] => return []
  | c :: cs => do return (← (complete o c).undone) ++ (← completeEach o cs)

end

end Parameter
end CommandGrammar
