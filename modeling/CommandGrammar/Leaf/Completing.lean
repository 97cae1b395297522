/-
# What leaves complete

The words that a leaf offers for the word being typed, which is read in any case.  Truth values,
dates, literals, choices and selectors offer words; the other leaves offer none.
-/

import CommandGrammar.Leaf.Reading

namespace CommandGrammar
namespace Leaf

open Text

/-- The words that begin with a typed word in lowercase, of words in lowercase. -/
def beginning (typed : String) (words : List String) : List String :=
  words.filter (beginsWith (lowercase typed))

/-- Completes the fixed words of a literal: the word at which the typed line ends. -/
def completeWords : List String → Step (List String)
  | [] => return []
  | w :: rest => do
    match ← Step.next? with
    | none => return []
    | some t =>
      let p ← Step.here
      if !p.stream.hasNext then
        return if beginsWith (lowercase t) (lowercase w) then [w] else []
      if sameWord t w then completeWords rest else return []

/-- Completes a choice: the candidates that the typed word matches as a pattern. -/
def completeChoice (h : Host) (c : Choice) : Step (List String) := do
  let t ← Step.typed
  match Pattern.ofToken h t with
  | .error fault => Step.stop (.broken (breakdownOf fault))
  | .ok pattern => return pattern.filter (← candidates c t)

/-- The words that a leaf offers for the word being typed. -/
def complete (o : Occasion) : Leaf → Step (List String)
  | truth => do return beginning (← Step.typed) ["true", "false"]
  | nothing => return []
  | moment => do return beginning (← Step.typed) ["now"]
  | literal _ words => completeWords words
  | choice c => completeChoice o.host c
  | selector s => do
    let p ← Step.here
    if p.stream.hasNext then
      let ahead ← Step.peek
      if beginsWith s.sigil ahead then
        let _ ← Step.next
        return []
    completeChoice o.host s.choice
  | _ => do
    let _ ← Step.typed
    return []

end Leaf
end CommandGrammar
