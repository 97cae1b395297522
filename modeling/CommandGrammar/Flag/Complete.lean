/-
# Completing flags

The flags of a line being typed are read up to its last word, and a flag that cannot be read yet
counts as an argument.  When the last word is a flag, or the value of a flag, the flags complete it;
otherwise they leave it to the arguments.
-/

import CommandGrammar.Flag.Parse
import CommandGrammar.Flag.Usage
import CommandGrammar.Parameter.Complete

namespace CommandGrammar

open Text

/-- What flags leave to the arguments of a line being typed. -/
structure FlagCompletion where
  /-- The stream to go on with; none if it is the one that was read. -/
  rest : Option TokenStream
  /-- The words, if the last word of the line belongs to the flags. -/
  words : Option (List String)

namespace Flags

/-- The parameter that would read the next token after a token that is a flag. -/
def awaitedBy (o : Occasion) (fs : Flags) (text : String) : Option Parameter :=
  let f? : Option Flag :=
    if beginsWith "--" text then fs.long? (dropped 2 text)
    else
      let isSwitch := fun (c : Char) => (fs.short? c).any fun f => !f.takesValue
      let letters := text.toList.drop 1
      if letters.dropLast.all isSwitch then letters.getLast?.bind fs.short? else none
  (usable o f?).bind Flag.parameter?

/-- Completes a word that has a dash. -/
def completeWord (o : Occasion) (fs : Flags) (t : Token) : Step (List String) := do
  let body := t.text.toList.drop 2
  if beginsWith "--" t.text && body.contains '=' then
    let name := String.ofList (body.takeWhile (· != '='))
    let inline := (body.dropWhile (· != '=')).drop 1
    match (usable o (fs.long? name)).bind Flag.parameter? with
    | none => return []
    | some p =>
      let start ← Step.here
      let value : Token := ⟨String.ofList inline, t.stop - inline.length, t.stop⟩
      let words ← Step.within (TokenStream.ofTokens start.stream.raw [value] none) (p.complete o)
      return words.map fun w => "--" ++ name ++ "=" ++ w
  else return fs.suggest o.source t.text

/-- How far the walk over the words before the last one has come. -/
inductive Walk
  /-- A stop word, or the flag that the last word is the value of, ends it. -/
  | ended (c : FlagCompletion)
  /-- It is over, with the tokens that are no flags; `started` says that arguments have begun. -/
  | over (kept : List Token) (started : Bool)

/-- Reads the flag at the cursor if it can be read. -/
def tryOne (o : Occasion) (fs : Flags) : Step Bool := fun p =>
  match readOne o fs p with
  | ⟨.error (.failed _), _, asked⟩ => ⟨.ok false, p, asked⟩
  | r => r

/-- Reads the flags before the last word, over at most `n` words. -/
def walk (o : Occasion) (fs : Flags) (stopAt : String → Bool) :
    Nat → List Token → Bool → Step Walk
  | 0, kept, started => return .over kept started
  | n + 1, kept, started => do
    let p ← Step.here
    match p.stream.unread with
    | t :: next :: more =>
      if kept.isEmpty && stopAt t.text then
        let rest := TokenStream.ofTokens p.stream.raw (t :: next :: more) none
        return .ended ⟨some rest, none⟩
      else
        match if looksLikeFlag t.text && more.isEmpty then fs.awaitedBy o t.text else none with
        | some value =>
          let _ ← Step.next
          return .ended ⟨none, some (← value.complete o)⟩
        | none =>
          if ← tryOne o fs then walk o fs stopAt n kept started
          else if fs.anchored then return .over kept true
          else
            let _ ← Step.next
            walk o fs stopAt n (kept ++ [t]) true
    | _ => return .over kept started

/-- Reads the flags of a line being typed, and completes its last word if that is a flag or the
value of one. -/
def complete (o : Occasion) (fs : Flags) (stopAt : String → Bool) : Step FlagCompletion := do
  let start ← Step.here
  match ← walk o fs stopAt start.stream.unread.length [] false with
  | .ended c => return c
  | .over kept started =>
    let p ← Step.here
    let left := p.stream.unread
    let own := left.getLast?.filter fun t => beginsWith "-" t.text && !isNegativeNumber t.text
    match if started && fs.anchored then none else own with
    | some t => return ⟨none, some (← completeWord o fs t)⟩
    | none =>
      if fs.anchored then return ⟨none, none⟩
      else return ⟨some (TokenStream.ofTokens p.stream.raw (kept ++ left) none), none⟩

end Flags
end CommandGrammar
