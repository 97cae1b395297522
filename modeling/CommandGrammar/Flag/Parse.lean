/-
# Parsing flags

Flags are read before the arguments.  An anchored set reads them at the head of the line; any other
set reads them wherever they stand and leaves a stream of the tokens that are no flags.

| token | reading |
| --- | --- |
| `--name` | a switch, or a value read from the tokens that follow |
| `--name=value` | a value |
| `-x` | a switch, or a value read from the tokens that follow |
| `-xvalue` | a value |
| `-abc` | several short flags; the first one with a value takes the rest |

An attached value is a line of its own: what its parameter leaves of it is a problem.
-/

import CommandGrammar.Flag
import CommandGrammar.Parameter.Parse

namespace CommandGrammar

open Text

/-- The offset of the last place where a text stands within a span of a line. -/
def lastPlace? (part line : List Char) (start stop : Nat) : Option Nat :=
  let fits := fun i => part.isPrefixOf (line.drop i)
  ((List.range (stop + 1 - part.length - start)).map (· + start)).reverse.find? fits

/-- Where the line says the part of a token from a character on; where the token begins if it says
it nowhere. -/
def offsetOf (raw : String) (t : Token) (index : Nat) : Nat :=
  let said := t.text.toList
  if slice raw t.start t.stop = t.text then t.start + index
  else
    let part := said.drop index
    if part.isEmpty then t.stop
    else (lastPlace? part raw.toList t.start t.stop).getD t.start

/-- What becomes of an unknown flag: whether its token is read. -/
def UnknownFlagPolicy.handle (name : String) (t : Token) (before : Progress) :
    UnknownFlagPolicy → Step Bool
  | .refuse => Step.failAt t.start (.unknownFlag name t.text)
  | .keep => do
    Step.backTo before
    return false
  | .drop => return true
  | .mark => do
    Step.mark name
    return true

namespace Flags

/-- Reads the value attached to a flag, all of it. -/
def readAttached (o : Occasion) (f : Flag) (p : Parameter) (value : Token) : Step Unit := do
  let start ← Step.here
  Step.within (TokenStream.ofTokens start.stream.raw [value] none) do
    p.parse o
    let after ← Step.here
    if after.stream.hasNext then
      let left ← Step.peek
      Step.fail (.unexpectedFlagValue left (Flag.dashed f.key))

/-- The flag that a name may be used for. -/
def usable (o : Occasion) (f? : Option Flag) : Option Flag :=
  f?.filter fun f => f.mayUse o.source

/-- Reads a long flag whose token is read already. -/
def readLong (o : Occasion) (fs : Flags) (t : Token) (before : Progress) : Step Bool := do
  let body := t.text.toList.drop 2
  let name := String.ofList (body.takeWhile (· != '='))
  let inline? := (body.dropWhile (· != '=')).tail?
  match usable o (fs.long? name) with
  | none => fs.unknownLong.handle name t before
  | some f =>
    match f.parameter?, inline? with
    | none, none => Step.mark f.key
    | none, some _ => Step.failAt t.start (.flagTakesNoValue name)
    | some p, none => p.parse o
    | some p, some inline =>
      let offset := offsetOf before.stream.raw t (3 + name.length)
      readAttached o f p ⟨String.ofList inline, offset, t.stop⟩
    return true

/-- Reads the letters of a short flag whose token is read already; `index` counts them. -/
def readLetters (o : Occasion) (fs : Flags) (t : Token) (before : Progress) :
    Nat → List Char → Step Bool
  | _, [] => return true
  | index, letter :: rest => do
    match usable o (fs.short? letter) with
    | none =>
      if ← fs.unknownShort.handle letter.toString t before then
        readLetters o fs t before (index + 1) rest
      else return false
    | some f =>
      match f.parameter? with
      | none => do
        Step.mark f.key
        readLetters o fs t before (index + 1) rest
      | some p => do
        if rest.isEmpty then p.parse o
        else
          let offset := offsetOf before.stream.raw t (2 + index)
          readAttached o f p ⟨String.ofList rest, offset, t.stop⟩
        return true

/-- Reads the flag at the cursor; tells whether there was one. -/
def readOne (o : Occasion) (fs : Flags) : Step Bool := do
  let before ← Step.here
  match before.stream.head? with
  | none => return false
  | some t =>
    if !looksLikeFlag t.text then return false
    else
      let _ ← Step.next
      if beginsWith "--" t.text then readLong o fs t before
      else readLetters o fs t before 0 (t.text.toList.drop 1)

/-- Reads flags at the head of the line, at most `n` of them. -/
def readHead (o : Occasion) (fs : Flags) : Nat → Step Unit
  | 0 => return ()
  | n + 1 => do
    if ← readOne o fs then readHead o fs n

/-- Reads flags wherever they stand, over at most `n` tokens; the tokens that are no flags.  From a
first such token that the predicate holds of, all tokens are taken as they are. -/
def readAnywhere (o : Occasion) (fs : Flags) (stopAt : String → Bool) :
    Nat → List Token → Step (List Token)
  | 0, kept => return kept
  | n + 1, kept => do
    let p ← Step.here
    match p.stream.head? with
    | none => return kept
    | some t =>
      if kept.isEmpty && stopAt t.text then
        Step.goTo p.stream.skipAll
        return p.stream.unread
      else if ← readOne o fs then readAnywhere o fs stopAt n kept
      else
        let _ ← Step.next
        readAnywhere o fs stopAt n (kept ++ [t])

/-- Reads the flags of a line and gives the stream that the arguments are read from: none if it is
the one that is being read. -/
def parse (o : Occasion) (fs : Flags) (stopAt : String → Bool) : Step (Option TokenStream) := do
  let p ← Step.here
  let size := p.stream.unread.length
  if fs.anchored then
    readHead o fs size
    return none
  else
    let kept ← readAnywhere o fs stopAt size []
    return some (TokenStream.ofTokens p.stream.raw kept p.stream.pending)

end Flags
end CommandGrammar
