/-
# What leaves read

Each leaf as a step that reads its tokens and reports the values to bind.  A problem with a token is
reported where the token begins.  A leaf that means no value reports none, and one that means
several in one reports these; a choice that selects several candidates reports the values of all of
them.

| leaf | accepts |
| --- | --- |
| `truth` | `true t yes y on 1 veryyesmuchso`, `false f no n off 0 notatall`, in any case |
| `moment` | `now` in any case, or a date as the host writes it |
| `literal` | its words, in any case |
| `choice` | a token that selects a candidate |
-/

import CommandGrammar.Duration
import CommandGrammar.Leaf
import CommandGrammar.Pattern.Selection

namespace CommandGrammar

open Text

/-- The words for yes. -/
def yesWords : List String := ["true", "t", "yes", "y", "on", "1", "veryyesmuchso"]

/-- The words for no. -/
def noWords : List String := ["false", "f", "no", "n", "off", "0", "notatall"]

/-- **No word means both yes and no.** -/
theorem yesWords_disjoint_noWords : ∀ w ∈ yesWords, w ∉ noWords := by decide

/-- The truth value that a token names. -/
def truthOf? (token : String) : Option Bool :=
  if yesWords.contains (lowercase token) then some true
  else if noWords.contains (lowercase token) then some false
  else none

/-- Whether a token begins with a word, ignoring case. -/
def sameWord (token word : String) : Bool := lowercase token == lowercase word

namespace Leaf

/-- The breakdown that a faulty token of a pattern is. -/
def breakdownOf : Pattern.TokenFault → Breakdown
  | .countTooLarge => .countTooLarge
  | .numberTooLong n => .numberTooLong n
  | .codeTooLarge => .codeTooLarge
  | .nestedTooDeeply => .nestedTooDeeply

/-- Reads one token by a function of its text. -/
def readToken (read : String → Except Problem Value) : Step (List Value) := do
  let (t, i) ← Step.token
  match read t with
  | .ok v => return [v]
  | .error problem => Step.failAt i problem

/-- The tokens that are left, at most `n` of them, and the error at their end if there is one. -/
def restTokens : Nat → Step (List String)
  | 0 => return []
  | n + 1 => do
    let p ← Step.here
    if p.stream.hasNext then
      let t ← Step.next
      return t :: (← restTokens n)
    else return []

/-- Reads the fixed words of a literal. -/
def readWords : List String → Step Unit
  | [] => return ()
  | w :: rest => do
    let (t, i) ← Step.token
    if sameWord t w then readWords rest else Step.failAt i (.literalExpected w t)

/-- The values of candidates, in order; the parse breaks off where they cannot be looked up. -/
def valuesOf (c : Choice) (position : Int) : List String → Step (List Value)
  | [] => return []
  | name :: rest =>
    match c.value name with
    | .ok v => do return v :: (← valuesOf c position rest)
    | .error (.refused reason) => Step.failAt position (.badValue name reason)
    | .error .misused => Step.stop (.broken .lookupMisused)

/-- The candidates of a choice for a word. -/
def candidates (c : Choice) (word : String) : Step (List String) := do
  if c.reported then Step.note word
  return c.supply word

/-- The values that are bound for those of a leaf: the parts of a single one, and more than one as
they are. -/
def bindable : List Value → List Value
  | [v] => v.parts
  | vs => vs

/-- Reads a token that selects candidates. -/
def readChoice (h : Host) (c : Choice) : Step (List Value) := do
  let (t, i) ← Step.token
  let names ← candidates c t
  match Pattern.select h t names with
  | .error fault => Step.stop (.broken (breakdownOf fault))
  | .ok [] => Step.failAt i (.noMatch t)
  | .ok chosen => return bindable (← valuesOf c i chosen)

/-- Reads a selector, or a token that selects candidates. -/
def readSelector (o : Occasion) (s : Selector) : Step (List Value) := do
  let ahead ← Step.peek
  if beginsWith s.sigil ahead then
    let (t, i) ← Step.token
    match s.resolve t o.source with
    | .error reason => Step.failAt i (.badSelector t reason)
    | .ok [] => Step.failAt i (.emptySelection t)
    | .ok entities =>
      match entities.find? fun e => !s.type.has e with
      | some e => Step.failAt i (.wrongEntity t e.kind s.type.name)
      | none => return entities.map Value.entity
  else readChoice o.host s.choice

/-- Reads a duration; letters that name no unit break the parse off. -/
def readDuration : Step (List Value) := do
  let (t, i) ← Step.token
  match Duration.read t with
  | .ok us => return [.duration us]
  | .error (.unknownUnit letters) => Step.stop (.broken (.unknownUnit letters))
  | .error _ => Step.failAt i (.notADuration t)

/-- The step that a leaf is. -/
def read (o : Occasion) : Leaf → Step (List Value)
  | text => do return [.text (← Step.next)]
  | integer => readToken fun t =>
    match Numeral.readInteger t with
    | .ok n => .ok (.integer n)
    | .error _ => .error (.notAnInteger t)
  | real => readToken fun t =>
    match Binary64.read? t with
    | some x => .ok (.real x)
    | none => .error (.notANumber t)
  | truth => readToken fun t =>
    match truthOf? t with
    | some b => .ok (.truth b)
    | none => .error (.notABoolean t)
  | nothing => return []
  | restJoined => do
    let first ← Step.next
    let p ← Step.here
    let others ← restTokens p.stream.remaining
    return [.text (joined " " (first :: others))]
  | restRaw => do
    let start ← Step.here
    let _ ← Step.next
    let p ← Step.here
    let _ ← restTokens p.stream.remaining
    return [.text (dropped start.stream.position.toNat start.stream.raw)]
  | duration => readDuration
  | moment => readToken fun t =>
    if lowercase t = "now" then .ok (.moment o.now)
    else
      match o.host.date? o.now t with
      | some m => .ok (.moment m)
      | none => .error (.notADateTime t)
  | literal v words => do
    readWords words
    return bindable [v]
  | choice c => readChoice o.host c
  | selector s => readSelector o s

end Leaf
end CommandGrammar
