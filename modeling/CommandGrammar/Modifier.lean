/-
# Modifiers

A modifier wraps a step and changes how often it runs or what its failure means, not what values it
makes.  The first modifier of a parameter is the outermost.

| modifier | rule |
| --- | --- |
| `onlyOne` | fails if more than one value is bound after success |
| `allOf` | repeats until nothing is ahead, a run fails, or a run reads nothing; at least once |
| `repeated n` | runs exactly `n` times, or is undone |
| `optional` | undoes a failure; succeeds if nothing was ahead |
| `optionalWeak` | undoes a failure and succeeds |
| `default`, `defaultBy` | after success, binds a value if none is bound |
| `plain` | changes nothing |
-/

import CommandGrammar.Progress
import CommandGrammar.Definition

namespace CommandGrammar

/-- What may wrap the step of a parameter. -/
inductive Modifier
  | onlyOne
  | allOf
  /-- The number of runs is one that a message can tell: it has at most 4300 digits. -/
  | repeated (times : Nat)
  | optional
  | optionalWeak
  | default (v : Value)
  /-- A default that depends on who typed the line; it may be none. -/
  | defaultBy (value : Source → Option Value)
  | plain

namespace Modifier

/-- A repetition runs at least once. -/
def repeated? (times : Int) : Except DefinitionError Modifier :=
  if times < 1 then .error (.badCount times) else .ok (.repeated times.toNat)

/-- Whether the wrapped step may succeed without reading anything. -/
def isSkippable : Modifier → Bool
  | optional | optionalWeak => true
  | _ => false

/-- Whether the wrapped step may run several times. -/
def isRepeating : Modifier → Bool
  | allOf | repeated _ => true
  | _ => false

/-- The name by which a modifier is shown. -/
def name : Modifier → String
  | onlyOne => "OnlyOne"
  | allOf => "AllOf"
  | repeated _ => "Repeated"
  | optional => "Optional"
  | optionalWeak => "OptionalWeak"
  | default _ => "DefaultValue"
  | defaultBy _ => "DefaultValueSupplier"
  | plain => "ValueParameterModifier"

/-- How a modifier shows in the usage line of what it wraps. -/
def usage (inner : String) (m : Modifier) : String :=
  if inner.isEmpty then inner
  else
    match m with
    | allOf => inner ++ " [" ++ inner ++ " ...]"
    | repeated n => Text.joined " " (List.replicate n inner)
    | optional | optionalWeak => "[" ++ inner ++ "]"
    | _ => inner

/-- Fails if more than one value is bound under the key after the step succeeds. -/
def runOnlyOne (key : String) (inner : Step Unit) : Step Unit := do
  let start ← Step.here
  inner
  let p ← Step.here
  if (p.context.values key).length > 1 then
    Step.failAt start.stream.position (.severalValues key)

/-- Runs a step again and again, at most `n` times, until nothing is ahead, a run fails, or a run
reads nothing; a run that fails is undone. -/
def runAgain (inner : Step Unit) : Nat → Step Unit
  | 0 => Step.done ()
  | n + 1 => fun p =>
    if p.stream.hasNext then
      match inner.atomic p with
      | ⟨.ok (), q, asked⟩ =>
        if q.stream.cursor = p.stream.cursor then ⟨.ok (), q, asked⟩
        else (runAgain inner n q).after asked
      | ⟨.error (.failed _), q, asked⟩ => ⟨.ok (), q, asked⟩
      | ⟨.error (.broken b), q, asked⟩ => ⟨.error (.broken b), q, asked⟩
    else ⟨.ok (), p, []⟩

/-- Runs a step as often as it succeeds and reads something, at least once.  Each further run needs
something ahead, so there are no more of them than that. -/
def runAllOf (key : String) (inner : Step Unit) : Step Unit := fun p =>
  if p.stream.hasNext then
    match inner.atomic p with
    | ⟨.ok (), q, asked⟩ =>
      if q.stream.cursor = p.stream.cursor then ⟨.ok (), q, asked⟩
      else (runAgain inner q.stream.remaining q).after asked
    | ⟨.error e, q, asked⟩ => ⟨.error e, q, asked⟩
  else Step.fail (.noValues key) p

/-- Runs a step from the attempt `k` to the attempt `n`; a failure tells which attempt it was. -/
def runTimes (inner : Step Unit) (times : Nat) : Nat → Nat → Step Unit
  | 0, _ => Step.done ()
  | left + 1, attempt => fun p =>
    match inner p with
    | ⟨.ok (), q, asked⟩ => (runTimes inner times left (attempt + 1) q).after asked
    | ⟨.error (.failed e), q, asked⟩ =>
      ⟨.error (.failed { e with problem := .inAttempt e.problem attempt times }), q, asked⟩
    | ⟨.error (.broken b), q, asked⟩ => ⟨.error (.broken b), q, asked⟩

/-- Undoes a failure; if nothing was ahead, it counts as success. -/
def runOptional (inner : Step Unit) : Step Unit := fun p =>
  match inner.atomic p with
  | ⟨.error (.failed e), q, asked⟩ =>
    if p.stream.hasNext then ⟨.error (.failed e), q, asked⟩ else ⟨.ok (), q, asked⟩
  | r => r

/-- Undoes a failure and counts it as success. -/
def runOptionalWeak (inner : Step Unit) : Step Unit := fun p =>
  match inner.atomic p with
  | ⟨.error (.failed _), q, asked⟩ => ⟨.ok (), q, asked⟩
  | r => r

/-- After success, binds a value under the key if it has none. -/
def runDefault (key : String) (value : Option Value) (inner : Step Unit) : Step Unit := do
  inner
  let p ← Step.here
  if !p.context.has key then
    match value with
    | some v => Step.put key v
    | none => return ()

/-- The step that a modifier makes of the step it wraps. -/
def apply (key : String) (source : Source) (inner : Step Unit) : Modifier → Step Unit
  | onlyOne => runOnlyOne key inner
  | allOf => runAllOf key inner
  | repeated n => (runTimes inner n n 1).atomic
  | optional => runOptional inner
  | optionalWeak => runOptionalWeak inner
  | default v => runDefault key (some v) inner
  | defaultBy value => runDefault key (value source) inner
  | plain => inner

/-- The step inside a chain of modifiers, the first one outermost. -/
def chain (key : String) (source : Source) (ms : List Modifier) (inner : Step Unit) : Step Unit :=
  ms.foldr (fun m step => m.apply key source step) inner

/-- **The first modifier is the outermost.** -/
theorem chain_cons (key : String) (source : Source) (m : Modifier) (ms : List Modifier)
    (inner : Step Unit) :
    chain key source (m :: ms) inner = m.apply key source (chain key source ms inner) := rfl

end Modifier
end CommandGrammar
