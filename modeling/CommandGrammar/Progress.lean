/-
# Steps of a parse

A parse is made of steps.  A step starts from a `Progress` (a token stream and the bindings made so
far) and reports a result and the progress after it, whether it succeeds or not: what a failed step
has read and bound stays, unless the step is made `atomic`.

| way to stop | meaning | who handles it |
| --- | --- | --- |
| `failed` | the input does not match | modifiers and alternatives may try something else |
| `broken` | a token cannot be judged at all | nobody: it ends the parse |

A report also lists the words that candidates were asked for.  The list is only ever added to, so
what was asked by a step that is undone is kept.
-/

import CommandGrammar.Context
import CommandGrammar.Host
import CommandGrammar.Source
import CommandGrammar.Token.Stream

namespace CommandGrammar

/-- Who typed a line, when, and on which host. -/
structure Occasion where
  /-- Who typed the line. -/
  source : Source
  /-- The present moment. -/
  now : Moment
  /-- The host that reads it. -/
  host : Host

/-- Why a token cannot be judged at all. -/
inductive Breakdown
  /-- A count is followed by letters that name no unit of time. -/
  | unknownUnit (letters : String)
  /-- A repeat count of a pattern is beyond the limit. -/
  | countTooLarge
  /-- A number in a pattern has more digits than an integer may have. -/
  | numberTooLong (digits : Nat)
  /-- A code point in a pattern is beyond the integers of the machine. -/
  | codeTooLarge
  /-- The groups of a pattern are nested deeper than the stack. -/
  | nestedTooDeeply
  /-- Candidates are looked up in what does not hold them. -/
  | lookupMisused
  deriving DecidableEq, Repr

/-- How a step stops without a result. -/
inductive Stop
  /-- The input does not match. -/
  | failed (e : ParseError)
  /-- A token cannot be judged at all. -/
  | broken (b : Breakdown)
  deriving Repr

/-- How far a parse has come. -/
structure Progress where
  /-- The tokens, with the cursor. -/
  stream : TokenStream
  /-- What is bound so far. -/
  context : Context

/-- The same tokens from the start with nothing bound. -/
def Progress.ofStream (s : TokenStream) : Progress := ⟨s, {}⟩

/-- What a step has come to. -/
structure Report (α : Type) where
  /-- The result, or how the step stopped. -/
  result : Except Stop α
  /-- The progress after the step. -/
  progress : Progress
  /-- The words that candidates were asked for, in order. -/
  asked : List String

/-- A report that has asked for more words before. -/
def Report.after {α : Type} (asked : List String) (r : Report α) : Report α :=
  { r with asked := asked ++ r.asked }

/-- A step of a parse. -/
def Step (α : Type) := Progress → Report α

namespace Step

variable {α β : Type}

/-- The step that has its result and changes nothing. -/
def done (a : α) : Step α := fun p => ⟨.ok a, p, []⟩

/-- The step that stops and changes nothing. -/
def stop (s : Stop) : Step α := fun p => ⟨.error s, p, []⟩

/-- A step and, if it succeeds, another one from where it ends. -/
def andThen (s : Step α) (next : α → Step β) : Step β := fun p =>
  match s p with
  | ⟨.ok a, q, asked⟩ => (next a q).after asked
  | ⟨.error e, q, asked⟩ => ⟨.error e, q, asked⟩

instance : Monad Step where
  pure := done
  bind := andThen

/-- **A result alone changes nothing.** -/
theorem pure_apply (a : α) (p : Progress) : (pure a : Step α) p = ⟨.ok a, p, []⟩ := rfl

/-- **A step goes on from where the one before it ends, if that succeeds.** -/
theorem bind_apply (s : Step α) (next : α → Step β) (p : Progress) :
    (s >>= next) p = match s p with
      | ⟨.ok a, q, asked⟩ => (next a q).after asked
      | ⟨.error e, q, asked⟩ => ⟨.error e, q, asked⟩ := rfl

/-- The progress so far. -/
def here : Step Progress := fun p => ⟨.ok p, p, []⟩

/-- Goes to a token stream, with the bindings as they are. -/
def goTo (s : TokenStream) : Step Unit := fun p => ⟨.ok (), { p with stream := s }, []⟩

/-- Binds a value under a key. -/
def put (key : String) (v : Value) : Step Unit := fun p =>
  ⟨.ok (), { p with context := p.context.put key v }, []⟩

/-- Binds values under a key, in order. -/
def putAll (key : String) (vs : List Value) : Step Unit := fun p =>
  ⟨.ok (), { p with context := p.context.putAll key vs }, []⟩

/-- Binds `true` under a key that has no value. -/
def mark (key : String) : Step Unit := fun p =>
  ⟨.ok (), { p with context := p.context.mark key }, []⟩

/-- Goes back to an earlier progress. -/
def backTo (p : Progress) : Step Unit := fun _ => ⟨.ok (), p, []⟩

/-- Runs a step on other tokens; what it binds is kept and the cursor stays. -/
def within (s : TokenStream) (inner : Step α) : Step α := fun p =>
  let r := inner { p with stream := s }
  { r with progress := { r.progress with stream := p.stream } }

/-- Fails with a problem at the cursor. -/
def fail (problem : Problem) : Step α := fun p => ⟨.error (.failed (p.stream.error problem)), p, []⟩

/-- Fails with a problem at an offset of the line. -/
def failAt (position : Int) (problem : Problem) : Step α := fun p =>
  ⟨.error (.failed (p.stream.errorAt position problem)), p, []⟩

/-- Reads the next token. -/
def next : Step String := fun p =>
  match p.stream.next with
  | .ok (t, s) => ⟨.ok t, { p with stream := s }, []⟩
  | .error e => ⟨.error (.failed e), p, []⟩

/-- Reads the next token and tells where it begins. -/
def token : Step (String × Int) := fun p =>
  match p.stream.next with
  | .ok (t, s) => ⟨.ok (t, p.stream.position), { p with stream := s }, []⟩
  | .error e => ⟨.error (.failed e), p, []⟩

/-- Reads the next token, if there is one. -/
def next? : Step (Option String) := fun p =>
  match p.stream.next? with
  | some (t, s) => ⟨.ok (some t), { p with stream := s }, []⟩
  | none => ⟨.ok none, p, []⟩

/-- Reads the word that is being typed; the empty word when none is left. -/
def typed : Step String := fun p =>
  match p.stream.next? with
  | some (t, s) => ⟨.ok t, { p with stream := s }, []⟩
  | none => ⟨.ok "", p, []⟩

/-- Tells the next token. -/
def peek : Step String := fun p =>
  match p.stream.peek with
  | .ok t => ⟨.ok t, p, []⟩
  | .error e => ⟨.error (.failed e), p, []⟩

/-- Notes that candidates were asked for a word. -/
def note (word : String) : Step Unit := fun p => ⟨.ok (), p, [word]⟩

/-- A step that is undone when it does not succeed. -/
def atomic (s : Step α) : Step α := fun p =>
  match s p with
  | ⟨.ok a, q, asked⟩ => ⟨.ok a, q, asked⟩
  | ⟨.error e, _, asked⟩ => ⟨.error e, p, asked⟩

/-- **An atomic step that stops leaves no trace.** -/
theorem progress_atomic_of_error {s : Step α} {p : Progress} {e : Stop}
    (h : (s.atomic p).result = .error e) : (s.atomic p).progress = p := by
  unfold atomic at h ⊢
  split at h
  · simp at h
  · simp_all

/-- **An atomic step comes to what the step comes to.** -/
theorem result_atomic (s : Step α) (p : Progress) : (s.atomic p).result = (s p).result := by
  unfold atomic
  split <;> rename_i heq <;> simp [heq]

/-- **A step on other tokens leaves the cursor.** -/
@[simp] theorem stream_within (s : TokenStream) (inner : Step α) (p : Progress) :
    (within s inner p).progress.stream = p.stream := rfl

/-- A step whose effect is undone, whatever it comes to. -/
def undone (s : Step α) : Step α := fun p => { s p with progress := p }

end Step
end CommandGrammar
