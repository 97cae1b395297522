/-
# Parsing by a parameter

The step that a parameter is.  A source without its permission passes over it.  Otherwise its core
runs inside its modifiers: a leaf reads and binds its values, a sequence runs its children in order
and is undone as a whole, and a choice runs its children until one succeeds, undoing each that
fails.  If all fail, the failure that stands furthest in the line is the one reported, the
earliest child's on a tie.
-/

import CommandGrammar.Parameter
import CommandGrammar.Leaf.Reading

namespace CommandGrammar
namespace Parameter

/-- Binds the values that a leaf reads; under the empty key nothing is bound. -/
def readAndBind (o : Occasion) (key : String) (l : Leaf) : Step Unit := do
  let vs ← l.read o
  if !key.isEmpty then Step.putAll key vs

/-- A step inside a frame: passed over by those who may not use it, inside the modifiers
otherwise. -/
def framed (o : Occasion) (f : Frame) (core : Step Unit) : Step Unit :=
  if o.source.may f.permission then Modifier.chain f.key o.source f.modifiers core
  else Step.done ()

mutual

/-- The step that a parameter is. -/
def parse (o : Occasion) : Parameter → Step Unit
  | leaf f l => framed o f (readAndBind o f.key l)
  | all f cs => framed o f (parseAll o cs).atomic
  | first f c cs => framed o f fun p =>
    match (parse o c).atomic p with
    | ⟨.error (.failed e), _, asked⟩ => (parseFirst o e cs p).after asked
    | r => r

/-- The parameters one after the other. -/
def parseAll (o : Occasion) : List Parameter → Step Unit
  | [] => Step.done ()
  | c :: cs => (parse o c).andThen fun _ => parseAll o cs

/-- The first of the parameters that succeeds; `best` is the failure to report if none does. -/
def parseFirst (o : Occasion) (best : ParseError) : List Parameter → Step Unit
  | [] => Step.stop (.failed best)
  | c :: cs => fun p =>
    match (parse o c).atomic p with
    | ⟨.error (.failed e), _, asked⟩ =>
      (parseFirst o (if e.position > best.position then e else best) cs p).after asked
    | r => r

end

/-- The step inside the modifiers of a parameter. -/
def core (o : Occasion) : Parameter → Step Unit
  | leaf f l => readAndBind o f.key l
  | all _ cs => (parseAll o cs).atomic
  | first _ c cs => fun p =>
    match (parse o c).atomic p with
    | ⟨.error (.failed e), _, asked⟩ => (parseFirst o e cs p).after asked
    | r => r

/-- **A parameter is its core in its frame.** -/
theorem parse_eq_framed (o : Occasion) (p : Parameter) :
    p.parse o = framed o p.frame (p.core o) := by
  cases p <;> simp only [parse, core, frame]

/-- **A source without the permission passes over a parameter.** -/
theorem parse_of_not_mayUse {o : Occasion} {p : Parameter} (h : p.mayUse o.source = false) :
    p.parse o = Step.done () := by
  unfold mayUse at h
  simp [parse_eq_framed, framed, h]

end Parameter
end CommandGrammar
