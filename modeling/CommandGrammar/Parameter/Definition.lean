/-
# Defining parameters

How a parameter is put together from what a caller gives, and what may be wrong with it.  A leaf is
given as a draft: a frame and, once one is chosen, what reads its tokens.  Sequences and choices
take parts, each of which is a finished parameter, a draft, or something else that is refused.

Modifiers are added inside all that are there, or outside of them; a default goes outside.
-/

import CommandGrammar.Parameter

namespace CommandGrammar

/-- One addition to the modifiers of a parameter. -/
inductive ModifierEdit
  /-- Inside the modifiers that are there, the first one outermost. -/
  | inside (ms : List (Given Modifier))
  /-- Outside the modifiers that are there. -/
  | outside (m : Given Modifier)

/-- What is given as a modifier, if it is one. -/
def Given.modifier? : Given Modifier → Except DefinitionError Modifier
  | .fitting m => .ok m
  | .other kind => .error (.notAModifier kind)

/-- The modifiers after one addition. -/
def ModifierEdit.apply (ms : List Modifier) : ModifierEdit → Except DefinitionError (List Modifier)
  | .inside given => do return ms ++ (← given.mapM Given.modifier?)
  | .outside given => do return (← given.modifier?) :: ms

/-- A leaf that is being defined. -/
structure LeafDraft where
  /-- The frame of the parameter. -/
  frame : Frame := {}
  /-- What reads the tokens, once it is chosen. -/
  leaf? : Option Leaf := none

/-- The parameter that a draft defines; it needs a leaf. -/
def LeafDraft.build (d : LeafDraft) : Except DefinitionError Parameter :=
  match d.leaf? with
  | some l => .ok (.leaf d.frame l)
  | none => .error (.noLeaf d.frame.key)

/-- What a caller gives where a parameter belongs. -/
inductive Part
  | finished (p : Parameter)
  | draft (d : LeafDraft)
  /-- A thing of another kind. -/
  | other (kind : String)

/-- The parameter that is given, if it is one. -/
def Part.parameter : Part → Except DefinitionError Parameter
  | finished p => .ok p
  | draft d => d.build
  | other kind => .error (.notAParameter kind)

/-- How a parameter combines its children. -/
inductive Combination
  /-- All of them, in order. -/
  | all
  /-- The first that succeeds. -/
  | first

namespace Parameter

/-- Children combined in a frame; there is at least one. -/
def combine (way : Combination) (f : Frame) : List Parameter → Except DefinitionError Parameter
  | [] => .error .emptySequence
  | c :: cs =>
    match way with
    | .all => .ok (.all f (c :: cs))
    | .first => .ok (.first f c cs)

/-- **A combination has the children it is given.** -/
theorem children_combine {way : Combination} {f : Frame} {cs : List Parameter} {p : Parameter}
    (h : combine way f cs = .ok p) : p.children = cs := by
  cases cs with
  | nil => simp [combine] at h
  | cons c cs =>
    cases way <;> simp only [combine, Except.ok.injEq] at h <;> subst h <;> rfl

/-- A parameter that reads nothing. -/
def nothing : Parameter := leaf {} .nothing

/-- A parameter inside a modifier and, if a default is given, inside that. -/
def wrappedWith (p : Parameter) (m : Modifier) (default? : Option Value) : Parameter :=
  match default? with
  | some v => (p.wrapped [m]).wrapped [.default v]
  | none => p.wrapped [m]

end Parameter
end CommandGrammar
