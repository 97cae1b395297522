/-
# Parameters

The grammar of a command's arguments: a tree whose leaves turn tokens into values and whose inner
nodes put parts in order (`all`) or offer alternatives (`first`).  Every node has a frame: the key
that values are bound under, modifiers, a permission, and replacements for its completion and usage.

| node | succeeds when |
| --- | --- |
| `leaf` | its leaf does |
| `all` | every child does, in order; otherwise it is undone |
| `first` | some child does; the first such child counts |
-/

import CommandGrammar.Leaf
import CommandGrammar.Modifier

namespace CommandGrammar

/-- What replaces the usage of a parameter. -/
inductive OwnUsage
  | fixed (text : String)
  | bySource (text : Source → String)

/-- What replaces the completion of a parameter. -/
abbrev Completer := Source → Step (List String)

/-- What every parameter has. -/
structure Frame where
  /-- The key that values are bound under; none are bound under the empty key. -/
  key : String := ""
  /-- The modifiers, the outermost first. -/
  modifiers : List Modifier := []
  /-- What a source must be granted; the parameter is passed over for others. -/
  permission : Option String := none
  completer : Option Completer := none
  usage : Option OwnUsage := none

/-- The grammar of arguments. -/
inductive Parameter
  | leaf (frame : Frame) (leaf : Leaf)
  /-- The children one after the other. -/
  | all (frame : Frame) (children : List Parameter)
  /-- The first child that succeeds. -/
  | first (frame : Frame) (child : Parameter) (others : List Parameter)

namespace Parameter

/-- The frame of a parameter. -/
def frame : Parameter → Frame
  | leaf f _ | all f _ | first f _ _ => f

/-- A parameter in another frame. -/
def withFrame (f : Frame) : Parameter → Parameter
  | leaf _ l => leaf f l
  | all _ cs => all f cs
  | first _ c cs => first f c cs

/-- **A parameter has the frame it is given.** -/
@[simp] theorem frame_withFrame (f : Frame) (p : Parameter) : (p.withFrame f).frame = f := by
  cases p <;> rfl

/-- The children of a parameter, in order. -/
def children : Parameter → List Parameter
  | leaf _ _ => []
  | all _ cs => cs
  | first _ c cs => c :: cs

/-- The key that a parameter binds under. -/
def key (p : Parameter) : String := p.frame.key

/-- The parameter inside more modifiers, the first one outermost. -/
def wrapped (p : Parameter) (ms : List Modifier) : Parameter :=
  p.withFrame { p.frame with modifiers := ms ++ p.frame.modifiers }

/-- The parameter with another permission. -/
def requiring (p : Parameter) (permission : Option String) : Parameter :=
  p.withFrame { p.frame with permission := permission }

/-- Whether a source may use a parameter. -/
def mayUse (p : Parameter) (source : Source) : Bool := source.may p.frame.permission

/-- Whether a parameter may run several times. -/
def isRepeating (p : Parameter) : Bool := p.frame.modifiers.any Modifier.isRepeating

mutual

/-- Whether a parameter may succeed without reading anything, as its form tells. -/
def isOptional : Parameter → Bool
  | leaf f l => f.modifiers.any Modifier.isSkippable || l.readsNothing
  | all f cs => f.modifiers.any Modifier.isSkippable || allOptional cs
  | first f c cs => f.modifiers.any Modifier.isSkippable || (isOptional c || someOptional cs)

/-- Whether all parameters may be passed over. -/
def allOptional : List Parameter → Bool
  | [] => true
  | p :: ps => isOptional p && allOptional ps

/-- Whether one of the parameters may be passed over. -/
def someOptional : List Parameter → Bool
  | [] => false
  | p :: ps => isOptional p || someOptional ps

end

/-- **All of several parameters are optional if each of them is.** -/
theorem allOptional_eq_all (ps : List Parameter) : allOptional ps = ps.all isOptional := by
  induction ps with
  | nil => rfl
  | cons p ps ih => simp [allOptional, ih]

/-- **Some of several parameters are optional if one of them is.** -/
theorem someOptional_eq_any (ps : List Parameter) : someOptional ps = ps.any isOptional := by
  induction ps with
  | nil => rfl
  | cons p ps ih => simp [someOptional, ih]

/-- The way a parameter combines its children. -/
def mode : Parameter → String
  | leaf _ _ => "single"
  | all _ _ => "all"
  | first _ _ _ => "first"

/-- A frame around what it holds, in one line. -/
def describeIn (f : Frame) (core : String) : String :=
  let key := Text.quoted f.key
  let names := Text.joined ", " (f.modifiers.map Modifier.name)
  s!"Parameter(key={key}, {core}, modifiers=[{names}])"

mutual

/-- A parameter with everything inside it, in one line. -/
def describe : Parameter → String
  | leaf f l => describeIn f l.describe
  | all f cs =>
    let inside := Text.joined ", " (describeAll cs)
    describeIn f s!"all({inside})"
  | first f c cs =>
    let inside := Text.joined ", " (describe c :: describeAll cs)
    describeIn f s!"first({inside})"

/-- The descriptions of parameters, in order. -/
def describeAll : List Parameter → List String
  | [] => []
  | p :: ps => describe p :: describeAll ps

end

end Parameter
end CommandGrammar
