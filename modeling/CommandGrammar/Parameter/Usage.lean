/-
# The usage line of a parameter

A sequence shows its parts after each other, a choice between parentheses and bars; modifiers add
brackets and dots.  What a source may not use is not shown, and an own usage replaces everything.
-/

import CommandGrammar.Parameter
import CommandGrammar.Leaf.Usage

namespace CommandGrammar
namespace Parameter

open Text

/-- Alternatives: in parentheses when there are several. -/
def alternativesText : List String → String
  | [] => ""
  | [part] => part
  | parts => "(" ++ joined "|" parts ++ ")"

/-- A usage in a frame. -/
def shownIn (source : Source) (f : Frame) (core : UsageText) : UsageText :=
  if !source.may f.permission then ⟨"", []⟩
  else
    match f.usage with
    | some (.fixed text) => ⟨text, []⟩
    | some (.bySource text) => ⟨text source, []⟩
    | none => { core with text := f.modifiers.reverse.foldl Modifier.usage core.text }

mutual

/-- The usage line of a parameter for a source. -/
def usage (source : Source) : Parameter → UsageText
  | leaf f l => shownIn source f (l.usage f.key)
  | all f cs =>
    let parts := usageAll source cs
    shownIn source f ⟨joined " " parts.1, parts.2⟩
  | first f c cs =>
    let one := usage source c
    let more := usageAll source cs
    let parts := (if one.text.isEmpty then [] else [one.text]) ++ more.1
    shownIn source f ⟨alternativesText parts, one.asked ++ more.2⟩

/-- The usage lines of parameters that are not empty, and the words asked for. -/
def usageAll (source : Source) : List Parameter → List String × List String
  | [] => ([], [])
  | p :: ps =>
    let one := usage source p
    let more := usageAll source ps
    ((if one.text.isEmpty then [] else [one.text]) ++ more.1, one.asked ++ more.2)

end

/-- **What a source may not use is not shown.** -/
theorem usage_of_not_mayUse {source : Source} {p : Parameter} (h : p.mayUse source = false) :
    p.usage source = ⟨"", []⟩ := by
  cases p <;> simp_all [usage, shownIn, mayUse, frame]

end Parameter
end CommandGrammar
