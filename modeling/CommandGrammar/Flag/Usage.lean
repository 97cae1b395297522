/-
# How flags are shown and suggested

A switch is shown by its dashed name in brackets, a valued flag with the usage of its parameter
behind the name.  What a source may not use is neither shown nor suggested.
-/

import CommandGrammar.Flag
import CommandGrammar.Parameter.Usage

namespace CommandGrammar

open Text

/-- The usage of a flag for a source. -/
def Flag.usage (source : Source) (f : Flag) : String :=
  let value := (f.parameter?.map fun p => (p.usage source).text).getD ""
  if value.isEmpty then "[" ++ dashed f.key ++ "]" else "[" ++ dashed f.key ++ " " ++ value ++ "]"

namespace Flags

/-- The usage of a set of flags for a source. -/
def usage (source : Source) (fs : Flags) : String :=
  joined " " ((fs.flags.filter (·.mayUse source)).map (·.usage source))

/-- The dashed names that begin with a text, of the flags that a source may use. -/
def suggest (source : Source) (fs : Flags) (text : String) : List String :=
  (fs.flags.filter (·.mayUse source)).flatMap fun f =>
    (f.names.map Flag.dashed).filter (beginsWith text)

/-- **Only names of usable flags are suggested, and all of them that fit.** -/
theorem mem_suggest {source : Source} {fs : Flags} {text s : String} :
    s ∈ fs.suggest source text ↔
      ∃ f ∈ fs.flags, f.mayUse source = true ∧ ∃ n ∈ f.names, Flag.dashed n = s ∧
        beginsWith text s = true := by
  simp only [suggest, List.mem_flatMap, List.mem_filter, List.mem_map]
  constructor
  · rintro ⟨f, ⟨hf, hu⟩, ⟨n, hn, rfl⟩, hb⟩
    exact ⟨f, hf, hu, n, hn, rfl, hb⟩
  · rintro ⟨f, hf, hu, n, hn, rfl, hb⟩
    exact ⟨f, ⟨hf, hu⟩, ⟨n, hn, rfl⟩, hb⟩

end Flags
end CommandGrammar
