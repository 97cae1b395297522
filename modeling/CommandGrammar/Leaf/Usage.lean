/-
# How leaves are shown in a usage line

A leaf is shown by its key in angle brackets; a choice with at most five candidates lists them,
and a literal shows its words.  Listing the candidates asks the supply for the empty word, which
is reported with the text.
-/

import CommandGrammar.Leaf

namespace CommandGrammar

open Text

/-- A text, and the words that candidates were asked for on the way. -/
structure UsageText where
  text : String
  asked : List String := []

/-- How many candidates are listed at most. -/
def usageLimit : Nat := 5

/-- A key in angle brackets; nothing without a key. -/
def keyUsage (key : String) : String := if key.isEmpty then "" else s!"<{key}>"

/-- How a choice is shown. -/
def Choice.usage (c : Choice) (key : String) : UsageText :=
  if c.showUsage then
    let names := c.supply ""
    let asked := if c.reported then [""] else []
    if 0 < names.length ∧ names.length ≤ usageLimit then
      ⟨"\x7b" ++ joined "|" names ++ "\x7d", asked⟩
    else ⟨keyUsage key, asked⟩
  else ⟨keyUsage key, []⟩

/-- How a leaf is shown. -/
def Leaf.usage (key : String) : Leaf → UsageText
  | nothing => ⟨"", []⟩
  | restJoined | restRaw => ⟨s!"<{key}...>", []⟩
  | literal _ words => ⟨joined " " words, []⟩
  | choice c => c.usage key
  | selector s => s.choice.usage key
  | _ => ⟨keyUsage key, []⟩

end CommandGrammar
