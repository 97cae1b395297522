/-
# Completions in an editor

What an editor offers for the word before its cursor: a text to insert in place of the last so many
characters, and a text to show.  Words with blanks are inserted between quotes.  When several words
begin with more than is typed, what they begin with is offered before them; not for flags.
-/

import CommandGrammar.Command.Complete

namespace CommandGrammar

open Text

/-- What an editor offers. -/
structure Completion where
  /-- The text to insert. -/
  text : String
  /-- Where it begins, relative to the cursor. -/
  start : Int
  /-- The text to show. -/
  shown : String
  deriving DecidableEq, Repr

namespace Completion

/-- A word between quotes if it has a blank in it. -/
def quotedWord (s : String) : String :=
  if s.toList.any fun c => c == ' ' || c == '\t' then "\x22" ++ s ++ "\x22" else s

/-- What two texts both begin with. -/
def commonStart : List Char → List Char → List Char
  | a :: as, b :: bs => if a = b then a :: commonStart as bs else []
  | _, _ => []

/-- What all texts begin with. -/
def commonStartOf : List String → String
  | [] => ""
  | s :: rest => String.ofList (rest.foldl (fun start t => commonStart start t.toList) s.toList)

/-- **Both texts begin with their common start.** -/
theorem commonStart_isPrefix (a b : List Char) :
    commonStart a b <+: a ∧ commonStart a b <+: b := by
  induction a generalizing b with
  | nil => simp [commonStart]
  | cons x xs ih =>
    cases b with
    | nil => simp [commonStart]
    | cons y ys =>
      by_cases h : x = y
      · subst h
        simpa [commonStart, List.cons_prefix_cons] using ih ys
      · simp [commonStart, h]

/-- What is offered for words, where `typed` is typed already and `length` characters are
replaced. -/
def ofWords (words : List String) (typed : String) (length : Int) : List Completion :=
  let matching := distinct words
  let all := matching.map fun w => (⟨quotedWord w, -length, w⟩ : Completion)
  let start := commonStartOf matching
  let furthers := matching.length > 1 && start.length > typed.length && !beginsWith "-" start
  if furthers then ⟨start, -length, start⟩ :: all else all

/-- What is offered at the end of a text by a command, with further words for its first token. -/
def ofCommand (o : Occasion) (c : Command) (further : List String) (text : String) :
    Except Stop (List Completion) := do
  let words ← (c.completions o text).result
  let tokens := TokenStream.typedTokens c.frame.splitting text
  let last : Token := tokens.getLastD ⟨"", text.length, text.length⟩
  let more :=
    if tokens.length = 1 then further.filter (beginsWith (lowercase last.text)) else []
  return ofWords (words ++ more) last.text ((text.length : Int) - last.start)

end Completion
end CommandGrammar
