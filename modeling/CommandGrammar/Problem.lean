/-
# Problems of a command line

Why an input does not match a grammar.  A `Problem` names the cause with what it is about, `message`
words it for the person who typed the line, and `kind` sorts the causes into the six classes that a
caller may tell apart.  A `ParseError` is a problem found at an offset of a line.

| kind | causes |
| --- | --- |
| `outOfTokens` | a token is needed and none is left, a repetition reads nothing |
| `unterminatedQuote` | a quote is opened and not closed |
| `noMatchingChoice` | a token selects no candidate, a selector no entity |
| `ambiguousResult` | several values where one is allowed |
| `unknownFlag` | a token that looks like a flag names none |
| `general` | everything else |
-/

import CommandGrammar.Text.Quoted

namespace CommandGrammar

/-- The classes of problems. -/
inductive ProblemKind
  | general
  | outOfTokens
  | unterminatedQuote
  | noMatchingChoice
  | ambiguousResult
  | unknownFlag
  deriving DecidableEq, Repr

/-- The name by which a class of problems is shown. -/
def ProblemKind.name : ProblemKind → String
  | .general => "ArgumentParseError"
  | .outOfTokens => "OutOfTokensError"
  | .unterminatedQuote => "TokenizeError"
  | .noMatchingChoice => "NoMatchingChoiceError"
  | .ambiguousResult => "AmbiguousResultError"
  | .unknownFlag => "UnknownFlagError"

/-- Every class of problems. -/
def ProblemKind.all : List ProblemKind :=
  [.general, .outOfTokens, .unterminatedQuote, .noMatchingChoice, .ambiguousResult, .unknownFlag]

/-- **Every kind of problem is in the list of all.** -/
theorem ProblemKind.mem_all (k : ProblemKind) : k ∈ ProblemKind.all := by
  cases k <;> simp [ProblemKind.all]

/-- Why an input does not match a grammar. -/
inductive Problem
  /-- A token is asked for and none is left. -/
  | notEnoughArguments
  /-- The stream stands at its first token. -/
  | noPreviousArgument
  /-- The quote opened at this offset is not closed. -/
  | unterminatedQuote (opening : Nat)
  | notAnInteger (token : String)
  | notANumber (token : String)
  | notABoolean (token : String)
  | notADuration (token : String)
  | notADateTime (token : String)
  /-- A fixed word is expected and another token stands there. -/
  | literalExpected (expected got : String)
  /-- The token selects no candidate. -/
  | noMatch (token : String)
  /-- A selected candidate has no value. -/
  | badValue (candidate reason : String)
  /-- The selector is refused by its resolver. -/
  | badSelector (selector reason : String)
  /-- The selector resolves to nothing. -/
  | emptySelection (selector : String)
  /-- The selector resolves to an entity of another kind. -/
  | wrongEntity (selector got expected : String)
  /-- More than one value is bound where one is allowed. -/
  | severalValues (key : String)
  /-- A repetition finds nothing to read. -/
  | noValues (key : String)
  /-- The problem arose in one of a counted number of attempts. -/
  | inAttempt (problem : Problem) (attempt times : Nat)
  | flagTakesNoValue (name : String)
  /-- A flag leaves a part of the value attached to it unread. -/
  | unexpectedFlagValue (value flag : String)
  | unknownFlag (name token : String)
  | tooManyArguments
  /-- A subcommand is needed and no token is left. -/
  | missingSubcommand (known : List String)
  /-- The token names no subcommand; `similar` are the names it may be meant for. -/
  | unknownSubcommand (token : String) (similar known : List String)
  /-- A problem that a caller words itself. -/
  | remark (kind : ProblemKind) (text : String)
  deriving Repr

namespace Problem

/-- The class of a problem. -/
def kind : Problem → ProblemKind
  | notEnoughArguments | noPreviousArgument | noValues _ => .outOfTokens
  | unterminatedQuote _ => .unterminatedQuote
  | noMatch _ | emptySelection _ => .noMatchingChoice
  | severalValues _ => .ambiguousResult
  | unknownFlag _ _ => .unknownFlag
  | inAttempt p _ _ => p.kind
  | remark k _ => k
  | _ => .general

/-- **Counting attempts does not change the class.** -/
theorem kind_inAttempt (p : Problem) (k n : Nat) : (inAttempt p k n).kind = p.kind := rfl

/-- The wording of a problem. -/
def message : Problem → String
  | notEnoughArguments => "Not enough arguments."
  | noPreviousArgument => "No previous argument."
  | unterminatedQuote i => s!"Unterminated quoted string starting at position {i}"
  | notAnInteger t => s!"Expected an integer, but input '{t}' was not."
  | notANumber t => s!"Expected a number, but input '{t}' was not."
  | notABoolean t => s!"Invalid boolean '{t}'. Expected true or false."
  | notADuration t => s!"Invalid duration '{t}'. Use seconds, D:HH:MM:SS or 1d2h3m4s."
  | notADateTime t => s!"Invalid date/time '{t}'."
  | literalExpected e g => s!"Expected '{e}' but got '{g}'."
  | noMatch t => s!"No values matching pattern '{t}' present."
  | badValue c r => s!"Invalid value '{c}': {r}"
  | badSelector t r => s!"Invalid selector '{t}': {r}"
  | emptySelection t => s!"Selector '{t}' did not match anything."
  | wrongEntity t g e => s!"Selector '{t}' resolved to {g}, expected {e}."
  | severalValues k => s!"Multiple values were found for '{k}', but only one is allowed."
  | noValues k => s!"Expected at least one value for '{k}'."
  | inAttempt p k n => s!"{p.message} (value {k} of {n})"
  | flagTakesNoValue n => s!"Flag '--{n}' does not take a value."
  | unexpectedFlagValue v f => s!"Unexpected value '{v}' for flag '{f}'."
  | unknownFlag n t => s!"Unknown flag '{n}' in '{t}'."
  | tooManyArguments => "Too many arguments."
  | missingSubcommand known =>
    let names := Text.joined ", " known
    s!"Missing subcommand. Expected one of: {names}."
  | unknownSubcommand t similar known =>
    if similar.isEmpty then
      let names := Text.joined ", " known
      s!"Unknown subcommand '{t}'. Expected one of: {names}."
    else
      let names := Text.joined ", " similar
      s!"Unknown subcommand '{t}'. Did you mean: {names}?"
  | remark _ text => text

end Problem

/-- A problem found at an offset of a line. -/
structure ParseError where
  /-- What is wrong. -/
  problem : Problem
  /-- The line that was being read. -/
  raw : String
  /-- The offset at which reading stopped. -/
  position : Int
  deriving Repr

namespace ParseError

/-- The class of the problem. -/
def kind (e : ParseError) : ProblemKind := e.problem.kind

/-- The wording of the problem. -/
def message (e : ParseError) : String := e.problem.message

/-- As many spaces as the offset; none for an offset before the line. -/
def margin (e : ParseError) : String := String.ofList (List.replicate e.position.toNat ' ')

/-- The message, the line, and a caret under the offset; the message alone for an empty line. -/
def caretMessage (e : ParseError) : String :=
  if e.raw.isEmpty then e.message else e.message ++ "\n" ++ e.raw ++ "\n" ++ e.margin ++ "^"

/-- The class, the message and the offset in one line. -/
def describe (e : ParseError) : String :=
  let text := Text.quoted e.message
  s!"{e.kind.name}(message={text}, position={e.position})"

/-- The error that stands furthest in the line, the earliest of those on a tie. -/
def deepest (first : ParseError) (others : List ParseError) : ParseError :=
  others.foldl (fun best e => if e.position > best.position then e else best) first

/-- **No error stands further than the deepest one.** -/
theorem position_le_deepest (first : ParseError) (others : List ParseError) :
    first.position ≤ (deepest first others).position ∧
      ∀ e ∈ others, e.position ≤ (deepest first others).position := by
  induction others generalizing first with
  | nil => simp [deepest]
  | cons e rest ih =>
    obtain ⟨h1, h2⟩ := ih (if e.position > first.position then e else first)
    simp only [deepest, List.foldl_cons, List.mem_cons, forall_eq_or_imp] at h1 h2 ⊢
    refine ⟨?_, ?_, h2⟩ <;> refine Int.le_trans ?_ h1 <;> split <;> omega

end ParseError
end CommandGrammar
