/-
# Policies

Two choices that a definition leaves to its author: what becomes of a token that looks like a flag
and names none, and what a command does when the child it dispatches to fails.

| unknown flag | rule |
| --- | --- |
| `refuse` | it is a problem |
| `keep` | the token is an argument |
| `drop` | the token is read and means nothing |
| `mark` | the token is read and binds `true` under the flag's name |

| failed child | rule |
| --- | --- |
| `rethrow` | its failure is the command's failure |
| `fallBack` | the tokens are parsed as the command's own arguments |
-/

import CommandGrammar.Keywords
import CommandGrammar.Token.Split

namespace CommandGrammar

/-- The spellings of the ways to split a line. -/
def Splitting.keywords : Keywords Splitting where
  title := "InputTokenizer"
  members := [.quoted, .spaced, .whole]
  name
    | .quoted => "quoted_strings"
    | .spaced => "space_split"
    | .whole => "raw_input"
  others := [("quoted", "quoted_strings"), ("space", "space_split"), ("raw", "raw_input")]

/-- **A member is read from its own name.** -/
theorem Splitting.read?_name (m : Splitting) : keywords.read? (keywords.name m) = some m := by
  cases m <;> decide +kernel

/-- What becomes of a token that looks like a flag and names none. -/
inductive UnknownFlagPolicy
  | refuse
  | keep
  | drop
  | mark
  deriving DecidableEq, Repr

/-- The spellings of what becomes of unknown flags. -/
def UnknownFlagPolicy.keywords : Keywords UnknownFlagPolicy where
  title := "UnknownFlagBehavior"
  members := [.refuse, .keep, .drop, .mark]
  name
    | .refuse => "error"
    | .keep => "accept_as_non_flag"
    | .drop => "ignore"
    | .mark => "accept_nonvalue"
  others := [("positional", "accept_as_non_flag"), ("accept", "accept_as_non_flag"),
    ("skip", "ignore"), ("drop", "ignore"), ("accept_value", "accept_nonvalue"),
    ("bind", "accept_nonvalue")]

/-- **A member is read from its own name.** -/
theorem UnknownFlagPolicy.read?_name (m : UnknownFlagPolicy) :
    keywords.read? (keywords.name m) = some m := by
  cases m <;> decide +kernel

/-- What a command does when the child it dispatches to fails. -/
inductive ChildFailurePolicy
  | rethrow
  | fallBack
  deriving DecidableEq, Repr

/-- The spellings of what follows a failed child. -/
def ChildFailurePolicy.keywords : Keywords ChildFailurePolicy where
  title := "ChildExceptionBehavior"
  members := [.rethrow, .fallBack]
  name
    | .rethrow => "rethrow"
    | .fallBack => "continue"
  others := [("raise", "rethrow"), ("propagate", "rethrow"), ("fallback", "continue"),
    ("delegate", "continue")]

/-- **A member is read from its own name.** -/
theorem ChildFailurePolicy.read?_name (m : ChildFailurePolicy) :
    keywords.read? (keywords.name m) = some m := by
  cases m <;> decide +kernel

end CommandGrammar
