/-
# Validating a line

Whether a line would be parsed, and if not, why and where.  Blank lines and lines that begin with an
ignored word are valid; a denial is reported at the start of the line.
-/

import CommandGrammar.Command.Dispatch

namespace CommandGrammar

open Text

/-- The judgement on a line. -/
inductive Verdict
  | valid
  | invalid (message : String) (cursor : Int)
  /-- A token cannot be judged at all. -/
  | broken (b : Breakdown)
  deriving Repr

namespace Verdict

/-- The judgement that a failure is. -/
def ofFailure (length : Nat) : CommandFailure → Verdict
  | .unparsed e => invalid e.message (min e.position length)
  | .broken b => broken b
  | e => invalid (e.message?.getD "") 0

/-- The judgement on a line, which is not looked at if it begins with an ignored word. -/
def ofLine (o : Occasion) (c : Command) (ignored : List String) (line : String) : Verdict :=
  match words line with
  | [] => valid
  | first :: _ =>
    if (ignored.map lowercase).contains (lowercase first) then valid
    else
      match (c.parse o line {}).result with
      | .ok _ => valid
      | .error e => ofFailure line.length e

end Verdict
end CommandGrammar
