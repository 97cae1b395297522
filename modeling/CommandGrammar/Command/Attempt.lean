/-
# Attempts

What a command does with a line is an attempt: like a step it starts from a progress and keeps what
it has read and bound when it fails, and it also records the runs of executors, in order.  Nothing
takes a run back.

| failure | cause |
| --- | --- |
| `unparsed` | the line does not match |
| `denied` | the source lacks a permission |
| `noExecutor`, `refused`, `crashed`, `foreignResult` | an executor could not do its work |
| `broken` | a token cannot be judged at all |
-/

import CommandGrammar.Command

namespace CommandGrammar

/-- Why an attempt comes to nothing. -/
inductive CommandFailure
  | unparsed (e : ParseError)
  | denied (permission : String)
  | noExecutor
  /-- The executor failed with a wording of its own. -/
  | refused (message : String)
  | crashed (message : String)
  /-- The executor reported something of another kind. -/
  | foreignResult (kind : String)
  | broken (b : Breakdown)
  deriving Repr

namespace CommandFailure

/-- The wording of a denial. -/
def denial : String := "You do not have permission to use this command."

/-- The wording of a failure, where it has one. -/
def message? : CommandFailure → Option String
  | unparsed e => some e.message
  | denied _ => some denial
  | noExecutor => some "This command has no executor."
  | refused m => some m
  | crashed m => some s!"An error occurred while executing the command: {m}"
  | foreignResult kind => some s!"Executor returned {kind}, expected CommandResult."
  | broken _ => none

/-- Whether a command may go on after its child failed so. -/
def isRecoverable : CommandFailure → Bool
  | broken _ => false
  | _ => true

/-- The failure of a command whose child failed and whose own arguments failed after that: of two
lines that do not match, the one that got further, and the child's otherwise. -/
def blame (child own : CommandFailure) : CommandFailure :=
  match child, own with
  | _, broken b => broken b
  | unparsed e, unparsed f => unparsed (ParseError.deepest e [f])
  | _, _ => child

end CommandFailure

/-- A run of an executor. -/
structure Run where
  /-- The names that lead to its command. -/
  path : List String
  /-- The name of the executor. -/
  name : String
  /-- What it was run with. -/
  context : Context
  /-- What it did. -/
  execution : Execution

/-- What an attempt has come to. -/
structure Trial (α : Type) where
  /-- The result, or why there is none. -/
  result : Except CommandFailure α
  /-- The progress after the attempt. -/
  progress : Progress
  /-- The runs of executors, in order. -/
  runs : List Run

/-- What a command does with a line. -/
def Attempt (α : Type) := Progress → Trial α

/-- The text that the executors of a trial print. -/
def Trial.printed {α : Type} (t : Trial α) : String :=
  t.runs.foldl (fun text r => text ++ r.execution.printed) ""

namespace Attempt

variable {α β : Type}

/-- The attempt that has its result and does nothing. -/
def done (a : α) : Attempt α := fun p => ⟨.ok a, p, []⟩

/-- The attempt that fails and does nothing. -/
def fail (e : CommandFailure) : Attempt α := fun p => ⟨.error e, p, []⟩

/-- An attempt and, if it succeeds, another one from where it ends. -/
def andThen (s : Attempt α) (next : α → Attempt β) : Attempt β := fun p =>
  match s p with
  | ⟨.ok a, q, runs⟩ =>
    let t := next a q
    { t with runs := runs ++ t.runs }
  | ⟨.error e, q, runs⟩ => ⟨.error e, q, runs⟩

instance : Monad Attempt where
  pure := done
  bind := andThen

/-- The failure that a step stops with. -/
def failureOf : Stop → CommandFailure
  | .failed e => .unparsed e
  | .broken b => .broken b

/-- A step as an attempt that runs nothing. -/
def ofStep (s : Step α) : Attempt α := fun p =>
  let r := s p
  ⟨r.result.mapError failureOf, r.progress, []⟩

/-- **A step runs no executor.** -/
@[simp] theorem runs_ofStep (s : Step α) (p : Progress) : (ofStep s p).runs = [] := rfl

/-- An attempt whose reading and binding are undone when it fails; its runs are not. -/
def atomic (s : Attempt α) : Attempt α := fun p =>
  match s p with
  | ⟨.ok a, q, runs⟩ => ⟨.ok a, q, runs⟩
  | ⟨.error e, _, runs⟩ => ⟨.error e, p, runs⟩

/-- An attempt of a child that goes by a name: the paths of its runs begin with that name. -/
def under (name : String) (s : Attempt α) : Attempt α := fun p =>
  let t := s p
  { t with runs := t.runs.map fun r => { r with path := name :: r.path } }

/-- An attempt and, if it fails with something recoverable, another one from where it ends. -/
def orElse (s : Attempt α) (other : CommandFailure → Attempt α) : Attempt α := fun p =>
  match s p with
  | ⟨.error e, q, runs⟩ =>
    if e.isRecoverable then
      let t := other e q
      { t with runs := runs ++ t.runs }
    else ⟨.error e, q, runs⟩
  | t => t

/-- **An atomic attempt that fails takes its reading and binding back.** -/
theorem progress_atomic_of_error {s : Attempt α} {p : Progress} {e : CommandFailure}
    (h : (s.atomic p).result = .error e) : (s.atomic p).progress = p := by
  unfold atomic at h ⊢
  split at h
  · simp at h
  · simp_all

end Attempt
end CommandGrammar
