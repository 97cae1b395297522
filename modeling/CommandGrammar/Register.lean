/-
# Registers of names

Flags and commands are defined by calls, one after the other, and what is added goes by names.  A
register of the names that are taken is kept beside the definition; a call looks the names that it
is given up there, and enters them when it has found all of them good.

A call that fails does not undo what it has changed before, and the calls behind it are made all the
same.  That nothing is left of it is a fact about each call.
-/

import CommandGrammar.Definition

namespace CommandGrammar

/-- Something that is being defined, and the names that are taken in it. -/
structure Registered (σ : Type) where
  /-- The definition so far. -/
  made : σ
  /-- What the names so far are compared by. -/
  taken : List String := []

/-- What calls on a definition are made of; what is left after a fault is told, too. -/
abbrev Defining (σ α : Type) := EStateM DefinitionError (Registered σ) α

namespace Registered

variable {σ : Type}

/-- Changes the definition. -/
def change (f : σ → σ) : Defining σ Unit := modify fun r => { r with made := f r.made }

/-- Enters names into the register, and then what goes by them into the definition. -/
def enter (names : List String) (f : σ → σ) : Defining σ Unit := do
  modify fun r => { r with taken := r.taken ++ names }
  change f

/-- What is left after a call, whether it fails or not. -/
def after (r : Registered σ) (call : Defining σ Unit) : Registered σ :=
  match call r with
  | .ok _ s => s
  | .error _ s => s

/-- What is left after calls, one after the other. -/
def afterAll (r : Registered σ) (calls : List (Defining σ Unit)) : Registered σ :=
  calls.foldl after r

/-- **What holds at first and is kept by every call holds after all of them.** -/
theorem afterAll_induction {P : Registered σ → Prop} {r : Registered σ}
    {calls : List (Defining σ Unit)} (start : P r)
    (step : ∀ call ∈ calls, ∀ s, P s → P (s.after call)) : P (r.afterAll calls) := by
  induction calls generalizing r with
  | nil => exact start
  | cons call calls ih =>
    have hfirst : P (r.after call) := step call List.mem_cons_self r start
    exact ih hfirst fun c hc => step c (List.mem_cons_of_mem call hc)

end Registered
end CommandGrammar
