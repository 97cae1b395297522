/-
# Tables that ignore case

A table of texts whose keys are the same when they agree in lowercase.  A key keeps the place of its
first insertion and the value of its last one, and is shown in lowercase.
-/

import CommandGrammar.Text.Case

namespace CommandGrammar

open Text

/-- A table whose keys are in lowercase, in the order of their first insertion. -/
structure Caseless (α : Type) where
  entries : List (String × α) := []

namespace Caseless

variable {α : Type}

/-- The value of a key in any case. -/
def find? (t : Caseless α) (key : String) : Option α := t.entries.lookup (lowercase key)

/-- Whether a key in any case has a value. -/
def contains (t : Caseless α) (key : String) : Bool := (t.find? key).isSome

/-- The entries with the value of a key replaced, or the key added at the end. -/
def assign (key : String) (v : α) : List (String × α) → List (String × α)
  | [] => [(key, v)]
  | (k, old) :: rest => if k = key then (k, v) :: rest else (k, old) :: assign key v rest

/-- The table with a value for a key in any case. -/
def insert (t : Caseless α) (key : String) (v : α) : Caseless α :=
  ⟨assign (lowercase key) v t.entries⟩

/-- The table that keys and values make, one after the other. -/
def ofList (items : List (String × α)) : Caseless α :=
  items.foldl (fun t e => t.insert e.1 e.2) {}

/-- **What is assigned to a key is found there.** -/
theorem lookup_assign_self (key : String) (v : α) (es : List (String × α)) :
    (assign key v es).lookup key = some v := by
  induction es with
  | nil => simp [assign]
  | cons e rest ih =>
    obtain ⟨k, old⟩ := e
    by_cases h : k = key
    · simp [assign, h]
    · have hb : (key == k) = false := by simpa using fun hk => h hk.symm
      simp [assign, h, List.lookup_cons, hb, ih]

/-- **What is inserted is found in any case.** -/
theorem find?_insert (t : Caseless α) {key other : String} (v : α)
    (h : lowercase other = lowercase key) : (t.insert key v).find? other = some v := by
  simp [find?, insert, h, lookup_assign_self]

end Caseless
end CommandGrammar
