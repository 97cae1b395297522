/-
# The context of a parse

What a parse has bound so far: keys in the order of their first binding, each with its values in the
order they were bound, and two facts that the caller supplies (whether a completion is being
computed, and a location).  A key may stand with no values, in a context that was made rather than
filled; such a key counts as unbound.
-/

import CommandGrammar.Value

namespace CommandGrammar

/-- Keys in the order of their first binding, with their values. -/
abbrev Entries := List (String × List Value)

/-- What a parse has bound so far. -/
structure Context where
  /-- The bindings. -/
  entries : Entries := []
  /-- Whether the parse serves a completion. -/
  completing : Bool := false
  /-- A location that the caller supplies. -/
  target : Value := .nothing

/-- Why a key has no single value. -/
inductive LookupProblem
  | unbound (key : String)
  | several (key : String) (count : Nat)
  deriving DecidableEq, Repr

/-- The wording of a failed look-up. -/
def LookupProblem.message : LookupProblem → String
  | .unbound k => s!"No value was bound for '{k}'."
  | .several k n => s!"Expected a single value for '{k}' but {n} were bound."

namespace Entries

/-- The values of a key. -/
def values : Entries → String → List Value
  | [], _ => []
  | (k, vs) :: rest, key => if k = key then vs else values rest key

/-- The entries with one more value under a key, at the end of its values. -/
def put : Entries → String → Value → Entries
  | [], key, v => [(key, [v])]
  | (k, vs) :: rest, key, v =>
    if k = key then (k, vs ++ [v]) :: rest else (k, vs) :: put rest key v

/-- **A put value is the last one of its key.** -/
theorem values_put_self (es : Entries) (key : String) (v : Value) :
    (es.put key v).values key = es.values key ++ [v] := by
  induction es with
  | nil => simp [put, values]
  | cons e rest ih =>
    obtain ⟨k, vs⟩ := e
    by_cases h : k = key
    · simp [put, values, h]
    · simp [put, values, h, ih]

/-- **A put leaves the other keys alone.** -/
theorem values_put_of_ne (es : Entries) {key other : String} (v : Value) (h : key ≠ other) :
    (es.put key v).values other = es.values other := by
  induction es with
  | nil => simp [put, values, h]
  | cons e rest ih =>
    obtain ⟨k, vs⟩ := e
    by_cases hk : k = key
    · subst hk; simp [put, values, h]
    · by_cases ho : k = other
      · subst ho; simp [put, values, hk]
      · simp [put, values, hk, ho, ih]

/-- The entries with the values of a key replaced, or the key added at the end. -/
def assign : Entries → String → List Value → Entries
  | [], key, vs => [(key, vs)]
  | (k, old) :: rest, key, vs =>
    if k = key then (k, vs) :: rest else (k, old) :: assign rest key vs

/-- The entries that a list of keys and values makes: a repeated key keeps its first place and its
last values. -/
def ofList (es : List (String × List Value)) : Entries :=
  es.foldl (fun made e => made.assign e.1 e.2) []

/-- The entries of the keys that have values. -/
def bound (es : Entries) : Entries := es.filter fun e => !e.2.isEmpty

/-- The keys that have values. -/
def keys (es : Entries) : List String := es.bound.map Prod.fst

end Entries

namespace Context

/-- Every value bound under a key, in binding order. -/
def values (c : Context) (key : String) : List Value := c.entries.values key

/-- Whether a key has a value. -/
def has (c : Context) (key : String) : Bool := !(c.values key).isEmpty

/-- The first value of a key. -/
def first? (c : Context) (key : String) : Option Value := (c.values key).head?

/-- The value of a key that has exactly one. -/
def single (c : Context) (key : String) : Except LookupProblem Value :=
  match c.values key with
  | [] => .error (.unbound key)
  | [v] => .ok v
  | vs => .error (.several key vs.length)

/-- The context with one more value under a key. -/
def put (c : Context) (key : String) (v : Value) : Context :=
  { c with entries := c.entries.put key v }

/-- The context with the values put under a key, in order. -/
def putAll (c : Context) (key : String) (vs : List Value) : Context :=
  vs.foldl (fun c v => c.put key v) c

/-- The context with `true` under a key that had no value. -/
def mark (c : Context) (key : String) : Context := if c.has key then c else c.put key (.truth true)

/-- The keys that have values, in the order of their first binding. -/
def keys (c : Context) : List String := c.entries.keys

/-- The bindings in one line. -/
def describe (c : Context) : String :=
  let entry := fun (e : String × List Value) =>
    Text.quoted e.1 ++ ": " ++ (Value.list e.2).describe
  "ParsingContext(\x7b" ++ Text.joined ", " (c.entries.bound.map entry) ++ "\x7d)"

/-- **A key has a value after a put.** -/
theorem has_put_self (c : Context) (key : String) (v : Value) : (c.put key v).has key = true := by
  simp [has, values, put, Entries.values_put_self]

/-- **A marked key has a value.** -/
theorem has_mark (c : Context) (key : String) : (c.mark key).has key = true := by
  unfold mark
  split
  · assumption
  · exact has_put_self _ _ _

end Context
end CommandGrammar
