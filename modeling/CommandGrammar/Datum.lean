/-
# Plain data

What a settings document or a report of an executor is made of before anything is checked: nothing,
truth values, numbers, texts, lists, mappings, and things of other kinds.  `describe` writes a datum
so that its kind can be told, `kindName` names the kind.
-/

import CommandGrammar.Number.Shortest
import CommandGrammar.Text.Quoted

namespace CommandGrammar

/-- Plain data. -/
inductive Datum
  | nothing
  | truth (b : Bool)
  | integer (n : Int)
  | real (x : Binary64)
  | text (s : String)
  /-- Something else: the name of its kind, and how it is described. -/
  | other (kind shown : String)
  | list (ds : List Datum)
  /-- Keys with what stands under them, in order. -/
  | mapping (entries : List (Datum × Datum))
  deriving Repr, BEq, Inhabited

namespace Datum

/-- The name of the kind of a datum. -/
def kindName : Datum → String
  | nothing => "NoneType"
  | truth _ => "bool"
  | integer _ => "int"
  | real _ => "float"
  | text _ => "str"
  | other kind _ => kind
  | list _ => "list"
  | mapping _ => "dict"

mutual

/-- A datum written so that its kind can be told. -/
def describe : Datum → String
  | nothing => "None"
  | truth b => if b then "True" else "False"
  | integer n => toString n
  | real x => x.text
  | text s => Text.quoted s
  | other _ shown => shown
  | list ds => "[" ++ Text.joined ", " (describeAll ds) ++ "]"
  | mapping es => "\x7b" ++ Text.joined ", " (describeEntries es) ++ "\x7d"

/-- The descriptions of data, in order. -/
def describeAll : List Datum → List String
  | [] => []
  | d :: ds => describe d :: describeAll ds

/-- The descriptions of keys with what stands under them, in order. -/
def describeEntries : List (Datum × Datum) → List String
  | [] => []
  | (k, v) :: es => (describe k ++ ": " ++ describe v) :: describeEntries es

end

/-- What stands under a text in a mapping. -/
def field? (name : String) : List (Datum × Datum) → Option Datum
  | [] => none
  | (.text k, v) :: es => if k = name then some v else field? name es
  | _ :: es => field? name es

/-- Whether two data are the same key: nothing, truth values, numbers and texts can be keys. -/
def sameKey : Datum → Datum → Bool
  | nothing, nothing => true
  | truth a, truth b => a == b
  | integer a, integer b => a == b
  | real a, real b => a == b
  | text a, text b => a == b
  | other k a, other l b => k == l && a == b
  | _, _ => false

/-- The entries with what stands under a key replaced, or the key added at the end. -/
def assign (key value : Datum) : List (Datum × Datum) → List (Datum × Datum)
  | [] => [(key, value)]
  | (k, v) :: es =>
    if sameKey k key then (k, value) :: es else (k, v) :: assign key value es

/-- **What is assigned to a text stands under it.** -/
theorem field?_assign (name : String) (value : Datum) (es : List (Datum × Datum)) :
    field? name (assign (.text name) value es) = some value := by
  induction es with
  | nil => simp [assign, field?]
  | cons e es ih =>
    obtain ⟨k, v⟩ := e
    by_cases h : sameKey k (.text name)
    · cases k <;> simp_all [assign, field?, sameKey]
    · cases k <;> simp_all [assign, field?, sameKey]

end Datum
end CommandGrammar
