/-
# Keywords

The spellings of the members of a small set.  A spelling is read without the blanks around it, in
any case, and with hyphens for underscores; after that it is a member's own name or another name
for it.  A set has a title, which the refusal of a spelling shows.
-/

import CommandGrammar.Text.Blank
import CommandGrammar.Text.Case
import CommandGrammar.Text.Parts

namespace CommandGrammar

open Text

/-- The spellings of the members of a small set. -/
structure Keywords (α : Type) where
  /-- How the set is called. -/
  title : String
  /-- The members, in order. -/
  members : List α
  /-- The own name of a member. -/
  name : α → String
  /-- Other names, each with the own name it stands for. -/
  others : List (String × String)

namespace Keywords

variable {α : Type}

/-- A spelling without blanks around it, in lowercase, and with underscores for hyphens. -/
def plain (s : String) : String :=
  String.ofList ((lowercase (trim s)).toList.map fun c => if c = '-' then '_' else c)

/-- The own name that a spelling stands for, if it stands for one. -/
def meaning (k : Keywords α) (s : String) : String :=
  (k.others.lookup (plain s)).getD (plain s)

/-- The member that a spelling names. -/
def read? (k : Keywords α) (s : String) : Option α :=
  k.members.find? fun m => k.name m == k.meaning s

/-- **What is read is a member with the meant name.** -/
theorem name_of_read? {k : Keywords α} {s : String} {m : α} (h : k.read? s = some m) :
    m ∈ k.members ∧ k.name m = k.meaning s :=
  ⟨List.mem_of_find?_eq_some h, by simpa using List.find?_some h⟩

/-- The own names of the members, in order. -/
def names (k : Keywords α) : List String := k.members.map k.name

/-- The refusal of a spelling that names no member. -/
def refusal (k : Keywords α) (s : String) : String :=
  let valid := joined ", " k.names
  s!"Invalid {k.title}: '{s}'. Must be one of: {valid}"

/-- The refusal of something that is no text. -/
def refusalOf (k : Keywords α) (shown : String) : String := s!"Invalid {k.title}: {shown}"

/-- The member that a spelling names, or its refusal. -/
def read (k : Keywords α) (s : String) : Except String α :=
  match k.read? s with
  | some m => .ok m
  | none => .error (k.refusal s)

end Keywords
end CommandGrammar
