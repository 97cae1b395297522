/-
# Command sources

Whoever typed a command: a name, and the permissions it was granted.  What asks for no permission is
open to every source; a source without a permission predicate is one that is granted none.
-/

namespace CommandGrammar

/-- Whoever typed a command. -/
structure Source where
  /-- How the source is called. -/
  name : String
  /-- Whether the source was granted a permission. -/
  grants : String → Bool

namespace Source

/-- Whether a source may use what asks for the given permission, if it asks for one. -/
def may (s : Source) : Option String → Bool
  | none => true
  | some p => s.grants p

/-- **Where no permission is asked for, everybody may.** -/
@[simp] theorem may_none (s : Source) : s.may none = true := rfl

/-- A source that was granted everything. -/
def trusted (name : String) : Source := ⟨name, fun _ => true⟩

/-- A source that was granted the listed permissions. -/
def holding (name : String) (permissions : List String) : Source := ⟨name, permissions.contains⟩

/-- A source that was granted nothing. -/
def bare (name : String) : Source := ⟨name, fun _ => false⟩

end Source
end CommandGrammar
