/-
# Defining flags

A set of flags is defined by calls on it.  Some add a flag under names that are new, the others say
what holds of all flags.

| names | are the same if they agree |
| --- | --- |
| short ones | as they are |
| long ones | in lowercase |

A flag is looked up by its name in one of two tables, which ignore case where the names do.
-/

import CommandGrammar.Caseless
import CommandGrammar.Flag
import CommandGrammar.Register

namespace CommandGrammar

/-- A call on a set of flags that is being defined. -/
inductive FlagCall
  /-- Adds a switch; a source may need a permission for it. -/
  | switch (permission : Option String) (specs : List (Given String))
  /-- Adds a flag whose value a parameter reads. -/
  | valued (value : Part) (specs : List (Given String))
  /-- Says what becomes of unknown letters. -/
  | treatShort (policy : UnknownFlagPolicy)
  /-- Says what becomes of unknown long names. -/
  | treatLong (policy : UnknownFlagPolicy)
  /-- Says whether flags stand only before all arguments. -/
  | anchor (anchored : Bool)

namespace Flags

/-- Adds a flag under names that are not taken. -/
def register (role : FlagRole) (specs : List (Given String)) : Defining Flags Unit := do
  let r ← get
  let f ← MonadExcept.ofExcept (newFlag r.taken role specs)
  Registered.enter (f.names.map Flag.nameKey) (·.push f)

/-- Each name of a flag with that flag, in order. -/
def byName (fs : Flags) : List (String × Flag) :=
  fs.flags.flatMap fun f => f.names.map fun n => (n, f)

/-- The table of short names. -/
def shortTable (fs : Flags) : List (String × Flag) :=
  (fs.byName.filter fun e => Flag.isShort e.1).foldl (fun t e => Caseless.assign e.1 e.2 t) []

/-- The table of long names. -/
def longTable (fs : Flags) : Caseless Flag :=
  .ofList (fs.byName.filter fun e => !Flag.isShort e.1)

end Flags

/-- What a call does. -/
def FlagCall.run : FlagCall → Defining Flags Unit
  | switch permission specs => Flags.register (.switch permission) specs
  | valued value specs => do
    let p ← MonadExcept.ofExcept value.flagValue
    Flags.register (.valued p) specs
  | treatShort policy => Registered.change fun fs => { fs with unknownShort := policy }
  | treatLong policy => Registered.change fun fs => { fs with unknownLong := policy }
  | anchor anchored => Registered.change fun fs => { fs with anchored := anchored }

end CommandGrammar
