/-
# Flags

A flag is an option of a command that is given by name: `-q`, `--quiet`.  It has one or more names,
the first of which is the key of a switch and the name it is shown by.  A name of one character is
short, any other is long; a flag has at most one long name.  A switch binds `true`, a valued flag is
read by its parameter.

Short names are compared as they are, long ones in lowercase, and in a set of flags no two names are
the same.  Tokens that are negative numbers are never flags.
-/

import CommandGrammar.Parameter.Definition
import CommandGrammar.Policy
import CommandGrammar.Text.Digit

namespace CommandGrammar

open Text

/-- What a flag is for. -/
inductive FlagRole
  /-- Says yes; a source may need a permission for it. -/
  | switch (permission : Option String)
  /-- Takes the values that a parameter reads. -/
  | valued (parameter : Parameter)

/-- An option of a command that is given by name. -/
structure Flag where
  /-- The name it is shown by. -/
  key : String
  /-- Its other names. -/
  others : List String
  role : FlagRole

namespace Flag

/-- All names of a flag, in order. -/
def names (f : Flag) : List String := f.key :: f.others

/-- Whether a name is short. -/
def isShort (name : String) : Bool := name.length == 1

/-- A name with its dashes: one before a short name, two before a long one. -/
def dashed (name : String) : String := if isShort name then "-" ++ name else "--" ++ name

/-- What two names are compared by. -/
def nameKey (name : String) : String := if isShort name then name else lowercase name

/-- The long name of a flag. -/
def long? (f : Flag) : Option String := f.names.find? fun n => !isShort n

/-- The short names of a flag. -/
def shorts (f : Flag) : List String := f.names.filter isShort

/-- The parameter that reads the value of a flag. -/
def parameter? (f : Flag) : Option Parameter :=
  match f.role with
  | .switch _ => none
  | .valued p => some p

/-- Whether a flag takes a value. -/
def takesValue (f : Flag) : Bool := f.parameter?.isSome

/-- Whether a source may use a flag. -/
def mayUse (f : Flag) (source : Source) : Bool :=
  match f.role with
  | .switch permission => source.may permission
  | .valued p => p.mayUse source

end Flag

/-- Optional digits, a point and more, then an exponent. -/
def isUnsignedNumber (cs : List Char) : Bool :=
  let whole := cs.takeWhile isDecimalDigit
  let afterWhole := cs.dropWhile isDecimalDigit
  let afterPoint : Option (List Char) :=
    match afterWhole with
    | '.' :: rest =>
      if whole.isEmpty && (rest.takeWhile isDecimalDigit).isEmpty then none
      else some (rest.dropWhile isDecimalDigit)
    | rest => if whole.isEmpty then none else some rest
  match afterPoint with
  | none => false
  | some [] => true
  | some (c :: rest) =>
    if c == 'e' || c == 'E' then
      let digits := match rest with
        | s :: more => if s == '-' || s == '+' then more else rest
        | [] => []
      !digits.isEmpty && digits.all isDecimalDigit
    else false

/-- A text without one newline at its end. -/
def withoutNewline (cs : List Char) : List Char :=
  if cs.getLast? = some '\n' then cs.dropLast else cs

/-- Whether a token is a negative number; one newline may follow it. -/
def isNegativeNumber (token : String) : Bool :=
  match token.toList with
  | '-' :: cs => isUnsignedNumber (withoutNewline cs)
  | _ => false

/-- Whether a token has the form of a flag: a dash, something after it, and no number. -/
def looksLikeFlag (token : String) : Bool :=
  2 ≤ token.length && beginsWith "-" token && token != "--" && !isNegativeNumber token

/-- **A negative number is no flag.** -/
theorem looksLikeFlag_of_isNegativeNumber {token : String} (h : isNegativeNumber token = true) :
    looksLikeFlag token = false := by
  simp [looksLikeFlag, h]

/-- A set of flags. -/
structure Flags where
  /-- The flags, in order. -/
  flags : List Flag := []
  /-- What becomes of unknown letters. -/
  unknownShort : UnknownFlagPolicy := .refuse
  /-- What becomes of unknown long names. -/
  unknownLong : UnknownFlagPolicy := .refuse
  /-- Whether flags stand only before all arguments. -/
  anchored : Bool := false

namespace Flags

/-- The flag of a short name. -/
def short? (fs : Flags) (letter : Char) : Option Flag :=
  fs.flags.find? fun f => f.shorts.contains letter.toString

/-- The flag of a long name. -/
def long? (fs : Flags) (name : String) : Option Flag :=
  fs.flags.find? fun f =>
    f.names.any fun n => !Flag.isShort n && lowercase n == lowercase name

/-- The flag of a name without dashes. -/
def find? (fs : Flags) (name : String) : Option Flag :=
  match name.toList with
  | [c] => fs.short? c
  | _ => fs.long? name

/-- What the names of a set are compared by. -/
def taken (fs : Flags) : List String := fs.flags.flatMap fun f => f.names.map Flag.nameKey

/-- A name without the dashes before it. -/
def stripped (spec : String) : String := String.ofList (spec.toList.dropWhile (· == '-'))

/-- Whether a name is one that can be typed. -/
def isName (name : String) : Bool :=
  !name.isEmpty && name.toList.all fun c => !isBlank c && c != '='

/-- The names that are given with or without dashes, each of them new. -/
def newNames (taken : List String) :
    List String → List (Given String) → Except DefinitionError (List String)
  | names, [] => .ok names
  | _, .other shown :: _ => .error (.flagAliasNotText shown)
  | names, .fitting spec :: specs =>
    let name := stripped spec
    if !isName name then .error (.badFlagAlias spec)
    else if taken.contains (Flag.nameKey name) || names.contains name then
      .error (.duplicateFlagAlias (Flag.dashed name))
    else newNames taken (names ++ [name]) specs

/-- The texts among what is given. -/
def written : List (Given String) → List String
  | [] => []
  | .fitting s :: rest => s :: written rest
  | .other _ :: rest => written rest

/-- One more flag, whose names are given with or without dashes; each of them is new. -/
def newFlag (taken : List String) (role : FlagRole) (specs : List (Given String)) :
    Except DefinitionError Flag := do
  match ← newNames taken [] specs with
  | [] => .error .noFlagAlias
  | key :: others =>
    if ((key :: others).filter fun n => !Flag.isShort n).length > 1 then
      .error (.severalLongAliases (written specs))
    else .ok ⟨key, others, role⟩

/-- A set with one more flag. -/
def push (fs : Flags) (f : Flag) : Flags := { fs with flags := fs.flags ++ [f] }

/-- A set with one more flag, whose names are given with or without dashes. -/
def add (fs : Flags) (role : FlagRole) (specs : List (Given String)) :
    Except DefinitionError Flags := do
  let f ← newFlag fs.taken role specs
  return fs.push f

/-- The set in one line. -/
def describe (fs : Flags) : String :=
  let names := joined ", " (fs.flags.map fun f => Flag.dashed f.key)
  let anchored := if fs.anchored then "True" else "False"
  s!"Flags([{names}], anchored={anchored})"

end Flags

/-- The parameter that is given for the value of a flag, if it is one. -/
def Part.flagValue : Part → Except DefinitionError Parameter
  | .other kind => .error (.flagValueNotParameter kind)
  | p => p.parameter

end CommandGrammar
