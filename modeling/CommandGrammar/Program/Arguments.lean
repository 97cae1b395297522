/-
# Arguments of the program

| option | meaning |
| --- | --- |
| `-h`, `--help` | show how the program is called |
| `--config PATH` | read settings from a file |
| `--log-mode MODE` | how the log is written |
| `-c LINE`, `--command LINE` | run one line instead of a session |

A long option may be cut short as long as it can be told, and take its value after a `=`; a short
one may have its value written to it.  An argument that begins with a dash is an option, unless it
is a negative number or holds a space.  What is no option and no value of one is refused.
-/

import CommandGrammar.Settings
import CommandGrammar.Text.Digit

namespace CommandGrammar
namespace Program

open Text

/-- The options of the program. -/
inductive Switch
  | help
  | settings
  | logMode
  | line
  deriving DecidableEq, Repr

namespace Switch

/-- The spellings of the options. -/
def spellings : List (String × Switch) :=
  [("-h", help), ("--help", help), ("--config", settings), ("--log-mode", logMode), ("-c", line),
    ("--command", line)]

end Switch

/-- What an argument looks like. -/
inductive Shape
  /-- A value of an option, or a stray argument. -/
  | plain
  /-- The mark after which nothing is an option. -/
  | mark
  /-- An option that is written short, with what is written to it; `marked` after a `=`. -/
  | short (s : Switch) (marked : Bool) (attached : Option String)
  /-- An option that is written long, with the value after a `=`. -/
  | long (s : Switch) (attached : Option String)
  /-- An option that there is not. -/
  | unknown
  /-- A long option that is cut too short. -/
  | ambiguous
  deriving DecidableEq, Repr

/-- Whether all characters are decimal digits. -/
def allDigits (cs : List Char) : Bool := cs.all fun c => (digitValue? c).isSome

/-- Whether what follows a dash makes a negative number; a line feed may follow it. -/
def isNegativeValue (cs : List Char) : Bool :=
  let cs := if cs.getLast? == some '\n' then cs.dropLast else cs
  match cutAt (· == '.') cs with
  | [whole] => !whole.isEmpty && allDigits whole
  | [whole, places] => !places.isEmpty && allDigits whole && allDigits places
  | _ => false

/-- The shape of an argument that begins with a dash and is no option in full. -/
def shapeOfOther (arg : String) : Shape :=
  if isNegativeValue (arg.toList.drop 1) || arg.toList.contains ' ' then .plain else .unknown

/-- The text before the first `=`, and the one after it, if there is one. -/
def atEquals (arg : String) : String × Option String :=
  let cs := arg.toList
  let before := cs.takeWhile (· != '=')
  match cs.drop before.length with
  | _ :: value => (String.ofList before, some (String.ofList value))
  | [] => (arg, none)

/-- The shape of a long option. -/
def shapeOfLong (arg : String) : Shape :=
  let (name, value) := atEquals arg
  match Switch.spellings.lookup name with
  | some s => .long s value
  | none =>
    match Switch.spellings.filter fun x => beginsWith name x.1 with
    | [] => shapeOfOther arg
    | [(_, s)] => .long s value
    | _ => .ambiguous

/-- The shape of a short option. -/
def shapeOfShort (arg : String) : Shape :=
  let (name, value) := atEquals arg
  match Switch.spellings.lookup name, value with
  | some s, some v => .short s true (some v)
  | some s, none => .short s false none
  | none, _ =>
    match Switch.spellings.lookup (String.ofList (arg.toList.take 2)) with
    | some s => .short s false (some (dropped 2 arg))
    | none => shapeOfOther arg

/-- The shape of an argument. -/
def shapeOf (arg : String) : Shape :=
  match arg.toList with
  | ['-', '-'] => .mark
  | '-' :: '-' :: _ => shapeOfLong arg
  | ['-'] => .plain
  | '-' :: _ => shapeOfShort arg
  | _ => .plain

/-- The arguments with their shapes; after the mark all are plain. -/
def shaped : List String → List (String × Shape)
  | [] => []
  | a :: rest =>
    if shapeOf a = .mark then (a, .mark) :: rest.map (·, .plain)
    else (a, shapeOf a) :: shaped rest

/-- What is asked of the program. -/
structure Request where
  /-- The file with settings. -/
  settings : Option String := none
  logMode : Option LogMode := none
  /-- The line to run. -/
  line : Option String := none
  /-- Whether there are arguments that the program does not take. -/
  stray : Bool := false
  deriving DecidableEq, Repr

/-- How the program is called. -/
inductive Invocation
  /-- To show how it is called. -/
  | help
  /-- Wrongly. -/
  | misused
  | run (r : Request)
  deriving DecidableEq, Repr

namespace Request

/-- The request with a value for an option; none if the option does not take it. -/
def withValue (r : Request) (s : Switch) (value : String) : Option Request :=
  match s with
  | .help => none
  | .settings => some { r with settings := some value }
  | .line => some { r with line := some value }
  | .logMode => (LogMode.ofName? value).map fun m => { r with logMode := some m }

end Request

/-- Whether the letters after the short option for help are well written: more short options, of
which one with a value takes what is written to it, or else the next argument. -/
def areHelpLetters (valueFollows : Bool) : List Char → Bool
  | [] => true
  | '-' :: _ => false
  | 'h' :: rest => rest.head? != some '=' && areHelpLetters valueFollows rest
  | 'c' :: rest => !rest.isEmpty || valueFollows
  | _ => true

/-- The invocation that arguments with their shapes make, from a request on. -/
def invocationFrom (r : Request) : List (String × Shape) → Invocation
  | [] => if r.stray then .misused else .run r
  | (_, .ambiguous) :: _ => .misused
  | (_, .long .help none) :: _ => .help
  | (_, .short .help false none) :: _ => .help
  | (_, .short .help false (some letters)) :: rest =>
    let valueFollows := (rest.head?.map Prod.snd) == some .plain
    if areHelpLetters valueFollows letters.toList then .help else .misused
  | (_, .long s (some value)) :: rest =>
    match r.withValue s value with
    | some r => invocationFrom r rest
    | none => .misused
  | (_, .short s _ (some value)) :: rest =>
    match r.withValue s value with
    | some r => invocationFrom r rest
    | none => .misused
  | (_, .long s none) :: (value, .plain) :: rest =>
    match r.withValue s value with
    | some r => invocationFrom r rest
    | none => .misused
  | (_, .short s _ none) :: (value, .plain) :: rest =>
    match r.withValue s value with
    | some r => invocationFrom r rest
    | none => .misused
  | (_, .long _ none) :: _ => .misused
  | (_, .short _ _ none) :: _ => .misused
  | (_, .plain) :: rest => invocationFrom { r with stray := true } rest
  | (_, .mark) :: rest => invocationFrom { r with stray := true } rest
  | (_, .unknown) :: rest => invocationFrom { r with stray := true } rest

/-- How arguments call the program. -/
def Invocation.ofArguments (args : List String) : Invocation :=
  let all := shaped args
  if all.any fun a => a.2 == .ambiguous then .misused else invocationFrom {} all

/-- **Without arguments nothing is asked.** -/
theorem Invocation.ofArguments_nil : ofArguments [] = .run {} := by
  simp [ofArguments, shaped, invocationFrom]

end Program
end CommandGrammar
