/-
# Values

What a parse binds under a key.  Each kind of leaf makes one kind of value; lists, `nothing` and
`several` come from defaults, literals and the values of candidates.  `describe` writes a value so
that its kind can be told, `shown` writes it for a reader; they differ on texts, durations, moments
and members.
-/

import CommandGrammar.Calendar.Moment
import CommandGrammar.Number.Shortest

namespace CommandGrammar

/-- The member of an enumeration. -/
structure Member where
  /-- The name of the enumeration. -/
  family : String
  /-- The name of the member. -/
  name : String
  /-- What the member stands for, as it is shown. -/
  shown : String
  deriving DecidableEq, Repr

/-- A thing that a selector resolves to. -/
structure Entity where
  /-- The name of its class. -/
  kind : String
  /-- Its name. -/
  name : String
  deriving DecidableEq, Repr

/-- What a parse binds under a key. -/
inductive Value
  | nothing
  | truth (b : Bool)
  | integer (n : Int)
  | real (x : Binary64)
  | text (s : String)
  /-- A length of time in microseconds. -/
  | duration (microseconds : Int)
  | moment (m : Moment)
  | member (m : Member)
  | entity (e : Entity)
  | list (vs : List Value)
  /-- Several values in one: where a leaf makes it, they are bound one by one. -/
  | several (vs : List Value)
  deriving Repr, Inhabited

namespace Value

/-- The values that a leaf binds for a single one: none for one that is nothing, and for several in
one, these. -/
def parts : Value → List Value
  | nothing => []
  | several vs => vs
  | v => [v]

/-- Microseconds in a second. -/
def secondMicros : Int := 1000000

/-- Microseconds in a day. -/
def dayMicros : Int := 86400 * secondMicros

/-- A length of time as days and a clock: `1 day, 2:03:04.000005`. -/
def durationText (us : Int) : String :=
  let days := us.fdiv dayMicros
  let inDay := (us.fmod dayMicros).toNat
  let seconds := inDay / 1000000
  let fraction := inDay % 1000000
  let hours := toString (seconds / 3600)
  let clock := hours ++ ":" ++ Moment.padded 2 (seconds / 60 % 60) ++ ":" ++
    Moment.padded 2 (seconds % 60)
  let part := if fraction = 0 then "" else "." ++ Moment.padded 6 fraction
  let unit := if days.natAbs = 1 then "day" else "days"
  if days = 0 then clock ++ part else s!"{days} {unit}, " ++ clock ++ part

/-- A length of time with its parts named. -/
def durationDescription (us : Int) : String :=
  let days := us.fdiv dayMicros
  let inDay := (us.fmod dayMicros).toNat
  let part := fun (name : String) (n : Int) => if n = 0 then [] else [s!"{name}={n}"]
  let parts := part "days" days ++ part "seconds" (inDay / 1000000 : Nat) ++
    part "microseconds" (inDay % 1000000 : Nat)
  let inside := if parts.isEmpty then "0" else Text.joined ", " parts
  s!"datetime.timedelta({inside})"

/-- A moment with its parts listed. -/
def momentDescription (m : Moment) : String :=
  let late := if m.microsecond ≠ 0 then [m.second, m.microsecond]
    else if m.second ≠ 0 then [m.second] else []
  let parts := [m.year, m.month, m.day, m.hour, m.minute] ++ late
  let zone := (m.zone.map fun z => "tzinfo=" ++ z.describe).toList
  let inside := Text.joined ", " (parts.map toString ++ zone)
  s!"datetime.datetime({inside})"

/-- Descriptions between parentheses; a single one has a comma behind it. -/
def tupleText : List String → String
  | [s] => "(" ++ s ++ ",)"
  | ss => "(" ++ Text.joined ", " ss ++ ")"

mutual

/-- A value written so that its kind can be told. -/
def describe : Value → String
  | nothing => "None"
  | truth b => if b then "True" else "False"
  | integer n => toString n
  | real x => x.text
  | text s => Text.quoted s
  | duration us => durationDescription us
  | moment m => momentDescription m
  | member m => s!"<{m.family}.{m.name}: {m.shown}>"
  | entity e => e.name
  | list vs => "[" ++ Text.joined ", " (describeAll vs) ++ "]"
  | several vs => "MultiValue(" ++ tupleText (describeAll vs) ++ ")"

/-- The descriptions of values, in order. -/
def describeAll : List Value → List String
  | [] => []
  | v :: vs => describe v :: describeAll vs

end

/-- A value written for a reader. -/
def shown : Value → String
  | text s => s
  | duration us => durationText us
  | moment m => m.textWith " "
  | member m => s!"{m.family}.{m.name}"
  | v => v.describe

/-- **Lists are described by their elements.** -/
theorem describeAll_eq_map (vs : List Value) : describeAll vs = vs.map describe := by
  induction vs with
  | nil => rfl
  | cons v vs ih => simp [describeAll, ih]

end Value
end CommandGrammar
