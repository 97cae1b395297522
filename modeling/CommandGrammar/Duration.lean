/-
# Durations

A length of time as a person types it, read to whole microseconds.  Three forms are tried in order:

| form | instance | rule |
| --- | --- | --- |
| clock | `1:30`, `0:01:00:00` | `D:HH:MM:SS`, leading parts left out are zero |
| seconds | `90`, `1.5`, `2e3` | a decimal numeral that is not negative |
| units | `1w2d3h4m5s6ms` | counts with units, in any order and case; repeated units add up |

A text with a colon is a clock and nothing else.  Fractions of a microsecond are rounded to the
nearest one, a tie to the even one.  The long `ſ` is read as the letter of a unit but names none,
which is a fault of its own (`unknownUnit`).
-/

import CommandGrammar.Number.Binary64
import CommandGrammar.Text.Case
import CommandGrammar.Text.Quoted

namespace CommandGrammar
namespace Duration

open Text

/-- The units of time. -/
inductive TimeUnit
  | week
  | day
  | hour
  | minute
  | second
  | millisecond
  deriving DecidableEq, Repr

/-- The microseconds of a unit. -/
def TimeUnit.micros : TimeUnit → Nat
  | .week => 604800000000
  | .day => 86400000000
  | .hour => 3600000000
  | .minute => 60000000
  | .second => 1000000
  | .millisecond => 1000

/-- The letters of a unit. -/
def TimeUnit.letters : TimeUnit → String
  | .week => "w"
  | .day => "d"
  | .hour => "h"
  | .minute => "m"
  | .second => "s"
  | .millisecond => "ms"

/-- The unit that lowercase letters name. -/
def TimeUnit.ofLetters? : String → Option TimeUnit
  | "w" => some .week
  | "d" => some .day
  | "h" => some .hour
  | "m" => some .minute
  | "s" => some .second
  | "ms" => some .millisecond
  | _ => none

/-- **Every unit is named by its letters.** -/
theorem TimeUnit.ofLetters?_letters (u : TimeUnit) : ofLetters? u.letters = some u := by
  cases u <;> rfl

/-- Why a text is not a duration. -/
inductive Fault
  /-- There is nothing but blanks. -/
  | empty
  /-- There is a colon, and the text is not a clock. -/
  | badClock (text : String)
  /-- The number of seconds is negative. -/
  | negative
  /-- The text is neither a number nor counts with units. -/
  | badUnits (text : String)
  /-- A count is not an integer that can be read. -/
  | badCount
  /-- The number of seconds is not a number. -/
  | notANumber
  /-- The duration has a billion days or more. -/
  | outOfRange
  /-- The letters after a count name no unit. -/
  | unknownUnit (letters : String)
  deriving DecidableEq, Repr

/-- The wording of a fault, where it has one. -/
def Fault.message? : Fault → Option String
  | .empty => some "empty duration"
  | .badClock t => let q := quoted t; some s!"invalid clock duration {q}"
  | .negative => some "negative duration"
  | .badUnits t => let q := quoted t; some s!"invalid unit duration {q}"
  | _ => none

/-- The first length of time that is too long: a billion days. -/
def limit : Nat := 1000000000 * TimeUnit.micros .day

/-- A number of microseconds, if it is not too long. -/
def bounded (micros : Nat) : Except Fault Nat :=
  if micros < limit then .ok micros else .error .outOfRange

/-- **A duration is below the limit.** -/
theorem lt_limit_of_bounded {n m : Nat} (h : bounded n = .ok m) : m = n ∧ m < limit := by
  unfold bounded at h
  split at h
  · simp only [Except.ok.injEq] at h; subst h; exact ⟨rfl, by assumption⟩
  · simp at h

/-- A count that was found to be digits. -/
def count (cs : List Char) : Except Fault Nat :=
  match Numeral.readInteger (String.ofList cs) with
  | .ok n => .ok n.toNat
  | .error _ => .error .badCount

/-- The microseconds of the parts of a clock, the last one in seconds. -/
def clockMicros (parts : List Nat) : Nat :=
  let units := [TimeUnit.second, .minute, .hour, .day]
  ((parts.reverse.zip units).map fun p => p.1 * p.2.micros).foldr (· + ·) 0

/-- The duration that a clock shows. -/
def readClock (text : String) : Except Fault Nat :=
  let parts := cutAt (· == ':') text.toList
  if parts.length > 4 ∨ !parts.all (fun p => !p.isEmpty && p.all isDigit) then
    .error (.badClock text)
  else do bounded (clockMicros (← parts.mapM count))

/-- A number of seconds, given as a double that is not negative, in microseconds.  The fraction of a
second is scaled in double precision before it is rounded. -/
def secondsMicros (mantissa : Nat) (exponent : Int) : Nat :=
  if exponent ≥ 0 then mantissa * Nat.pow 2 exponent.toNat * 1000000
  else
    let d := Nat.pow 2 (-exponent).toNat
    let part :=
      match Binary64.ofRatio false (1000000 * (mantissa % d)) d with
      | .finite _ m e =>
        if e ≥ 0 then m * Nat.pow 2 e.toNat else roundDiv m (Nat.pow 2 (-e).toNat)
      | _ => 0
    mantissa / d * 1000000 + part

/-- The duration of a number of seconds. -/
def ofSeconds (x : Binary64) : Except Fault Nat :=
  if x.isNegative then .error .negative
  else
    match x with
    | .finite _ m e => bounded (secondsMicros m e)
    | .infinite _ => .error .outOfRange
    | .notANumber => .error .notANumber

/-- Whether a character is read as the letter `s`. -/
def isLetterS (c : Char) : Bool := c == 's' || c == 'S' || c == 'ſ'

/-- Whether a character is read as a unit of one letter. -/
def isUnitLetter (c : Char) : Bool :=
  ['w', 'd', 'h', 'm', 'W', 'D', 'H', 'M'].contains c || isLetterS c

/-- The letters of a unit at the start of a text, and what follows them. -/
def unitLetters? : List Char → Option (List Char × List Char)
  | c :: d :: rest =>
    if (c = 'm' ∨ c = 'M') ∧ isLetterS d then some ([c, d], rest)
    else if isUnitLetter c then some ([c], d :: rest) else none
  | [c] => if isUnitLetter c then some ([c], []) else none
  | [] => none

/-- **A unit takes at least one letter.** -/
theorem unitLetters?_shorter {cs letters rest : List Char}
    (h : unitLetters? cs = some (letters, rest)) : rest.length < cs.length := by
  unfold unitLetters? at h
  split at h
  · split at h
    · obtain ⟨-, rfl⟩ := Prod.mk.inj (Option.some.inj h)
      simp only [List.length_cons]
      omega
    · split at h
      · obtain ⟨-, rfl⟩ := Prod.mk.inj (Option.some.inj h)
        exact Nat.lt_succ_self _
      · simp at h
  · split at h
    · obtain ⟨-, rfl⟩ := Prod.mk.inj (Option.some.inj h)
      exact Nat.lt_succ_self _
    · simp at h
  · simp at h

/-- The counts with their units that make up a text; `none` if anything else stands between, before
or after them. -/
def unitCounts? (cs : List Char) : Option (List (List Char × List Char)) :=
  if cs.isEmpty then some []
  else if (cs.takeWhile isDecimalDigit).isEmpty then none
  else
    match _h : unitLetters? (cs.dropWhile isDecimalDigit) with
    | none => none
    | some (letters, rest) =>
      (unitCounts? rest).map ((cs.takeWhile isDecimalDigit, letters) :: ·)
  termination_by cs.length
  decreasing_by
    exact Nat.lt_of_lt_of_le (unitLetters?_shorter _h) (List.dropWhile_sublist _).length_le

/-- The microseconds of counts with their units. -/
def countsMicros : List (List Char × List Char) → Except Fault Nat
  | [] => .ok 0
  | (digits, letters) :: rest =>
    match TimeUnit.ofLetters? (lowercase (String.ofList letters)) with
    | none => .error (.unknownUnit (lowercase (String.ofList letters)))
    | some u => do
      let n ← count digits
      return n * u.micros + (← countsMicros rest)

/-- The duration of counts with units. -/
def readUnits (text : String) : Except Fault Nat :=
  match unitCounts? text.toList with
  | none | some [] => .error (.badUnits text)
  | some counts => do bounded (← countsMicros counts)

/-- The duration that a text writes, in microseconds. -/
def read (s : String) : Except Fault Nat :=
  let text := trim s
  if text.isEmpty then .error .empty
  else if text.toList.contains ':' then readClock text
  else
    match Binary64.read? text with
    | some x => ofSeconds x
    | none => readUnits text

/-- Whether a fault is about the text; an unknown unit is not, it breaks the reading off. -/
def Fault.isRefusal : Fault → Bool
  | .unknownUnit _ => false
  | _ => true

end Duration
end CommandGrammar
