/-
# Dates and times in documents

| part | written |
| --- | --- |
| date | four digits, `-`, month, `-`, day |
| time of day | hour, `:`, two digits, `:`, two digits, and `.` with digits |
| offset | `Z`, or a sign, hours, and `:` with minutes |

Between a date and a time of day stand a `T` or blanks.  Months, days and hours have two digits,
or at least one where a format allows it.
-/

import CommandGrammar.Calendar.Moment
import CommandGrammar.Number.Numeral

namespace CommandGrammar
namespace Document
namespace Stamp

/-- The number that up to two digits write, at least `least` of them, and what follows it. -/
def shortNumber (least : Nat) (cs : List Char) : Option (Nat × List Char) :=
  let ds := (cs.takeWhile Char.isDigit).take 2
  if ds.length < least then none
  else some (Numeral.ofDigits (ds.map fun c => c.toNat - '0'.toNat), cs.drop ds.length)

/-- What follows a character that a text has to begin with. -/
def after (c : Char) : List Char → Option (List Char)
  | d :: rest => if d = c then some rest else none
  | [] => none

/-- Whether a character is a blank of a line. -/
def isLineBlank (c : Char) : Bool := c == ' ' || c == '\t'

/-- Whether a text is an offset from universal time, or empty. -/
def isOffset (cs : List Char) : Bool :=
  match cs.dropWhile isLineBlank with
  | [] => cs.isEmpty
  | ['Z'] => true
  | sign :: rest =>
    (sign == '+' || sign == '-') &&
      match shortNumber 1 rest with
      | some (_, []) => true
      | some (_, ':' :: minutes) =>
        match shortNumber 2 minutes with
        | some (_, []) => true
        | _ => false
      | _ => false

/-- The year, month and day that a text begins with, and what follows them. -/
def date? (least : Nat) (cs : List Char) : Option ((Nat × Nat × Nat) × List Char) := do
  let (century, rest) ← shortNumber 2 cs
  let (year, rest) ← shortNumber 2 rest
  let (month, rest) ← shortNumber least (← after '-' rest)
  let (day, rest) ← shortNumber least (← after '-' rest)
  return ((100 * century + year, month, day), rest)

/-- What follows the mark between a date and a time of day. -/
def timePart? : List Char → Option (List Char)
  | 'T' :: rest => some rest
  | 't' :: rest => some rest
  | c :: rest => if isLineBlank c then some (rest.dropWhile isLineBlank) else none
  | [] => none

/-- The hour, minute and second that a text writes, with an offset or none. -/
def time? (least : Nat) (cs : List Char) : Option (Nat × Nat × Nat) := do
  let (hour, rest) ← shortNumber least cs
  let (minute, rest) ← shortNumber 2 (← after ':' rest)
  let (second, rest) ← shortNumber 2 (← after ':' rest)
  let rest := match rest with
    | '.' :: places => places.dropWhile Char.isDigit
    | rest => rest
  if isOffset rest then some (hour, minute, second) else none

/-- What is wrong with a date, if anything is. -/
def dateFault? (year month day : Nat) : Option String :=
  if year = 0 then some "year 0 is out of range"
  else if month = 0 ∨ 12 < month then some "month must be in 1..12"
  else if day = 0 ∨ Moment.monthLength year month < day then
    some "day is out of range for month"
  else none

/-- What is wrong with a time of day, if anything is. -/
def timeFault? (hour minute second : Nat) : Option String :=
  if 23 < hour then some "hour must be in 0..23"
  else if 59 < minute then some "minute must be in 0..59"
  else if 59 < second then some "second must be in 0..59"
  else none

/-- **Midnight is a time of every day.** -/
theorem timeFault?_midnight : timeFault? 0 0 0 = none := rfl

end Stamp
end Document
end CommandGrammar
