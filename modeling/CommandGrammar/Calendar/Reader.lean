/-
# Reading a date

The moment that a typed date and time means.  The pieces are read from the left into a draft: clock
times and offsets go to their fields, and numbers that may be years, months or days are collected
and told apart at the end (`Trio.resolve`).

| numbers | read as |
| --- | --- |
| one | a year above 31, otherwise a day |
| two | year and month if one is above 31, otherwise month and day |
| three | year first if the first is above 31, day first if it is above 12, otherwise month first |
| with a named month | the other numbers are day and year |

A number with more than two digits is a year.  Two-digit years mean the year nearest to the present.
What a date leaves open is taken from the present day, with the time of day at zero; a day that the
month does not have becomes its last day.  A named weekday moves to the next such day.
-/

import CommandGrammar.Calendar.Moment
import CommandGrammar.Calendar.Pieces
import CommandGrammar.Calendar.Vocabulary
import CommandGrammar.Number.Numeral

namespace CommandGrammar
namespace Calendar

open Text

/-- A decimal number: `coefficient / 10 ^ places`. -/
structure Figure where
  coefficient : Nat
  places : Nat

namespace Figure

/-- The coefficient that one has with so many places. -/
def one (x : Figure) : Nat := Nat.pow 10 x.places

/-- The whole part. -/
def whole (x : Figure) : Nat := x.coefficient / x.one

/-- Whether there is a part below one. -/
def hasPart (x : Figure) : Bool := x.coefficient % x.one != 0

/-- Sixty times the part below one, without its own part below one. -/
def sixtieths (x : Figure) : Nat := 60 * (x.coefficient % x.one) / x.one

/-- Whether the number is greater than `n`. -/
def above (x : Figure) (n : Nat) : Bool := n * x.one < x.coefficient

/-- Whether the number is at least 1 and at most `n`. -/
def within (x : Figure) (n : Nat) : Bool := x.one ≤ x.coefficient && !x.above n

end Figure

/-- The number that decimal digits write. -/
def natural? (cs : List Char) : Option Nat :=
  if cs.isEmpty then none else (cs.mapM digitValue?).map Numeral.ofDigits

/-- The decimal number that a piece is. -/
def figure? (piece : String) : Option Figure :=
  let cs := piece.toList
  let whole := cs.takeWhile (· != '.')
  let places := (cs.dropWhile (· != '.')).drop 1
  if whole.isEmpty && places.isEmpty then none
  else
    match (whole ++ places).mapM digitValue? with
    | some ds => some ⟨Numeral.ofDigits ds, places.length⟩
    | none => none

/-- A part of a text, as a natural number. -/
def part? (piece : String) (start stop : Nat) : Option Nat :=
  natural? ((piece.toList.take stop).drop start)

/-- Seconds and microseconds of a text such as `45.5`. -/
def seconds? (piece : String) : Option (Nat × Nat) :=
  let cs := piece.toList
  if cs.contains '.' then
    let fraction := (cs.dropWhile (· != '.')).drop 1
    match natural? (cs.takeWhile (· != '.')),
      natural? ((fraction ++ List.replicate (6 - fraction.length) '0').take 6) with
    | some s, some us => some (s, us)
    | _, _ => none
  else (natural? cs).map fun s => (s, 0)

/-- The parts of a date. -/
inductive DatePart
  | year
  | month
  | day
  deriving DecidableEq, Repr

/-- The numbers that make up the date, in the order they stand, with the parts already known. -/
structure Trio where
  numbers : List Nat := []
  /-- Whether one of them was written as a full year. -/
  fullYear : Bool := false
  yearAt : Option Nat := none
  monthAt : Option Nat := none
  dayAt : Option Nat := none

namespace Trio

/-- The place of a part. -/
def at? (t : Trio) : DatePart → Option Nat
  | .year => t.yearAt
  | .month => t.monthAt
  | .day => t.dayAt

/-- One more number; `long` says that it must be a year.  A part can be known only once. -/
def add? (t : Trio) (n : Nat) (long : Bool) (label : Option DatePart) : Option Trio :=
  let label? : Option (Option DatePart) :=
    if long then (if label = none ∨ label = some .year then some (some .year) else none)
    else some label
  match label? with
  | none => none
  | some label =>
    let i := t.numbers.length
    let u := { t with numbers := t.numbers ++ [n], fullYear := t.fullYear || long }
    match label with
    | none => some u
    | some p =>
      if (t.at? p).isSome then none
      else
        match p with
        | .year => some { u with yearAt := some i }
        | .month => some { u with monthAt := some i }
        | .day => some { u with dayAt := some i }

/-- One more number, given by its digits; more than two of them make a year. -/
def addText? (t : Trio) (piece : String) (label : Option DatePart) : Option Trio :=
  (natural? piece.toList).bind fun n => t.add? n (piece.length > 2) label

/-- One more number, given by its value; above a hundred it is a year. -/
def addFigure? (t : Trio) (x : Figure) : Option Trio := t.add? x.whole (x.above 100) none

/-- Whether a number may be the day. -/
def mayBeDay (t : Trio) (x : Figure) : Bool :=
  if t.dayAt.isSome then false
  else
    match t.monthAt.bind (t.numbers[·]?), t.yearAt.bind (t.numbers[·]?) with
    | none, _ => x.within 31
    | some m, none => x.within (Moment.monthLength 2000 m)
    | some m, some y => x.within (Moment.monthLength y m)

/-- A date with parts left open. -/
abbrev Open := Option Nat × Option Nat × Option Nat

/-- The date when every number's part is known, or all but one of three. -/
def byPlaces (t : Trio) : Open :=
  let known := [t.yearAt, t.monthAt, t.dayAt].filterMap id
  let missing := (List.range 3).find? fun i => !known.contains i
  let place := fun (p : Option Nat) =>
    if t.numbers.length = 3 ∧ known.length = 2 ∧ p = none then missing else p
  let get := fun (p : Option Nat) => (place p).bind (t.numbers[·]?)
  (get t.yearAt, get t.monthAt, get t.dayAt)

/-- Year, month and day, told apart. -/
def resolve (t : Trio) : Option Open :=
  let known := ([t.yearAt, t.monthAt, t.dayAt].filterMap id).length
  let count := t.numbers.length
  if (count = known ∧ 0 < count) ∨ (count = 3 ∧ known = 2) then some t.byPlaces
  else
    match t.numbers, t.monthAt with
    | [], _ => some (none, none, none)
    | [_, _, _, _], _ => none
    | [n], none => some (if n > 31 then (some n, none, none) else (none, none, some n))
    | [n], some _ => some (none, some n, none)
    | [a, b], some i =>
      let (m, other) := if i = 0 then (a, b) else (b, a)
      some (if other > 31 then (some other, some m, none) else (none, some m, some other))
    | [a, b], none =>
      some (if a > 31 then (some a, some b, none)
        else if b > 31 then (some b, some a, none)
        else (none, some a, some b))
    | [a, b, c], some 0 =>
      some (if b > 31 then (some b, some a, some c) else (some c, some a, some b))
    | [a, b, c], some 1 =>
      some (if a > 31 then (some a, some b, some c) else (some c, some b, some a))
    | [a, b, c], some _ =>
      some (if b > 31 then (some b, some c, some a) else (some a, some c, some b))
    | [a, b, c], none =>
      some (if a > 31 ∨ t.yearAt = some 0 then (some a, some b, some c)
        else if a > 12 then (some c, some b, some a)
        else (some c, some a, some b))
    | _, _ => none

end Trio

/-- What has been read of a date and time. -/
structure Draft where
  trio : Trio := {}
  weekday : Option Nat := none
  hour : Option Nat := none
  minute : Option Nat := none
  second : Option Nat := none
  microsecond : Option Nat := none
  /-- The half of the day. -/
  half : Option Nat := none
  zone : Option String := none
  offset : Option Int := none

namespace Draft

/-- Whether a piece may name a time zone. -/
def mayBeZone (d : Draft) (piece : String) : Bool :=
  d.hour.isSome && d.zone.isNone && d.offset.isNone && piece.length ≤ 5 &&
    (piece.toList.all (fun c => 'A' ≤ c && c ≤ 'Z') || universalNames.contains piece)

/-- An hour of a twelve-hour clock in the given half of the day. -/
def inHalf (hour half : Nat) : Nat :=
  if hour < 12 ∧ half = 1 then hour + 12 else if hour = 12 ∧ half = 0 then 0 else hour

/-- A value that is marked as hours, minutes or seconds. -/
def putMarked (d : Draft) (piece : String) (x : Figure) (mark : Nat) : Option Draft :=
  match mark with
  | 0 =>
    let d := { d with hour := some x.whole }
    some (if x.hasPart then { d with minute := some x.sixtieths } else d)
  | 1 =>
    some { d with minute := some x.whole, second := if x.hasPart then some x.sixtieths else none }
  | 2 =>
    (seconds? piece).map fun r => { d with second := some r.1, microsecond := some r.2 }
  | _ => some d

end Draft

/-- Where a mark of hours, minutes or seconds that belongs to the piece `i` stands: after it,
after a blank, or before it. -/
def markFor? (ps : Array String) (i : Nat) : Option Nat :=
  let marked := fun (j : Nat) => ((ps[j]?).bind clockMark?).isSome
  if marked (i + 1) then some (i + 1)
  else if ps[i + 1]? = some " " ∧ marked (i + 2) then some (i + 2)
  else if 0 < i ∧ marked (i - 1) then some (i - 1)
  else if 1 < i ∧ i + 1 = ps.size ∧ ps[i - 1]? = some " " ∧ marked (i - 2) then some (i - 2)
  else none

/-- Reads the numbers of a date such as `01-02-2024` or `2-Jan-2024`, from its first one. -/
def readSeparated (ps : Array String) (i : Nat) (d : Draft) (piece separator : String) :
    Option (Nat × Draft) := do
  let t ← d.trio.addText? piece none
  match ps[i + 2]? with
  | none => return (i + 1, { d with trio := t })
  | some second =>
    if isFiller second then return (i + 1, { d with trio := t })
    let t ←
      if !second.isEmpty && second.toList.all isDigit then t.addText? second none
      else (month? second).bind fun m => t.add? m false (some .month)
    if ps[i + 3]? = some separator then
      let third ← ps[i + 4]?
      let t ←
        match month? third with
        | some m => t.add? m false (some .month)
        | none => t.addText? third none
      return (i + 4, { d with trio := t })
    return (i + 2, { d with trio := t })

/-- Reads a clock time such as `10:30:45.5`, from its hour. -/
def readClock (ps : Array String) (i : Nat) (d : Draft) (x : Figure) : Option (Nat × Draft) := do
  let y ← (ps[i + 2]?).bind figure?
  let d := { d with
    hour := some x.whole, minute := some y.whole,
    second := if y.hasPart then some y.sixtieths else none }
  match ps[i + 4]? with
  | some third =>
    if ps[i + 3]? = some ":" then
      let (s, us) ← seconds? third
      return (i + 4, { d with second := some s, microsecond := some us })
    return (i + 2, d)
  | none => return (i + 2, d)

/-- Reads the number at `i`; the answer is the last piece it used, and the draft. -/
def readNumber (ps : Array String) (i : Nat) (d : Draft) : Option (Nat × Draft) := do
  let piece ← ps[i]?
  let x ← figure? piece
  let size := piece.length
  let following := ps[i + 1]?
  let isTime := following ≠ some ":" ∧ (following.bind clockMark?).isNone
  if d.trio.numbers.length = 3 ∧ (size = 2 ∨ size = 4) ∧ d.hour = none ∧ isTime then
    let h ← part? piece 0 2
    if size = 4 then
      let m ← part? piece 2 4
      return (i, { d with hour := some h, minute := some m })
    return (i, { d with hour := some h })
  else if size = 6 ∨ (size > 6 ∧ (piece.toList.takeWhile (· != '.')).length = 6) then
    if d.trio.numbers.isEmpty ∧ !piece.toList.contains '.' then
      let t ← d.trio.addText? (slice piece 0 2) none
      let t ← t.addText? (slice piece 2 4) none
      let t ← t.addText? (slice piece 4 6) none
      return (i, { d with trio := t })
    let h ← part? piece 0 2
    let m ← part? piece 2 4
    let (s, us) ← seconds? (slice piece 4 size)
    return (i, { d with
      hour := some h, minute := some m, second := some s, microsecond := some us })
  else if size = 8 ∨ size = 12 ∨ size = 14 then
    let t ← d.trio.addText? (slice piece 0 4) (some .year)
    let t ← t.addText? (slice piece 4 6) none
    let t ← t.addText? (slice piece 6 8) none
    let d := { d with trio := t }
    if size = 8 then return (i, d)
    let h ← part? piece 8 10
    let m ← part? piece 10 12
    let d := { d with hour := some h, minute := some m }
    if size = 12 then return (i, d)
    let s ← part? piece 12 14
    return (i, { d with second := some s })
  else
    match markFor? ps i with
    | some j =>
      let mark ← (ps[j]?).bind clockMark?
      let d ← d.putMarked piece x (if j > i then mark else mark + 1)
      return (if j > i then j else i, d)
    | none =>
      if following = some ":" ∧ (ps[i + 2]?).isSome then readClock ps i d x
      else
        match following with
        | none => return (i + 1, { d with trio := ← d.trio.addFigure? x })
        | some next =>
          if next = "-" ∨ next = "/" ∨ next = "." then readSeparated ps i d piece next
          else if isFiller next then
            match (ps[i + 2]?).bind half? with
            | some half => return (i + 2, { d with hour := some (Draft.inHalf x.whole half) })
            | none => return (i + 1, { d with trio := ← d.trio.addFigure? x })
          else
            match half? next with
            | some half =>
              if x.whole < 24 then
                return (i + 1, { d with hour := some (Draft.inHalf x.whole half) })
              else if d.trio.mayBeDay x then return (i, { d with trio := ← d.trio.addFigure? x })
              else none
            | none =>
              if d.trio.mayBeDay x then return (i, { d with trio := ← d.trio.addFigure? x })
              else none

/-- The year, near the present one, that two digits mean. -/
def nearYear (present n : Nat) : Nat :=
  let y := n + present / 100 * 100
  if y ≥ present + 50 then y - 100 else if y + 50 < present then y + 100 else y

/-- Reads the named month at `i`, with the numbers that hang on it. -/
def readMonth (ps : Array String) (i : Nat) (d : Draft) (month present : Nat) :
    Option (Nat × Draft) := do
  let t ← d.trio.add? month false (some .month)
  match ps[i + 1]? with
  | none => return (i, { d with trio := t })
  | some next =>
    if next = "-" ∨ next = "/" then
      let second ← ps[i + 2]?
      let t ← t.addText? second none
      if ps[i + 3]? = some next then
        let third ← ps[i + 4]?
        let t ← t.addText? third none
        return (i + 4, { d with trio := t })
      return (i + 2, { d with trio := t })
    else if next = " " ∧ ps[i + 3]? = some " " ∧ (ps[i + 2]?).map lowercase = some "of" then
      match ps[i + 4]? with
      | none => return (i, { d with trio := t })
      | some year =>
        if !year.isEmpty && year.toList.all isDigit then
          let n ← natural? year.toList
          let y := if n < 100 then nearYear present n else n
          let t ← t.addText? (toString y) (some .year)
          return (i + 4, { d with trio := t })
        return (i + 4, { d with trio := t })
    else return (i, { d with trio := t })

/-- Reads an offset from universal time such as `+02:00`, from its sign. -/
def readOffset (ps : Array String) (i : Nat) (d : Draft) (negative : Bool) :
    Option (Nat × Draft) := do
  let first ← ps[i + 1]?
  let size := first.length
  let (h, m, last) ←
    if size = 4 then do
      let h ← part? first 0 2
      let m ← part? first 2 4
      pure (h, m, i)
    else if ps[i + 2]? = some ":" then do
      let h ← natural? first.toList
      let m ← (ps[i + 3]?).bind fun p => natural? p.toList
      pure (h, m, i + 2)
    else if size ≤ 2 then do
      let h ← natural? first.toList
      pure (h, 0, i)
    else none
  let magnitude : Int := h * 3600 + m * 60
  let d := { d with offset := some (if negative then -magnitude else magnitude) }
  match ps[last + 4]?, ps[last + 5]? with
  | some name, some closing =>
    if ((ps[last + 2]?).map isFiller).getD false ∧ ps[last + 3]? = some "(" ∧ closing = ")" ∧
        3 ≤ name.length ∧ { d with offset := none }.mayBeZone name then
      return (last + 5, { d with zone := some name })
    return (last + 1, d)
  | _, _ => return (last + 1, d)

/-- Reads the pieces from `i` on. -/
def readPieces (present : Nat) : Nat → Array String → Nat → Draft → Option Draft
  | 0, _, _, d => some d
  | fuel + 1, ps, i, d =>
    match ps[i]? with
    | none => some d
    | some piece =>
      if ["nan", "inf", "infinity"].contains (lowercase piece) then none
      else if (figure? piece).isSome then
        (readNumber ps i d).bind fun r => readPieces present fuel ps (r.1 + 1) r.2
      else
        match weekday? piece, month? piece, half? piece with
        | some w, _, _ => readPieces present fuel ps (i + 1) { d with weekday := some w }
        | none, some m, _ =>
          (readMonth ps i d m present).bind fun r => readPieces present fuel ps (r.1 + 1) r.2
        | none, none, some half =>
          match d.hour with
          | some h =>
            if h ≤ 12 then
              readPieces present fuel ps (i + 1)
                { d with hour := some (Draft.inHalf h half), half := some half }
            else none
          | none => none
        | none, none, none =>
          if d.mayBeZone piece then
            let next := ps[i + 1]?
            let known : Option Int := if ["utc", "gmt", "z"].contains piece then some 0 else none
            if next = some "+" ∨ next = some "-" then
              let turned := ps.set! (i + 1) (if next = some "+" then "-" else "+")
              let d := { d with
                offset := none, zone := if isUniversal piece then none else some piece }
              readPieces present fuel turned (i + 1) d
            else
              readPieces present fuel ps (i + 1) { d with zone := some piece, offset := known }
          else if d.hour.isSome ∧ (piece = "+" ∨ piece = "-") then
            (readOffset ps i d (piece == "-")).bind fun r =>
              readPieces present fuel ps (r.1 + 1) r.2
          else if isFiller piece then readPieces present fuel ps (i + 1) d
          else none

/-- Whether nothing at all has been read. -/
def Draft.isBlank (d : Draft) (date : Trio.Open) : Bool :=
  date.1.isNone && date.2.1.isNone && date.2.2.isNone && d.weekday.isNone && d.hour.isNone &&
    d.minute.isNone && d.second.isNone && d.microsecond.isNone && d.zone.isNone &&
    d.offset.isNone && d.half.isNone

/-- Whether an offset is one of less than a billion days. -/
def isOffset (seconds : Int) : Bool := -999999999 * 86400 ≤ seconds && seconds < 1000000000 * 86400

/-- The zone that a draft means: the one of the clock when only an offset of zero is given. -/
def Draft.meantZone (d : Draft) : Option Zone :=
  match d.zone, d.offset with
  | none, none => none
  | none, some 0 => some .clock
  | none, some n => some (.shifted none n)
  | some z, offset =>
    if ["UTC", "Z", "z"].contains z then some .clock
    else if isUniversal z || offset == some 0 then some .universal
    else offset.map (.shifted (some z))

/-- The day after a day of the years 1 to 9999. -/
def nextDay? (m : Moment) : Option Moment :=
  if m.day < Moment.monthLength m.year m.month then some { m with day := m.day + 1 }
  else if m.month < 12 then some { m with month := m.month + 1, day := 1 }
  else if m.year < 9999 then some { m with year := m.year + 1, month := 1, day := 1 }
  else none

/-- The day some days later. -/
def laterDay? : Nat → Moment → Option Moment
  | 0, m => some m
  | n + 1, m => (nextDay? m).bind (laterDay? n)

/-- Whether every part of a moment is in its range. -/
def inRange (m : Moment) : Bool :=
  1 ≤ m.year && m.year ≤ 9999 && 1 ≤ m.month && m.month ≤ 12 && 1 ≤ m.day &&
    m.day ≤ Moment.monthLength m.year m.month && m.hour < 24 && m.minute < 60 && m.second < 60

/-- The moment that a draft means, seen from the present one. -/
def Draft.moment? (d : Draft) (now : Moment) : Option Moment := do
  let (year?, month?, day?) ← d.trio.resolve
  if d.isBlank (year?, month?, day?) then none
  let year? := year?.map fun y => if y < 100 ∧ !d.trio.fullYear then nearYear now.year y else y
  let year := year?.getD now.year
  let month := month?.getD now.month
  if month = 0 ∨ month > 12 then none
  let day := day?.getD (min now.day (Moment.monthLength year month))
  let m : Moment := {
    year := year, month := month, day := day, hour := d.hour.getD 0, minute := d.minute.getD 0,
    second := d.second.getD 0, microsecond := d.microsecond.getD 0, zone := d.meantZone }
  if !inRange m || !(d.meantZone.map Zone.offset).all isOffset then none
  match d.weekday with
  | some w =>
    if day?.isNone then laterDay? ((7 + w - Moment.weekday m.year m.month m.day) % 7) m else some m
  | none => some m

/-- The moment that a text means, seen from the present one; null characters count as nothing. -/
def read? (now : Moment) (text : String) : Option Moment :=
  let ps := (pieces (text.toList.filter (·.toNat ≠ 0))).toArray
  (readPieces now.year (ps.size + 1) ps 0 {}).bind fun d => d.moment? now

end Calendar
end CommandGrammar
