/-
# Plain scalars

What a scalar without quotes stands for: the first row that fits, else a text.

| scalar | datum |
| --- | --- |
| `yes`, `no`, `true`, `false`, `on`, `off`, each in three cases | truth value |
| digits with a point, an exponent with a sign; `.inf`, `.nan` | real |
| digits, `0b…`, `0…`, `0x…`, sixtieths `1:30` | integer |
| `~`, `null`, nothing at all | nothing |
| `2024-05-31`, and with a time of day | a date or a moment |

Digits may have underscores between and after them.
-/

import CommandGrammar.Datum
import CommandGrammar.Document.Fault
import CommandGrammar.Document.Stamp
import CommandGrammar.Document.Yaml.Folding

namespace CommandGrammar
namespace Document
namespace Yaml
namespace Scalar

open Text

/-! ## Truth values and nothing -/

/-- The words for truth values, in lowercase. -/
def truthWords : List (String × Bool) :=
  [("yes", true), ("no", false), ("true", true), ("false", false), ("on", true), ("off", false)]

/-- A word in the cases it may be written in. -/
def spellings (word : String) : List String :=
  let upper := word.toUpper
  [word, String.ofList (upper.toList.take 1 ++ word.toList.drop 1), upper]

/-- The truth value that a scalar stands for. -/
def truth? (s : String) : Option Bool :=
  (truthWords.find? fun w => (spellings w.1).contains s).map Prod.snd

/-- Whether a scalar stands for nothing. -/
def isNothing (s : String) : Bool := s = "" || s = "~" || (spellings "null").contains s

/-! ## Numbers -/

/-- The digits of a number without the underscores. -/
def bare (cs : List Char) : List Char := cs.filter (· != '_')

/-- Whether a character may stand among digits. -/
def isFiller (c : Char) : Bool := c.isDigit || c == '_'

/-- The number that digits of a base write, with underscores. -/
def based (base : Nat) (cs : List Char) : Option Nat :=
  if cs.isEmpty then none else basedNumber? base (bare cs)

/-- Whether a text is a number of sixtieths. -/
def isSixtieth : List Char → Bool
  | [c] => c.isDigit
  | [c, d] => '0' ≤ c && c ≤ '5' && d.isDigit
  | _ => false

/-- The number that parts write of which each counts sixty of the next. -/
def sixtieths (parts : List (List Char)) : Nat :=
  parts.foldl (fun n p => 60 * n + ((based 10 p).getD 0)) 0

/-- The integer without a sign that a text writes. -/
def natural? : List Char → Option Nat
  | '0' :: 'b' :: ds => based 2 ds
  | '0' :: 'x' :: ds => based 16 ds
  | ['0'] => some 0
  | '0' :: ds => based 8 ds
  | c :: rest =>
    if !c.isDigit then none
    else
      match cutAt (· == ':') (c :: rest) with
      | [ds] => based 10 ds
      | ds :: more =>
        if ds.all isFiller && more.all isSixtieth then some (sixtieths (ds :: more)) else none
      | [] => none
  | [] => none

/-- The integer that a text writes. -/
def integer? (cs : List Char) : Option Int :=
  let (negative, body) := Numeral.sign cs
  (natural? body).map fun n => if negative then -(n : Int) else n

/-- Whether a text is an exponent with a sign, or empty. -/
def isExponent : List Char → Bool
  | [] => true
  | e :: sign :: ds =>
    (e == 'e' || e == 'E') && (sign == '+' || sign == '-') && !ds.isEmpty && ds.all Char.isDigit
  | _ => false

/-- The decimal numeral of a text that is written as a real number. -/
def decimal? (cs : List Char) : Option (List Char) :=
  let signed := cs.head?.any fun c => c == '+' || c == '-'
  let (negative, body) := Numeral.sign cs
  let minus := if negative then ['-'] else []
  let whole := body.takeWhile (· != '.')
  let rest := (body.dropWhile (· != '.')).drop 1
  let places := rest.takeWhile isFiller
  let ending := rest.dropWhile isFiller
  if !body.contains '.' then none
  else if (spellings "inf").contains (String.ofList rest) && whole.isEmpty then
    some (minus ++ "inf".toList)
  else if ["nan", "NaN", "NAN"].contains (String.ofList rest) && whole.isEmpty && !signed then
    some "nan".toList
  else if !isExponent ending then none
  else
    match cutAt (· == ':') whole with
    | [ds] =>
      let written := minus ++ bare ds ++ '.' :: bare places ++ ending
      if ds.isEmpty then
        if !signed && places.head?.any Char.isDigit then some written else none
      else if ds.head?.any Char.isDigit && ds.all isFiller then some written else none
    | ds :: more =>
      if ds.head?.any Char.isDigit && ds.all isFiller && more.all isSixtieth && ending.isEmpty then
        some (minus ++ (toString (sixtieths (ds :: more))).toList ++ '.' :: bare places)
      else none
    | [] => none

/-- The real number that a text writes. -/
def real? (cs : List Char) : Option Binary64 := do
  let numeral ← decimal? cs
  Binary64.read? (String.ofList numeral)

/-! ## Dates -/

/-- The datum that is written as a date or a moment, unless there is none such. -/
def stamp? (cs : List Char) : Option (Except Fault Datum) :=
  let ending := fun (kind : String) (faults : Option String) =>
    match faults with
    | some why => .error (.impossible why)
    | none => .ok (.other kind (String.ofList cs))
  match Stamp.date? 2 cs with
  | some ((y, m, d), []) => some (ending "date" (Stamp.dateFault? y m d))
  | _ => do
    let ((y, m, d), rest) ← Stamp.date? 1 cs
    let (hour, minute, second) ← Stamp.time? 1 (← Stamp.timePart? rest)
    return ending "datetime" ((Stamp.dateFault? y m d).or (Stamp.timeFault? hour minute second))

/-! ## All together -/

/-- What a plain scalar stands for. -/
def read (s : String) : Except Fault Datum :=
  let cs := s.toList
  match truth? s, real? cs, integer? cs with
  | some b, _, _ => .ok (.truth b)
  | none, some x, _ => .ok (.real x)
  | none, none, some n => .ok (.integer n)
  | none, none, none =>
    if isNothing s then .ok .nothing
    else if s = "<<" ∨ s = "=" then .error .malformed
    else (stamp? cs).getD (.ok (.text s))

/-- **Where nothing is written, there is nothing.** -/
theorem isNothing_empty : isNothing "" = true := rfl

end Scalar
end Yaml
end Document
end CommandGrammar
