/-
# The usual coercion

Data are taken generously: a text of digits is an integer, `yes` is true.

| wanted | accepted |
| --- | --- |
| integer | integers, truth values, numbers without a fraction, texts that write an integer |
| truth | truth values, 0 and 1, the words for yes and no in any case |
| text | texts |
-/

import CommandGrammar.Field
import CommandGrammar.Number.Numeral

namespace CommandGrammar

open Text

namespace FieldFault

/-- The name of a fault. -/
def name : FieldFault → String
  | notAnInteger => "int_type"
  | notANumeral => "int_parsing"
  | numberTooLong => "int_parsing_size"
  | fractional => "int_from_float"
  | notFinite => "finite_number"
  | negative => "greater_than_equal"
  | notATruth => "bool_type"
  | notAWordOfTruth => "bool_parsing"
  | notAText => "string_type"
  | notAMember _ => "enum"
  | broken _ => "value_error"
  | unexpected => "extra_forbidden"
  | frozen => "frozen_instance"

/-- Words between single quotes, the last one after an "or". -/
def alternatives : List String → String
  | [] => ""
  | [n] => "'" ++ n ++ "'"
  | [m, n] => "'" ++ m ++ "' or '" ++ n ++ "'"
  | n :: rest => "'" ++ n ++ "', " ++ alternatives rest

/-- The wording of a fault. -/
def message : FieldFault → String
  | notAnInteger => "Input should be a valid integer"
  | notANumeral => "Input should be a valid integer, unable to parse string as an integer"
  | numberTooLong => "Unable to parse input string as an integer, exceeded maximum size"
  | fractional => "Input should be a valid integer, got a number with a fractional part"
  | notFinite => "Input should be a finite number"
  | negative => "Input should be greater than or equal to 0"
  | notATruth => "Input should be a valid boolean"
  | notAWordOfTruth => "Input should be a valid boolean, unable to interpret input"
  | notAText => "Input should be a valid string"
  | notAMember names => "Input should be " ++ alternatives names
  | broken why => "Value error, " ++ why
  | unexpected => "Extra inputs are not permitted"
  | frozen => "Instance is frozen"

end FieldFault

namespace FieldProblem

/-- A description, with its middle left out if it is longer than fifty bytes. -/
def shortened (s : String) : String :=
  if s.utf8ByteSize ≤ 50 then s
  else
    let fits := fun (limit : Nat) (cs : List Char) => (String.ofList cs).utf8ByteSize ≤ limit
    let rec longest (limit : Nat) (read : List Char) : List Char → List Char
      | [] => read
      | c :: rest => if fits limit (read ++ [c]) then longest limit (read ++ [c]) rest else read
    let head := longest 25 [] s.toList
    let tail := (longest 24 [] s.toList.reverse).reverse
    String.ofList head ++ "..." ++ String.ofList tail

/-- A problem in two lines. -/
def describe (p : FieldProblem) : String :=
  let value := shortened p.given.describe
  p.field ++ "\n  " ++ p.fault.message ++ " [type=" ++ p.fault.name ++ ", input_value=" ++ value ++
    ", input_type=" ++ p.given.kindName ++ "]"

/-- The problems of a record, under a heading that counts them. -/
def report (record : String) (ps : List FieldProblem) : String :=
  let count := ps.length
  let noun := if count = 1 then "error" else "errors"
  joined "\n" (s!"{count} validation {noun} for {record}" :: ps.map describe)

end FieldProblem

namespace Datum

/-- Digits, in groups that single underscores join. -/
def groupedDigits? (cs : List Char) : Option Nat :=
  let groups := cutAt (· == '_') cs
  if groups.all fun g => !g.isEmpty && g.all Char.isDigit then
    some (Numeral.ofDigits ((groups.flatten).map fun c => c.toNat - '0'.toNat))
  else none

/-- A text without a point and zeros at its end. -/
def withoutZeroFraction (cs : List Char) : List Char :=
  let fraction := (cs.dropWhile (· != '.')).drop 1
  if !fraction.isEmpty && fraction.all (· == '0') then cs.takeWhile (· != '.') else cs

/-- Digits without the zeros at their start, and the underscores among these; one zero is kept where
no other digit follows. -/
def withoutLeadingZeros (cs : List Char) : List Char :=
  if cs.head? = some '0' then
    let lead := cs.takeWhile fun c => c == '0' || c == '_'
    let rest := cs.drop lead.length
    if rest.head?.all (· == '.') then lead.getLast?.toList ++ rest else rest
  else cs

/-- The integer that a text writes: a sign, digits in groups, a fraction of zeros, blanks around. -/
def writtenInteger (s : String) : Except FieldFault Int :=
  let (negative, written) := Numeral.sign (Numeral.unpad s.toList)
  let digits := withoutZeroFraction (withoutLeadingZeros written)
  let size := (digits.filter (· != '_')).length + if negative then 1 else 0
  if (digits.head?.any Char.isDigit) && size > Numeral.maxDigits then .error .numberTooLong
  else
    match groupedDigits? digits with
    | some n => .ok (if negative then -(n : Int) else n)
    | none => .error .notANumeral

/-- The bound on integers that numbers with an exponent, and truth values, are compared with. -/
def wordBound : Nat := Nat.pow 2 63

/-- The integer that a number is. -/
def wholeNumber : Binary64 → Except FieldFault Int
  | .finite negative m e =>
    let (n, d) := Binary64.scaled m 1 (-e)
    if n % d ≠ 0 then .error .fractional
    else if n / d ≥ wordBound then .error .numberTooLong
    else .ok (if negative then -((n / d : Nat) : Int) else (n / d : Nat))
  | _ => .error .notFinite

/-- The integer that a datum stands for. -/
def integer? : Datum → Except FieldFault Int
  | integer n => .ok n
  | truth b => .ok (if b then 1 else 0)
  | real x => wholeNumber x
  | text s => writtenInteger s
  | _ => .error .notAnInteger

/-- The truth value that an integer stands for. -/
def truthOfInteger (n : Int) : Except FieldFault Bool :=
  if n = 0 then .ok false
  else if n = 1 then .ok true
  else if -wordBound ≤ n ∧ n < wordBound then .error .notAWordOfTruth
  else .error .notATruth

/-- The truth value that a datum stands for. -/
def truth? : Datum → Except FieldFault Bool
  | truth b => .ok b
  | integer n => truthOfInteger n
  | real x =>
    match wholeNumber x with
    | .ok n => truthOfInteger n
    | .error _ => .error .notATruth
  | text s =>
    let word := lowercase s
    if ["1", "on", "t", "true", "y", "yes"].contains word then .ok true
    else if ["0", "off", "f", "false", "n", "no"].contains word then .ok false
    else .error .notAWordOfTruth
  | _ => .error .notATruth

/-- The text that a datum is. -/
def text? : Datum → Except FieldFault String
  | text s => .ok s
  | _ => .error .notAText

end Datum

/-- The usual coercion. -/
def Coercion.usual : Coercion where
  integer? := Datum.integer?
  truth? := Datum.truth?
  text? := Datum.text?
  report := FieldProblem.report
  integer?_integer _ := rfl
  truth?_truth _ := rfl
  text?_text _ := rfl

end CommandGrammar
