/-
# Values and plain data

A bound value as plain data, and plain data as a value to bind.  A member of an enumeration counts
as the number it stands for; lengths of time, moments, entities and several values in one are data
of kinds of their own.
-/

import CommandGrammar.Datum
import CommandGrammar.Value

namespace CommandGrammar
namespace Value

/-- A bound value as plain data. -/
def datum : Value → Datum
  | nothing => .nothing
  | truth b => .truth b
  | integer n => .integer n
  | real x => .real x
  | text s => .text s
  | member m =>
    match m.shown.toInt? with
    | some n => .integer n
    | none => .other m.family (member m).describe
  | entity e => .other e.kind (entity e).describe
  | duration us => .other "timedelta" (duration us).describe
  | moment m => .other "datetime" (moment m).describe
  | list vs => .list (data vs)
  | several vs => .other "MultiValue" (several vs).describe
where
  /-- Bound values as plain data, in order. -/
  data : List Value → List Datum
    | [] => []
    | v :: vs => v.datum :: data vs

/-- Plain data as a value; a mapping and data of other kinds are no values. -/
def ofDatum : Datum → Value
  | .truth b => truth b
  | .integer n => integer n
  | .real x => real x
  | .text s => text s
  | .list ds => list (values ds)
  | _ => nothing
where
  /-- Plain data as values, in order. -/
  values : List Datum → List Value
    | [] => []
    | d :: ds => ofDatum d :: values ds

/-- **An integer stays what it is.** -/
theorem ofDatum_datum_integer (n : Int) : ofDatum (datum (integer n)) = integer n := by
  simp [datum, ofDatum]

end Value
end CommandGrammar
