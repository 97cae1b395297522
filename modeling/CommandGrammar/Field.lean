/-
# Checked fields

A record that comes from outside is given as fields of plain data.  Each field is checked on its
own, and every field that fails is reported.  How generously data are taken for what a field wants
is up to a coercion; whatever it is, a datum that already is what is wanted is taken as it is.

| wanted | taken by every coercion |
| --- | --- |
| integer | integers |
| truth | truth values |
| text | texts |
| keyword | texts that name the member |
-/

import CommandGrammar.Datum
import CommandGrammar.Keywords

namespace CommandGrammar

/-- Why a field is refused. -/
inductive FieldFault
  | notAnInteger
  | notANumeral
  /-- The number is too long to be read. -/
  | numberTooLong
  | fractional
  | notFinite
  | negative
  | notATruth
  | notAWordOfTruth
  | notAText
  /-- The field takes one of these words. -/
  | notAMember (names : List String)
  /-- A rule of the record is broken. -/
  | broken (why : String)
  /-- The record has no such field. -/
  | unexpected
  /-- The record cannot be changed. -/
  | frozen
  deriving DecidableEq, Repr

/-- A field that is refused. -/
structure FieldProblem where
  /-- The name of the field. -/
  field : String
  fault : FieldFault
  /-- What was given for it. -/
  given : Datum
  deriving Repr

/-- How data are taken for what fields want, and how refusals are reported. -/
structure Coercion where
  /-- The integer that a datum stands for. -/
  integer? : Datum → Except FieldFault Int
  /-- The truth value that a datum stands for. -/
  truth? : Datum → Except FieldFault Bool
  /-- The text that a datum stands for. -/
  text? : Datum → Except FieldFault String
  /-- The problems with the fields of a record, which is called by a name. -/
  report : String → List FieldProblem → String
  integer?_integer : ∀ n, integer? (.integer n) = .ok n
  truth?_truth : ∀ b, truth? (.truth b) = .ok b
  text?_text : ∀ s, text? (.text s) = .ok s

namespace Coercion

/-- The text that a datum stands for, or none for nothing. -/
def optionalText? (k : Coercion) : Datum → Except FieldFault (Option String)
  | .nothing => .ok none
  | d => (k.text? d).map some

/-- The member of a small set that the text of a datum names. -/
def keyword? {α : Type} (k : Coercion) (words : Keywords α) (d : Datum) : Except FieldFault α :=
  match (k.text? d).toOption.bind words.read? with
  | some m => .ok m
  | none => .error (.notAMember words.names)

/-- **A text that names a member is taken for it.** -/
theorem keyword?_text {α : Type} (k : Coercion) {words : Keywords α} {s : String} {m : α}
    (h : words.read? s = some m) : k.keyword? words (.text s) = .ok m := by
  have hread : (k.text? (.text s)).toOption.bind words.read? = some m := by
    rw [k.text?_text]
    exact h
  unfold keyword?
  rw [hread]

end Coercion
end CommandGrammar
