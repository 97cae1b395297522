/-
# Tallies

What an executor reports: how often it succeeded, how many blocks, entities and items it changed,
and the answer to a query.  Each count may be left out, and none is negative; the answer to a
query may be any integer.  A report is written in one line, unless a number in it has more digits
than numbers are written with.
-/

import CommandGrammar.Field
import CommandGrammar.Number.Numeral

namespace CommandGrammar

open Text

/-- The counts that a report may hold. -/
inductive Counter
  | successes
  | blocks
  | entities
  | items
  | answer
  deriving DecidableEq, Repr

namespace Counter

/-- Every counter, in the order of a report. -/
def all : List Counter := [.successes, .blocks, .entities, .items, .answer]

/-- **Every counter is in the list of all.** -/
theorem mem_all (c : Counter) : c ∈ all := by cases c <;> simp [all]

/-- The name of a counter. -/
def name : Counter → String
  | successes => "success_count"
  | blocks => "affected_blocks"
  | entities => "affected_entities"
  | items => "affected_items"
  | answer => "query_result"

/-- The name of a counter with blanks for underscores. -/
def title (c : Counter) : String :=
  String.ofList (c.name.toList.map fun x => if x = '_' then ' ' else x)

/-- Whether a counter may hold a number. -/
def admits (c : Counter) (n : Int) : Bool := c == .answer || 0 ≤ n

end Counter

/-- What an executor reports. -/
structure Tally where
  /-- What a counter holds, if anything. -/
  count : Counter → Option Int
  admitted : ∀ c n, count c = some n → c.admits n = true

namespace Tally

/-- The report that says nothing. -/
def empty : Tally := ⟨fun _ => none, by simp⟩

/-- The report of one counter. -/
def single (c : Counter) (n : Int) (h : c.admits n = true) : Tally where
  count d := if d = c then some n else none
  admitted d m hd := by
    split at hd
    · rename_i hc
      rw [hc, ← Option.some.inj hd]
      exact h
    · simp at hd

/-- The report of one success. -/
def success : Tally := single .successes 1 rfl

/-- The counters that hold something, in order. -/
def rows (t : Tally) : List (Counter × Int) :=
  Counter.all.filterMap fun c => (t.count c).map fun n => (c, n)

/-- **The rows are what the counters hold.** -/
theorem mem_rows {t : Tally} {c : Counter} {n : Int} : (c, n) ∈ t.rows ↔ t.count c = some n := by
  simp only [rows, List.mem_filterMap, Option.map_eq_some_iff, Prod.mk.injEq]
  constructor
  · rintro ⟨d, -, m, h, rfl, rfl⟩
    exact h
  · intro h
    exact ⟨c, Counter.mem_all c, n, h, rfl, rfl⟩

/-- Whether a report says nothing. -/
def isEmpty (t : Tally) : Bool := t.rows.isEmpty

/-- Whether a number has no more digits than numbers are written with. -/
def isWritable (n : Int) : Bool := n.natAbs < Nat.pow 10 Numeral.maxDigits

/-- A report in one line, if its numbers can be written. -/
def summary? (t : Tally) : Option String :=
  if t.isEmpty then some "no result"
  else if t.rows.all fun r => isWritable r.2 then
    some (joined ", " (t.rows.map fun r => r.1.title ++ ": " ++ toString r.2))
  else none

/-- **A report cannot be written exactly if a counter holds too long a number.** -/
theorem summary?_eq_none_iff {t : Tally} :
    t.summary? = none ↔ ∃ c n, t.count c = some n ∧ isWritable n = false := by
  have hrows : t.rows.all (fun r => isWritable r.2) = false ↔
      ∃ c n, t.count c = some n ∧ isWritable n = false := by
    rw [List.all_eq_false]
    constructor
    · rintro ⟨⟨c, n⟩, hr, hn⟩
      exact ⟨c, n, mem_rows.1 hr, Bool.not_eq_true _ ▸ hn⟩
    · rintro ⟨c, n, hc, hn⟩
      exact ⟨(c, n), mem_rows.2 hc, by rw [hn]; exact Bool.false_ne_true⟩
  rw [← hrows]
  unfold summary? isEmpty
  cases hempty : t.rows.isEmpty with
  | true =>
    rw [List.isEmpty_iff.1 hempty]
    exact iff_of_false (by simp) (by simp)
  | false =>
    rw [if_neg Bool.false_ne_true]
    cases t.rows.all fun r => isWritable r.2 with
    | true => exact iff_of_false (by simp) (by simp)
    | false => exact iff_of_true rfl rfl

variable (k : Coercion)

/-- What a counter holds, from the field given for it. -/
def counterOf (c : Counter) : Option Datum → Except FieldFault (Option Int)
  | none | some .nothing => .ok none
  | some d => do
    let n ← k.integer? d
    if c.admits n then return some n else .error .negative

/-- **What a field gives a counter is admitted.** -/
theorem admits_of_counterOf {c : Counter} {d? : Option Datum} {n : Int}
    (h : counterOf k c d? = .ok (some n)) : c.admits n = true := by
  match d?, h with
  | none, h => simp [counterOf] at h
  | some .nothing, h => simp [counterOf] at h
  | some (.truth b), h
  | some (.integer b), h
  | some (.real b), h
  | some (.text b), h
  | some (.other b c), h
  | some (.list b), h
  | some (.mapping b), h =>
    simp only [counterOf, bind, Except.bind] at h
    split at h
    · simp at h
    · split at h <;> simp_all [pure, Except.pure]

/-- What a counter holds, where the field given for it is admitted. -/
def admittedCount (fields : List (String × Datum)) (c : Counter) : Option Int :=
  match counterOf k c (fields.lookup c.name) with
  | .ok n? => n?
  | .error _ => none

/-- The problem with the field of a counter, if there is one. -/
def problem? (fields : List (String × Datum)) (c : Counter) : Option FieldProblem :=
  match counterOf k c (fields.lookup c.name) with
  | .ok _ => none
  | .error fault => some ⟨c.name, fault, (fields.lookup c.name).getD .nothing⟩

/-- The report that fields give; fields of no counter are passed over. -/
def ofFields (fields : List (String × Datum)) : Except (List FieldProblem) Tally :=
  match Counter.all.filterMap (problem? k fields) with
  | [] => .ok ⟨admittedCount k fields, fun c n h => by
      unfold admittedCount at h
      split at h
      · rename_i heq
        exact admits_of_counterOf k (heq.trans (congrArg Except.ok h))
      · simp at h⟩
  | problems => .error problems

/-- The name by which reports are called. -/
def recordName : String := "CommandResult"

end Tally
end CommandGrammar
