/-
# The words of a written date

Names of days and months, marks of hours, minutes and seconds, halves of the day, names of universal
time, and the words that may be passed over.  Case does not matter.
-/

import CommandGrammar.Text.Case

namespace CommandGrammar
namespace Calendar

open Text

/-- The position in a table of spellings of the row that holds a word. -/
def rowOf? (table : List (List String)) (word : String) : Option Nat :=
  table.findIdx? fun row => row.contains (lowercase word)

/-- The days of the week, Monday first. -/
def weekdayNames : List (List String) :=
  [["mon", "monday"], ["tue", "tuesday"], ["wed", "wednesday"], ["thu", "thursday"],
    ["fri", "friday"], ["sat", "saturday"], ["sun", "sunday"]]

/-- The months, January first. -/
def monthNames : List (List String) :=
  [["jan", "january"], ["feb", "february"], ["mar", "march"], ["apr", "april"], ["may"],
    ["jun", "june"], ["jul", "july"], ["aug", "august"], ["sep", "sept", "september"],
    ["oct", "october"], ["nov", "november"], ["dec", "december"]]

/-- The marks of hours, minutes and seconds. -/
def clockMarks : List (List String) :=
  [["h", "hour", "hours"], ["m", "minute", "minutes"], ["s", "second", "seconds"]]

/-- The halves of the day. -/
def halves : List (List String) := [["am", "a"], ["pm", "p"]]

/-- The spellings of universal time. -/
def universalNames : List String := ["UTC", "GMT", "Z", "z"]

/-- Words and marks that say nothing. -/
def fillers : List String :=
  [" ", ".", ",", ";", "-", "/", "'", "at", "on", "and", "ad", "m", "t", "of", "st", "nd", "rd",
    "th"]

/-- The day of the week that a word names; Monday is 0. -/
def weekday? (word : String) : Option Nat := rowOf? weekdayNames word

/-- The month that a word names; January is 1. -/
def month? (word : String) : Option Nat := (rowOf? monthNames word).map (· + 1)

/-- Whether a word marks hours (0), minutes (1) or seconds (2). -/
def clockMark? (word : String) : Option Nat := rowOf? clockMarks word

/-- The half of the day that a word names; the first is 0. -/
def half? (word : String) : Option Nat := rowOf? halves word

/-- Whether a word names universal time. -/
def isUniversal (word : String) : Bool := ["utc", "gmt", "z"].contains (lowercase word)

/-- Whether a piece may be passed over. -/
def isFiller (piece : String) : Bool := fillers.contains (lowercase piece)

/-- **A named month is one of twelve.** -/
theorem month?_bounds {word : String} {m : Nat} (h : month? word = some m) : 1 ≤ m ∧ m ≤ 12 := by
  unfold month? rowOf? at h
  obtain ⟨i, hi, rfl⟩ := Option.map_eq_some_iff.1 h
  have := (List.findIdx?_eq_some_iff_findIdx_eq.1 hi).1
  simp only [monthNames, List.length_cons, List.length_nil] at this
  omega

end Calendar
end CommandGrammar
