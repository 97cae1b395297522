/-
# The pieces of a written date

A date as it is typed is cut into words, numbers and single other characters.  A number may hold one
decimal mark; a comma counts as one after two digits or more.  A piece with a mark that is no
decimal number (`2024.01.02`, `a.m.`) is cut at its marks.

| text | pieces |
| --- | --- |
| `2024-01-02` | `2024` `-` `01` `-` `02` |
| `10:30:45.5` | `10` `:` `30` `:` `45.5` |
| `02.01.2024` | `02` `.` `01` `.` `2024` |
| `12,5s` | `12.5` `s` |
-/

import CommandGrammar.Text.Blank
import CommandGrammar.Text.Digit
import CommandGrammar.Text.Word

namespace CommandGrammar
namespace Calendar

open Text

/-- What a piece that is being read holds so far. -/
inductive PieceKind
  | word
  | number
  /-- A word with a point in it. -/
  | pointedWord
  /-- A number with a decimal mark in it. -/
  | pointedNumber
  deriving DecidableEq, Repr

/-- Whether a character is a letter. -/
def isLetter (c : Char) : Bool := isAlphanumeric c && !isDigit c

/-- The kind of the piece when one more character joins it; `none` if the character begins another
piece.  `piece` is what is read so far, reversed. -/
def PieceKind.join? (kind : PieceKind) (piece : List Char) (c : Char) : Option PieceKind :=
  let afterPoint := piece.head? == some '.'
  match kind with
  | .word => if isLetter c then some .word else if c = '.' then some .pointedWord else none
  | .number =>
    if isDigit c then some .number
    else if c = '.' ∨ (c = ',' ∧ piece.length ≥ 2) then some .pointedNumber else none
  | .pointedWord =>
    if c = '.' ∨ isLetter c then some .pointedWord
    else if isDigit c ∧ afterPoint then some .pointedNumber else none
  | .pointedNumber =>
    if c = '.' ∨ isDigit c then some .pointedNumber
    else if isLetter c ∧ afterPoint then some .pointedWord else none

/-- A piece as far as it goes: its characters, reversed, its last kind, whether a character joined a
word on the way, and what follows. -/
def extend (kind : PieceKind) (wordy : Bool) (piece : List Char) :
    List Char → List Char × PieceKind × Bool × List Char
  | [] => (piece, kind, wordy, [])
  | c :: rest =>
    let wordy := wordy || kind == .word || kind == .pointedWord
    match kind.join? piece c with
    | some k => extend k wordy (c :: piece) rest
    | none => (piece, kind, wordy, c :: rest)

/-- **What follows a piece is a part of what was there.** -/
theorem extend_rest_le (kind : PieceKind) (wordy : Bool) (piece cs : List Char) :
    (extend kind wordy piece cs).2.2.2.length ≤ cs.length := by
  induction cs generalizing kind wordy piece with
  | nil => simp [extend]
  | cons c rest ih =>
    unfold extend
    simp only
    split
    · exact Nat.le_trans (ih _ _ _) (by simp)
    · simp

/-- A text cut at points and commas, these being parts of their own; empty parts are left out. -/
def cutAtMarks (part : List Char) : List Char → List String
  | [] => if part.isEmpty then [] else [String.ofList part.reverse]
  | c :: rest =>
    if c = '.' ∨ c = ',' then
      (if part.isEmpty then [] else [String.ofList part.reverse]) ++
        String.ofList [c] :: cutAtMarks [] rest
    else cutAtMarks (c :: part) rest

/-- The pieces that a finished piece counts as. -/
def settle (piece : List Char) (kind : PieceKind) (wordy : Bool) : List String :=
  let text := piece.reverse
  let points := text.count '.'
  let pointed := kind == .pointedWord || kind == .pointedNumber
  let marked := piece.head? == some '.' || piece.head? == some ','
  if pointed ∧ (wordy ∨ points > 1 ∨ marked) then cutAtMarks [] text
  else if kind = .pointedNumber ∧ points = 0 then
    [String.ofList (text.map fun c => if c = ',' then '.' else c)]
  else [String.ofList text]

/-- The pieces of a text. -/
def pieces (cs : List Char) : List String :=
  match cs with
  | [] => []
  | c :: rest =>
    if isLetter c then
      settle (extend .word false [c] rest).1 (extend .word false [c] rest).2.1
          (extend .word false [c] rest).2.2.1 ++
        pieces (extend .word false [c] rest).2.2.2
    else if isDigit c then
      settle (extend .number false [c] rest).1 (extend .number false [c] rest).2.1
          (extend .number false [c] rest).2.2.1 ++
        pieces (extend .number false [c] rest).2.2.2
    else if isBlank c then " " :: pieces rest
    else String.ofList [c] :: pieces rest
  termination_by cs.length
  decreasing_by
    all_goals
      first
        | exact Nat.lt_succ_self _
        | exact Nat.lt_succ_of_le (extend_rest_le _ _ _ _)

end Calendar
end CommandGrammar
