/-
# Block scalars

A text that is written on lines of its own, under a `|` (every line break is kept) or a `>` (lines
are folded).  The lines are indented more than what they belong to; the first line with text says
how far, unless the header does.  What follows the last line is chomped:

| header | the last line break | empty lines after it |
| --- | --- | --- |
| no sign | kept | dropped |
| `-` | dropped | dropped |
| `+` | kept | kept |
-/

import CommandGrammar.Document.Yaml.Folding

namespace CommandGrammar
namespace Document
namespace Yaml

open Stamp

/-- What becomes of the breaks at the end of a block scalar. -/
inductive Chomping
  | clip
  | strip
  | keep
  deriving DecidableEq, Repr

/-- The header of a block scalar. -/
structure BlockHeader where
  folded : Bool
  chomping : Chomping := .clip
  /-- How much further the lines are indented, where the header says it. -/
  further : Option Nat := none
  deriving Repr

namespace BlockHeader

/-- The header with what one of its characters says. -/
def withChar (h : BlockHeader) (c : Char) : Option BlockHeader :=
  if c = '+' ∧ h.chomping = .clip then some { h with chomping := .keep }
  else if c = '-' ∧ h.chomping = .clip then some { h with chomping := .strip }
  else if '1' ≤ c ∧ c ≤ '9' ∧ h.further = none then
    some { h with further := some (c.toNat - '0'.toNat) }
  else none

/-- The header that the rest of its line writes: signs, then blanks, then a comment. -/
def ofLine? (folded : Bool) (line : List Char) : Option BlockHeader :=
  let signs := line.takeWhile (· != ' ')
  let rest := (line.dropWhile (· != ' ')).dropWhile (· == ' ')
  if rest.isEmpty || rest.head? == some '#' then signs.foldlM withChar { folded } else none

end BlockHeader

/-- Where the lines of a block scalar go on: the breaks just before, the column, and the text. -/
structure BlockPlace where
  breaks : List Char
  column : Nat
  rest : List Char
  deriving Repr

/-- The place after empty lines and at most `indent` blanks of the next line. -/
def emptyLines (indent column : Nat) : List Char → BlockPlace
  | [] => ⟨[], column, []⟩
  | c :: rest =>
    if c = ' ' ∧ column < indent then emptyLines indent (column + 1) rest
    else if isBreak c then
      let p := emptyLines indent 0 rest
      { p with breaks := breakChar c :: p.breaks }
    else ⟨[], column, c :: rest⟩

/-- The place at the first text, and the greatest column on the way to it. -/
def firstText (column greatest : Nat) : List Char → BlockPlace × Nat
  | [] => (⟨[], column, []⟩, greatest)
  | c :: rest =>
    if c = ' ' then firstText (column + 1) (max greatest (column + 1)) rest
    else if isBreak c then
      let (p, g) := firstText 0 greatest rest
      ({ p with breaks := breakChar c :: p.breaks }, g)
    else (⟨[], column, c :: rest⟩, greatest)

/-- What stands between two lines. -/
def lineJoint (folded : Bool) (line lineBreak : List Char) (next : BlockPlace) : List Char :=
  let indented := fun (cs : List Char) => cs.head?.any isLineBlank
  if folded && lineBreak == ['\n'] && !indented line && !indented next.rest then
    if next.breaks.isEmpty then [' '] else []
  else lineBreak

/-- The lines of a block scalar with the given indentation: their text, the break after the last
one, and where they end.  The number bounds the count of lines. -/
def blockLines (folded : Bool) (indent : Nat) : Nat → BlockPlace →
    List Char × List Char × BlockPlace
  | 0, p => ([], [], p)
  | n + 1, p =>
    if p.column ≠ indent ∨ p.rest = [] then ([], [], p)
    else
      let line := p.rest.takeWhile fun c => !isBreak c
      let after := p.rest.dropWhile fun c => !isBreak c
      let lineBreak := (after.take 1).map breakChar
      let next := emptyLines indent 0 (after.drop 1)
      if next.column = indent ∧ next.rest ≠ [] then
        let (more, last, stop) := blockLines folded indent n next
        (p.breaks ++ line ++ lineJoint folded line lineBreak next ++ more, last, stop)
      else (p.breaks ++ line, lineBreak, next)

/-- The text of a block scalar under a header, and what follows it; `parent` is the column of what
the scalar belongs to, `-1` for nothing. -/
def blockScalar (h : BlockHeader) (parent : Int) (cs : List Char) : String × List Char :=
  let least := max 1 (parent + 1).toNat
  let (indent, start) :=
    match h.further with
    | some k => (least + k - 1, emptyLines (least + k - 1) 0 cs)
    | none =>
      let (p, greatest) := firstText 0 0 cs
      (max least greatest, p)
  let (text, last, stop) := blockLines h.folded indent (cs.length + 1) start
  let ending := match h.chomping with
    | .strip => []
    | .clip => last
    | .keep => last ++ stop.breaks
  (String.ofList (text ++ ending), stop.rest)

end Yaml
end Document
end CommandGrammar
