/-
# Markup

Text for a terminal with tags in brackets: `[bold]usage:[/bold]`.  A tag begins with a small letter,
`#`, `/` or `@`; other brackets are text, and so is a tag behind an odd number of backslashes.  A
closing tag names the style it closes, or closes the one opened last, and it is a problem if there
is none.  What is left open at the end does no harm.

A name of a pictograph between colons, as in `:smile:`, stands for the pictograph; a colon and
another name are text.  `:smile-text:` asks for it as text and `:smile-emoji:` in colours.

Here only the plain text counts: a style is a name by which a closing tag finds its opening tag.
-/

import CommandGrammar.Console
import CommandGrammar.Text.Blank
import CommandGrammar.Text.Case
import CommandGrammar.Text.Parts
import CommandGrammar.Text.Pictograph

namespace CommandGrammar

open Text

namespace Markup

/-- A piece of markup. -/
inductive Piece
  | plain (cs : List Char)
  /-- What stands between the brackets of a tag, and where it begins. -/
  | tag (body : List Char) (position : Nat)
  deriving Repr

/-- Whether a character may begin a tag. -/
def beginsTag (c : Char) : Bool :=
  ('a' ≤ c && c ≤ 'z') || c == '#' || c == '/' || c == '@'

/-- What stands before the next closing bracket, and after it. -/
def untilClosed? : List Char → Option (List Char × List Char)
  | [] => none
  | ']' :: rest => some ([], rest)
  | '[' :: _ => none
  | c :: rest => (untilClosed? rest).map fun (body, after) => (c :: body, after)

/-- The tag at the beginning of markup: what stands between the brackets, and what follows. -/
def tag? : List Char → Option (List Char × List Char)
  | '[' :: c :: rest =>
    if beginsTag c then (untilClosed? rest).map fun (body, after) => (c :: body, after) else none
  | _ => none

/-- How many backslashes markup begins with. -/
def backslashes (cs : List Char) : Nat := (cs.takeWhile (· == '\\')).length

/-- The pieces of markup from an offset on, `read` being the plain text before it in reverse; at
most `n` steps. -/
def piecesFrom : Nat → Nat → List Char → List Char → List Piece
  | 0, _, read, _ => [.plain read.reverse]
  | _, _, read, [] => [.plain read.reverse]
  | n + 1, i, read, c :: cs =>
    let k := backslashes (c :: cs)
    match tag? ((c :: cs).drop k) with
    | none => piecesFrom n (i + 1) (c :: read) cs
    | some (body, rest) =>
      let next := i + k + body.length + 2
      let before := [Piece.plain read.reverse, .plain (List.replicate (k / 2) '\\')]
      let here :=
        if k % 2 = 0 then Piece.tag body (i + k) else .plain ('[' :: body ++ [']'])
      before ++ here :: piecesFrom n next [] rest

/-- The pieces of markup; each step reads a character. -/
def pieces (cs : List Char) : List Piece := piecesFrom (cs.length + 1) 0 [] cs

/-- Plain text with a bracket for each bracket behind a backslash. -/
def unescaped : List Char → List Char
  | '\\' :: '[' :: rest => '[' :: unescaped rest
  | c :: rest => c :: unescaped rest
  | [] => []

/-- The attributes of a style, in the order in which they are named. -/
def attributeWords : List (String × List String) := [
  ("bold", ["bold", "b"]), ("dim", ["dim", "d"]), ("italic", ["italic", "i"]),
  ("underline", ["underline", "u"]), ("blink", ["blink"]), ("blink2", ["blink2"]),
  ("reverse", ["reverse", "r"]), ("conceal", ["conceal", "c"]), ("strike", ["strike", "s"]),
  ("underline2", ["underline2", "uu"]), ("frame", ["frame"]), ("encircle", ["encircle"]),
  ("overline", ["overline", "o"])]

/-- The colours of a terminal. -/
def colours : List String :=
  let plain := ["black", "red", "green", "yellow", "blue", "magenta", "cyan", "white"]
  plain ++ plain.map ("bright_" ++ ·) ++ ["default"]

/-- What a style sets. -/
structure Style where
  /-- The attributes that are on or off, the last word on one counting. -/
  attributes : List (String × Bool) := []
  colour : Option String := none
  ground : Option String := none

/-- The attribute that a word names. -/
def attribute? (word : String) : Option String :=
  (attributeWords.find? fun a => a.2.contains word).map Prod.fst

/-- The style that words write, if they write one. -/
def style? (s : Style) : List String → Option Style
  | [] => some s
  | "on" :: word :: rest =>
    if colours.contains word then style? { s with ground := some word } rest else none
  | "not" :: word :: rest => do
    style? { s with attributes := (← attribute? word, false) :: s.attributes } rest
  | word :: rest =>
    match attribute? word with
    | some a => style? { s with attributes := (a, true) :: s.attributes } rest
    | none => if colours.contains word then style? { s with colour := some word } rest else none

/-- The one name of a style. -/
def Style.name (s : Style) : String :=
  let words := attributeWords.filterMap fun a =>
    (s.attributes.lookup a.1).map fun on => if on then a.1 else "not " ++ a.1
  let all := words ++ s.colour.toList ++ (s.ground.map ("on " ++ ·)).toList
  if all.isEmpty then "none" else joined " " all

/-- The name by which a closing tag finds what a tag opened. -/
def styleName (tag : String) : String :=
  match style? {} (words (lowercase tag)) with
  | some s => s.name
  | none => lowercase (trim tag)

/-- What stands before the next colon, if no blank does, and what follows the colon. -/
def untilColon? : List Char → Option (List Char × List Char)
  | [] => none
  | ':' :: rest => some ([], rest)
  | c :: rest =>
    if isBlank c then none else (untilColon? rest).map fun (body, after) => (c :: body, after)

/-- The pictograph that a text between colons asks for. -/
def picture? (body : String) : Option String :=
  let plain := fun (name : String) => pictograph? (lowercase name)
  match beforeEnding? "-text" body, beforeEnding? "-emoji" body with
  | some name, _ => (plain name).map (·.push textSelector)
  | none, some name => (plain name).map (·.push colourSelector)
  | none, none => plain body

/-- Text with pictographs for their names; at most `n` steps. -/
def withPictures : Nat → List Char → List Char
  | 0, cs => cs
  | _, [] => []
  | n + 1, ':' :: rest =>
    match untilColon? rest with
    | none => ':' :: withPictures n rest
    | some (body, after) =>
      let shown := (picture? (String.ofList body)).map String.toList
      shown.getD (':' :: body ++ [':']) ++ withPictures n after
  | n + 1, c :: rest => c :: withPictures n rest

/-- **Text without a colon has no pictographs.** -/
theorem withPictures_of_not_mem (n : Nat) {cs : List Char} (h : ':' ∉ cs) :
    withPictures n cs = cs := by
  induction n generalizing cs with
  | zero => cases cs <;> rfl
  | succ n ih =>
    cases cs with
    | nil => rfl
    | cons c rest =>
      simp only [List.mem_cons, not_or] at h
      unfold withPictures
      split <;> simp_all

/-- The text of a plain piece of markup; each step reads a character. -/
def plainText (cs : List Char) : List Char := withPictures (cs.length + 1) (unescaped cs)

/-- The plain text of pieces of markup, `stack` being the styles that are open. -/
def textOf (stack : List String) : List Piece → Except MarkupProblem (List Char)
  | [] => .ok []
  | .plain cs :: rest => (textOf stack rest).map (plainText cs ++ ·)
  | .tag body i :: rest =>
    match body.takeWhile (· != '=') with
    | '/' :: name =>
      let name := trim (String.ofList name)
      if name.isEmpty then
        match stack with
        | [] => .error (.nothingToClose i)
        | _ :: outer => textOf outer rest
      else if stack.contains (styleName name) then textOf (stack.erase (styleName name)) rest
      else .error (.unmatched (String.ofList body) i)
    | name => textOf (styleName (String.ofList name) :: stack) rest

/-- Whether a control character is left out of a text. -/
def isDropped (c : Char) : Bool := [0x07, 0x08, 0x0B, 0x0C, 0x0D].contains c.toNat

/-- The plain text of markup. -/
def render (markup : String) : Except MarkupProblem String := do
  let cs ← textOf [] (pieces markup.toList)
  return String.ofList (cs.filter fun c => !isDropped c)

/-- Text with a backslash more than twice as many before each tag; at most `n` steps. -/
def escapeTags : Nat → List Char → List Char
  | 0, cs => cs
  | _, [] => []
  | n + 1, c :: cs =>
    let k := backslashes (c :: cs)
    match tag? ((c :: cs).drop k) with
    | none => c :: escapeTags n cs
    | some (body, rest) =>
      List.replicate (2 * k + 1) '\\' ++ '[' :: body ++ ']' :: escapeTags n rest

/-- Markup that shows a text as it is: backslashes before its tags, and one more behind a last
single backslash. -/
def escape (s : String) : String :=
  let cs := escapeTags (s.length + 1) s.toList
  let tail := cs.reverse
  String.ofList (if backslashes tail = 1 then cs ++ ['\\'] else cs)

end Markup
end CommandGrammar
