/-
# Consoles

What is printed goes to a console, which shows markup: text with tags in brackets, such as
`[bold]usage:[/bold]`.  A tag opens a style, `[/]` closes the style that was opened last, and a text
that is escaped has no tags.  How markup looks is up to the console; that a text can be printed in a
style at all is what a shell relies on.

| markup | printed on every console |
| --- | --- |
| an escaped text | yes |
| an escaped text in a style | yes |
| a text without brackets and backslashes, in a style | yes |
| any other | if the console can show it |
-/

namespace CommandGrammar

/-- Why markup cannot be shown. -/
inductive MarkupProblem
  /-- A closing tag names a style that is not open. -/
  | unmatched (tag : String) (position : Nat)
  /-- A closing tag without a name finds nothing open. -/
  | nothingToClose (position : Nat)
  deriving DecidableEq, Repr

/-- The wording of a problem with markup. -/
def MarkupProblem.message : MarkupProblem → String
  | unmatched tag i => s!"closing tag '[{tag}]' at position {i} doesn't match any open tag"
  | nothingToClose i => s!"closing tag '[/]' at position {i} has nothing to close"

/-- A table: its title, the heading of every column, and rows of cells. -/
structure Grid where
  title : String
  heading : List String
  /-- Rows of as many cells as there are columns. -/
  rows : List (List String)

/-- Whether a text names a style: it is made of small letters. -/
def IsStyle (style : String) : Prop := style ≠ "" ∧ ∀ c ∈ style.toList, c.isLower = true

-- Only the letters of the style are tried; another instance would try every character there is.
instance : DecidablePred IsStyle := fun style =>
  @instDecidableAnd _ _ inferInstance (List.decidableBAll (fun c => c.isLower = true) style.toList)

/-- Markup in a style. -/
def styled (style markup : String) : String := "[" ++ style ++ "]" ++ markup ++ "[/]"

/-- What shows markup. -/
structure Console where
  /-- Markup that shows a text as it is. -/
  escape : String → String
  /-- What is printed for markup, or why it cannot be shown. -/
  print : String → Except MarkupProblem String
  /-- What is printed for a table with markup in its cells. -/
  table : Grid → Except MarkupProblem String
  print_escape : ∀ s, ∃ text, print (escape s) = .ok text
  print_styled_escape : ∀ style s, IsStyle style →
    ∃ text, print (styled style (escape s)) = .ok text
  print_styled_plain : ∀ style s, IsStyle style → (∀ c ∈ s.toList, c ∉ ['[', ']', '\\']) →
    ∃ text, print (styled style s) = .ok text

/-- Something that prints while it goes on, and may stop at markup that cannot be shown. -/
structure Printing (α : Type) where
  printed : String := ""
  result : Except MarkupProblem α

namespace Printing

/-- Printing, and then more of it if the first does not stop. -/
def andThen {α β : Type} (p : Printing α) (next : α → Printing β) : Printing β :=
  match p.result with
  | .ok a => { next a with printed := p.printed ++ (next a).printed }
  | .error e => ⟨p.printed, .error e⟩

instance : Monad Printing where
  pure a := ⟨"", .ok a⟩
  bind := andThen

/-- Prints what is shown. -/
def ofShown : Except MarkupProblem String → Printing Unit
  | .ok text => ⟨text, .ok ()⟩
  | .error e => ⟨"", .error e⟩

/-- Prints markup. -/
def markup (k : Console) (s : String) : Printing Unit := ofShown (k.print s)

/-- Prints a table. -/
def table (k : Console) (g : Grid) : Printing Unit := ofShown (k.table g)

/-- **Printing goes on behind what can be shown.** -/
theorem result_ofShown {x : Except MarkupProblem String} (h : ∃ text, x = .ok text) :
    (ofShown x).result = .ok () := by
  obtain ⟨text, rfl⟩ := h
  rfl

/-- **Printing that goes on twice comes to what the second comes to.** -/
theorem result_bind {α β : Type} {s : Printing α} {next : α → Printing β} {a : α} {x : β}
    (hs : s.result = .ok a) (hn : (next a).result = .ok x) : (s >>= next).result = .ok x := by
  show (andThen s next).result = _
  unfold andThen
  rw [hs]
  exact hn

end Printing
end CommandGrammar
