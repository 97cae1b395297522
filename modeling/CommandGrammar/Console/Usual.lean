/-
# The usual console

Markup is printed as its plain text (`Markup.render`), a line at a time, and tables are drawn with
lines (`Grid.draw`).  That every text can be printed in a style is `Markup.Escaping`.
-/

import CommandGrammar.Grid
import CommandGrammar.Markup.Escaping

namespace CommandGrammar
namespace Console

open Text

/-- The line that is printed for markup. -/
def printed (markup : String) : Except MarkupProblem String :=
  (Markup.render markup).map fun text => untabbed text ++ "\n"

/-- The lines that are printed for a table. -/
def drawn (g : Grid) : Except MarkupProblem String := do
  let rows ← g.rows.mapM fun cells => cells.mapM Markup.render
  return (Grid.draw { g with rows }).foldl (fun text line => text ++ line ++ "\n") ""

/-- **What is rendered is printed.** -/
theorem exists_printed {markup : String} (h : ∃ text, Markup.render markup = .ok text) :
    ∃ text, printed markup = .ok text := by
  obtain ⟨text, ht⟩ := h
  unfold printed
  rw [ht]
  exact ⟨_, rfl⟩

/-- The usual console. -/
def usual : Console where
  escape := Markup.escape
  print := printed
  table := drawn
  print_escape s := exists_printed (Markup.exists_render_escape s)
  print_styled_escape _ s h := exists_printed (Markup.exists_render_styled_escape h s)
  print_styled_plain _ _ h hs := exists_printed (Markup.exists_render_styled_plain h hs)

end Console
end CommandGrammar
