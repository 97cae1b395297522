/-
# Faulty definitions

What may be wrong with a grammar, a set of flags or a command when it is defined.  Where a
definition is handed something of another kind than it needs, the fault names that kind.
-/

import CommandGrammar.Text.Quoted

namespace CommandGrammar

/-- Something that a definition is given where an `α` belongs: one, or something else, of which the
definition's fault shows the kind or the description. -/
inductive Given (α : Type)
  | fitting (a : α)
  | other (shown : String)

/-- What is wrong with a definition. -/
inductive DefinitionError
  | notALeaf (kind : String)
  | notAParameter (kind : String)
  | notAModifier (kind : String)
  /-- A parameter without a leaf. -/
  | noLeaf (key : String)
  | emptySequence
  | emptyLiteral
  /-- A repetition that is not positive. -/
  | badCount (times : Int)
  | noFlagAlias
  | flagAliasNotText (shown : String)
  | badFlagAlias (alias_ : String)
  | duplicateFlagAlias (dashed : String)
  | severalLongAliases (aliases : List String)
  | flagValueNotParameter (kind : String)
  | notACommand (kind : String)
  | noChildAlias
  | badChildAlias (alias_ : String)
  | duplicateChildAlias (alias_ : String)
  | notAnExecutor (shown : String)
  /-- A command with neither an executor nor children. -/
  | nothingToRun
  deriving DecidableEq, Repr

/-- The wording of a faulty definition. -/
def DefinitionError.message : DefinitionError → String
  | .notALeaf k => s!"Expected a ValueParameter, got {k}."
  | .notAParameter k => s!"Expected a Parameter, got {k}."
  | .notAModifier k => s!"Expected a modifier, got {k}."
  | .noLeaf key =>
    s!"Parameter '{key}' has no value parser. " ++
      "Call parser() or one of the leaf methods before build()."
  | .emptySequence => "A parameter sequence requires at least one child."
  | .emptyLiteral => "A literal requires at least one token to match."
  | .badCount n => s!"Repeated requires a positive count, got {n}."
  | .noFlagAlias => "A flag requires at least one alias."
  | .flagAliasNotText shown => s!"Flag aliases must be strings, got {shown}."
  | .badFlagAlias a => s!"Invalid flag alias '{a}'."
  | .duplicateFlagAlias a => s!"Duplicate flag alias '{a}'."
  | .severalLongAliases as =>
    let list := Text.joined ", " (as.map Text.quoted)
    s!"A flag may have at most one long alias, got [{list}]."
  | .flagValueNotParameter k => s!"A value flag requires a Parameter, got {k}."
  | .notACommand k => s!"A child must be a CommandSpec, got {k}."
  | .noChildAlias => "A child command requires at least one alias."
  | .badChildAlias a => s!"Invalid child alias '{a}'."
  | .duplicateChildAlias a => s!"Duplicate child alias '{a}'."
  | .notAnExecutor shown => s!"Executor {shown} is not callable."
  | .nothingToRun => "An executor is required when no child commands are registered."

end CommandGrammar
