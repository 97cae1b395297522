import CommandGrammar.Calendar.Moment
import CommandGrammar.Calendar.Pieces
import CommandGrammar.Calendar.Reader
import CommandGrammar.Calendar.Vocabulary
import CommandGrammar.Caseless
import CommandGrammar.Command
import CommandGrammar.Command.Attempt
import CommandGrammar.Command.Children
import CommandGrammar.Command.Complete
import CommandGrammar.Command.Completion
import CommandGrammar.Command.Definition
import CommandGrammar.Command.Dispatch
import CommandGrammar.Command.Help
import CommandGrammar.Command.Validation
import CommandGrammar.Console
import CommandGrammar.Console.Usual
import CommandGrammar.Context
import CommandGrammar.Datum
import CommandGrammar.Definition
import CommandGrammar.Demo
import CommandGrammar.Document.Fault
import CommandGrammar.Document.Json
import CommandGrammar.Document.Stamp
import CommandGrammar.Document.Toml
import CommandGrammar.Document.Yaml
import CommandGrammar.Document.Yaml.Block
import CommandGrammar.Document.Yaml.Folding
import CommandGrammar.Document.Yaml.Node
import CommandGrammar.Document.Yaml.Reader
import CommandGrammar.Document.Yaml.Scalar
import CommandGrammar.Duration
import CommandGrammar.Field
import CommandGrammar.Field.Usual
import CommandGrammar.Files
import CommandGrammar.Flag
import CommandGrammar.Flag.Complete
import CommandGrammar.Flag.Definition
import CommandGrammar.Flag.Parse
import CommandGrammar.Flag.Usage
import CommandGrammar.Grid
import CommandGrammar.Host
import CommandGrammar.Host.Usual
import CommandGrammar.Keywords
import CommandGrammar.Leaf
import CommandGrammar.Leaf.Completing
import CommandGrammar.Leaf.Reading
import CommandGrammar.Leaf.Usage
import CommandGrammar.Log
import CommandGrammar.Main
import CommandGrammar.Markup
import CommandGrammar.Markup.Escaping
import CommandGrammar.Modifier
import CommandGrammar.Number.Binary64
import CommandGrammar.Number.Numeral
import CommandGrammar.Number.Shortest
import CommandGrammar.Packages
import CommandGrammar.Packages.Usual
import CommandGrammar.Parameter
import CommandGrammar.Parameter.Complete
import CommandGrammar.Parameter.Definition
import CommandGrammar.Parameter.Parse
import CommandGrammar.Parameter.Usage
import CommandGrammar.Pattern.Folding
import CommandGrammar.Pattern.Matcher
import CommandGrammar.Pattern.Pieces
import CommandGrammar.Pattern.Reader
import CommandGrammar.Pattern.Selection
import CommandGrammar.Pattern.Syntax
import CommandGrammar.Policy
import CommandGrammar.Problem
import CommandGrammar.Program
import CommandGrammar.Program.Arguments
import CommandGrammar.Progress
import CommandGrammar.Proofs.Breakdowns.Completions
import CommandGrammar.Proofs.Breakdowns.Durations
import CommandGrammar.Proofs.Breakdowns.Lines
import CommandGrammar.Proofs.Breakdowns.Typing
import CommandGrammar.Proofs.Breakdowns.Words
import CommandGrammar.Proofs.Completing.Asking
import CommandGrammar.Proofs.Completing.Consulting
import CommandGrammar.Proofs.Completing.Fates
import CommandGrammar.Proofs.Completing.Guarded
import CommandGrammar.Proofs.Completing.Inserting
import CommandGrammar.Proofs.Completing.LastWord
import CommandGrammar.Proofs.Completing.Leaves
import CommandGrammar.Proofs.Completing.Letters
import CommandGrammar.Proofs.Completing.Lines
import CommandGrammar.Proofs.Completing.LoneWords
import CommandGrammar.Proofs.Completing.Menus
import CommandGrammar.Proofs.Completing.Sequences
import CommandGrammar.Proofs.Completing.Soundness
import CommandGrammar.Proofs.Completing.Trying
import CommandGrammar.Proofs.Dispatch.Agreement
import CommandGrammar.Proofs.Dispatch.Attempts
import CommandGrammar.Proofs.Dispatch.Climbing
import CommandGrammar.Proofs.Dispatch.Composing
import CommandGrammar.Proofs.Dispatch.Confining
import CommandGrammar.Proofs.Dispatch.Exhaustion
import CommandGrammar.Proofs.Dispatch.FailedChildren
import CommandGrammar.Proofs.Dispatch.Frames
import CommandGrammar.Proofs.Dispatch.HiddenChildren
import CommandGrammar.Proofs.Dispatch.Naming
import CommandGrammar.Proofs.Dispatch.Permission
import CommandGrammar.Proofs.Dispatch.Refusals
import CommandGrammar.Proofs.Dispatch.Retaking
import CommandGrammar.Proofs.Dispatch.Validating
import CommandGrammar.Proofs.Dispatch.Way
import CommandGrammar.Proofs.Flags.Anchoring
import CommandGrammar.Proofs.Flags.Attached
import CommandGrammar.Proofs.Flags.Bundles
import CommandGrammar.Proofs.Flags.FirstFlag
import CommandGrammar.Proofs.Flags.Giving
import CommandGrammar.Proofs.Flags.Keeping
import CommandGrammar.Proofs.Flags.MarkedNames
import CommandGrammar.Proofs.Flags.NegativeNumbers
import CommandGrammar.Proofs.Flags.Pointing
import CommandGrammar.Proofs.Flags.Reading
import CommandGrammar.Proofs.Flags.Recognising
import CommandGrammar.Proofs.Flags.Rounds
import CommandGrammar.Proofs.Flags.Sifting
import CommandGrammar.Proofs.Flags.Stopping
import CommandGrammar.Proofs.Flags.Switches
import CommandGrammar.Proofs.Flags.TypedWord
import CommandGrammar.Proofs.Flags.UnknownFlags
import CommandGrammar.Proofs.Flags.UnknownNames
import CommandGrammar.Proofs.Flags.Walking
import CommandGrammar.Proofs.Laws.Combining
import CommandGrammar.Proofs.Laws.Counting
import CommandGrammar.Proofs.Laws.Grouping
import CommandGrammar.Proofs.Laws.Repeating
import CommandGrammar.Proofs.Moving.Commands
import CommandGrammar.Proofs.Moving.Flags
import CommandGrammar.Proofs.Moving.Lines
import CommandGrammar.Proofs.Moving.Splitting
import CommandGrammar.Proofs.Moving.Tails
import CommandGrammar.Proofs.Numbers.Amounts
import CommandGrammar.Proofs.Numbers.Counts
import CommandGrammar.Proofs.Numbers.Durations
import CommandGrammar.Proofs.Numbers.Plain
import CommandGrammar.Proofs.Patterns.Choosing
import CommandGrammar.Proofs.Patterns.Literals
import CommandGrammar.Proofs.Patterns.Prefixes
import CommandGrammar.Proofs.Patterns.Reaching
import CommandGrammar.Proofs.Positions.Cursors
import CommandGrammar.Proofs.Positions.Failures
import CommandGrammar.Proofs.Positions.Streams
import CommandGrammar.Proofs.Registers.ChildNames
import CommandGrammar.Proofs.Registers.FlagNames
import CommandGrammar.Proofs.Registers.Owners
import CommandGrammar.Proofs.Scopes.Erasing
import CommandGrammar.Proofs.Scopes.Scripts
import CommandGrammar.Proofs.Steps.Bindings
import CommandGrammar.Proofs.Steps.Course
import CommandGrammar.Proofs.Steps.Footprint
import CommandGrammar.Proofs.Steps.Leaves
import CommandGrammar.Proofs.Steps.Likeness
import CommandGrammar.Proofs.Steps.Modifiers
import CommandGrammar.Proofs.Steps.OneWord
import CommandGrammar.Proofs.Steps.Onward
import CommandGrammar.Proofs.Steps.Origins
import CommandGrammar.Proofs.Steps.Pairing
import CommandGrammar.Proofs.Steps.Parameters
import CommandGrammar.Proofs.Steps.Passing
import CommandGrammar.Proofs.Steps.Pruning
import CommandGrammar.Proofs.Steps.Skipping
import CommandGrammar.Proofs.Steps.Undoing
import CommandGrammar.Proofs.Tokens.Covering
import CommandGrammar.Proofs.Tokens.Fronts
import CommandGrammar.Proofs.Tokens.Locality
import CommandGrammar.Proofs.Tokens.Quoting
import CommandGrammar.Proofs.Tokens.Runs
import CommandGrammar.Proofs.Tokens.Spans
import CommandGrammar.Proofs.Tokens.Tracing
import CommandGrammar.Proofs.Tokens.Typing
import CommandGrammar.Register
import CommandGrammar.Session
import CommandGrammar.Settings
import CommandGrammar.Settings.File
import CommandGrammar.Shell
import CommandGrammar.Source
import CommandGrammar.Tally
import CommandGrammar.Text.Blank
import CommandGrammar.Text.Case
import CommandGrammar.Text.Digit
import CommandGrammar.Text.Hex
import CommandGrammar.Text.Identifier
import CommandGrammar.Text.Parts
import CommandGrammar.Text.Pictograph
import CommandGrammar.Text.Printable
import CommandGrammar.Text.Quoted
import CommandGrammar.Text.Similarity
import CommandGrammar.Text.Table
import CommandGrammar.Text.Width
import CommandGrammar.Text.Word
import CommandGrammar.Token.Basic
import CommandGrammar.Token.Split
import CommandGrammar.Token.Stream
import CommandGrammar.Value
import CommandGrammar.Value.Plain
