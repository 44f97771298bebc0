import Calculator.Binary64.Nearest
import Calculator.Binary64.Notation
import Calculator.Binary64.Rank
import Calculator.Binary64.Shortest
import Calculator.Bindings
import Calculator.Data.Moment
import Calculator.Data.Value
import Calculator.Diagnostic
import Calculator.Evaluation.Basic
import Calculator.Evaluation.Machine
import Calculator.Evaluation.Session
import Calculator.Files.Folder
import Calculator.Files.Path
import Calculator.Main
import Calculator.Proofs.Binary64.Exact
import Calculator.Proofs.Binary64.Rounding
import Calculator.Proofs.Binary64.Whole
import Calculator.Proofs.Binary64.Zero
import Calculator.Proofs.Evaluation.Batch
import Calculator.Proofs.Evaluation.Budget
import Calculator.Proofs.Evaluation.Entered
import Calculator.Proofs.Evaluation.Failures
import Calculator.Proofs.Evaluation.History
import Calculator.Proofs.Evaluation.Leftover
import Calculator.Proofs.Evaluation.Locality
import Calculator.Proofs.Evaluation.Renaming
import Calculator.Proofs.Evaluation.Runs
import Calculator.Proofs.Evaluation.Scope
import Calculator.Proofs.Evaluation.Truncation
import Calculator.Proofs.Evaluation.Turns
import Calculator.Proofs.Evaluation.ZeroDivisors
import Calculator.Proofs.Grammar.Derivation
import Calculator.Proofs.Grammar.Unique
import Calculator.Proofs.Reading.Acceptance
import Calculator.Proofs.Reading.Conservation
import Calculator.Proofs.Reading.Course
import Calculator.Proofs.Reading.Depth
import Calculator.Proofs.Reading.Descent
import Calculator.Proofs.Reading.Ending
import Calculator.Proofs.Reading.FirstError
import Calculator.Proofs.Reading.Layout
import Calculator.Proofs.Reading.Levels
import Calculator.Proofs.Reading.Limit
import Calculator.Proofs.Reading.Lookahead
import Calculator.Proofs.Reading.Operation
import Calculator.Proofs.Reading.Padding
import Calculator.Proofs.Reading.Phrase
import Calculator.Proofs.Reading.Place
import Calculator.Proofs.Reading.Renaming
import Calculator.Proofs.Reading.Semicolon
import Calculator.Proofs.Reading.Sentence
import Calculator.Proofs.Reading.Spelling
import Calculator.Proofs.Reading.Stream
import Calculator.Proofs.Reading.Verdict
import Calculator.Proofs.Reading.Viable
import Calculator.Proofs.Settings.Escapes
import Calculator.Proofs.Settings.Layers
import Calculator.Proofs.Settings.Wording
import Calculator.Proofs.Syntax.Canonical
import Calculator.Proofs.Syntax.Rendering
import Calculator.Proofs.Syntax.Reparse
import Calculator.Proofs.Syntax.Resemblance
import Calculator.Proofs.Terminal.Conversation
import Calculator.Proofs.Terminal.Reporting
import Calculator.Proofs.Terminal.SingleLine
import Calculator.Proofs.Token.Canonical
import Calculator.Proofs.Token.Cursor
import Calculator.Proofs.Token.Literal
import Calculator.Proofs.Token.Moved
import Calculator.Proofs.Token.Munch
import Calculator.Proofs.Token.Parentheses
import Calculator.Proofs.Token.Renaming
import Calculator.Proofs.Token.Written
import Calculator.Reading.Expression
import Calculator.Reading.Program
import Calculator.Reading.Window
import Calculator.Report
import Calculator.Settings.Basic
import Calculator.Settings.Overrides
import Calculator.Settings.Sources
import Calculator.Syntax.Basic
import Calculator.Syntax.Printer
import Calculator.Syntax.Sketch
import Calculator.Syntax.Tree
import Calculator.Terminal.Arguments
import Calculator.Terminal.Dialogue
import Calculator.Terminal.Execution
import Calculator.Terminal.Table
import Calculator.Text.Basic
import Calculator.Text.Casing
import Calculator.Text.ControlSequence
import Calculator.Text.Integer
import Calculator.Text.Quoted
import Calculator.Token.Basic
import Calculator.Token.Record
import Calculator.Token.Scanner
import Calculator.Toml.Basic
import Calculator.Toml.Content
import Calculator.Toml.Document
import Calculator.Toml.Moment
import Calculator.Toml.Node
import Calculator.Toml.Number
import Calculator.Toml.Text
