import FieldGrouping.Calendar
import FieldGrouping.Command.Options
import FieldGrouping.Command.Request
import FieldGrouping.Command.Run
import FieldGrouping.Config.Document
import FieldGrouping.Config.Error
import FieldGrouping.Config.Load
import FieldGrouping.Config.RuleTable
import FieldGrouping.Config.Scalar
import FieldGrouping.Config.Settings
import FieldGrouping.Config.Value
import FieldGrouping.Declaration
import FieldGrouping.Files.Discovery
import FieldGrouping.Files.Entry
import FieldGrouping.Files.Path
import FieldGrouping.Files.Workspace
import FieldGrouping.Host
import FieldGrouping.Lint.Directive
import FieldGrouping.Lint.Run
import FieldGrouping.Main
import FieldGrouping.NameSet
import FieldGrouping.Number.Binary64
import FieldGrouping.Number.Integer
import FieldGrouping.Proofs.Config.Spelling
import FieldGrouping.Proofs.Fallible
import FieldGrouping.Proofs.Files.Discovery
import FieldGrouping.Proofs.Rule.Candidates
import FieldGrouping.Proofs.Rule.Extraction
import FieldGrouping.Proofs.Rule.Locality
import FieldGrouping.Proofs.Rule.Rearrangement
import FieldGrouping.Proofs.Rule.Report
import FieldGrouping.Proofs.Rule.Selection
import FieldGrouping.Proofs.Rule.Stem
import FieldGrouping.Proofs.Sorting
import FieldGrouping.Report.Finding
import FieldGrouping.Report.Json
import FieldGrouping.Report.Summary
import FieldGrouping.Rule.Diagnostic
import FieldGrouping.Rule.Group
import FieldGrouping.Rule.Stem
import FieldGrouping.Sorting
import FieldGrouping.Source.Collection
import FieldGrouping.Source.Expression
import FieldGrouping.Source.Lexer
import FieldGrouping.Source.Lexer.Format
import FieldGrouping.Source.Lexer.Numeral
import FieldGrouping.Source.Lexer.Quotation
import FieldGrouping.Source.LiteralValue
import FieldGrouping.Source.Parameter
import FieldGrouping.Source.Parse
import FieldGrouping.Source.Pattern
import FieldGrouping.Source.Recognition
import FieldGrouping.Source.Registry
import FieldGrouping.Source.Statement
import FieldGrouping.Source.Token
import FieldGrouping.Source.Tree
import FieldGrouping.Text.Blank
import FieldGrouping.Text.CaseTable
import FieldGrouping.Text.ControlSequence
import FieldGrouping.Text.Digit
import FieldGrouping.Text.Identifier
import FieldGrouping.Text.Lines
import FieldGrouping.Text.LowerCase
import FieldGrouping.Text.Printable
import FieldGrouping.Text.Quoted
import FieldGrouping.Text.Ranges
import FieldGrouping.Text.SnakeCase
import FieldGrouping.Text.Utf8
import FieldGrouping.Proofs.Lint.Completion
import FieldGrouping.Proofs.Lint.Silencing
import FieldGrouping.Proofs.Files.Overwriting
import FieldGrouping.Proofs.Source.Fields
import FieldGrouping.Proofs.Lint.Isolation
import FieldGrouping.Proofs.Source.Reading
import FieldGrouping.Proofs.Source.ExpressionWords
import FieldGrouping.Proofs.Source.StatementWords
import FieldGrouping.Proofs.Source.TokenWords
import FieldGrouping.Proofs.Source.Definitions
import FieldGrouping.Proofs.Text.SnakeCase
import FieldGrouping.Proofs.Lint.Privacy
import FieldGrouping.Proofs.Text.NameLists
import FieldGrouping.Proofs.Config.Precedence
import FieldGrouping.Proofs.Config.Soundness
import FieldGrouping.Proofs.Text.Substitution
import FieldGrouping.Proofs.Text.WordBreaks
import FieldGrouping.Proofs.Text.LowerCase
import FieldGrouping.Proofs.Rule.Partition
import FieldGrouping.Proofs.Rule.Delivery
import FieldGrouping.Proofs.Config.Validation
import FieldGrouping.Proofs.Lint.Directives
import FieldGrouping.Proofs.Lint.Filtering
import FieldGrouping.Proofs.Source.Registrations
import FieldGrouping.Proofs.Source.Widening
import FieldGrouping.Proofs.Files.Naming
import FieldGrouping.Proofs.Report.Json
import FieldGrouping.Proofs.Command.Formats
import FieldGrouping.Proofs.Config.NameForms
import FieldGrouping.Proofs.Source.Collecting
