import FeatureChoice.Calendar
import FeatureChoice.Command.Arguments
import FeatureChoice.Command.Assignment
import FeatureChoice.Command.Read
import FeatureChoice.Command.Report
import FeatureChoice.Command.Run
import FeatureChoice.Command.Switch
import FeatureChoice.Command.Usage
import FeatureChoice.Data.OrderedMap
import FeatureChoice.Deployment.Logging
import FeatureChoice.Deployment.Settings
import FeatureChoice.Deployment.SharedCache
import FeatureChoice.Deployment.State
import FeatureChoice.Expression.Cursor
import FeatureChoice.Expression.Describe
import FeatureChoice.Expression.Evaluate
import FeatureChoice.Expression.Parse
import FeatureChoice.Expression.Term
import FeatureChoice.Expression.Token
import FeatureChoice.Feature.Bootstrap
import FeatureChoice.Feature.Cache
import FeatureChoice.Feature.Name
import FeatureChoice.Feature.Probe
import FeatureChoice.Feature.Query
import FeatureChoice.Feature.Session
import FeatureChoice.Files.Path
import FeatureChoice.Files.Tree
import FeatureChoice.Host.Context
import FeatureChoice.Host.Document
import FeatureChoice.Host.Fault
import FeatureChoice.Host.Run
import FeatureChoice.Host.State
import FeatureChoice.Layout.Cells
import FeatureChoice.Layout.Table
import FeatureChoice.Layout.Tree
import FeatureChoice.Layout.Wrap
import FeatureChoice.Log.Conversion
import FeatureChoice.Log.Journal
import FeatureChoice.Log.Level
import FeatureChoice.Log.Template
import FeatureChoice.Log.TemplateError
import FeatureChoice.Main
import FeatureChoice.Number.Binary64
import FeatureChoice.Number.DigitLimit
import FeatureChoice.Number.Numeral
import FeatureChoice.Number.Rounded
import FeatureChoice.Number.Shortest
import FeatureChoice.Proofs.Command.Ending
import FeatureChoice.Proofs.Command.Layering
import FeatureChoice.Proofs.Deployment.Building
import FeatureChoice.Proofs.Deployment.Lifecycle
import FeatureChoice.Proofs.Deployment.Loading
import FeatureChoice.Proofs.Deployment.Operation
import FeatureChoice.Proofs.Deployment.Settings
import FeatureChoice.Proofs.Deployment.Steps
import FeatureChoice.Proofs.Expression.Cutting
import FeatureChoice.Proofs.Expression.Extent
import FeatureChoice.Proofs.Expression.Grammar
import FeatureChoice.Proofs.Expression.Mentions
import FeatureChoice.Proofs.Expression.Reading
import FeatureChoice.Proofs.Expression.Tokens
import FeatureChoice.Proofs.Feature.Aloof
import FeatureChoice.Proofs.Feature.Answers
import FeatureChoice.Proofs.Feature.Arrival
import FeatureChoice.Proofs.Feature.Bootstrapping
import FeatureChoice.Proofs.Feature.Forcing
import FeatureChoice.Proofs.Feature.History
import FeatureChoice.Proofs.Feature.Independence
import FeatureChoice.Proofs.Feature.Inquiry
import FeatureChoice.Proofs.Feature.Laziness
import FeatureChoice.Proofs.Feature.Memoization
import FeatureChoice.Proofs.Feature.Quiet
import FeatureChoice.Proofs.Feature.Scope
import FeatureChoice.Proofs.Feature.Stocking
import FeatureChoice.Proofs.Feature.Transparency
import FeatureChoice.Proofs.Log.Destinations
import FeatureChoice.Proofs.Log.Facility
import FeatureChoice.Proofs.Log.FailedSetup
import FeatureChoice.Proofs.Log.Installed
import FeatureChoice.Proofs.Log.Objects
import FeatureChoice.Proofs.Number.DigitLimit
import FeatureChoice.Proofs.Run.Comparison
import FeatureChoice.Proofs.Run.Coupling
import FeatureChoice.Proofs.Run.Invariant
import FeatureChoice.Proofs.Run.Lifting
import FeatureChoice.Proofs.Run.Neutral
import FeatureChoice.Proofs.Seed.Exactness
import FeatureChoice.Proofs.Seed.Loading
import FeatureChoice.Proofs.Seed.Validation
import FeatureChoice.Proofs.Selection.Agreement
import FeatureChoice.Proofs.Selection.Asking
import FeatureChoice.Proofs.Selection.Conditional
import FeatureChoice.Proofs.Selection.Dependence
import FeatureChoice.Proofs.Selection.Descent
import FeatureChoice.Proofs.Selection.Explanation
import FeatureChoice.Proofs.Selection.Failure
import FeatureChoice.Proofs.Selection.Inspection
import FeatureChoice.Proofs.Selection.Repetition
import FeatureChoice.Proofs.Selection.Resumption
import FeatureChoice.Proofs.Selection.Signals
import FeatureChoice.Proofs.Selection.Skipping
import FeatureChoice.Proofs.Selection.Tracing
import FeatureChoice.Proofs.Selection.Ways
import FeatureChoice.Proofs.Settings.Overriding
import FeatureChoice.Proofs.Text.Utf8
import FeatureChoice.Seed.Error
import FeatureChoice.Seed.Load
import FeatureChoice.Seed.Parse
import FeatureChoice.Selection.Decision
import FeatureChoice.Selection.Evaluate
import FeatureChoice.Selection.Explain
import FeatureChoice.Selection.Resolve
import FeatureChoice.Selection.Trace
import FeatureChoice.Settings.Basic
import FeatureChoice.Settings.EnvFile
import FeatureChoice.Settings.Environment
import FeatureChoice.Text.Blank
import FeatureChoice.Text.Case
import FeatureChoice.Text.CaseTable
import FeatureChoice.Text.CasedTable
import FeatureChoice.Text.CellTable
import FeatureChoice.Text.Digit
import FeatureChoice.Text.JsonText
import FeatureChoice.Text.Lines
import FeatureChoice.Text.Quoted
import FeatureChoice.Text.Ranges
import FeatureChoice.Text.Unprintable
import FeatureChoice.Text.Utf8
import FeatureChoice.Value
import FeatureChoice.Yaml.Cursor
import FeatureChoice.Yaml.Data
import FeatureChoice.Yaml.Error
import FeatureChoice.Yaml.Implicit
import FeatureChoice.Yaml.Lexer
import FeatureChoice.Yaml.Node
import FeatureChoice.Yaml.Scalar
import FeatureChoice.Yaml.Token
import FeatureChoice.Yaml.Written
