import Intake.Answers
import Intake.BuiltIn.Forms
import Intake.Calendar
import Intake.DateEntry
import Intake.Definition.Fields
import Intake.Definition.File
import Intake.Definition.Form
import Intake.Definition.Issue
import Intake.Definition.Names
import Intake.Definition.Reading
import Intake.Definition.Registry
import Intake.Definition.RuleMaker
import Intake.Fault
import Intake.Form.Basic
import Intake.Form.Cleaning
import Intake.Form.Condition
import Intake.Form.Editing
import Intake.Form.Host
import Intake.Form.Lint
import Intake.Form.Misfit
import Intake.Form.OwnRule
import Intake.Form.Reconcile
import Intake.Form.Record
import Intake.Form.Report
import Intake.Form.Wording
import Intake.Net.Address
import Intake.Net.HostName
import Intake.Net.Label
import Intake.Net.Mailbox
import Intake.Net.NameChart
import Intake.Net.Punycode
import Intake.Net.WebAddress
import Intake.Number.Binary64
import Intake.Number.Numeral
import Intake.Number.Shortest
import Intake.Pattern.CharSet
import Intake.Pattern.Escape
import Intake.Pattern.Group
import Intake.Pattern.Match
import Intake.Pattern.OptionChange
import Intake.Pattern.Options
import Intake.Pattern.Problem
import Intake.Pattern.Reader
import Intake.Pattern.Repetition
import Intake.Pattern.Source
import Intake.Pattern.Syntax
import Intake.Proofs.Answers
import Intake.Proofs.BuiltIn.Deliverables
import Intake.Proofs.BuiltIn.TaskNumber
import Intake.Proofs.DateEntry
import Intake.Proofs.Definition.Alike
import Intake.Proofs.Definition.Escapes
import Intake.Proofs.Definition.Naming
import Intake.Proofs.Definition.Reading
import Intake.Proofs.Definition.Respelling
import Intake.Proofs.Definition.Sites
import Intake.Proofs.Definition.Spelling
import Intake.Proofs.Fault
import Intake.Proofs.Form.Blank
import Intake.Proofs.Form.Cleaning
import Intake.Proofs.Form.Convergence
import Intake.Proofs.Form.Counterpart
import Intake.Proofs.Form.Dependence
import Intake.Proofs.Form.EditSession
import Intake.Proofs.Form.Emptying
import Intake.Proofs.Form.Faults
import Intake.Proofs.Form.HiddenFields
import Intake.Proofs.Form.Hooks
import Intake.Proofs.Form.Invariant
import Intake.Proofs.Form.Lint
import Intake.Proofs.Form.Membership
import Intake.Proofs.Form.OnePass
import Intake.Proofs.Form.Order
import Intake.Proofs.Form.Record
import Intake.Proofs.Form.Sanitize
import Intake.Proofs.Form.Seeding
import Intake.Proofs.Form.Settling
import Intake.Proofs.Form.Typed
import Intake.Proofs.Lookup
import Intake.Proofs.Net.HostName
import Intake.Proofs.Net.WebAddress
import Intake.Proofs.Number.Binary64
import Intake.Proofs.Number.DecimalText
import Intake.Proofs.Number.Nearest
import Intake.Proofs.Number.Range
import Intake.Proofs.Number.Reading
import Intake.Proofs.Number.Shortest
import Intake.Proofs.Schema.Cache
import Intake.Proofs.Schema.Checking
import Intake.Proofs.Schema.Findings
import Intake.Proofs.Schema.Fingerprint
import Intake.Proofs.Schema.Influence
import Intake.Proofs.Schema.Layers
import Intake.Proofs.Schema.NumberBounds
import Intake.Proofs.Schema.Recency
import Intake.Proofs.Schema.Sizes
import Intake.Proofs.Submission.Desk
import Intake.Proofs.Submission.Office
import Intake.Proofs.Submission.Required
import Intake.Proofs.Submission.Retry
import Intake.Proofs.Submission.Session
import Intake.Proofs.Text.Blank
import Intake.Proofs.Text.Block
import Intake.Proofs.Text.Case
import Intake.Proofs.Text.Chart
import Intake.Proofs.Text.Digit
import Intake.Proofs.Text.Markup
import Intake.Proofs.Text.Span
import Intake.Proofs.Text.Stripping
import Intake.Proofs.Text.Tag
import Intake.Proofs.Ticket
import Intake.Proofs.Value.Amount
import Intake.Proofs.Value.Canonical
import Intake.Proofs.Value.CanonicalText
import Intake.Proofs.Value.Data
import Intake.Proofs.Value.Equality
import Intake.Proofs.Value.Integer
import Intake.Proofs.Value.LongInteger
import Intake.Proofs.Value.Sameness
import Intake.Proofs.Value.Written
import Intake.Proofs.Value.WrittenAlike
import Intake.Schema.Basic
import Intake.Schema.Cache
import Intake.Schema.Rule
import Intake.Settings
import Intake.Submission.Basic
import Intake.Text.Blank
import Intake.Text.Case
import Intake.Text.Chart
import Intake.Text.Digest
import Intake.Text.Digit
import Intake.Text.Markup
import Intake.Text.Name
import Intake.Text.Normal
import Intake.Text.Path
import Intake.Text.Quoted
import Intake.Text.Utf8
import Intake.Text.Word
import Intake.Ticket
import Intake.Value.Amount
import Intake.Value.Basic
import Intake.Value.Canonical
import Intake.Value.Equality
import Intake.Value.Shown
import Intake.Yaml.Block
import Intake.Yaml.Chars
import Intake.Yaml.Document
import Intake.Yaml.File
import Intake.Yaml.Layout
import Intake.Yaml.Node
import Intake.Yaml.Plain
import Intake.Yaml.Property
import Intake.Yaml.Quoted
import Intake.Yaml.Scalar
import Intake.Yaml.Tag
import Intake.Yaml.Token
