import FormRules.Address.Ip
import FormRules.Address.Mailbox
import FormRules.Address.Web
import FormRules.Date.Calendar
import FormRules.Date.Format
import FormRules.Date.Writer
import FormRules.Engine.Basic
import FormRules.Engine.Custom
import FormRules.Engine.Event
import FormRules.Engine.Journal
import FormRules.Engine.Pass
import FormRules.Engine.RuleSet
import FormRules.Engine.View
import FormRules.ErrorStore
import FormRules.Field.Combined
import FormRules.Field.Qualified
import FormRules.Field.Source
import FormRules.Json.Printer
import FormRules.Json.Reader
import FormRules.Json.Token
import FormRules.Json.Tree
import FormRules.Number.Coercion
import FormRules.Number.Double
import FormRules.Number.Literal
import FormRules.Number.Numeral
import FormRules.Number.Precision
import FormRules.Number.Shortest
import FormRules.Param
import FormRules.Pattern
import FormRules.Pattern.Bracket
import FormRules.Pattern.Class
import FormRules.Pattern.Cursor
import FormRules.Pattern.Edge
import FormRules.Pattern.Escape
import FormRules.Pattern.Expr
import FormRules.Pattern.Footprint
import FormRules.Pattern.Footprint.Encoding
import FormRules.Pattern.Footprint.Sharing
import FormRules.Pattern.Footprint.Tally
import FormRules.Pattern.Footprint.Words
import FormRules.Pattern.Search
import FormRules.Pattern.Syntax
import FormRules.Proofs.Pass.Abort
import FormRules.Proofs.Pass.AtTurn
import FormRules.Proofs.Pass.Completion
import FormRules.Proofs.Pass.Course
import FormRules.Proofs.Pass.Failing
import FormRules.Proofs.Pass.Fate
import FormRules.Proofs.Pass.Frame
import FormRules.Proofs.Pass.Ledger
import FormRules.Proofs.Pass.Renumber
import FormRules.Proofs.Pass.Result
import FormRules.Proofs.Pass.SameForm
import FormRules.Proofs.Pass.Schedule
import FormRules.Proofs.Pass.Stale
import FormRules.Proofs.Pass.Timing
import FormRules.Proofs.Store.Recording
import FormRules.Rule.Catalog
import FormRules.Rule.Comparison
import FormRules.Rule.Content
import FormRules.Rule.Context
import FormRules.Rule.Dates
import FormRules.Rule.Fault
import FormRules.Rule.Length
import FormRules.Rule.Range
import FormRules.Rule.Registry
import FormRules.Settings
import FormRules.Template
import FormRules.Text.Age
import FormRules.Text.Blank
import FormRules.Text.Boundary
import FormRules.Text.CaseFold
import FormRules.Text.Category
import FormRules.Text.CharSet
import FormRules.Text.Digit
import FormRules.Text.Pieces
import FormRules.Text.Property
import FormRules.Text.RangeTable
import FormRules.Text.Script
import FormRules.Text.Trait.Derived
import FormRules.Text.Trait.Listed
import FormRules.Text.WordChar
import FormRules.Value
import FormRules.Proofs.Pass.Content
import FormRules.Proofs.Pass.Scope
import FormRules.Proofs.Pass.History
import FormRules.Proofs.Pass.Marking
import FormRules.Proofs.Pass.Arrival
import FormRules.Proofs.Pass.Configuration
import FormRules.Proofs.Pass.Optional
import FormRules.Proofs.Pass.Messages
import FormRules.Proofs.Date.Digits
import FormRules.Proofs.Date.Spelling
import FormRules.Proofs.Date.Reading
import FormRules.Proofs.Date.Parts
import FormRules.Proofs.Date.Letters
import FormRules.Proofs.Date.RoundTrip
import FormRules.Proofs.Pass.Decisions
import FormRules.Proofs.Pass.PlainField
import FormRules.Proofs.Pass.Reorder
import FormRules.Proofs.Store.Calls
import FormRules.Proofs.Rule.Passing
import FormRules.Proofs.Date.Order
import FormRules.Proofs.Date.TextOrder
import FormRules.Proofs.Address.Dotted
import FormRules.Proofs.Address.Authority
import FormRules.Proofs.Address.Internal
import FormRules.Proofs.Number.Nearest
import FormRules.Proofs.Number.Rounding
import FormRules.Proofs.Template.Segments
import FormRules.Proofs.Number.Spelling
import FormRules.Proofs.Number.Scanning
import FormRules.Proofs.Number.Reading
import FormRules.Proofs.Number.Leading
import FormRules.Proofs.Number.Literal
import FormRules.Proofs.Number.Whole
import FormRules.Proofs.Text.Pieces
import FormRules.Proofs.Text.Ranges
import FormRules.Proofs.Text.Trimming
import FormRules.Proofs.Number.Agreement
import FormRules.Proofs.Number.Exact
import FormRules.Proofs.Number.Display
import FormRules.Proofs.Number.IntegerText
import FormRules.Proofs.Number.Overflow
import FormRules.Proofs.Rule.Numbers
import FormRules.Proofs.Text.Words
import FormRules.Proofs.Number.Counts
import FormRules.Proofs.Rule.WordCounts
import FormRules.Proofs.Pattern.Positions
import FormRules.Proofs.Pattern.Matching
import FormRules.Proofs.Pattern.Preference
import FormRules.Proofs.Pattern.Writing
import FormRules.Proofs.Rule.Alphabets
import FormRules.Proofs.Address.Mailboxes
import FormRules.Proofs.Pattern.Naming
import FormRules.Proofs.Number.Search
import FormRules.Proofs.Address.Hosts
import FormRules.Proofs.Address.WebSearch
