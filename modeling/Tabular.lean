import Tabular.Analysis.Document
import Tabular.Analysis.Pivot
import Tabular.Analysis.Quality
import Tabular.Analysis.Statistics
import Tabular.Assoc
import Tabular.Cache.Basic
import Tabular.Cache.Key
import Tabular.Calendar.Date
import Tabular.Calendar.DayParts
import Tabular.Calendar.Phrase
import Tabular.Calendar.Word
import Tabular.Calendar.YearFirst
import Tabular.Cell
import Tabular.Cell.Instant
import Tabular.Cell.Number
import Tabular.Cell.Value
import Tabular.Change.Anonymization
import Tabular.Change.Cleaning
import Tabular.Change.Document
import Tabular.Fault
import Tabular.Filter.Document
import Tabular.Filter.Evaluation
import Tabular.Filter.Naming
import Tabular.Filter.Node
import Tabular.Filter.Operator
import Tabular.Filter.Validation
import Tabular.Join.Alias
import Tabular.Join.Basic
import Tabular.Join.Document
import Tabular.Journal.Basic
import Tabular.Journal.Format
import Tabular.Journal.Level
import Tabular.Json.Basic
import Tabular.Json.Encoding
import Tabular.Json.Parts
import Tabular.Json.Reader
import Tabular.Json.Shape
import Tabular.Json.Tagged
import Tabular.Json.Writer
import Tabular.Number.Amount
import Tabular.Number.Binary64
import Tabular.Number.Decimal
import Tabular.Number.Shortest
import Tabular.Number.Summation
import Tabular.Number.Written
import Tabular.Pattern.CaseKin
import Tabular.Pattern.Matcher
import Tabular.Pattern.Reader
import Tabular.Pattern.Syntax
import Tabular.Proofs.Analysis.Distribution
import Tabular.Proofs.Analysis.DrillDown
import Tabular.Proofs.Analysis.Export
import Tabular.Proofs.Analysis.Fences
import Tabular.Proofs.Analysis.Grid
import Tabular.Proofs.Analysis.Grouping
import Tabular.Proofs.Analysis.Mode
import Tabular.Proofs.Analysis.Outliers
import Tabular.Proofs.Analysis.Quality
import Tabular.Proofs.Analysis.Report
import Tabular.Proofs.Analysis.Scan
import Tabular.Proofs.Analysis.Sharing
import Tabular.Proofs.Analysis.Statistics
import Tabular.Proofs.Analysis.Tally
import Tabular.Proofs.Analysis.Texts
import Tabular.Proofs.Analysis.Totals
import Tabular.Proofs.Assoc
import Tabular.Proofs.Cache.History
import Tabular.Proofs.Cache.Recency
import Tabular.Proofs.Cell.Display
import Tabular.Proofs.Cell.Reading
import Tabular.Proofs.Cell.Value
import Tabular.Proofs.Change.Deduplication
import Tabular.Proofs.Change.Disclosure
import Tabular.Proofs.Change.Numbers
import Tabular.Proofs.Change.Preview
import Tabular.Proofs.Change.Titles
import Tabular.Proofs.Change.Tokens
import Tabular.Proofs.Filter.Answers
import Tabular.Proofs.Filter.Composition
import Tabular.Proofs.Filter.Conditions
import Tabular.Proofs.Filter.Document
import Tabular.Proofs.Filter.Editing
import Tabular.Proofs.Filter.Evaluation
import Tabular.Proofs.Filter.Listing
import Tabular.Proofs.Filter.Narrowing
import Tabular.Proofs.Filter.Opposites
import Tabular.Proofs.Filter.Outline
import Tabular.Proofs.Filter.Places
import Tabular.Proofs.Filter.Text
import Tabular.Proofs.Filter.TextTree
import Tabular.Proofs.Filter.Validation
import Tabular.Proofs.Join.Equivalence
import Tabular.Proofs.Join.Merging
import Tabular.Proofs.Join.Mirror
import Tabular.Proofs.Join.NestedLoop
import Tabular.Proofs.Join.Result
import Tabular.Proofs.Join.Survival
import Tabular.Proofs.Json.Number
import Tabular.Proofs.Json.RoundTrip
import Tabular.Proofs.Json.Text
import Tabular.Proofs.Number.Ascending
import Tabular.Proofs.Number.Counts
import Tabular.Proofs.Number.Decimal
import Tabular.Proofs.Number.Finite
import Tabular.Proofs.Number.Nearness
import Tabular.Proofs.Number.Numeral
import Tabular.Proofs.Number.Range
import Tabular.Proofs.Number.Rounding
import Tabular.Proofs.Number.Shortest
import Tabular.Proofs.Number.Spelling
import Tabular.Proofs.Number.Value
import Tabular.Proofs.Number.Written
import Tabular.Proofs.Number.Zeros
import Tabular.Proofs.Outcome
import Tabular.Proofs.Service.Agreement
import Tabular.Proofs.Service.Ending
import Tabular.Proofs.Service.Isolation
import Tabular.Proofs.Service.Operations
import Tabular.Proofs.Service.Payloads
import Tabular.Proofs.Service.Reporting
import Tabular.Proofs.Service.Requests
import Tabular.Proofs.Table.Columns
import Tabular.Proofs.Table.Description
import Tabular.Proofs.Table.Duplicates
import Tabular.Proofs.Table.Frame
import Tabular.Proofs.Text.CaseMapping
import Tabular.Proofs.Text.CaseRuns
import Tabular.Proofs.Text.CaseTables
import Tabular.Proofs.Text.LowerCase
import Tabular.Proofs.Text.Pieces
import Tabular.Proofs.Text.Recasing
import Tabular.Proofs.Text.Units
import Tabular.Proofs.Typing.Dominance
import Tabular.Proofs.Typing.Percentage
import Tabular.Proofs.View.Comparison
import Tabular.Proofs.View.IgnoringCase
import Tabular.Proofs.View.Parts
import Tabular.Proofs.View.Sorting
import Tabular.Proofs.Workspace.Afresh
import Tabular.Proofs.Workspace.Atomicity
import Tabular.Proofs.Workspace.Change
import Tabular.Proofs.Workspace.Clearing
import Tabular.Proofs.Workspace.Contents
import Tabular.Proofs.Workspace.Editing
import Tabular.Proofs.Workspace.FilterKeys
import Tabular.Proofs.Workspace.Following
import Tabular.Proofs.Workspace.Identity
import Tabular.Proofs.Workspace.Integrity
import Tabular.Proofs.Workspace.Joins
import Tabular.Proofs.Workspace.Keeping
import Tabular.Proofs.Workspace.Ledger
import Tabular.Proofs.Workspace.ListedValues
import Tabular.Proofs.Workspace.Looking
import Tabular.Proofs.Workspace.Offering
import Tabular.Proofs.Workspace.Operation
import Tabular.Proofs.Workspace.Reading
import Tabular.Proofs.Workspace.RecordedOperations
import Tabular.Proofs.Workspace.Recording
import Tabular.Proofs.Workspace.Refinement
import Tabular.Proofs.Workspace.Remembering
import Tabular.Proofs.Workspace.Roster
import Tabular.Proofs.Workspace.Steps
import Tabular.Proofs.Workspace.Twins
import Tabular.Proofs.Workspace.Validity
import Tabular.Proofs.Workspace.ViewParts
import Tabular.Row
import Tabular.Schema.Check
import Tabular.Schema.Issue
import Tabular.Service.Basic
import Tabular.Service.Document
import Tabular.Service.Operation
import Tabular.Service.Payload
import Tabular.Service.Request
import Tabular.Service.Resource
import Tabular.Service.Response
import Tabular.Settings
import Tabular.Settings.Document
import Tabular.Settings.Environment
import Tabular.Slice
import Tabular.Table.Basic
import Tabular.Table.Document
import Tabular.Table.Frame
import Tabular.Text.Blank
import Tabular.Text.Case
import Tabular.Text.CaseTable
import Tabular.Text.DecimalDigit
import Tabular.Text.Percent
import Tabular.Text.Unit
import Tabular.Text.WordCharacter
import Tabular.Typing.ColumnType
import Tabular.Typing.SmartType
import Tabular.View.Search
import Tabular.View.Sort
import Tabular.Workspace.Basic
import Tabular.Workspace.Cleaning
import Tabular.Workspace.Filters
import Tabular.Workspace.Store
import Tabular.Workspace.Tables
import Tabular.Workspace.Views
