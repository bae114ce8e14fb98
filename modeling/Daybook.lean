import Daybook.Binary64.Basic
import Daybook.Binary64.Shortest
import Daybook.Calendar.Date
import Daybook.Calendar.DateRange
import Daybook.Calendar.Period
import Daybook.Calendar.Text
import Daybook.CommandLine.Arguments
import Daybook.CommandLine.Check
import Daybook.CommandLine.Error
import Daybook.CommandLine.Report
import Daybook.Decimal.Arithmetic
import Daybook.Decimal.Basic
import Daybook.Decimal.Division
import Daybook.Decimal.Rounding
import Daybook.Decimal.Text
import Daybook.Fault
import Daybook.Files
import Daybook.Json.Basic
import Daybook.Json.Printer
import Daybook.Json.Reader
import Daybook.Json.Record
import Daybook.Json.Token
import Daybook.Ledger.Basic
import Daybook.Ledger.Error
import Daybook.Ledger.Source
import Daybook.Main
import Daybook.Options
import Daybook.Pattern.Basic
import Daybook.Pattern.Bracket
import Daybook.Pattern.CharSet
import Daybook.Pattern.Escape
import Daybook.Pattern.Layout
import Daybook.Pattern.Plan
import Daybook.Pattern.Regex
import Daybook.Pattern.Syntax
import Daybook.Pattern.Tree
import Daybook.Pattern.Wildcard
import Daybook.Powers
import Daybook.Proofs.Calendar.DateRange
import Daybook.Proofs.Calendar.Day
import Daybook.Proofs.Calendar.Hull
import Daybook.Proofs.Calendar.Period
import Daybook.Proofs.Calendar.PeriodEnd
import Daybook.Proofs.Calendar.Text
import Daybook.Proofs.Decimal.Lossless
import Daybook.Proofs.Decimal.Text
import Daybook.Proofs.Decimal.Value
import Daybook.Proofs.Json.Record
import Daybook.Proofs.Ledger.Checking
import Daybook.Proofs.Ledger.Content
import Daybook.Proofs.Ledger.History
import Daybook.Proofs.Ledger.Map
import Daybook.Proofs.Ledger.Report
import Daybook.Proofs.Loading
import Daybook.Proofs.Options
import Daybook.Proofs.Outcome
import Daybook.Proofs.Pattern.Expression
import Daybook.Proofs.Pattern.Layout
import Daybook.Proofs.Pattern.Plan
import Daybook.Proofs.Pattern.Reading
import Daybook.Proofs.Pattern.Reads
import Daybook.Proofs.Pattern.Room
import Daybook.Proofs.Pattern.Wildcard
import Daybook.Proofs.Query.Compilation
import Daybook.Proofs.Query.Document
import Daybook.Proofs.Query.Equality
import Daybook.Proofs.Query.Hint
import Daybook.Proofs.Query.Union
import Daybook.Proofs.Rates.ByDate
import Daybook.Proofs.Rates.Linked
import Daybook.Proofs.Rates.PriceTable
import Daybook.Proofs.Rates.Rate
import Daybook.Proofs.Report.Arrival
import Daybook.Proofs.Report.Balance
import Daybook.Proofs.Report.Breakdown
import Daybook.Proofs.Report.Bucket
import Daybook.Proofs.Report.Contributions
import Daybook.Proofs.Report.Conversion
import Daybook.Proofs.Report.Converted
import Daybook.Proofs.Report.Cut
import Daybook.Proofs.Report.Daily
import Daybook.Proofs.Report.DailyAmounts
import Daybook.Proofs.Report.DailyLossless
import Daybook.Proofs.Report.Group
import Daybook.Proofs.Report.Grouping
import Daybook.Proofs.Report.Hiding
import Daybook.Proofs.Report.InheritedRange
import Daybook.Proofs.Report.Key
import Daybook.Proofs.Report.LastDay
import Daybook.Proofs.Report.Missing
import Daybook.Proofs.Report.Node
import Daybook.Proofs.Report.OwnCurrency
import Daybook.Proofs.Report.Pair
import Daybook.Proofs.Report.Parts
import Daybook.Proofs.Report.Posting
import Daybook.Proofs.Report.Pruning
import Daybook.Proofs.Report.Refinement
import Daybook.Proofs.Report.SameValues
import Daybook.Proofs.Report.Scaling
import Daybook.Proofs.Report.Scan
import Daybook.Proofs.Report.Spec
import Daybook.Proofs.Report.TrialBalance
import Daybook.Proofs.Report.Vanishing
import Daybook.Proofs.Report.Walk
import Daybook.Proofs.Template.Acceptance
import Daybook.Proofs.Template.Cycle
import Daybook.Proofs.Template.Document
import Daybook.Proofs.Template.Equality
import Daybook.Proofs.Template.Expansion
import Daybook.Proofs.Template.Passes
import Daybook.Proofs.Template.Scaling
import Daybook.Proofs.Template.Unchecked
import Daybook.Proofs.Voucher.Balance
import Daybook.Proofs.Voucher.Distinct
import Daybook.Proofs.Voucher.Json
import Daybook.Proofs.Voucher.Violations
import Daybook.Query.Document
import Daybook.Query.Expr
import Daybook.Query.Filter
import Daybook.Query.Tree
import Daybook.Rates.Basic
import Daybook.Rates.PriceTable
import Daybook.Report.Consolidation
import Daybook.Report.Daily
import Daybook.Report.Document
import Daybook.Report.Error
import Daybook.Report.Key
import Daybook.Report.Spec
import Daybook.Report.Subtotal
import Daybook.Report.Text
import Daybook.Report.Tree
import Daybook.Template.Basic
import Daybook.Template.Document
import Daybook.Template.Resolution
import Daybook.Template.Table
import Daybook.Text.Blank
import Daybook.Unicode.Age
import Daybook.Unicode.Break
import Daybook.Unicode.Bytes
import Daybook.Unicode.CaseFolding
import Daybook.Unicode.Category
import Daybook.Unicode.Property
import Daybook.Unicode.Runs
import Daybook.Unicode.Script
import Daybook.Voucher.Basic
import Daybook.Voucher.Json
import Daybook.Voucher.Text
import Daybook.Voucher.Validation
