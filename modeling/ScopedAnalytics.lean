import ScopedAnalytics.Client.Session
import ScopedAnalytics.Main
import ScopedAnalytics.Point.Store
import ScopedAnalytics.Service.Session
import ScopedAnalytics.Proofs.Calendar.Ordering
import ScopedAnalytics.Proofs.Point.Contents
import ScopedAnalytics.Proofs.Timeline.Buckets
import ScopedAnalytics.Proofs.Timeline.Chronicle
import ScopedAnalytics.Proofs.Timeline.Merging
import ScopedAnalytics.Proofs.Dispatch.Running
import ScopedAnalytics.Proofs.Dispatch.Steps
import ScopedAnalytics.Proofs.Fetch.Fates
import ScopedAnalytics.Proofs.Dispatch.Settling
import ScopedAnalytics.Proofs.Dispatch.Departure
import ScopedAnalytics.Proofs.Dispatch.Outcome
import ScopedAnalytics.Proofs.Service.Planning
import ScopedAnalytics.Proofs.Service.Settlement
import ScopedAnalytics.Proofs.Dispatch.Progress
import ScopedAnalytics.Proofs.Dispatch.Calm
import ScopedAnalytics.Proofs.Dispatch.Answers
import ScopedAnalytics.Proofs.Meter.Totals
import ScopedAnalytics.Proofs.Service.Answers
import ScopedAnalytics.Proofs.Numeral.Overflow
import ScopedAnalytics.Proofs.Row.Refusals
import ScopedAnalytics.Proofs.Row.Answering
import ScopedAnalytics.Proofs.Dispatch.Traffic
import ScopedAnalytics.Proofs.Service.Isolation
import ScopedAnalytics.Proofs.Numeral.Whole
import ScopedAnalytics.Proofs.Service.Checks
import ScopedAnalytics.Proofs.Meter.Counting
import ScopedAnalytics.Proofs.Service.Accounting
import ScopedAnalytics.Proofs.Document.Order
import ScopedAnalytics.Proofs.Selection.Extraction
import ScopedAnalytics.Proofs.Numeral.Places
import ScopedAnalytics.Proofs.Calendar.Timestamps
import ScopedAnalytics.Proofs.Row.Identifiers
import ScopedAnalytics.Proofs.Row.Rendering
import ScopedAnalytics.Proofs.Client.Statuses
import ScopedAnalytics.Proofs.Dispatch.Signals
import ScopedAnalytics.Proofs.Dispatch.Verdicts
import ScopedAnalytics.Proofs.Client.Endings
import ScopedAnalytics.Proofs.Program.Courses
import ScopedAnalytics.Proofs.Program.Outcomes
import ScopedAnalytics.Proofs.Calendar.Formats
import ScopedAnalytics.Proofs.Calendar.Reading
import ScopedAnalytics.Proofs.Dispatch.Schedule
import ScopedAnalytics.Proofs.Dispatch.Precedence
import ScopedAnalytics.Proofs.Dispatch.Expiry
import ScopedAnalytics.Proofs.Service.Precedence
import ScopedAnalytics.Proofs.Service.Expiry
import ScopedAnalytics.Proofs.Http.Percent
import ScopedAnalytics.Proofs.Http.Segments
import ScopedAnalytics.Proofs.Http.DomainName
import ScopedAnalytics.Proofs.Http.Splitting
import ScopedAnalytics.Proofs.Http.Normal
import ScopedAnalytics.Proofs.Http.Below
import ScopedAnalytics.Proofs.Client.Sessions
import ScopedAnalytics.Proofs.Point.Union
import ScopedAnalytics.Proofs.Timeline.Composition
import ScopedAnalytics.Proofs.Calendar.TextOrder
import ScopedAnalytics.Proofs.Timeline.Printing
import ScopedAnalytics.Proofs.Row.Dependence
import ScopedAnalytics.Proofs.Json.Depth
import ScopedAnalytics.Proofs.Client.Bodies
import ScopedAnalytics.Proofs.Timeline.Arrangement
import ScopedAnalytics.Proofs.Point.Reachable
import ScopedAnalytics.Proofs.Selection.Measures
import ScopedAnalytics.Proofs.Selection.Representation
import ScopedAnalytics.Proofs.Service.Coverage
import ScopedAnalytics.Proofs.Selection.Noise
import ScopedAnalytics.Proofs.Query.Naming
import ScopedAnalytics.Proofs.Query.Recovery
import ScopedAnalytics.Proofs.Json.Same
import ScopedAnalytics.Proofs.Query.Distinction
import ScopedAnalytics.Proofs.Service.Limits
import ScopedAnalytics.Proofs.Numeral.Integers
import ScopedAnalytics.Proofs.Row.Counts
import ScopedAnalytics.Proofs.Row.Identification
import ScopedAnalytics.Proofs.Fetch.Reports
import ScopedAnalytics.Proofs.Dispatch.Sequence
import ScopedAnalytics.Proofs.Service.Reporting
import ScopedAnalytics.Proofs.Settings.Hosts
import ScopedAnalytics.Proofs.CommandLine.Values
import ScopedAnalytics.Proofs.CommandLine.Occurrences
import ScopedAnalytics.Proofs.CommandLine.Arguments
import ScopedAnalytics.Proofs.CommandLine.Arrangement
import ScopedAnalytics.Proofs.CommandLine.Acceptance
import ScopedAnalytics.Proofs.CommandLine.Overriding
import ScopedAnalytics.Proofs.Json.Written
import ScopedAnalytics.Proofs.Journal.Filtering
import ScopedAnalytics.Proofs.Point.Storage
import ScopedAnalytics.Proofs.Point.Naming
import ScopedAnalytics.Proofs.Row.Printing
