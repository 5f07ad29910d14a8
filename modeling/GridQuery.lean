import GridQuery.Backend.Memory
import GridQuery.Backend.Script
import GridQuery.Main
import GridQuery.Proofs.Engine.Agreement
import GridQuery.Proofs.Engine.CachedRun
import GridQuery.Proofs.Engine.Invalidation
import GridQuery.Proofs.Plan.Disabled
import GridQuery.Proofs.Plan.Names
import GridQuery.Proofs.Plan.Page
import GridQuery.Proofs.Plan.Where
import GridQuery.Proofs.View.Zone
import GridQuery.Proofs.Plan.Assembly
import GridQuery.Proofs.Plan.Outline
import GridQuery.Proofs.Engine.Dialects
import GridQuery.Proofs.Plan.Secrecy
import GridQuery.Proofs.Engine.LoggedSql
import GridQuery.Proofs.Grid.Record
import GridQuery.Proofs.Backend.Answers
import GridQuery.Proofs.Engine.Records
import GridQuery.Proofs.Engine.LoadedViews
import GridQuery.Proofs.Http.Posted
import GridQuery.Proofs.Http.Status
import GridQuery.Proofs.Backend.Transcript
import GridQuery.Proofs.Grid.Collector
import GridQuery.Proofs.Plan.Findings
import GridQuery.Proofs.Widget.Reports
import GridQuery.Proofs.Http.Counted
import GridQuery.Proofs.Widget.Terms
import GridQuery.Proofs.Plan.Contains
import GridQuery.Proofs.Sql.Joined
import GridQuery.Proofs.Plan.Entries
import GridQuery.Proofs.Plan.SortItems
import GridQuery.Proofs.Widget.Sorting
import GridQuery.Proofs.Json.Literal
import GridQuery.Proofs.Plan.Integers
import GridQuery.Proofs.Number.Integer
import GridQuery.Proofs.Plan.Shown
import GridQuery.Proofs.Calendar.RoundTrip
import GridQuery.Proofs.Plan.TypedTerms
import GridQuery.Proofs.Text.Bytes
import GridQuery.Proofs.View.Checks
import GridQuery.Proofs.Calendar.Cells
import GridQuery.Proofs.Http.Named
import GridQuery.Proofs.Json.Rewritten
import GridQuery.Proofs.Widget.Lenient
import GridQuery.Proofs.Sql.RawType
import GridQuery.Proofs.Widget.Window
import GridQuery.Proofs.Program.Preflight
import GridQuery.Proofs.Sql.Written
import GridQuery.Proofs.Plan.Conjunction
import GridQuery.Proofs.Sql.Identifier
