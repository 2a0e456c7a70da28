import WidgetBoard.Text.Blank
import WidgetBoard.Text.Percent
import WidgetBoard.Decimal.Reading
import WidgetBoard.Decimal.Shortest
import WidgetBoard.Dictionary
import WidgetBoard.Json.Basic
import WidgetBoard.Json.Parser
import WidgetBoard.Json.Printer
import WidgetBoard.Instant
import WidgetBoard.Json.Reader
import WidgetBoard.Appearance
import WidgetBoard.Dimension
import WidgetBoard.Filter
import WidgetBoard.Metric
import WidgetBoard.OrderBy
import WidgetBoard.Statement
import WidgetBoard.View
import WidgetBoard.Config
import WidgetBoard.Config.Normal
import WidgetBoard.Config.Check
import WidgetBoard.Wire.Config
import WidgetBoard.Grid
import WidgetBoard.Grid.Resize
import WidgetBoard.Dashboard
import WidgetBoard.Dashboard.Layout
import WidgetBoard.Wire.Dashboard
import WidgetBoard.Settings
import WidgetBoard.Store.Call
import WidgetBoard.Store.Memory
import WidgetBoard.Service.Action
import WidgetBoard.Service.Plan
import WidgetBoard.Service.Debounce
import WidgetBoard.Service.Session
import WidgetBoard.Wire.Service
import WidgetBoard.Http.Token
import WidgetBoard.Http.MediaType
import WidgetBoard.Http.Target
import WidgetBoard.Http.Path
import WidgetBoard.Http.Status
import WidgetBoard.Http.Body
import WidgetBoard.Http.Exchange
import WidgetBoard.Http.Resource
import WidgetBoard.Http.Serve
import WidgetBoard.Store.Remote
import WidgetBoard.Proofs.Lists
import WidgetBoard.Proofs.Names
import WidgetBoard.Proofs.Canonical
import WidgetBoard.Proofs.Savable
import WidgetBoard.Proofs.Settled
import WidgetBoard.Proofs.Records
import WidgetBoard.Proofs.Buckets
import WidgetBoard.Proofs.WireForm
import WidgetBoard.Proofs.Reread
import WidgetBoard.Proofs.Contracts
import WidgetBoard.Proofs.Edits
import WidgetBoard.Proofs.Interleaving
import WidgetBoard.Proofs.Gate
import WidgetBoard.Proofs.Guarded
import WidgetBoard.Proofs.Distinct
import WidgetBoard.Proofs.Relayout
import WidgetBoard.Proofs.LayoutRequests
import WidgetBoard.Proofs.StoreStates
import WidgetBoard.Proofs.Performed
import WidgetBoard.Proofs.Stored
import WidgetBoard.Proofs.Turns
import WidgetBoard.Proofs.WidgetWrites
import WidgetBoard.Proofs.FreshIds
import WidgetBoard.Proofs.LateLayouts
import WidgetBoard.Proofs.SectionEdits
import WidgetBoard.Proofs.LostUpdates
import WidgetBoard.Proofs.Refusals
import WidgetBoard.Proofs.Frames
import WidgetBoard.Proofs.WidgetRoutes
import WidgetBoard.Proofs.Worker
import WidgetBoard.Proofs.SavedFilters
import WidgetBoard.Proofs.Bursts
import WidgetBoard.Proofs.Room
import WidgetBoard.Proofs.Gestures
import WidgetBoard.Proofs.ColumnRange
import WidgetBoard.Proofs.References
import WidgetBoard.Proofs.Lossless
import WidgetBoard.Proofs.Packing
import WidgetBoard.Proofs.Greedy
import WidgetBoard.Proofs.ByteGrid
import WidgetBoard.Proofs.NewWidth
import WidgetBoard.Proofs.Resized
import WidgetBoard.Proofs.Replay
import WidgetBoard.Proofs.LaidOut
import WidgetBoard.Proofs.Doubles
import WidgetBoard.Proofs.Drags
import WidgetBoard.Proofs.StaleLayouts
import WidgetBoard.Proofs.Retyping
import WidgetBoard.Proofs.Defaults
import WidgetBoard.Proofs.Questions
import WidgetBoard.Proofs.OwnNames
import WidgetBoard.Proofs.Windows
import WidgetBoard.Proofs.Selection
import WidgetBoard.Proofs.Growth
import WidgetBoard.Proofs.Moves
import WidgetBoard.Proofs.RowNumbers
import WidgetBoard.Proofs.Addresses
import WidgetBoard.Proofs.OneMetric
