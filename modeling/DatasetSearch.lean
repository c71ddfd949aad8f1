import DatasetSearch.Keyed
import DatasetSearch.Sorted
import DatasetSearch.Text.Lowercase
import DatasetSearch.Text.Percent
import DatasetSearch.Text.Quoted
import DatasetSearch.Text.Basic
import DatasetSearch.Decimal.Printer
import DatasetSearch.Decimal.Double
import DatasetSearch.Json.Printer
import DatasetSearch.Json.Reader
import DatasetSearch.Search.View
import DatasetSearch.Query
import DatasetSearch.Route
import DatasetSearch.Filter.Basic
import DatasetSearch.Search.Record
import DatasetSearch.Search.Request
import DatasetSearch.History
import DatasetSearch.Search.Facets
import DatasetSearch.Search.Desk
import DatasetSearch.Account.Desk
import DatasetSearch.Account.Store
import DatasetSearch.SavedState
import DatasetSearch.Settings
import DatasetSearch.App
import DatasetSearch.Command.Run
import DatasetSearch.Main
import DatasetSearch.Proofs.Lookup
import DatasetSearch.Proofs.Search.Generations
import DatasetSearch.Proofs.Decimal.Exact
import DatasetSearch.Proofs.Dictionaries
import DatasetSearch.Proofs.Filter.Frame
import DatasetSearch.Proofs.Query.RoundTrip
import DatasetSearch.Proofs.Route.RoundTrip
import DatasetSearch.Proofs.Search.Bookmark
import DatasetSearch.Proofs.Search.Ends
import DatasetSearch.Proofs.Search.Held
import DatasetSearch.Proofs.Search.LatestSearch
import DatasetSearch.Proofs.Search.Pages
import DatasetSearch.Proofs.Account.Moves
import DatasetSearch.Proofs.Search.Status
import DatasetSearch.Proofs.Account.Flows
import DatasetSearch.Proofs.Account.NewestLogin
import DatasetSearch.Proofs.Account.Cookie
import DatasetSearch.Proofs.Files.Replacing
import DatasetSearch.Proofs.Json.Pretty
import DatasetSearch.Proofs.Json.Reading
import DatasetSearch.Proofs.SavedState.RoundTrip
import DatasetSearch.Proofs.Search.Cursor
import DatasetSearch.Proofs.History.Stored
import DatasetSearch.Proofs.App.Restart
import DatasetSearch.Proofs.Json.Bounds
import DatasetSearch.Proofs.Program
import DatasetSearch.Proofs.SavedState.Sizes
import DatasetSearch.Proofs.Command.Results
import DatasetSearch.Proofs.Command.StateFile
import DatasetSearch.Proofs.Search.Dialogue
import DatasetSearch.Proofs.Command.Paging
import DatasetSearch.Proofs.Search.Carried
import DatasetSearch.Proofs.Search.Contributing
import DatasetSearch.Proofs.App.Reached
import DatasetSearch.Proofs.App.Reopening
import DatasetSearch.Proofs.App.Remembering
import DatasetSearch.Proofs.Account.Inbox
import DatasetSearch.Proofs.Account.Undisturbed
import DatasetSearch.Proofs.Account.LateChecks
import DatasetSearch.Proofs.Filter.Cleared
import DatasetSearch.Proofs.Search.Clearing
import DatasetSearch.Proofs.History.Trace
import DatasetSearch.Proofs.Text.Lowercase
import DatasetSearch.Proofs.History.Hints
import DatasetSearch.Proofs.Text.DottedCapital
import DatasetSearch.Proofs.History.Typed
import DatasetSearch.Proofs.History.Recent
import DatasetSearch.Proofs.Search.Spans
import DatasetSearch.Proofs.Json.Places
import DatasetSearch.Proofs.Json.Readings
import DatasetSearch.Proofs.Search.NullMembers
import DatasetSearch.Proofs.Filter.Delegated
import DatasetSearch.Proofs.Search.Reloading
import DatasetSearch.Proofs.Filter.RangeRoute
import DatasetSearch.Proofs.History.EmptyText
import DatasetSearch.Proofs.Search.Synchronizing
import DatasetSearch.Proofs.Command.Login
import DatasetSearch.Proofs.SavedState.Interruption
import DatasetSearch.Proofs.Search.Panels
