import SchemaQuery.Binary64.Reader
import SchemaQuery.Binary64.Shortest
import SchemaQuery.Calendar.Iso
import SchemaQuery.Calendar.Timestamp
import SchemaQuery.Client
import SchemaQuery.CommandLine.Run
import SchemaQuery.EnvFile
import SchemaQuery.FileSystem
import SchemaQuery.Json.Display
import SchemaQuery.Json.Reader
import SchemaQuery.Json.Writer
import SchemaQuery.Log.Setup
import SchemaQuery.Main
import SchemaQuery.Query.Compile
import SchemaQuery.Registry.File
import SchemaQuery.Rendering
import SchemaQuery.Request.Reader
import SchemaQuery.Schema.Conversion
import SchemaQuery.Schema.Description
import SchemaQuery.Service
import SchemaQuery.Settings
import SchemaQuery.Store
import SchemaQuery.Text.Encoding
import SchemaQuery.Week
import SchemaQuery.Proofs.Calendar.Order
import SchemaQuery.Proofs.DatePhrase.NextOccurrence
import SchemaQuery.Proofs.Calendar.Timestamp
import SchemaQuery.Proofs.Json.RoundTrip
import SchemaQuery.Proofs.Json.Scalar
import SchemaQuery.Proofs.Schema.Scalar
import SchemaQuery.Proofs.Schema.RoundTrip
import SchemaQuery.Proofs.FileSystem.Entries
import SchemaQuery.Proofs.FileSystem.Replace
import SchemaQuery.Proofs.Schema.Conversion
import SchemaQuery.Proofs.Store.Persistence
import SchemaQuery.Proofs.FileSystem.Tree
import SchemaQuery.Proofs.Store.Refresh
import SchemaQuery.Proofs.Store.World
import SchemaQuery.Proofs.Store.Replacement
import SchemaQuery.Proofs.Calendar.Ordinal
import SchemaQuery.Proofs.Registry.Lookup
import SchemaQuery.Proofs.Filter.Leaf
import SchemaQuery.Proofs.Schema.Check
import SchemaQuery.Proofs.Filter.Serialized
import SchemaQuery.Proofs.Query.Compile
import SchemaQuery.Proofs.Query.UpcomingWeek
import SchemaQuery.Proofs.Store.Surrogates
import SchemaQuery.Proofs.Binary64.Nearest
import SchemaQuery.Proofs.Binary64.Shortest
import SchemaQuery.Proofs.Json.Numbers
import SchemaQuery.Proofs.Json.Decoded
import SchemaQuery.Proofs.Request.Reader
import SchemaQuery.Proofs.Client
import SchemaQuery.Proofs.CommandLine.Run
import SchemaQuery.Proofs.Query.Document
import SchemaQuery.Proofs.CommandLine.Agreement
import SchemaQuery.Proofs.Query.Execution
import SchemaQuery.Proofs.Query.Offered
import SchemaQuery.Proofs.Store.History
import SchemaQuery.Proofs.Client.Failure
import SchemaQuery.Proofs.CommandLine.Failure
import SchemaQuery.Proofs.Store.Load
import SchemaQuery.Proofs.Query.Refreshed
import SchemaQuery.Proofs.Json.Grammar
import SchemaQuery.Proofs.Json.Standard
import SchemaQuery.Proofs.CommandLine.Standard
import SchemaQuery.Proofs.Request.Format
import SchemaQuery.Proofs.Request.RoundTrip
import SchemaQuery.Proofs.Json.LongIntegers
import SchemaQuery.Proofs.Request.Refusal
import SchemaQuery.Proofs.DatePhrase.Words
import SchemaQuery.Proofs.DatePhrase.Grammar
import SchemaQuery.Proofs.DatePhrase.Search
import SchemaQuery.Proofs.DatePhrase.Monotone
import SchemaQuery.Proofs.Calendar.Successor
import SchemaQuery.Proofs.Week
import SchemaQuery.Proofs.DatePhrase.Complete
import SchemaQuery.Proofs.Request.Fence
import SchemaQuery.Proofs.DatePhrase.ExplicitYear
import SchemaQuery.Proofs.DatePhrase.LetterCase
import SchemaQuery.Proofs.Filter.LetterCase
import SchemaQuery.Proofs.DatePhrase.NamedDay
import SchemaQuery.Proofs.Filter.LocalDay
import SchemaQuery.Proofs.Table.Writes
import SchemaQuery.Proofs.Json.Spelled
import SchemaQuery.Proofs.Registry.Configured
import SchemaQuery.Proofs.Http.Segment
import SchemaQuery.Proofs.Json.Ascii
import SchemaQuery.Proofs.Client.Wire
import SchemaQuery.Proofs.Rendering.Line
import SchemaQuery.Proofs.Rendering.OneLine
import SchemaQuery.Proofs.Schema.Kept
import SchemaQuery.Proofs.CommandLine.Effects
