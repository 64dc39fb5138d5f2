import FeatureFlags.Client.Config
import FeatureFlags.Context.Attributes
import FeatureFlags.Context.Basic
import FeatureFlags.Context.Names
import FeatureFlags.Context.Reading
import FeatureFlags.Context.Wire
import FeatureFlags.Edge.Basic
import FeatureFlags.Edge.CacheControl
import FeatureFlags.Edge.Event
import FeatureFlags.Edge.EventStream
import FeatureFlags.Edge.Governor
import FeatureFlags.Edge.Identification
import FeatureFlags.Edge.Polling
import FeatureFlags.Edge.RetrySettings
import FeatureFlags.Edge.Retryer
import FeatureFlags.Edge.Streaming
import FeatureFlags.Feature.State
import FeatureFlags.Feature.Wire
import FeatureFlags.Hash.Murmur3
import FeatureFlags.Hash.Sha256
import FeatureFlags.Interceptor
import FeatureFlags.IpNetwork
import FeatureFlags.Json.Basic
import FeatureFlags.Json.Decode
import FeatureFlags.Json.Document
import FeatureFlags.Json.Printer
import FeatureFlags.Json.Reader
import FeatureFlags.Listeners
import FeatureFlags.Matching
import FeatureFlags.Number.Binary64
import FeatureFlags.Number.Decimal
import FeatureFlags.Number.Notation
import FeatureFlags.Number.Shortest
import FeatureFlags.Pattern.Basic
import FeatureFlags.Pattern.Class
import FeatureFlags.Pattern.Flags
import FeatureFlags.Pattern.Reader
import FeatureFlags.Pattern.Search
import FeatureFlags.Promise.Board
import FeatureFlags.Readiness
import FeatureFlags.Repository.Basic
import FeatureFlags.Repository.Journal
import FeatureFlags.Repository.Resolve
import FeatureFlags.Repository.Update
import FeatureFlags.Rollout
import FeatureFlags.Simulation.Command
import FeatureFlags.Simulation.Link
import FeatureFlags.Simulation.Scripted
import FeatureFlags.Simulation.Server
import FeatureFlags.Simulation.Session
import FeatureFlags.Simulation.World
import FeatureFlags.Table
import FeatureFlags.Text.Ascii
import FeatureFlags.Text.Blank
import FeatureFlags.Text.FormEncoding
import FeatureFlags.Text.Search
import FeatureFlags.Text.Utf8
import FeatureFlags.Time
import FeatureFlags.Unicode.CaseFolding
import FeatureFlags.Unicode.Category
import FeatureFlags.Unicode.CharSet
import FeatureFlags.Unicode.Lookup
import FeatureFlags.Unicode.Property
import FeatureFlags.Unicode.Script
import FeatureFlags.Url.Basic
import FeatureFlags.Url.Host
import FeatureFlags.Url.Punycode
import FeatureFlags.Uuid
import FeatureFlags.Version
import FeatureFlags.Proofs.Repository.Coherence
import FeatureFlags.Proofs.Repository.History
import FeatureFlags.Proofs.Repository.Delivery
import FeatureFlags.Proofs.Repository.Steps
import FeatureFlags.Proofs.Repository.Handles
import FeatureFlags.Proofs.Repository.Identity
import FeatureFlags.Proofs.Repository.Batch
import FeatureFlags.Proofs.Repository.Convergence
import FeatureFlags.Proofs.Repository.Deletion
import FeatureFlags.Proofs.Repository.Resolution
import FeatureFlags.Proofs.Rollout.Selection
import FeatureFlags.Proofs.Polling.Answers
import FeatureFlags.Proofs.Polling.Moves
import FeatureFlags.Proofs.Polling.Queues
import FeatureFlags.Proofs.Polling.Completion
import FeatureFlags.Proofs.Polling.Retirement
import FeatureFlags.Proofs.Polling.Tags
import FeatureFlags.Proofs.Polling.ContextChanges
import FeatureFlags.Proofs.Polling.ContextRequests
import FeatureFlags.Proofs.Polling.Succession
import FeatureFlags.Proofs.Context.Builds
import FeatureFlags.Proofs.Polling.Conduct
import FeatureFlags.Proofs.Governor.Waiters
import FeatureFlags.Proofs.Edge.Conduct
import FeatureFlags.Proofs.Governor.Moves
import FeatureFlags.Proofs.Governor.Flag
import FeatureFlags.Proofs.Governor.Closing
import FeatureFlags.Proofs.Governor.Ledger
import FeatureFlags.Proofs.Governor.Conduct
import FeatureFlags.Proofs.Streaming.Conduct
import FeatureFlags.Proofs.Repository.Readiness
import FeatureFlags.Proofs.Context.Households
import FeatureFlags.Proofs.Context.Answers
import FeatureFlags.Proofs.Repository.Closing
import FeatureFlags.Proofs.Edge.Retrying
import FeatureFlags.Proofs.Repository.Versions
import FeatureFlags.Proofs.Streaming.Moves
import FeatureFlags.Proofs.Streaming.Connections
import FeatureFlags.Proofs.Streaming.Reconnection
import FeatureFlags.Proofs.Rollout.Reordering
import FeatureFlags.Proofs.Table.Order
import FeatureFlags.Proofs.Text.FormEncoding
import FeatureFlags.Proofs.Context.Header
import FeatureFlags.Proofs.Streaming.Contexts
import FeatureFlags.Proofs.Edge.Desk
import FeatureFlags.Proofs.Streaming.Waiters
import FeatureFlags.Proofs.Table.Listed
import FeatureFlags.Proofs.Json.Values
import FeatureFlags.Proofs.Json.Records
import FeatureFlags.Proofs.Uuid.Text
import FeatureFlags.Proofs.Feature.RoundTrip
import FeatureFlags.Proofs.Repository.Bystanders
import FeatureFlags.Proofs.Repository.Journal
import FeatureFlags.Proofs.Repository.Bulletins
import FeatureFlags.Proofs.Repository.Announcements
import FeatureFlags.Proofs.Edge.Events
import FeatureFlags.Proofs.Repository.Silence
import FeatureFlags.Proofs.Repository.Reconciliation
import FeatureFlags.Proofs.Rollout.Unknowns
import FeatureFlags.Proofs.Rollout.Shares
import FeatureFlags.Proofs.Rollout.Buckets
import FeatureFlags.Proofs.Rollout.Relevance
import FeatureFlags.Proofs.Repository.Precedence
import FeatureFlags.Proofs.Matching.Comparisons
import FeatureFlags.Proofs.Matching.Values
import FeatureFlags.Proofs.Polling.Failures
import FeatureFlags.Proofs.Polling.Hanging
import FeatureFlags.Proofs.Polling.Caching
import FeatureFlags.Proofs.Retryer.Runs
import FeatureFlags.Proofs.Retryer.Stopping
import FeatureFlags.Proofs.Retryer.Backoff
import FeatureFlags.Proofs.Governor.Alone
import FeatureFlags.Proofs.Governor.Timers
import FeatureFlags.Proofs.Polling.Stopping
import FeatureFlags.Proofs.Governor.Stopping
import FeatureFlags.Proofs.Text.Numerals
import FeatureFlags.Proofs.Text.Pieces
import FeatureFlags.Proofs.Version.Grammar
import FeatureFlags.Proofs.Promise.Completion
import FeatureFlags.Proofs.Listeners.Registrations
import FeatureFlags.Proofs.Streaming.Successes
import FeatureFlags.Proofs.Streaming.Worker
