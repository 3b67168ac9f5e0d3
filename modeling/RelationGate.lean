import RelationGate.Auth.Base64Url
import RelationGate.Auth.CarriedKey
import RelationGate.Auth.Claims
import RelationGate.Auth.Der
import RelationGate.Auth.KeyFile
import RelationGate.Auth.Pem
import RelationGate.Auth.Sha2
import RelationGate.Auth.Token
import RelationGate.Backend
import RelationGate.Calendar
import RelationGate.Call.Context
import RelationGate.Call.Headers
import RelationGate.Call.Inbox
import RelationGate.Call.Machine
import RelationGate.Call.Program
import RelationGate.Call.Stage
import RelationGate.Channel
import RelationGate.Config.Fault
import RelationGate.Config.Section
import RelationGate.Config.Settings
import RelationGate.Consumer
import RelationGate.Daemon.CommandLine
import RelationGate.Daemon.LogFilter
import RelationGate.Daemon.Service
import RelationGate.Daemon.Start
import RelationGate.Error
import RelationGate.Feed
import RelationGate.Gateway.Server
import RelationGate.Gateway.World
import RelationGate.Json.Codec
import RelationGate.Json.Cursor
import RelationGate.Json.Fault
import RelationGate.Json.Printer
import RelationGate.Json.Reader
import RelationGate.Json.Value
import RelationGate.Limit
import RelationGate.Lookup
import RelationGate.Machine
import RelationGate.Main
import RelationGate.Metrics
import RelationGate.Naming
import RelationGate.Number.Binary64
import RelationGate.Number.Decimal
import RelationGate.Number.Digits
import RelationGate.Number.Word
import RelationGate.Pipe
import RelationGate.Query
import RelationGate.Relationship
import RelationGate.Request
import RelationGate.Scope
import RelationGate.SocketAddress
import RelationGate.Store
import RelationGate.Text.Blank
import RelationGate.Text.Printable
import RelationGate.Text.Rendering
import RelationGate.Text.Scan
import RelationGate.Text.Similarity
import RelationGate.Token
import RelationGate.Toml.Document
import RelationGate.Toml.Lexeme
import RelationGate.Toml.Value
import RelationGate.Uuid
import RelationGate.Wire.Basic
import RelationGate.Wire.Envelope
import RelationGate.Wire.Query
import RelationGate.Wire.Request
import RelationGate.Proofs.Store.Writes
import RelationGate.Proofs.Call.Breakdown
import RelationGate.Proofs.Call.Completeness
import RelationGate.Proofs.Flow.Relay
import RelationGate.Proofs.Store.History
import RelationGate.Proofs.Number.Decimal
import RelationGate.Proofs.Store.Paging
import RelationGate.Proofs.Flow.Tokens
import RelationGate.Proofs.Call.Audit
import RelationGate.Proofs.Call.Effects
import RelationGate.Proofs.Call.Gate
import RelationGate.Proofs.Store.Agreement
import RelationGate.Proofs.Call.Orphans
import RelationGate.Proofs.Call.Fencing
import RelationGate.Proofs.Call.Readiness
import RelationGate.Proofs.Call.Handling
import RelationGate.Proofs.Call.Replies
import RelationGate.Proofs.Call.Reports
import RelationGate.Proofs.Call.Standstill
import RelationGate.Proofs.Call.Unattended
import RelationGate.Proofs.Call.Counting
import RelationGate.Proofs.Flow.Passage
import RelationGate.Proofs.Store.Genuine
import RelationGate.Proofs.Flow.Freshness
import RelationGate.Proofs.Store.Shape
import RelationGate.Proofs.Call.Excuses
import RelationGate.Proofs.Call.Admission
import RelationGate.Proofs.Call.Raising
import RelationGate.Proofs.Call.Failing
import RelationGate.Proofs.Call.Failures
import RelationGate.Proofs.Outcome
import RelationGate.Proofs.Store.Handouts
import RelationGate.Proofs.Store.Batches
import RelationGate.Proofs.Json.Taking
import RelationGate.Proofs.Json.Skipping
import RelationGate.Proofs.Json.Documents
import RelationGate.Proofs.Json.Members
import RelationGate.Proofs.Auth.Payload
import RelationGate.Proofs.Auth.Verification
import RelationGate.Proofs.Store.WrittenForms
import RelationGate.Proofs.Json.RoundTrip
import RelationGate.Proofs.Wire.RoundTrip
import RelationGate.Proofs.Flow.RunAhead
import RelationGate.Proofs.Call.RunAhead
import RelationGate.Proofs.Call.Timing
import RelationGate.Proofs.Call.Deadline
import RelationGate.Proofs.Text.Bytes
import RelationGate.Proofs.Json.Reading
import RelationGate.Proofs.Json.Writing
import RelationGate.Proofs.Gateway.Lines
import RelationGate.Proofs.Gateway.Entry
import RelationGate.Proofs.Config.Capacity
import RelationGate.Proofs.Call.Credentials
import RelationGate.Proofs.Scope.Tokens
import RelationGate.Proofs.Scope.Contexts
import RelationGate.Proofs.Call.Reception
