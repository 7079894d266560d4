import PgClient.Copy.Csv
import PgClient.Library.Drive
import PgClient.Transport.Tls
import PgClient.Transport.TlsInput
import PgClient.Transport.TlsOutput
import PgClient.Transport.Error
import PgClient.Protocol.Message
import PgClient.Error
import PgClient.Connection.State
import PgClient.Connection.Io
import PgClient.Query.Stream
import PgClient.Query.Simple
import PgClient.Query.Params
import PgClient.Query.Cursor
import PgClient.Query.Pipeline
import PgClient.Copy.Stream
import PgClient.Library.Triple
import PgClient.Connection.Wire
import PgClient.Connection.Exchange
import PgClient.Pairing.Loops
import PgClient.Pairing.Operations
import PgClient.Pairing.Streams
import PgClient.Pairing.Cursors
import PgClient.Pairing.Copies
import PgClient.Session
import PgClient.Pairing.Legible
import PgClient.Pairing.Session
import PgClient.Protocol.TableServer
import PgClient.Connection.Request
import PgClient.Pairing.Frame
import PgClient.Atomicity
import PgClient.Replies.Reading
import PgClient.Replies.Extended
import PgClient.Replies.Pipeline
import PgClient.Replies.Stream
import PgClient.Replies.Statement
import PgClient.Reconnect.Session
import PgClient.Reconnect.Standing
import PgClient.Reconnect.Reconnect
import PgClient.Effects.Loops
import PgClient.Replies.Accepted
import PgClient.Effects.Operations
import PgClient.Effects.Reports
import PgClient.Effects.Recovery
import PgClient.Notification
import PgClient.Reconnect.Retry
import PgClient.Reconnect.Tracking
import PgClient.Reconnect.Flag
import PgClient.Transaction.Guard
import PgClient.Transaction.Server
import PgClient.Transaction.Ledger
import PgClient.Transaction.Commit
import PgClient.Replies.Agreement
import PgClient.Library.LossyUtf8
import PgClient.Copy.CsvReader
import PgClient.Copy.CsvRoundTrip
import PgClient.Library.BigEndian
import PgClient.Types.Encode
import PgClient.Types.Server
import PgClient.Types.Soundness
import PgClient.Types.Decode
import PgClient.Types.Reads
import PgClient.Types.Get
import PgClient.Types.Bytea
import PgClient.Types.Codec
import PgClient.Types.DateTime
import PgClient.Types.Timestamp
import PgClient.Types.TimestampCodec
import PgClient.Reconnect.Attempts
import PgClient.Reconnect.Restarts
import PgClient.Transaction.Isolation
import PgClient.Library.Tasks
import PgClient.Pool.State
import PgClient.Pool.Task
import PgClient.Pool.Accounting
import PgClient.Pool.Closing
import PgClient.Pool.Wakeup
import PgClient.Pool.Capacity
import PgClient.Reconnect.Closed
import PgClient.Config
import PgClient.Transport.Negotiate
import PgClient.Transport.Negotiated
import PgClient.Transport.Passage
import PgClient.Transport.ByteReads
import PgClient.Protocol.Chunked
import PgClient.Auth.Authenticate
import PgClient.Auth.Spoken
import PgClient.Auth.Safety
import PgClient.Effects.Ordinary
import PgClient.Effects.Calls
import PgClient.Effects.Recorded
import PgClient.Effects.Parameters
import PgClient.Notification.Fallback
import PgClient.Notification.Queue
import PgClient.Notification.Delivery
import PgClient.Library.TwoRuns
import PgClient.Transparency.Alike
import PgClient.Transparency.Operations
import PgClient.Transparency.Waits
import PgClient.Transparency.Startup
import PgClient.ServerErrors.Reported
import PgClient.ServerErrors.Loops
import PgClient.ServerErrors.Operations
import PgClient.ServerErrors.Calls
import PgClient.ServerErrors.Surfacing
import PgClient.Library.Lru
import PgClient.Query.Cache
import PgClient.Copy.Binary
import PgClient.Library.Yields
import PgClient.Replies.Simple
import PgClient.Replies.ResultSets
import PgClient.Replies.Portals
import PgClient.Replies.Cursors
import PgClient.Replies.Fetches
import PgClient.Library.EscapedText
import PgClient.Copy.TextRoundTrip
import PgClient.Library.Completes
import PgClient.Protocol.CopyServer
import PgClient.Deadlock.Answers
import PgClient.Deadlock.Loops
import PgClient.Deadlock.Requests
import PgClient.Deadlock.Operations
import PgClient.Deadlock.Streams
import PgClient.Deadlock.Copies
import PgClient.Deadlock.Sessions
import PgClient.Transaction.CursorLife
import PgClient.Library.Except
import PgClient.Library.Duration
import PgClient.Reconnect.Classify
import PgClient.Reconnect.Backoff
import PgClient.Config.Params
import PgClient.Library.Conninfo
import PgClient.Config.KeyValue
import PgClient.Library.PercentEncoding
import PgClient.Config.Uri
import PgClient.Library.SqlLexer
import PgClient.Reconnect.Quoting
import PgClient.Copy.Options
import PgClient.Reconnect.Accounting
import PgClient.Pool.Expiry
import PgClient.Pool.Resilient
import PgClient.Effects.Mirror
import PgClient.Effects.Names
import PgClient.Copy.SyncDrain
import PgClient.Copy.Dropped
import PgClient.Pool.Isolation
import PgClient.Reconnect.Restored
import PgClient.Library.Journal
import PgClient.Transaction.SavepointServer
import PgClient.Transaction.Savepoints
import PgClient.Deadlock.Abandoned
import PgClient.Connection.OverBytes
import PgClient.Copy.Transfer
import PgClient.Effects.Posted
import PgClient.Query.Statements
import PgClient.Copy.Received
