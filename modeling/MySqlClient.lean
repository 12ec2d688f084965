import MySqlClient.Bytes
import MySqlClient.Text.Utf8
import MySqlClient.Text.Decimal
import MySqlClient.Text.Blank
import MySqlClient.Text.Parts
import MySqlClient.Number.Binary64
import MySqlClient.Error
import MySqlClient.Wire.Reader
import MySqlClient.Wire.Writer
import MySqlClient.Packet
import MySqlClient.Framing
import MySqlClient.Capabilities
import MySqlClient.Column
import MySqlClient.NullBitmap
import MySqlClient.Temporal
import MySqlClient.Value
import MySqlClient.Row
import MySqlClient.Response
import MySqlClient.Request
import MySqlClient.Handshake.ServerVersion
import MySqlClient.Handshake.Greeting
import MySqlClient.Handshake.Response
import MySqlClient.Crypto.Padding
import MySqlClient.Crypto.Sha1
import MySqlClient.Crypto.Sha256
import MySqlClient.Crypto.Pem
import MySqlClient.Crypto.Der
import MySqlClient.Crypto.Rsa
import MySqlClient.Auth.Plugin
import MySqlClient.Auth.Exchange
import MySqlClient.Config
import MySqlClient.Config.JsonValue
import MySqlClient.Config.Document
import MySqlClient.Lifecycle
import MySqlClient.Command
import MySqlClient.Command.Delivery
import MySqlClient.Command.TextQuery
import MySqlClient.Command.PreparedQuery
import MySqlClient.Command.Builtin
import MySqlClient.Queue
import MySqlClient.ServerName
import MySqlClient.Connection.Transport
import MySqlClient.Connection
import MySqlClient.Client
import MySqlClient.Proofs.Framing.Frames
import MySqlClient.Proofs.Framing.Carried
import MySqlClient.Proofs.Framing.Taken
import MySqlClient.Proofs.Wire.RoundTrip
import MySqlClient.Proofs.Wire.Ensures
import MySqlClient.Proofs.Wire.Forms
import MySqlClient.Proofs.Wire.Terminated
import MySqlClient.Proofs.Response.Layout
import MySqlClient.Proofs.NullBitmap.Marks
import MySqlClient.Proofs.NullBitmap.Bits
import MySqlClient.Proofs.Row.Layout
import MySqlClient.Proofs.Row.Forms
import MySqlClient.Proofs.Request.Execution
import MySqlClient.Proofs.Request.Leftovers
import MySqlClient.Proofs.Request.Rebinding
import MySqlClient.Proofs.Capabilities.Flags
import MySqlClient.Proofs.Auth.Calls
import MySqlClient.Proofs.Auth.Encryption
import MySqlClient.Proofs.Auth.Course
import MySqlClient.Proofs.Lifecycle.Messages
import MySqlClient.Proofs.Lifecycle.Transitions
import MySqlClient.Proofs.Lifecycle.Order
import MySqlClient.Proofs.Lifecycle.Negotiation
import MySqlClient.Proofs.Lifecycle.Credentials
import MySqlClient.Proofs.Lifecycle.Agreement
import MySqlClient.Proofs.Connection.Steps
import MySqlClient.Proofs.Connection.Upgrade
import MySqlClient.Proofs.Connection.Inbox
import MySqlClient.Proofs.Connection.PastTls
import MySqlClient.Proofs.Connection.Completion
import MySqlClient.Proofs.Connection.TlsBoundary
import MySqlClient.Proofs.Connection.Arrivals
import MySqlClient.Proofs.Dialogue.Answer
import MySqlClient.Proofs.Dialogue.Hearing
import MySqlClient.Proofs.Dialogue.Grammar
import MySqlClient.Proofs.Dialogue.TextQuery
import MySqlClient.Proofs.Dialogue.PreparedQuery
import MySqlClient.Proofs.Dialogue.Asked
import MySqlClient.Proofs.Dialogue.Situation
import MySqlClient.Proofs.Dialogue.Run
import MySqlClient.Proofs.Exchange.Feed
import MySqlClient.Proofs.Exchange.Received
import MySqlClient.Proofs.Exchange.Places
import MySqlClient.Proofs.Exchange.Documented
import MySqlClient.Proofs.Exchange.Walk
import MySqlClient.Proofs.Exchange.TextGrammar
import MySqlClient.Proofs.Exchange.PreparedGrammar
import MySqlClient.Proofs.Exchange.Release
import MySqlClient.Proofs.Exchange.Handings
import MySqlClient.Proofs.Exchange.Reactions
import MySqlClient.Proofs.Exchange.Handlers
import MySqlClient.Proofs.Queue.Recorded
import MySqlClient.Proofs.Queue.Schedule
import MySqlClient.Proofs.Queue.Attended
import MySqlClient.Proofs.Queue.Contract
import MySqlClient.Proofs.Queue.Course
import MySqlClient.Proofs.Exchange.Ongoing
import MySqlClient.Proofs.Framing.Stops
import MySqlClient.Proofs.Framing.Stream
import MySqlClient.Proofs.Framing.Exact
import MySqlClient.Proofs.Connection.Course
import MySqlClient.Proofs.Connection.Cuts
import MySqlClient.Proofs.Connection.Written
import MySqlClient.Proofs.Exchange.Asking
import MySqlClient.Proofs.Connection.Journal
import MySqlClient.Proofs.Connection.Discipline
import MySqlClient.Proofs.Queue.Scope
import MySqlClient.Proofs.Connection.Openings
import MySqlClient.Proofs.Connection.WireOrder
import MySqlClient.Proofs.Connection.Queued
import MySqlClient.Proofs.Connection.EmptyPackets
import MySqlClient.Proofs.Handshake.Greetings
import MySqlClient.Proofs.Handshake.Responses
import MySqlClient.Proofs.Response.Endings
import MySqlClient.Proofs.Row.Boundary
import MySqlClient.Proofs.Auth.Verification
import MySqlClient.Proofs.Temporal.Layouts
import MySqlClient.Proofs.Text.Numerals
import MySqlClient.Proofs.Temporal.Texts
import MySqlClient.Proofs.Temporal.TimeColumns
import MySqlClient.Proofs.Value.Integers
import MySqlClient.Proofs.Value.Decimals
import MySqlClient.Proofs.Response.Columns
import MySqlClient.Proofs.Wire.Items
import MySqlClient.Proofs.NullBitmap.Positions
import MySqlClient.Proofs.Value.Truth
import MySqlClient.Proofs.Connection.Rounds
