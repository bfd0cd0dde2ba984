import LanguageClient.Client
import LanguageClient.CommandLine
import LanguageClient.Commands.Launch
import LanguageClient.Commands.Options
import LanguageClient.Commands.Run
import LanguageClient.Config.Basic
import LanguageClient.Config.Place
import LanguageClient.Config.Reading
import LanguageClient.Config.Setting
import LanguageClient.Config.Sources
import LanguageClient.Decimal.Duration
import LanguageClient.Decimal.Plain
import LanguageClient.Decimal.Shortest
import LanguageClient.Failure
import LanguageClient.Files
import LanguageClient.Json.Basic
import LanguageClient.Json.Numeral
import LanguageClient.Json.Outline
import LanguageClient.Json.Parser
import LanguageClient.Json.Printer
import LanguageClient.Json.Reading
import LanguageClient.LogFilter
import LanguageClient.Main
import LanguageClient.MockServer.Basic
import LanguageClient.MockServer.Document
import LanguageClient.MockServer.Incoming
import LanguageClient.MockServer.Options
import LanguageClient.Pattern.Basic
import LanguageClient.Pattern.CharSet
import LanguageClient.Pattern.Class
import LanguageClient.Pattern.Escape
import LanguageClient.Pattern.Fault
import LanguageClient.Pattern.Parser
import LanguageClient.Pattern.Scan
import LanguageClient.Proofs.Pending.Settlement
import LanguageClient.Protocol.Completion
import LanguageClient.Protocol.Diagnostic
import LanguageClient.Protocol.Initialize
import LanguageClient.Protocol.Language
import LanguageClient.Protocol.Params
import LanguageClient.Protocol.Position
import LanguageClient.Report
import LanguageClient.Rpc.Frame
import LanguageClient.Rpc.Message
import LanguageClient.Session.Basic
import LanguageClient.Session.Bulletin
import LanguageClient.Session.Call
import LanguageClient.Session.Lifecycle
import LanguageClient.Session.Notice
import LanguageClient.Session.Pending
import LanguageClient.Text.Blank
import LanguageClient.Text.Case
import LanguageClient.Text.Count
import LanguageClient.Text.Lines
import LanguageClient.Text.Occurrence
import LanguageClient.Text.Quoted
import LanguageClient.Text.Quoted.Hidden
import LanguageClient.Text.Quoted.Marks
import LanguageClient.Text.Ranges
import LanguageClient.Text.Utf8
import LanguageClient.Text.Word
import LanguageClient.Text.Word.Table
import LanguageClient.Toml.Basic
import LanguageClient.Toml.Document
import LanguageClient.Toml.Fault
import LanguageClient.Toml.Quoted
import LanguageClient.Toml.Scalar
import LanguageClient.Transport.Exchange
import LanguageClient.Transport.Listeners
import LanguageClient.Transport.Loopback
import LanguageClient.Transport.Piped
import LanguageClient.Trouble
import LanguageClient.Uri.Domain
import LanguageClient.Uri.Domain.Composition
import LanguageClient.Uri.Domain.CompositionTable
import LanguageClient.Uri.Domain.DirectionTable
import LanguageClient.Uri.Domain.JoiningTable
import LanguageClient.Uri.Domain.Label
import LanguageClient.Uri.Domain.Mapping
import LanguageClient.Uri.Domain.MappingTable
import LanguageClient.Uri.Domain.MarkTable
import LanguageClient.Uri.Domain.Punycode
import LanguageClient.Uri.File
import LanguageClient.Uri.Host
import LanguageClient.Uri.Ipv4
import LanguageClient.Uri.Ipv6
import LanguageClient.Uri.Percent
import LanguageClient.Uri.Reference
import LanguageClient.Proofs.Session.Actions
import LanguageClient.Proofs.Session.Invariants
import LanguageClient.Proofs.Client.Callers
import LanguageClient.Proofs.Client.Restart
import LanguageClient.Proofs.Session.Responses
import LanguageClient.Proofs.Client.Responses
import LanguageClient.Proofs.Session.Handshake
import LanguageClient.Proofs.Client.Handshake
import LanguageClient.Proofs.Client.Unfinished
import LanguageClient.Proofs.Client.Punctual
import LanguageClient.Proofs.Client.Greetings
import LanguageClient.Proofs.Text.Lines
import LanguageClient.Proofs.Text.Utf8
import LanguageClient.Proofs.Rpc.Drain
import LanguageClient.Proofs.Rpc.Headers
import LanguageClient.Proofs.Rpc.Segments
import LanguageClient.Proofs.Rpc.Chunks
import LanguageClient.Proofs.Client.SingleGreeting
import LanguageClient.Proofs.Client.Rest
import LanguageClient.Proofs.Client.Bursts
import LanguageClient.Proofs.Client.Silence
import LanguageClient.Proofs.Client.Listening
import LanguageClient.Proofs.Json.Values
import LanguageClient.Proofs.Decimal.Rounding
import LanguageClient.Proofs.Decimal.Shortest
import LanguageClient.Proofs.Decimal.Range
import LanguageClient.Proofs.Json.Scalars
import LanguageClient.Proofs.Json.Floats
import LanguageClient.Proofs.Json.RoundTrip
import LanguageClient.Proofs.Json.Outline
import LanguageClient.Proofs.Json.Depth
import LanguageClient.Proofs.Json.Records
import LanguageClient.Proofs.Rpc.RoundTrip
import LanguageClient.Proofs.Uri.Ipv6
import LanguageClient.Proofs.Uri.Reference
import LanguageClient.Proofs.Uri.Domain
import LanguageClient.Proofs.Uri.File
import LanguageClient.Proofs.Session.Publications
import LanguageClient.Proofs.Session.Subscribers
import LanguageClient.Proofs.Client.Diagnostics
import LanguageClient.Proofs.Client.Teardown
import LanguageClient.Proofs.Client.Omissions
import LanguageClient.Proofs.Client.Attempts
import LanguageClient.Proofs.Client.Cancellation
import LanguageClient.Proofs.MockServer.Feeding
import LanguageClient.Proofs.MockServer.Incoming
import LanguageClient.Proofs.MockServer.Hearing
import LanguageClient.Proofs.MockServer.Conversation
import LanguageClient.Proofs.Client.Talking
import LanguageClient.Proofs.Text.Words
import LanguageClient.Proofs.Session.Handling
import LanguageClient.Proofs.Uri.Components
import LanguageClient.Proofs.Client.Arrivals
import LanguageClient.Proofs.Client.Declining
import LanguageClient.Proofs.Session.Reordering
import LanguageClient.Proofs.Client.Reordering
import LanguageClient.Proofs.Client.Completing
import LanguageClient.Proofs.MockServer.Dialogue
import LanguageClient.Proofs.MockServer.Service
import LanguageClient.Proofs.MockServer.Ending
import LanguageClient.Proofs.MockServer.Exchanging
import LanguageClient.Proofs.Uri.Marks
import LanguageClient.Proofs.Json.Rereading
import LanguageClient.Proofs.Transport.Deliveries
import LanguageClient.Proofs.Protocol.Completion
import LanguageClient.Proofs.Json.Grammar
import LanguageClient.Proofs.Json.Tokens
import LanguageClient.Proofs.Json.Recognition
import LanguageClient.Proofs.Rpc.Shapes
import LanguageClient.Proofs.Decimal.Finite
import LanguageClient.Proofs.Json.Denoted
import LanguageClient.Proofs.MockServer.Answering
import LanguageClient.Proofs.Text.Occurrences
import LanguageClient.Proofs.MockServer.Scanning
import LanguageClient.Proofs.Report.Width
import LanguageClient.Proofs.Report.Color
import LanguageClient.Proofs.Rpc.Progress
