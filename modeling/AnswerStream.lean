import AnswerStream.Answer.Assembly
import AnswerStream.Answer.Basic
import AnswerStream.Answer.Content
import AnswerStream.Calendar.Date
import AnswerStream.Calendar.Reading
import AnswerStream.Calendar.Timestamp
import AnswerStream.Client.Basic
import AnswerStream.Client.Listing
import AnswerStream.Client.Run
import AnswerStream.Client.Session
import AnswerStream.CommandLine.Command
import AnswerStream.CommandLine.Report
import AnswerStream.Config.Basic
import AnswerStream.Config.Source
import AnswerStream.Decimal.Binary
import AnswerStream.Decimal.Digits
import AnswerStream.Decimal.Reading
import AnswerStream.Decimal.Shortest
import AnswerStream.Duration
import AnswerStream.Failure.Basic
import AnswerStream.Failure.Class
import AnswerStream.Failure.Transport
import AnswerStream.Host.Address
import AnswerStream.Host.Basic
import AnswerStream.Host.Domain
import AnswerStream.Host.Label
import AnswerStream.Host.Punycode
import AnswerStream.Json.Node
import AnswerStream.Json.Number
import AnswerStream.Json.Printer
import AnswerStream.Json.Record
import AnswerStream.Json.Token
import AnswerStream.Json.Value
import AnswerStream.Limiter.Bucket
import AnswerStream.Limiter.Metering
import AnswerStream.Limiter.Sharing
import AnswerStream.Main
import AnswerStream.Message.Basic
import AnswerStream.Message.Block
import AnswerStream.Message.Status
import AnswerStream.Message.Stream
import AnswerStream.Program
import AnswerStream.Proofs.Answer.Closing
import AnswerStream.Proofs.Answer.History
import AnswerStream.Proofs.Answer.Plans
import AnswerStream.Proofs.Answer.Shapes
import AnswerStream.Proofs.Calendar.Days
import AnswerStream.Proofs.Calendar.Reading
import AnswerStream.Proofs.Checking
import AnswerStream.Proofs.Client.Admission
import AnswerStream.Proofs.Client.Attempt
import AnswerStream.Proofs.Client.Calm
import AnswerStream.Proofs.Client.Cancelling
import AnswerStream.Proofs.Client.Finality
import AnswerStream.Proofs.Client.Leaving
import AnswerStream.Proofs.Client.Listing
import AnswerStream.Proofs.Client.Observing
import AnswerStream.Proofs.Client.Outcome
import AnswerStream.Proofs.Client.Page
import AnswerStream.Proofs.Client.Retrying
import AnswerStream.Proofs.Client.Timing
import AnswerStream.Proofs.Client.Waiting
import AnswerStream.Proofs.CommandLine.Grammar
import AnswerStream.Proofs.Config.Filing
import AnswerStream.Proofs.Config.Overlaying
import AnswerStream.Proofs.Config.Urls
import AnswerStream.Proofs.Config.Wording
import AnswerStream.Proofs.Json.Composing
import AnswerStream.Proofs.Json.Fields
import AnswerStream.Proofs.Json.Grammar
import AnswerStream.Proofs.Json.Lexemes
import AnswerStream.Proofs.Json.Members
import AnswerStream.Proofs.Json.Numeral
import AnswerStream.Proofs.Json.Printing
import AnswerStream.Proofs.Json.Quoted
import AnswerStream.Proofs.Json.Recording
import AnswerStream.Proofs.Limiter.Abandoning
import AnswerStream.Proofs.Limiter.Accounts
import AnswerStream.Proofs.Limiter.Exact
import AnswerStream.Proofs.Limiter.Moving
import AnswerStream.Proofs.Limiter.Schedule
import AnswerStream.Proofs.Limiter.Sharing
import AnswerStream.Proofs.Message.Extending
import AnswerStream.Proofs.Message.Patches
import AnswerStream.Proofs.Message.Payload
import AnswerStream.Proofs.Message.Rendering
import AnswerStream.Proofs.Query.Body
import AnswerStream.Proofs.Retry.Backoff
import AnswerStream.Proofs.Retry.Deciding
import AnswerStream.Proofs.Sse.Decoding
import AnswerStream.Proofs.Sse.Failing
import AnswerStream.Proofs.Sse.Frames
import AnswerStream.Proofs.Sse.Grouping
import AnswerStream.Proofs.Sse.Lines
import AnswerStream.Proofs.Sse.Reporting
import AnswerStream.Proofs.Sse.Resuming
import AnswerStream.Proofs.Sse.Writing
import AnswerStream.Proofs.Stream.Batch
import AnswerStream.Proofs.Stream.Chunking
import AnswerStream.Proofs.Stream.Demand
import AnswerStream.Proofs.Stream.Uncut
import AnswerStream.Proofs.Text.Cutting
import AnswerStream.Proofs.Text.Encoding
import AnswerStream.Proofs.Text.Lossy
import AnswerStream.Proofs.Thread.Dating
import AnswerStream.Proofs.Thread.Paging
import AnswerStream.Query.Basic
import AnswerStream.Query.Fresh
import AnswerStream.Query.Mode
import AnswerStream.Retry
import AnswerStream.Sse.Field
import AnswerStream.Sse.Frame
import AnswerStream.Sse.LineDecoder
import AnswerStream.Text.Blank
import AnswerStream.Text.Hex
import AnswerStream.Text.Percent
import AnswerStream.Text.Pieces
import AnswerStream.Text.Utf8
import AnswerStream.Thread.Basic
import AnswerStream.Transport.Basic
import AnswerStream.Transport.Preflight
import AnswerStream.Transport.Script
import AnswerStream.Transport.Transcript
import AnswerStream.Unicode.Composition
import AnswerStream.Unicode.Direction
import AnswerStream.Unicode.HostMapping
import AnswerStream.Unicode.Joining
import AnswerStream.Unicode.Mark
import AnswerStream.Unicode.Span
import AnswerStream.Url.Basic
import AnswerStream.Url.Reading
