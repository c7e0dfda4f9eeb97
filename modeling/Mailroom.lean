import Mailroom.Codec.Base64
import Mailroom.Codec.Hex
import Mailroom.Codec.QuotedPrintable
import Mailroom.Codec.Sha256
import Mailroom.CommandLine.Help
import Mailroom.CommandLine.Request
import Mailroom.CommandLine.Session
import Mailroom.CommandLine.Workspace
import Mailroom.Error
import Mailroom.Filter.Format
import Mailroom.Filter.Matching
import Mailroom.Filter.Rule
import Mailroom.Json.Document
import Mailroom.Json.Numeral
import Mailroom.Json.Reader
import Mailroom.Json.Value
import Mailroom.Mail.Address
import Mailroom.Mail.Change
import Mailroom.Mail.Format
import Mailroom.Mail.Record
import Mailroom.Main
import Mailroom.Mime.Charset
import Mailroom.Mime.ContentType
import Mailroom.Mime.Disposition
import Mailroom.Mime.EncodedWord
import Mailroom.Mime.Error
import Mailroom.Mime.Extract
import Mailroom.Mime.Header
import Mailroom.Mime.Message
import Mailroom.Mime.Multipart
import Mailroom.Mime.Parameters
import Mailroom.Mime.Part
import Mailroom.Mime.TransferCoding
import Mailroom.Notification
import Mailroom.Object.Folder
import Mailroom.Object.Memory
import Mailroom.Object.Path
import Mailroom.Object.Store
import Mailroom.Pattern.Bracket
import Mailroom.Pattern.CharSet
import Mailroom.Pattern.Engine
import Mailroom.Pattern.Escape
import Mailroom.Pattern.Flags
import Mailroom.Pattern.Program
import Mailroom.Pattern.Reader
import Mailroom.Pattern.Term
import Mailroom.Pipeline.Decoding
import Mailroom.Pipeline.Evaluation
import Mailroom.Pipeline.Intake
import Mailroom.Pipeline.Steps
import Mailroom.Pipeline.Work
import Mailroom.Pipeline.Worker
import Mailroom.Proofs.Answer
import Mailroom.Proofs.Codec.Base64
import Mailroom.Proofs.Codec.Canonical
import Mailroom.Proofs.Codec.QuotedPrintable
import Mailroom.Proofs.Filter.Matching
import Mailroom.Proofs.Filter.Unknown
import Mailroom.Proofs.Filter.Verbatim
import Mailroom.Proofs.Filter.Written
import Mailroom.Proofs.Json.ByValue
import Mailroom.Proofs.Json.Record
import Mailroom.Proofs.Json.Value
import Mailroom.Proofs.Json.Written
import Mailroom.Proofs.Mail.Mailbox
import Mailroom.Proofs.Mail.Update
import Mailroom.Proofs.Mime.ContentType
import Mailroom.Proofs.Mime.EmptyLine
import Mailroom.Proofs.Mime.EncodedText
import Mailroom.Proofs.Mime.EncodedWord
import Mailroom.Proofs.Mime.Extended
import Mailroom.Proofs.Mime.Extract
import Mailroom.Proofs.Mime.Filename
import Mailroom.Proofs.Mime.Folding
import Mailroom.Proofs.Mime.Header
import Mailroom.Proofs.Mime.Lookup
import Mailroom.Proofs.Mime.Multipart
import Mailroom.Proofs.Mime.Parameters
import Mailroom.Proofs.Mime.Place
import Mailroom.Proofs.Mime.Quoted
import Mailroom.Proofs.Mime.Reordering
import Mailroom.Proofs.Mime.Section
import Mailroom.Proofs.Mime.Tree
import Mailroom.Proofs.Notification.Enveloped
import Mailroom.Proofs.Object.Agreement
import Mailroom.Proofs.Object.Filing
import Mailroom.Proofs.Object.Path
import Mailroom.Proofs.Pipeline.Attribution
import Mailroom.Proofs.Pipeline.Backing
import Mailroom.Proofs.Pipeline.Decoding
import Mailroom.Proofs.Pipeline.Effect
import Mailroom.Proofs.Pipeline.Evaluation
import Mailroom.Proofs.Pipeline.Intake
import Mailroom.Proofs.Pipeline.Interleaving
import Mailroom.Proofs.Pipeline.Received
import Mailroom.Proofs.Pipeline.Rely
import Mailroom.Proofs.Pipeline.Script
import Mailroom.Proofs.Pipeline.Work
import Mailroom.Proofs.Pipeline.Worker
import Mailroom.Proofs.Sieve.Comparison
import Mailroom.Proofs.Sieve.Lines
import Mailroom.Proofs.Sieve.Script
import Mailroom.Proofs.Sieve.Unknown
import Mailroom.Proofs.Sieve.Validation
import Mailroom.Proofs.Sieve.Verdict
import Mailroom.Proofs.Store.Arrivals
import Mailroom.Proofs.Store.Identities
import Mailroom.Proofs.Store.Ledger
import Mailroom.Proofs.Store.Registration
import Mailroom.Proofs.Store.Rules
import Mailroom.Proofs.Store.Statement
import Mailroom.Proofs.Store.Table
import Mailroom.Proofs.Store.Update
import Mailroom.Proofs.Text.Blank
import Mailroom.Proofs.Text.Cut
import Mailroom.Proofs.Text.Number
import Mailroom.Proofs.Text.Slice
import Mailroom.Proofs.Text.Utf8
import Mailroom.Proofs.Time.Calendar
import Mailroom.Proofs.Time.Instant
import Mailroom.Settings
import Mailroom.Sieve.Block
import Mailroom.Sieve.Command
import Mailroom.Sieve.Script
import Mailroom.Sieve.Validation
import Mailroom.Store.Database
import Mailroom.Store.Image
import Mailroom.Store.Row
import Mailroom.Store.Table
import Mailroom.Text.Blank
import Mailroom.Text.Case
import Mailroom.Text.Cut
import Mailroom.Text.Number
import Mailroom.Text.Utf8
import Mailroom.Time.Calendar
import Mailroom.Time.Instant
import Mailroom.Unicode.Category
import Mailroom.Unicode.Folding
import Mailroom.Unicode.LowerCase
import Mailroom.Unicode.Property
import Mailroom.Unicode.Ranges
import Mailroom.Unicode.Script
