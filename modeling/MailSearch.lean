import MailSearch.Calendar.Civil
import MailSearch.Calendar.Fields
import MailSearch.Calendar.Instant
import MailSearch.Calendar.Internet
import MailSearch.Calendar.LooseDate
import MailSearch.Calendar.MailDate
import MailSearch.Calendar.Pattern
import MailSearch.Calendar.Scan
import MailSearch.Command.Arguments
import MailSearch.Command.Program
import MailSearch.Configuration
import MailSearch.Data.IdMap
import MailSearch.Data.IdSet
import MailSearch.Decimal.Rounding
import MailSearch.Decimal.Shortest
import MailSearch.Json.Decode
import MailSearch.Json.Printer
import MailSearch.Json.Reader
import MailSearch.Json.Token
import MailSearch.Json.Value
import MailSearch.Mail.Address
import MailSearch.Mail.Keyword
import MailSearch.Mail.Message
import MailSearch.Main
import MailSearch.Mime.ContentField
import MailSearch.Mime.Delimiter
import MailSearch.Mime.Document
import MailSearch.Mime.EncodedWord
import MailSearch.Mime.Fields
import MailSearch.Mime.Flow
import MailSearch.Mime.Flow.NameWeight
import MailSearch.Mime.Flow.Table
import MailSearch.Mime.HeaderBlock
import MailSearch.Mime.Html
import MailSearch.Mime.Part
import MailSearch.Mime.Transfer
import MailSearch.Mime.Traversal
import MailSearch.Proofs.Calendar.Civil
import MailSearch.Proofs.Calendar.HeaderDate
import MailSearch.Proofs.Calendar.Internet
import MailSearch.Proofs.Calendar.MailDate
import MailSearch.Proofs.Calendar.Patterns
import MailSearch.Proofs.Calendar.Rendering
import MailSearch.Proofs.Calendar.Scan
import MailSearch.Proofs.Calendar.Spelling
import MailSearch.Proofs.Command.Querying
import MailSearch.Proofs.Configuration
import MailSearch.Proofs.Data.IdMap
import MailSearch.Proofs.Data.IdSet
import MailSearch.Proofs.Data.Outcome
import MailSearch.Proofs.Json.Decode
import MailSearch.Proofs.Json.Value
import MailSearch.Proofs.Mail.AddressList
import MailSearch.Proofs.Mail.DisplayForm
import MailSearch.Proofs.Mail.Keyword
import MailSearch.Proofs.Mail.ListParts
import MailSearch.Proofs.Mail.Message
import MailSearch.Proofs.Mime.BlockContent
import MailSearch.Proofs.Mime.BlockOffsets
import MailSearch.Proofs.Mime.Blocks
import MailSearch.Proofs.Mime.Escaping
import MailSearch.Proofs.Mime.Folding
import MailSearch.Proofs.Mime.HeaderBlock
import MailSearch.Proofs.Mime.HeaderEnd
import MailSearch.Proofs.Mime.JoinedBlocks
import MailSearch.Proofs.Mime.NormalText
import MailSearch.Proofs.Mime.PlainLines
import MailSearch.Proofs.Query.Acceptance
import MailSearch.Proofs.Query.Algebra
import MailSearch.Proofs.Query.Answering
import MailSearch.Proofs.Query.Asking
import MailSearch.Proofs.Query.BodyText
import MailSearch.Proofs.Query.Collection
import MailSearch.Proofs.Query.Comparing
import MailSearch.Proofs.Query.Conditions
import MailSearch.Proofs.Query.EchoedSort
import MailSearch.Proofs.Query.Evaluation
import MailSearch.Proofs.Query.Examination
import MailSearch.Proofs.Query.FieldSearch
import MailSearch.Proofs.Query.Flags
import MailSearch.Proofs.Query.Grammar
import MailSearch.Proofs.Query.HeaderMap
import MailSearch.Proofs.Query.IndexFailure
import MailSearch.Proofs.Query.Limiting
import MailSearch.Proofs.Query.ListForm
import MailSearch.Proofs.Query.Members
import MailSearch.Proofs.Query.Narrowing
import MailSearch.Proofs.Query.Nesting
import MailSearch.Proofs.Query.Ordering
import MailSearch.Proofs.Query.Paging
import MailSearch.Proofs.Query.Precedence
import MailSearch.Proofs.Query.Presentation
import MailSearch.Proofs.Query.Progress
import MailSearch.Proofs.Query.Ranges
import MailSearch.Proofs.Query.Rearrangement
import MailSearch.Proofs.Query.Redaction
import MailSearch.Proofs.Query.Restriction
import MailSearch.Proofs.Query.Running
import MailSearch.Proofs.Query.SortText
import MailSearch.Proofs.Query.Sorting
import MailSearch.Proofs.Query.Targets
import MailSearch.Proofs.Query.Verbatim
import MailSearch.Proofs.Query.Wishes
import MailSearch.Proofs.Storage.Folder
import MailSearch.Proofs.Storage.Reading
import MailSearch.Proofs.Store.BodySearch
import MailSearch.Proofs.Store.Confidentiality
import MailSearch.Proofs.Store.ContentSize
import MailSearch.Proofs.Store.DescribedMessage
import MailSearch.Proofs.Store.EntryOrder
import MailSearch.Proofs.Store.Flags
import MailSearch.Proofs.Store.FullText
import MailSearch.Proofs.Store.History
import MailSearch.Proofs.Store.Invariant
import MailSearch.Proofs.Store.Loading
import MailSearch.Proofs.Store.Meaning
import MailSearch.Proofs.Store.Ranges
import MailSearch.Proofs.Store.Snapshot
import MailSearch.Proofs.Store.SnapshotFile
import MailSearch.Proofs.Store.SnapshotHistory
import MailSearch.Proofs.Text.Blank
import MailSearch.Proofs.Text.LetterCase
import MailSearch.Proofs.Text.LineEnd
import MailSearch.Proofs.Text.Lines
import MailSearch.Proofs.Text.LowerPart
import MailSearch.Proofs.Text.Replacing
import MailSearch.Proofs.Text.Utf8
import MailSearch.Proofs.Text.Words
import MailSearch.Proofs.Toml.Document
import MailSearch.Proofs.Toml.Quoted
import MailSearch.Proofs.Toml.Scalar
import MailSearch.Proofs.Toml.Values
import MailSearch.Query.Candidate
import MailSearch.Query.Engine
import MailSearch.Query.Error
import MailSearch.Query.Filter
import MailSearch.Query.Page
import MailSearch.Query.Predicate
import MailSearch.Query.Projection
import MailSearch.Query.Property
import MailSearch.Query.Request
import MailSearch.Query.Rule
import MailSearch.Query.Settings
import MailSearch.Query.SortOrder
import MailSearch.Query.TextIndex
import MailSearch.Report
import MailSearch.Storage.FileError
import MailSearch.Storage.Folder
import MailSearch.Storage.Path
import MailSearch.Store.Account
import MailSearch.Store.Loading
import MailSearch.Store.Snapshot
import MailSearch.Text.Base64
import MailSearch.Text.Blank
import MailSearch.Text.Charset
import MailSearch.Text.Charset.Big5
import MailSearch.Text.Charset.Big5.Table
import MailSearch.Text.Charset.CodeTable
import MailSearch.Text.Charset.EucJp
import MailSearch.Text.Charset.EucKr
import MailSearch.Text.Charset.EucKr.Table
import MailSearch.Text.Charset.Gb18030
import MailSearch.Text.Charset.Gb18030.Table
import MailSearch.Text.Charset.Iso2022Jp
import MailSearch.Text.Charset.Jis.Table
import MailSearch.Text.Charset.ShiftJis
import MailSearch.Text.Charset.Table
import MailSearch.Text.Charset.Utf16
import MailSearch.Text.Charset.Utf7
import MailSearch.Text.Hex
import MailSearch.Text.LetterCase
import MailSearch.Text.LetterCase.Table
import MailSearch.Text.Occurrence
import MailSearch.Text.Quoted
import MailSearch.Text.Quoted.Table
import MailSearch.Text.Utf8
import MailSearch.Toml.Nesting
import MailSearch.Toml.Printer
import MailSearch.Toml.Quoted
import MailSearch.Toml.Reader
import MailSearch.Toml.Scalar
import MailSearch.Toml.Value
import MailSearch.Proofs.Query.Reply
import MailSearch.Proofs.Json.Record
import MailSearch.Proofs.Store.Description
