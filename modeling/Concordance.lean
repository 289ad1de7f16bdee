import Concordance.Batch
import Concordance.Command.Arguments
import Concordance.Command.Build
import Concordance.Command.Outcome
import Concordance.Command.Search
import Concordance.Decimal.Binary
import Concordance.Decimal.Layout
import Concordance.Decimal.Shortest
import Concordance.Document
import Concordance.Files.Access
import Concordance.Files.Path
import Concordance.Files.Tree
import Concordance.Html.Arena
import Concordance.Html.Builder
import Concordance.Html.Extract
import Concordance.Html.Kinds
import Concordance.Html.Lenient
import Concordance.Html.Node
import Concordance.Html.Parse
import Concordance.Html.Reference
import Concordance.Html.ReferenceData
import Concordance.Html.Reopening
import Concordance.Html.Rules.Body
import Concordance.Html.Rules.Head
import Concordance.Html.Rules.Mode
import Concordance.Html.Rules.Table
import Concordance.Html.Scanner
import Concordance.Html.Scanner.Doctype
import Concordance.Html.Scanner.Script
import Concordance.Html.Scanner.Tag
import Concordance.Html.Token
import Concordance.Index.Basic
import Concordance.Index.Builder
import Concordance.Index.Postings
import Concordance.Index.Soundness
import Concordance.Index.Stats
import Concordance.Intake
import Concordance.Json.Decode
import Concordance.Json.Fault
import Concordance.Json.Number
import Concordance.Json.Quoted
import Concordance.Json.Reader
import Concordance.Json.Record
import Concordance.Json.Skip
import Concordance.Json.Value
import Concordance.Main
import Concordance.Notice
import Concordance.Page.Basic
import Concordance.Page.Folder
import Concordance.Page.Normalize
import Concordance.Page.Record
import Concordance.Page.StopWords
import Concordance.Proofs.Decimal.Comparing
import Concordance.Proofs.Decimal.Digits
import Concordance.Proofs.Decimal.Doubles
import Concordance.Proofs.Decimal.Fractions
import Concordance.Proofs.Decimal.Nearest
import Concordance.Proofs.Decimal.Quotients
import Concordance.Proofs.Decimal.Roots
import Concordance.Proofs.Decimal.Signs
import Concordance.Proofs.Decimal.Sums
import Concordance.Proofs.Decimal.Wholes
import Concordance.Proofs.Files.Listings
import Concordance.Proofs.Html.Extraction
import Concordance.Proofs.Html.Places
import Concordance.Proofs.Html.Silence
import Concordance.Proofs.Index.AnyOrder
import Concordance.Proofs.Index.Batching
import Concordance.Proofs.Index.BlankLines
import Concordance.Proofs.Index.Building
import Concordance.Proofs.Index.Checking
import Concordance.Proofs.Index.Contents
import Concordance.Proofs.Index.Disorder
import Concordance.Proofs.Index.Meaning
import Concordance.Proofs.Index.Merging
import Concordance.Proofs.Index.Norms
import Concordance.Proofs.Index.QueryFiles
import Concordance.Proofs.Index.Ranking
import Concordance.Proofs.Index.Retrieval
import Concordance.Proofs.Index.Rewording
import Concordance.Proofs.Index.Ties
import Concordance.Proofs.Intake.Accounting
import Concordance.Proofs.Intake.Finding
import Concordance.Proofs.Intake.Taking
import Concordance.Proofs.Json.Containers
import Concordance.Proofs.Json.Lengths
import Concordance.Proofs.Json.Numbers
import Concordance.Proofs.Json.Reals
import Concordance.Proofs.Json.Running
import Concordance.Proofs.Json.Texts
import Concordance.Proofs.Page.Cleaning
import Concordance.Proofs.Page.Collecting
import Concordance.Proofs.Page.Normalizing
import Concordance.Proofs.Page.Pieces
import Concordance.Proofs.Query.Composing
import Concordance.Proofs.Query.Depth
import Concordance.Proofs.Query.Flattening
import Concordance.Proofs.Query.Grammar
import Concordance.Proofs.Query.Lexing
import Concordance.Proofs.Query.Margins
import Concordance.Proofs.Query.Matching
import Concordance.Proofs.Query.Parsing
import Concordance.Proofs.Query.Prefixes
import Concordance.Proofs.Query.Reading
import Concordance.Proofs.Query.Rendering
import Concordance.Proofs.Query.Scanning
import Concordance.Proofs.Query.Slicing
import Concordance.Proofs.Query.Spacing
import Concordance.Proofs.Query.Streaming
import Concordance.Proofs.Score.Agreement
import Concordance.Proofs.Score.Cosine
import Concordance.Proofs.Score.Counting
import Concordance.Proofs.Score.Regrouping
import Concordance.Proofs.Snapshot.Framing
import Concordance.Proofs.Snapshot.Payloads
import Concordance.Proofs.Snapshot.RoundTrip
import Concordance.Proofs.Snapshot.Tampering
import Concordance.Proofs.Text.Endings
import Concordance.Proofs.Text.Letters
import Concordance.Proofs.Text.Lowercasing
import Concordance.Proofs.Text.Trimming
import Concordance.Proofs.Text.Words
import Concordance.Query.Evaluate
import Concordance.Query.Expr
import Concordance.Query.Lexer
import Concordance.Query.Parser
import Concordance.Query.Scan
import Concordance.Query.Token
import Concordance.Score
import Concordance.Search
import Concordance.Settings
import Concordance.Snapshot.Codec
import Concordance.Snapshot.Digest
import Concordance.Snapshot.File
import Concordance.Snapshot.Payload
import Concordance.Tally
import Concordance.Text.Blank
import Concordance.Text.CaseData
import Concordance.Text.CharSet
import Concordance.Text.Composed
import Concordance.Text.ComposedData
import Concordance.Text.Escaped
import Concordance.Text.Hexadecimal
import Concordance.Text.Lines
import Concordance.Text.Lowercase
import Concordance.Text.PrintData
import Concordance.Text.Utf8
import Concordance.Url.Address
import Concordance.Url.Basic
import Concordance.Url.Domain
import Concordance.Url.Domain.DirectionData
import Concordance.Url.Domain.JoiningData
import Concordance.Url.Domain.MappingData
import Concordance.Url.Host
import Concordance.Url.Parse
import Concordance.Url.Path
import Concordance.Url.Percent
import Concordance.Url.Punycode
