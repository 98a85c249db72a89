import SearchExport.Binary64.Basic
import SearchExport.Binary64.Fixed
import SearchExport.Binary64.Shortest
import SearchExport.Command.Arguments
import SearchExport.Command.Export
import SearchExport.Command.Init
import SearchExport.Command.Line
import SearchExport.Command.Report
import SearchExport.Command.Sample
import SearchExport.Command.Usage
import SearchExport.Command.Validate
import SearchExport.Config.Basic
import SearchExport.Config.Codec
import SearchExport.Config.Load
import SearchExport.Config.Overrides
import SearchExport.Config.Secret
import SearchExport.Config.Substitution
import SearchExport.Config.Validation
import SearchExport.Disk
import SearchExport.Document.Basic
import SearchExport.Duration
import SearchExport.Elasticsearch.Body
import SearchExport.Elasticsearch.Client
import SearchExport.Elasticsearch.Response
import SearchExport.Engine.Guard
import SearchExport.Engine.Indices
import SearchExport.Engine.Page
import SearchExport.Engine.Query
import SearchExport.Environment.Basic
import SearchExport.Environment.File
import SearchExport.Error
import SearchExport.Export.Identifier
import SearchExport.Export.Journal
import SearchExport.Export.Run
import SearchExport.Export.Sink
import SearchExport.Export.Summary
import SearchExport.Fields
import SearchExport.Http.Base64
import SearchExport.Http.Connection
import SearchExport.Http.Exchange
import SearchExport.Http.Wire
import SearchExport.Json.Parser
import SearchExport.Json.Printer
import SearchExport.Json.Value
import SearchExport.Log.Filter
import SearchExport.Log.Level
import SearchExport.Log.Logger
import SearchExport.Log.Notice
import SearchExport.Log.Output
import SearchExport.Log.Printer
import SearchExport.Main
import SearchExport.Message.Basic
import SearchExport.Message.Decoration
import SearchExport.NameSet
import SearchExport.Program
import SearchExport.Proofs.Command.OutputFile
import SearchExport.Proofs.Config.IndexNames
import SearchExport.Proofs.Config.Overriding
import SearchExport.Proofs.Config.References
import SearchExport.Proofs.Config.Settings
import SearchExport.Proofs.Config.Substitution
import SearchExport.Proofs.Disk.Writing
import SearchExport.Proofs.Document.Rereading
import SearchExport.Proofs.Elasticsearch.BodyIdentity
import SearchExport.Proofs.Elasticsearch.Confinement
import SearchExport.Proofs.Elasticsearch.IndexAddress
import SearchExport.Proofs.Elasticsearch.Retries
import SearchExport.Proofs.Elasticsearch.TimeFilter
import SearchExport.Proofs.Engine.LeadingWildcard
import SearchExport.Proofs.Export.Decorators
import SearchExport.Proofs.Export.Failure
import SearchExport.Proofs.Export.InStep
import SearchExport.Proofs.Export.Limit
import SearchExport.Proofs.Export.Lines
import SearchExport.Proofs.Export.Portions
import SearchExport.Proofs.Export.Prefix
import SearchExport.Proofs.Export.Protocol
import SearchExport.Proofs.Export.Resuming
import SearchExport.Proofs.Export.Sinks
import SearchExport.Proofs.Export.Start
import SearchExport.Proofs.Export.Truncation
import SearchExport.Proofs.Export.Turns
import SearchExport.Proofs.Fields.Lookup
import SearchExport.Proofs.Indices.Coverage
import SearchExport.Proofs.Indices.Pruning
import SearchExport.Proofs.Json.SameData
import SearchExport.Proofs.Json.SingleLine
import SearchExport.Proofs.Message.Needs
import SearchExport.Proofs.Message.Order
import SearchExport.Proofs.Message.Patterns
import SearchExport.Proofs.Message.Projection
import SearchExport.Proofs.Message.Untouched
import SearchExport.Proofs.Paging.ChunkSize
import SearchExport.Proofs.Paging.Exactness
import SearchExport.Proofs.Paging.Order
import SearchExport.Proofs.Paging.Reference
import SearchExport.Proofs.Paging.TieBreaker
import SearchExport.Proofs.Request.Build
import SearchExport.Proofs.Request.Firsts
import SearchExport.Proofs.Request.NormalForm
import SearchExport.Proofs.Search.JoinedFilters
import SearchExport.Proofs.Search.JoinedParameters
import SearchExport.Proofs.Search.Narrowing
import SearchExport.Proofs.Search.Parameters
import SearchExport.Proofs.Search.Reencoding
import SearchExport.Proofs.Search.SharedDollars
import SearchExport.Proofs.Search.Streams
import SearchExport.Proofs.SortKey.RoundTrip
import SearchExport.Proofs.Text.Cutting
import SearchExport.Proofs.Text.Digits
import SearchExport.Proofs.Text.LetterCase
import SearchExport.Proofs.Text.Pieces
import SearchExport.Proofs.Text.Placeholders
import SearchExport.Proofs.Text.Tokens
import SearchExport.Proofs.Text.Utf8
import SearchExport.Proofs.Text.Words
import SearchExport.Proofs.TimeRange.Offsets
import SearchExport.Proofs.TimeRange.Shifted
import SearchExport.Proofs.Timestamp.Calendar
import SearchExport.Proofs.Timestamp.Reading
import SearchExport.Proofs.Timestamp.Shifting
import SearchExport.Proofs.Url.Below
import SearchExport.Proofs.Url.Relative
import SearchExport.Request
import SearchExport.Search.Basic
import SearchExport.Search.Codec
import SearchExport.Search.QueryString
import SearchExport.Search.Resolve
import SearchExport.SortKey
import SearchExport.Text.Blank
import SearchExport.Text.Digits
import SearchExport.Text.Lowercase
import SearchExport.Text.Quoted
import SearchExport.Text.Scan
import SearchExport.Text.Split
import SearchExport.TimeRange
import SearchExport.Timestamp.Basic
import SearchExport.Timestamp.Calendar
import SearchExport.Timestamp.Parser
import SearchExport.Timestamp.Printer
import SearchExport.Toml.Parser
import SearchExport.Toml.Table
import SearchExport.Url.Basic
import SearchExport.Url.Host
import SearchExport.Url.Parser
import SearchExport.Url.Punycode
