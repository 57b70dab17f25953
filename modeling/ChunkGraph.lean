import ChunkGraph.Cache
import ChunkGraph.Chunk.Basic
import ChunkGraph.Chunk.Identity
import ChunkGraph.Chunk.Merge
import ChunkGraph.Chunk.Options
import ChunkGraph.Chunk.Tokens
import ChunkGraph.Chunker
import ChunkGraph.CommandLine.Arguments
import ChunkGraph.CommandLine.Basic
import ChunkGraph.CommandLine.Command
import ChunkGraph.CommandLine.Markup
import ChunkGraph.CommandLine.Markup.Argument
import ChunkGraph.CommandLine.Markup.Picture
import ChunkGraph.CommandLine.Markup.Style
import ChunkGraph.CommandLine.Panel
import ChunkGraph.CommandLine.Table
import ChunkGraph.Data.Bound
import ChunkGraph.Data.Format
import ChunkGraph.Data.Inline
import ChunkGraph.Data.Json.Reader
import ChunkGraph.Data.Json.Writer
import ChunkGraph.Data.Keyed
import ChunkGraph.Data.Members
import ChunkGraph.Data.Value
import ChunkGraph.Data.Yaml.Node
import ChunkGraph.Data.Yaml.Place
import ChunkGraph.Data.Yaml.Reader
import ChunkGraph.Data.Yaml.Scalar
import ChunkGraph.Data.Yaml.Time
import ChunkGraph.Data.Yaml.Token
import ChunkGraph.Data.Yaml.Writer
import ChunkGraph.Data.Yaml.Written
import ChunkGraph.Digest.Sha256
import ChunkGraph.Disk.Basic
import ChunkGraph.Excerpt.Assemble
import ChunkGraph.Excerpt.Basic
import ChunkGraph.Excerpt.Request
import ChunkGraph.Failure
import ChunkGraph.FrontEnd.Basic
import ChunkGraph.FrontEnd.Component
import ChunkGraph.FrontEnd.DocComment
import ChunkGraph.FrontEnd.Generic
import ChunkGraph.FrontEnd.Item
import ChunkGraph.FrontEnd.Query
import ChunkGraph.FrontEnd.Script
import ChunkGraph.Graph.Basic
import ChunkGraph.Graph.Closure
import ChunkGraph.Graph.Summary
import ChunkGraph.Language.Registry
import ChunkGraph.Main
import ChunkGraph.Number.Binary64
import ChunkGraph.Number.Decimal
import ChunkGraph.Number.Digits
import ChunkGraph.Number.Literal
import ChunkGraph.Number.Quantity
import ChunkGraph.Outline.Basic
import ChunkGraph.Outline.Markers
import ChunkGraph.Path.Basic
import ChunkGraph.Path.Glob
import ChunkGraph.Path.Glob.Line
import ChunkGraph.Pool
import ChunkGraph.Proofs.Cache.History
import ChunkGraph.Proofs.Cache.Operations
import ChunkGraph.Proofs.Chunk.Groups
import ChunkGraph.Proofs.Chunk.Identity
import ChunkGraph.Proofs.Chunk.Links
import ChunkGraph.Proofs.Chunk.Regrouping
import ChunkGraph.Proofs.Chunk.Runs
import ChunkGraph.Proofs.Chunk.Unnoticed
import ChunkGraph.Proofs.Chunker.Balance
import ChunkGraph.Proofs.Chunker.Component
import ChunkGraph.Proofs.Chunker.Counting
import ChunkGraph.Proofs.Chunker.Cutting
import ChunkGraph.Proofs.Chunker.Editing
import ChunkGraph.Proofs.Chunker.Interface
import ChunkGraph.Proofs.Chunker.Listing
import ChunkGraph.Proofs.Chunker.Made
import ChunkGraph.Proofs.Chunker.PoolKey
import ChunkGraph.Proofs.Chunker.Session
import ChunkGraph.Proofs.Chunker.Switches
import ChunkGraph.Proofs.Data.Json
import ChunkGraph.Proofs.Data.Keyed
import ChunkGraph.Proofs.Data.Partial
import ChunkGraph.Proofs.Data.Related
import ChunkGraph.Proofs.Excerpt.Asking
import ChunkGraph.Proofs.Excerpt.Blocks
import ChunkGraph.Proofs.Excerpt.Corpus
import ChunkGraph.Proofs.Excerpt.Discovery
import ChunkGraph.Proofs.Excerpt.Layout
import ChunkGraph.Proofs.Excerpt.Reading
import ChunkGraph.Proofs.Excerpt.RequestOrder
import ChunkGraph.Proofs.Excerpt.Requests
import ChunkGraph.Proofs.Excerpt.Retained
import ChunkGraph.Proofs.Excerpt.Rounds
import ChunkGraph.Proofs.Excerpt.Selection
import ChunkGraph.Proofs.Excerpt.Settled
import ChunkGraph.Proofs.Excerpt.State
import ChunkGraph.Proofs.FrontEnd.Alike
import ChunkGraph.Proofs.FrontEnd.BlockComment
import ChunkGraph.Proofs.FrontEnd.Blocks
import ChunkGraph.Proofs.FrontEnd.Collection
import ChunkGraph.Proofs.FrontEnd.Entries
import ChunkGraph.Proofs.FrontEnd.Exports
import ChunkGraph.Proofs.FrontEnd.Gathering
import ChunkGraph.Proofs.FrontEnd.Inside
import ChunkGraph.Proofs.FrontEnd.Listing
import ChunkGraph.Proofs.FrontEnd.Places
import ChunkGraph.Proofs.FrontEnd.References
import ChunkGraph.Proofs.FrontEnd.Spans
import ChunkGraph.Proofs.FrontEnd.Statements
import ChunkGraph.Proofs.Graph.DepthFirst
import ChunkGraph.Proofs.Graph.FileOrder
import ChunkGraph.Proofs.Graph.Importing
import ChunkGraph.Proofs.Graph.LeftOut
import ChunkGraph.Proofs.Graph.LocalCalls
import ChunkGraph.Proofs.Graph.Members
import ChunkGraph.Proofs.Graph.Merging
import ChunkGraph.Proofs.Graph.Precedence
import ChunkGraph.Proofs.Graph.Provenance
import ChunkGraph.Proofs.Graph.Reachability
import ChunkGraph.Proofs.Graph.SharedIdentity
import ChunkGraph.Proofs.Graph.Targets
import ChunkGraph.Proofs.Graph.Termination
import ChunkGraph.Proofs.Language.Tables
import ChunkGraph.Proofs.Number.Decimal
import ChunkGraph.Proofs.Number.Order
import ChunkGraph.Proofs.Outline.Alike
import ChunkGraph.Proofs.Outline.Component
import ChunkGraph.Proofs.Outline.Content
import ChunkGraph.Proofs.Outline.Dependencies
import ChunkGraph.Proofs.Outline.Forest
import ChunkGraph.Proofs.Outline.Insertion
import ChunkGraph.Proofs.Outline.Location
import ChunkGraph.Proofs.Outline.Markers
import ChunkGraph.Proofs.Outline.Members
import ChunkGraph.Proofs.Outline.Nesting
import ChunkGraph.Proofs.Outline.Pieces
import ChunkGraph.Proofs.Outline.Shape
import ChunkGraph.Proofs.Outline.Spans
import ChunkGraph.Proofs.Outline.Twins
import ChunkGraph.Proofs.Path.Canonical
import ChunkGraph.Proofs.Path.Normal
import ChunkGraph.Proofs.Pool.Lending
import ChunkGraph.Proofs.Pool.Operations
import ChunkGraph.Proofs.Resolve.Alias
import ChunkGraph.Proofs.Resolve.Normal
import ChunkGraph.Proofs.Resolve.Priority
import ChunkGraph.Proofs.Resolve.ProjectFile
import ChunkGraph.Proofs.Resolve.RelativeModule
import ChunkGraph.Proofs.Service.Content
import ChunkGraph.Proofs.Service.Freshness
import ChunkGraph.Proofs.Service.History
import ChunkGraph.Proofs.Service.Memory
import ChunkGraph.Proofs.Settings.Layers
import ChunkGraph.Proofs.Syntax.Alike
import ChunkGraph.Proofs.Syntax.Insertion
import ChunkGraph.Proofs.Syntax.Order
import ChunkGraph.Proofs.Syntax.Spans
import ChunkGraph.Proofs.Syntax.Walk
import ChunkGraph.Proofs.Text.Case
import ChunkGraph.Proofs.Text.Growing
import ChunkGraph.Proofs.Text.Lines
import ChunkGraph.Proofs.Text.Parts
import ChunkGraph.Proofs.Text.Search
import ChunkGraph.Proofs.Text.Utf8
import ChunkGraph.Report.Record
import ChunkGraph.Report.Result
import ChunkGraph.Report.Service
import ChunkGraph.Resolve.Alias
import ChunkGraph.Resolve.Basic
import ChunkGraph.Resolve.Probe
import ChunkGraph.Resolve.ProjectFile
import ChunkGraph.Service.Basic
import ChunkGraph.Service.Selection
import ChunkGraph.Settings.Basic
import ChunkGraph.Settings.Document
import ChunkGraph.Settings.Environment
import ChunkGraph.Snapshot
import ChunkGraph.Syntax.Cursor
import ChunkGraph.Syntax.Node
import ChunkGraph.Syntax.Tree
import ChunkGraph.Syntax.Walk
import ChunkGraph.Text.Base64
import ChunkGraph.Text.Blank
import ChunkGraph.Text.Letter
import ChunkGraph.Text.Lines
import ChunkGraph.Text.Quoted
import ChunkGraph.Text.Search
import ChunkGraph.Text.Table.Case
import ChunkGraph.Text.Table.Digit
import ChunkGraph.Text.Table.Printable
import ChunkGraph.Text.Table.Width
import ChunkGraph.Text.Table.Word
import ChunkGraph.Text.Utf8
import ChunkGraph.Text.Width
import ChunkGraph.Text.Word
import ChunkGraph.Text.Wrap
import ChunkGraph.Web.Basic
import ChunkGraph.Web.Decode
