import ConfigReference.Audit
import ConfigReference.CommandLine.Arguments
import ConfigReference.CommandLine.Help
import ConfigReference.CommandLine.Run
import ConfigReference.CommandLine.Settings
import ConfigReference.Comment.Block
import ConfigReference.Comment.Collect
import ConfigReference.Comment.Description
import ConfigReference.Comment.Line
import ConfigReference.Crash
import ConfigReference.Decimal.Nearest
import ConfigReference.Decimal.Power
import ConfigReference.Decimal.Shortest
import ConfigReference.Discovery
import ConfigReference.Documentation
import ConfigReference.Documentation.Gather
import ConfigReference.Failure
import ConfigReference.FileTree
import ConfigReference.Ignore.Glob
import ConfigReference.Ignore.Rule
import ConfigReference.Json.Printer
import ConfigReference.Json.Reader
import ConfigReference.Json.Value
import ConfigReference.KeyPath
import ConfigReference.KeyedMap
import ConfigReference.Listing
import ConfigReference.Listing.Glob
import ConfigReference.Listing.Session
import ConfigReference.Log
import ConfigReference.Main
import ConfigReference.Markdown.Anchor
import ConfigReference.Markdown.Spacing
import ConfigReference.Path
import ConfigReference.Pattern
import ConfigReference.Pattern.CharSet
import ConfigReference.Pattern.Reader
import ConfigReference.Proofs.Audit.Agreement
import ConfigReference.Proofs.Audit.Report
import ConfigReference.Proofs.CommandLine.Documented
import ConfigReference.Proofs.CommandLine.DryRun
import ConfigReference.Proofs.CommandLine.FileOrder
import ConfigReference.Proofs.CommandLine.Reading
import ConfigReference.Proofs.CommandLine.Refusal
import ConfigReference.Proofs.Comment.Collection
import ConfigReference.Proofs.Comment.Header
import ConfigReference.Proofs.Comment.HeaderText
import ConfigReference.Proofs.Comment.Insertion
import ConfigReference.Proofs.Comment.Margins
import ConfigReference.Proofs.Comment.Reading
import ConfigReference.Proofs.Comment.Runs
import ConfigReference.Proofs.Comment.Spans
import ConfigReference.Proofs.Discovery.FileRoot
import ConfigReference.Proofs.Documentation.Single
import ConfigReference.Proofs.FileTree.Directory
import ConfigReference.Proofs.FileTree.Following
import ConfigReference.Proofs.FileTree.Writing
import ConfigReference.Proofs.Json.RoundTrip
import ConfigReference.Proofs.KeyPath.Address
import ConfigReference.Proofs.KeyPath.Decoding
import ConfigReference.Proofs.KeyPath.Heading
import ConfigReference.Proofs.KeyedMap
import ConfigReference.Proofs.Listing.Answers
import ConfigReference.Proofs.Listing.Escape
import ConfigReference.Proofs.Listing.Files
import ConfigReference.Proofs.Listing.Root
import ConfigReference.Proofs.Listing.Snapshot
import ConfigReference.Proofs.Markdown.Spacing
import ConfigReference.Proofs.Reference.DefaultColumn
import ConfigReference.Proofs.Reference.Destination
import ConfigReference.Proofs.Reference.Hidden
import ConfigReference.Proofs.Reference.Pages
import ConfigReference.Proofs.Reference.Tables
import ConfigReference.Proofs.Row.Coverage
import ConfigReference.Proofs.Row.Defaults
import ConfigReference.Proofs.Row.DocumentOrder
import ConfigReference.Proofs.Row.Inheritance
import ConfigReference.Proofs.Row.Merging
import ConfigReference.Proofs.Row.Ownership
import ConfigReference.Proofs.Row.Sorting
import ConfigReference.Proofs.Row.Texts
import ConfigReference.Proofs.Section.Arrangement
import ConfigReference.Proofs.Section.Filing
import ConfigReference.Proofs.Template.BuiltIn
import ConfigReference.Proofs.Template.Rendering
import ConfigReference.Proofs.Text.LineEnds
import ConfigReference.Proofs.Text.Numbers
import ConfigReference.Proofs.Text.Replacement
import ConfigReference.Proofs.Text.TotalOrder
import ConfigReference.Proofs.WorkerPool.Accounting
import ConfigReference.Proofs.WorkerPool.Finishing
import ConfigReference.Proofs.WorkerPool.Sharing
import ConfigReference.Proofs.Yaml.Composition
import ConfigReference.Proofs.Yaml.HeadComment
import ConfigReference.Proofs.Yaml.Inlining
import ConfigReference.Proofs.Yaml.Integer
import ConfigReference.Proofs.Yaml.LineChange
import ConfigReference.Proofs.Yaml.MergeLaws
import ConfigReference.Proofs.Yaml.MergedData
import ConfigReference.Proofs.Yaml.Merging
import ConfigReference.Proofs.Yaml.Outline
import ConfigReference.Proofs.Yaml.Overlay
import ConfigReference.Proofs.Yaml.Ownership
import ConfigReference.Proofs.Yaml.Placement
import ConfigReference.Proofs.Yaml.Places
import ConfigReference.Proofs.Yaml.Pruning
import ConfigReference.Proofs.Yaml.Reach
import ConfigReference.Proofs.Yaml.Remainder
import ConfigReference.Proofs.Yaml.Removal
import ConfigReference.Proofs.Yaml.Skeleton
import ConfigReference.Proofs.Yaml.Spelling
import ConfigReference.Proofs.Yaml.Trace
import ConfigReference.Proofs.Yaml.Transition
import ConfigReference.Reference.Data
import ConfigReference.Reference.Engine
import ConfigReference.Reference.Functions
import ConfigReference.Reference.Publish
import ConfigReference.RenderOptions
import ConfigReference.Row
import ConfigReference.Section
import ConfigReference.Template
import ConfigReference.Template.BuiltIn
import ConfigReference.Template.Fault
import ConfigReference.Template.Filter
import ConfigReference.Template.Reader
import ConfigReference.Template.Render
import ConfigReference.Template.Token
import ConfigReference.Template.Value
import ConfigReference.Text.Blank
import ConfigReference.Text.Category
import ConfigReference.Text.CategoryTable
import ConfigReference.Text.Letter
import ConfigReference.Text.LetterTable
import ConfigReference.Text.Line
import ConfigReference.Text.NaturalOrder
import ConfigReference.Text.Utf8
import ConfigReference.WorkerPool
import ConfigReference.WorkerPool.Shared
import ConfigReference.Yaml.Character
import ConfigReference.Yaml.Data
import ConfigReference.Yaml.Data.Printer
import ConfigReference.Yaml.Data.ScalarText
import ConfigReference.Yaml.Event
import ConfigReference.Yaml.Event.Grammar
import ConfigReference.Yaml.Fault
import ConfigReference.Yaml.Node
import ConfigReference.Yaml.Node.Build
import ConfigReference.Yaml.Node.Json
import ConfigReference.Yaml.Node.Load
import ConfigReference.Yaml.Node.Merge
import ConfigReference.Yaml.Node.Prune
import ConfigReference.Yaml.Scalar
import ConfigReference.Yaml.Token
import ConfigReference.Yaml.Token.BlockScalar
import ConfigReference.Yaml.Token.Cursor
import ConfigReference.Yaml.Token.FlowScalar
import ConfigReference.Yaml.Token.Lexer
import ConfigReference.Yaml.Token.Tag
