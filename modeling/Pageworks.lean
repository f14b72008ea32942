import Pageworks.Build
import Pageworks.Build.Plan
import Pageworks.Build.Step
import Pageworks.Build.Survey
import Pageworks.CacheKey
import Pageworks.Calendar
import Pageworks.CommandLine
import Pageworks.CommandLine.Arguments
import Pageworks.Component
import Pageworks.Database
import Pageworks.Decimal.Numeral
import Pageworks.Decimal.Shortest
import Pageworks.Digest.Fingerprint
import Pageworks.Digest.Sha256
import Pageworks.Document
import Pageworks.FileTree
import Pageworks.GeneratedUnit
import Pageworks.Glob
import Pageworks.Header
import Pageworks.Identifier
import Pageworks.Import
import Pageworks.Link
import Pageworks.Location
import Pageworks.Log
import Pageworks.Main
import Pageworks.Markdown.Block
import Pageworks.Markdown.Block.Page
import Pageworks.Markdown.Block.Reader
import Pageworks.Markdown.Block.Start
import Pageworks.Markdown.Block.Table
import Pageworks.Markdown.Entity
import Pageworks.Markdown.Entity.Table
import Pageworks.Markdown.Html
import Pageworks.Markdown.Inline
import Pageworks.Markdown.Inline.Delimiter
import Pageworks.Markdown.Inline.Label
import Pageworks.Markdown.Inline.Reader
import Pageworks.Markdown.Inline.Source
import Pageworks.Markdown.Line
import Pageworks.Markdown.Markup
import Pageworks.Markdown.Preset
import Pageworks.Markdown.Target
import Pageworks.Markdown.Url
import Pageworks.Markdown.Url.Percent
import Pageworks.Markdown.Url.Punycode
import Pageworks.Metadata
import Pageworks.Namespace
import Pageworks.Path
import Pageworks.Project
import Pageworks.Proofs.Build.Collision
import Pageworks.Proofs.Build.Failure
import Pageworks.Proofs.Build.Frame
import Pageworks.Proofs.Build.History
import Pageworks.Proofs.Build.Invalidation
import Pageworks.Proofs.Build.Piecewise
import Pageworks.Proofs.Build.Plan
import Pageworks.Proofs.Build.Removal
import Pageworks.Proofs.Build.Repeat
import Pageworks.Proofs.Build.Report
import Pageworks.Proofs.Build.Step
import Pageworks.Proofs.Build.Success
import Pageworks.Proofs.Build.Survey
import Pageworks.Proofs.Build.Transaction
import Pageworks.Proofs.Build.Unseen
import Pageworks.Proofs.CacheKey
import Pageworks.Proofs.Cascade
import Pageworks.Proofs.Collision
import Pageworks.Proofs.CommandLine
import Pageworks.Proofs.Digest
import Pageworks.Proofs.Digest.Number
import Pageworks.Proofs.Digest.Window
import Pageworks.Proofs.Directive
import Pageworks.Proofs.Fields
import Pageworks.Proofs.FileTree
import Pageworks.Proofs.GeneratedUnit
import Pageworks.Proofs.Header
import Pageworks.Proofs.Identifier
import Pageworks.Proofs.Import
import Pageworks.Proofs.Link
import Pageworks.Proofs.Literal
import Pageworks.Proofs.Location
import Pageworks.Proofs.Metadata
import Pageworks.Proofs.Namespace
import Pageworks.Proofs.Path
import Pageworks.Proofs.Project
import Pageworks.Proofs.Respelling
import Pageworks.Proofs.Session
import Pageworks.Proofs.SetOrder
import Pageworks.Proofs.Settings
import Pageworks.Proofs.Skeleton
import Pageworks.Proofs.Sources
import Pageworks.Proofs.Store
import Pageworks.Proofs.Tag
import Pageworks.Proofs.Terminator
import Pageworks.Proofs.UnitName
import Pageworks.Proofs.Usings
import Pageworks.Renderer
import Pageworks.Settings
import Pageworks.Sources
import Pageworks.Store
import Pageworks.Store.Archive
import Pageworks.Text.Blank
import Pageworks.Text.Category
import Pageworks.Text.Folding
import Pageworks.Text.Pattern
import Pageworks.Text.Quoted
import Pageworks.Text.Ranges
import Pageworks.Text.Split
import Pageworks.Text.Table.Folding
import Pageworks.Text.Table.Letter
import Pageworks.Text.Table.Mark
import Pageworks.Text.Table.Punctuation
import Pageworks.Text.Table.Unprintable
import Pageworks.Value
import Pageworks.Yaml.Cursor
import Pageworks.Yaml.Document
import Pageworks.Yaml.Fault
import Pageworks.Yaml.Node
import Pageworks.Yaml.Scalar
import Pageworks.Yaml.Token
