import ImageCatalog.Catalog.Backend
import ImageCatalog.Catalog.Cache
import ImageCatalog.Catalog.Contents
import ImageCatalog.Catalog.Entry
import ImageCatalog.Catalog.Load
import ImageCatalog.Catalog.Page
import ImageCatalog.Catalog.Source
import ImageCatalog.Command.Describe
import ImageCatalog.Command.Invocation
import ImageCatalog.Command.Report
import ImageCatalog.Command.Run
import ImageCatalog.Command.Usage
import ImageCatalog.Command.Words
import ImageCatalog.Config.Basic
import ImageCatalog.Config.Checked
import ImageCatalog.Config.Document
import ImageCatalog.Config.FieldCheck
import ImageCatalog.Config.File
import ImageCatalog.Config.FileName
import ImageCatalog.Config.Issue
import ImageCatalog.Config.Parameter
import ImageCatalog.Config.Validation
import ImageCatalog.Disk.Location
import ImageCatalog.Disk.Tree
import ImageCatalog.Generator
import ImageCatalog.Http.Client
import ImageCatalog.Http.Message
import ImageCatalog.Image.Download
import ImageCatalog.Image.Extension
import ImageCatalog.Image.Extract
import ImageCatalog.Image.Reference
import ImageCatalog.Json.Reader
import ImageCatalog.Json.Writer
import ImageCatalog.Main
import ImageCatalog.Number.Binary64
import ImageCatalog.Number.Literal
import ImageCatalog.Number.Quantity
import ImageCatalog.Number.Shortest
import ImageCatalog.Path.Resolve
import ImageCatalog.Path.Selector
import ImageCatalog.Path.Step
import ImageCatalog.Proofs.Catalog.Agreement
import ImageCatalog.Proofs.Catalog.Arrival
import ImageCatalog.Proofs.Catalog.Coherence
import ImageCatalog.Proofs.Catalog.Contents
import ImageCatalog.Proofs.Catalog.FailedListing
import ImageCatalog.Proofs.Catalog.Offer
import ImageCatalog.Proofs.Catalog.Page
import ImageCatalog.Proofs.Catalog.PageLines
import ImageCatalog.Proofs.Catalog.Reuse
import ImageCatalog.Proofs.Catalog.Rounds
import ImageCatalog.Proofs.Catalog.Serving
import ImageCatalog.Proofs.Catalog.Session
import ImageCatalog.Proofs.Catalog.Spoiled
import ImageCatalog.Proofs.Catalog.Stored
import ImageCatalog.Proofs.Catalog.Totality
import ImageCatalog.Proofs.Catalog.WholeCatalog
import ImageCatalog.Proofs.Command.Collisions
import ImageCatalog.Proofs.Command.Keys
import ImageCatalog.Proofs.Command.Opening
import ImageCatalog.Proofs.Command.SavedSettings
import ImageCatalog.Proofs.Command.Service
import ImageCatalog.Proofs.Command.Validation
import ImageCatalog.Proofs.Command.Verdicts
import ImageCatalog.Proofs.Config.Defaults
import ImageCatalog.Proofs.Config.Legible
import ImageCatalog.Proofs.Config.LocalFile
import ImageCatalog.Proofs.Config.Outcome
import ImageCatalog.Proofs.Config.Rebuilt
import ImageCatalog.Proofs.Config.Report
import ImageCatalog.Proofs.Disk.Directory
import ImageCatalog.Proofs.Disk.Making
import ImageCatalog.Proofs.Disk.Written
import ImageCatalog.Proofs.Generator.Overlap
import ImageCatalog.Proofs.Image.Binary
import ImageCatalog.Proofs.Image.Links
import ImageCatalog.Proofs.Image.Names
import ImageCatalog.Proofs.Image.Payloads
import ImageCatalog.Proofs.Image.PlainLinks
import ImageCatalog.Proofs.Image.Saving
import ImageCatalog.Proofs.Image.Usable
import ImageCatalog.Proofs.Items
import ImageCatalog.Proofs.Json.Accepted
import ImageCatalog.Proofs.Json.LineEnds
import ImageCatalog.Proofs.Json.Number
import ImageCatalog.Proofs.Json.Overlong
import ImageCatalog.Proofs.Json.Portable
import ImageCatalog.Proofs.Json.Reading
import ImageCatalog.Proofs.Json.RoundTrip
import ImageCatalog.Proofs.Json.Spelling
import ImageCatalog.Proofs.Json.Spelt
import ImageCatalog.Proofs.Json.Text
import ImageCatalog.Proofs.Number.Comparison
import ImageCatalog.Proofs.Number.Decimal
import ImageCatalog.Proofs.Number.Limit
import ImageCatalog.Proofs.Number.Literal
import ImageCatalog.Proofs.Number.Overflow
import ImageCatalog.Proofs.Number.Rounding
import ImageCatalog.Proofs.Path.Composition
import ImageCatalog.Proofs.Path.Failure
import ImageCatalog.Proofs.Path.Number
import ImageCatalog.Proofs.Path.Occurrences
import ImageCatalog.Proofs.Path.Overlong
import ImageCatalog.Proofs.Path.Reach
import ImageCatalog.Proofs.Path.Segment
import ImageCatalog.Proofs.Path.Selection
import ImageCatalog.Proofs.Path.Slice
import ImageCatalog.Proofs.Path.Written
import ImageCatalog.Proofs.Request.Body
import ImageCatalog.Proofs.Request.Choices
import ImageCatalog.Proofs.Request.Lists
import ImageCatalog.Proofs.Request.Numbers
import ImageCatalog.Proofs.Request.Overridden
import ImageCatalog.Proofs.Request.Query
import ImageCatalog.Proofs.Request.Refused
import ImageCatalog.Proofs.Request.Seeded
import ImageCatalog.Proofs.Request.Sent
import ImageCatalog.Proofs.Request.Structure
import ImageCatalog.Proofs.Results
import ImageCatalog.Proofs.Settings.Course
import ImageCatalog.Proofs.Settings.Environment
import ImageCatalog.Proofs.Settings.Fitting
import ImageCatalog.Proofs.Settings.Notification
import ImageCatalog.Proofs.Settings.Opening
import ImageCatalog.Proofs.Settings.Persistence
import ImageCatalog.Proofs.Settings.Unsaved
import ImageCatalog.Proofs.Text.Base64
import ImageCatalog.Proofs.Text.Cut
import ImageCatalog.Proofs.Text.Entity
import ImageCatalog.Proofs.Text.Form
import ImageCatalog.Proofs.Text.Percent
import ImageCatalog.Proofs.Text.Surrogate
import ImageCatalog.Proofs.Text.Token
import ImageCatalog.Proofs.Text.Utf8
import ImageCatalog.Proofs.Value.Document
import ImageCatalog.Proofs.Value.Entries
import ImageCatalog.Proofs.Value.Filled
import ImageCatalog.Proofs.Value.Rendering
import ImageCatalog.Proofs.Yaml.Cursor
import ImageCatalog.Proofs.Yaml.Cutting
import ImageCatalog.Proofs.Yaml.Faults
import ImageCatalog.Proofs.Yaml.Nodes
import ImageCatalog.Proofs.Yaml.Plain
import ImageCatalog.Proofs.Yaml.Quoted
import ImageCatalog.Proofs.Yaml.Scalars
import ImageCatalog.Proofs.Yaml.Tokens
import ImageCatalog.Proofs.Yaml.Turn
import ImageCatalog.Proofs.Yaml.Values
import ImageCatalog.Request.Build
import ImageCatalog.Request.Override
import ImageCatalog.Request.ValueMap
import ImageCatalog.Settings.Basic
import ImageCatalog.Settings.Effective
import ImageCatalog.Settings.Store
import ImageCatalog.Settings.VariableFile
import ImageCatalog.Text.Base64
import ImageCatalog.Text.Blank
import ImageCatalog.Text.Case
import ImageCatalog.Text.Digit
import ImageCatalog.Text.Entity
import ImageCatalog.Text.EntityTable
import ImageCatalog.Text.Form
import ImageCatalog.Text.Hex
import ImageCatalog.Text.Letter
import ImageCatalog.Text.Line
import ImageCatalog.Text.Percent
import ImageCatalog.Text.Printable
import ImageCatalog.Text.Quoted
import ImageCatalog.Text.Range
import ImageCatalog.Text.Similarity
import ImageCatalog.Text.Split
import ImageCatalog.Text.Surrogate
import ImageCatalog.Text.Token
import ImageCatalog.Text.Utf8
import ImageCatalog.Url.Basic
import ImageCatalog.Url.Host
import ImageCatalog.Url.Join
import ImageCatalog.Value.Basic
import ImageCatalog.Value.Calendar
import ImageCatalog.Value.Entries
import ImageCatalog.Value.Print
import ImageCatalog.Yaml.Construct
import ImageCatalog.Yaml.Cursor
import ImageCatalog.Yaml.Fault
import ImageCatalog.Yaml.Node
import ImageCatalog.Yaml.Number
import ImageCatalog.Yaml.Scalar
import ImageCatalog.Yaml.Timestamp
import ImageCatalog.Yaml.Token.Basic
import ImageCatalog.Yaml.Token.Block
import ImageCatalog.Yaml.Token.Lexer
import ImageCatalog.Yaml.Token.Plain
import ImageCatalog.Yaml.Token.Quoted
import ImageCatalog.Yaml.Token.Tag
