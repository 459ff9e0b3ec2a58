import ClientStub.Catalog
import ClientStub.Catalog.Fields
import ClientStub.Catalog.Json
import ClientStub.Catalog.Lookup
import ClientStub.Catalog.Yaml
import ClientStub.CommandLine
import ClientStub.Config
import ClientStub.Config.File
import ClientStub.Config.Toml
import ClientStub.Config.Yaml
import ClientStub.Decimal.Binary64
import ClientStub.Decimal.Shortest
import ClientStub.Decimal.Width
import ClientStub.Declaration
import ClientStub.Description
import ClientStub.Descriptor
import ClientStub.DocBlock
import ClientStub.DocComment
import ClientStub.Entries
import ClientStub.Error
import ClientStub.Files.Disk
import ClientStub.Files.Fault
import ClientStub.Files.Path
import ClientStub.Files.Tree
import ClientStub.Generation
import ClientStub.Json.Document
import ClientStub.Json.Printer
import ClientStub.Json.Reader
import ClientStub.Json.Value
import ClientStub.Main
import ClientStub.Mismatch
import ClientStub.Notice
import ClientStub.Proofs.Catalog
import ClientStub.Proofs.DefaultLiteral
import ClientStub.Proofs.DocBlock.Introducers
import ClientStub.Proofs.DocBlock.Quiet
import ClientStub.Proofs.DocBlock.Reading
import ClientStub.Proofs.DocBlock.Tags
import ClientStub.Proofs.DocBlock.Tidy
import ClientStub.Proofs.DocBlock.Words
import ClientStub.Proofs.DocComment.Frame
import ClientStub.Proofs.DocComment.ReadBack
import ClientStub.Proofs.Files.Below
import ClientStub.Proofs.Files.FileSystem
import ClientStub.Proofs.Files.Tree
import ClientStub.Proofs.Generation.Outputs
import ClientStub.Proofs.Generation.Prefix
import ClientStub.Proofs.Script.Literal
import ClientStub.Proofs.Stub.Arguments
import ClientStub.Proofs.Stub.CommentLines
import ClientStub.Proofs.Stub.CommentReading
import ClientStub.Proofs.Stub.Placeholders
import ClientStub.Proofs.Stub.ServiceHead
import ClientStub.Proofs.Stub.UrlLiteral
import ClientStub.Proofs.TagMap
import ClientStub.Proofs.Text.ByteOrder
import ClientStub.Proofs.Text.LineFeed
import ClientStub.Proofs.Text.Normalised
import ClientStub.Proofs.Text.Separated
import ClientStub.Proofs.Text.Trim
import ClientStub.Stub.Call
import ClientStub.Stub.Doc
import ClientStub.Stub.Layout
import ClientStub.Stub.Method
import ClientStub.Stub.Service
import ClientStub.TagMap
import ClientStub.Template
import ClientStub.Text.Blank
import ClientStub.Text.Casing
import ClientStub.Text.LetterTables
import ClientStub.Text.Letters
import ClientStub.Text.Lines
import ClientStub.Text.Quoted
import ClientStub.Text.Shown
import ClientStub.Text.Word
import ClientStub.Toml.Date
import ClientStub.Toml.Document
import ClientStub.Toml.Number
import ClientStub.Toml.Printer
import ClientStub.Toml.Text
import ClientStub.Toml.Value
import ClientStub.TypeTable
import ClientStub.Verb
import ClientStub.Yaml.Cursor
import ClientStub.Yaml.Document
import ClientStub.Yaml.Node
import ClientStub.Yaml.Plain
import ClientStub.Yaml.Printer
import ClientStub.Yaml.Property
import ClientStub.Yaml.Scalar
import ClientStub.Yaml.Shape
import ClientStub.Yaml.Style
import ClientStub.Yaml.Token
import ClientStub.Yaml.Tokens
import ClientStub.Proofs.Text.Pattern
import ClientStub.Proofs.DocBlock.Parts
import ClientStub.Proofs.DocComment.Closing
import ClientStub.Proofs.Entries
import ClientStub.Proofs.Exposure
import ClientStub.Proofs.Stub.Blocks
import ClientStub.Proofs.Stub.CarriageReturns
import ClientStub.Proofs.Stub.CommentClosing
import ClientStub.Proofs.Stub.ServiceLines
import ClientStub.Proofs.Overrides
import ClientStub.Proofs.Generation.Independence
import ClientStub.Proofs.Files.Steady
import ClientStub.Proofs.Generation.Again
import ClientStub.Proofs.Json.Grammar
import ClientStub.Proofs.Json.Strings
import ClientStub.Proofs.Json.Reading
import ClientStub.Proofs.Json.Numbers
import ClientStub.Proofs.Json.Values
import ClientStub.Proofs.Json.Skipping
import ClientStub.Proofs.Json.Printing
import ClientStub.Proofs.Catalog.JsonForms
import ClientStub.Proofs.Catalog.JsonTexts
import ClientStub.Proofs.DocBlock.Layout
import ClientStub.Proofs.DocBlock.Delimiters
import ClientStub.Proofs.Template.Tokens
import ClientStub.Proofs.Toml.Strings
import ClientStub.Proofs.Toml.Document
import ClientStub.Proofs.Config.Toml
import ClientStub.Proofs.Text.Gaps
import ClientStub.Proofs.Yaml.Cursor
import ClientStub.Proofs.Yaml.Plain
import ClientStub.Proofs.Yaml.Quoted
import ClientStub.Proofs.Yaml.Literal
import ClientStub.Proofs.Yaml.Styles
import ClientStub.Proofs.Yaml.Scalars
import ClientStub.Proofs.Yaml.Scanning
import ClientStub.Proofs.Yaml.Mapping
import ClientStub.Proofs.Config.Yaml
import ClientStub.Proofs.Config.Saved
import ClientStub.Proofs.DocBlock.Stored
import ClientStub.Proofs.Parameters
import ClientStub.Proofs.Stub.ReturnType
import ClientStub.Proofs.Stub.ClientName
import ClientStub.Proofs.Text.Casing
import ClientStub.Proofs.Stub.FormalNames
import ClientStub.Proofs.Stub.QueryNames
import ClientStub.Proofs.Text.Slices
import ClientStub.Proofs.DocBlock.Offsets
import ClientStub.Proofs.DocComment.Lines
import ClientStub.Proofs.Declaration.Splitting
import ClientStub.Proofs.Verb
