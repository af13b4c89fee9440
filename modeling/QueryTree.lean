import QueryTree.Table
import QueryTree.Text.Blank
import QueryTree.Text.Name
import QueryTree.Decimal.Digits
import QueryTree.Decimal.Binary64
import QueryTree.Decimal.Shortest
import QueryTree.Json.Basic
import QueryTree.Json.Number
import QueryTree.Text.Quoted
import QueryTree.Json.Printer
import QueryTree.Json.Fault
import QueryTree.Text.Hexadecimal
import QueryTree.Json.Reader
import QueryTree.Text.Parts
import QueryTree.Text.CodeTable
import QueryTree.Text.Hidden
import QueryTree.Text.Visible
import QueryTree.Json.Message
import QueryTree.Json.Skip
import QueryTree.Json.Record
import QueryTree.TypeRef
import QueryTree.Literal.Coercion
import QueryTree.Literal.Render
import QueryTree.Selection.Basic
import QueryTree.Selection.Query
import QueryTree.Selection.Json
import QueryTree.Literal.Default
import QueryTree.Json.Fields
import QueryTree.Schema.Basic
import QueryTree.Schema.Listing
import QueryTree.Schema.Build
import QueryTree.Schema.Json
import QueryTree.Catalog
import QueryTree.Selection.Resolve
import QueryTree.Validation
import QueryTree.Request.Headers
import QueryTree.Request.Source
import QueryTree.Request.Introspection
import QueryTree.Url.Encoding
import QueryTree.Url.Punycode
import QueryTree.Text.Marks
import QueryTree.Text.Composition
import QueryTree.Text.Direction
import QueryTree.Text.Joining
import QueryTree.Url.DomainMapping
import QueryTree.Url.Domain
import QueryTree.Url.Basic
import QueryTree.Url.Host
import QueryTree.Url.Reader
import QueryTree.Request.Endpoint
import QueryTree.Text.Base64
import QueryTree.Request.Basic
import QueryTree.Request.Reply
import QueryTree.Registry.Event
import QueryTree.Registry.Basic
import QueryTree.Registry.Run
import QueryTree.Registry.Chooser
import QueryTree.Text.Lossy
import QueryTree.Text.Similarity
import QueryTree.CommandLine.Grammar
import QueryTree.CommandLine.UsageError
import QueryTree.CommandLine.Reader
import QueryTree.CommandLine.Grid
import QueryTree.CommandLine.Reference
import QueryTree.CommandLine.Run
import QueryTree.Text.Width
import QueryTree.Main
import QueryTree.Proofs.Registry.Placement
import QueryTree.Proofs.Registry.Cache
import QueryTree.Proofs.Registry.Overtaking
import QueryTree.Proofs.Registry.Progress
import QueryTree.Proofs.Json.Quotation
import QueryTree.Proofs.Json.Spelling
import QueryTree.Proofs.Literal.Constant
import QueryTree.Proofs.Literal.Rendering
import QueryTree.Proofs.Schema.Names
import QueryTree.Proofs.Selection.Outline
import QueryTree.Proofs.Selection.Reader
import QueryTree.Proofs.Selection.Unambiguous
import QueryTree.Proofs.Validation.Connections
import QueryTree.Proofs.Catalog.Growth
import QueryTree.Proofs.Registry.Mirror
import QueryTree.Proofs.Registry.Carried
import QueryTree.Proofs.Literal.Reading
import QueryTree.Proofs.Literal.ByType
import QueryTree.Proofs.Schema.Chains
import QueryTree.Proofs.Schema.Listed
import QueryTree.Proofs.Validation.Extension
import QueryTree.Proofs.Validation.Leaves
import QueryTree.Proofs.CommandLine.EntryPoints
import QueryTree.Proofs.Registry.Independence
import QueryTree.Proofs.Validation.Preorder
import QueryTree.Proofs.Decimal.Rounding
import QueryTree.Proofs.Decimal.Shortest
import QueryTree.Proofs.Json.Grammar
import QueryTree.Proofs.Json.Reading
import QueryTree.Proofs.Selection.Saved
import QueryTree.Proofs.Json.Numerals
import QueryTree.Proofs.Literal.Strings
import QueryTree.Proofs.Literal.BuiltIn
import QueryTree.Proofs.Literal.Defaults
import QueryTree.Proofs.Catalog.Targets
import QueryTree.Proofs.Literal.WholeNumbers
import QueryTree.Proofs.Json.Records
import QueryTree.Proofs.Schema.Responses
import QueryTree.Proofs.Json.Sorted
import QueryTree.Proofs.Text.ByteOrder
import QueryTree.Proofs.Request.HeaderTexts
import QueryTree.Proofs.Schema.Layers
import QueryTree.Proofs.Json.Numbers
import QueryTree.Proofs.Literal.Category
import QueryTree.Proofs.Literal.Texts
import QueryTree.Proofs.Schema.Spelled
