import VisualTemplate.Asset
import VisualTemplate.Base64
import VisualTemplate.Binding
import VisualTemplate.Canvas
import VisualTemplate.Color
import VisualTemplate.Command
import VisualTemplate.Command.Arguments
import VisualTemplate.Decimal.Binary
import VisualTemplate.Decimal.Layout
import VisualTemplate.Decimal.Reading
import VisualTemplate.Decimal.Shortest
import VisualTemplate.Design
import VisualTemplate.Design.Export
import VisualTemplate.Design.Wire
import VisualTemplate.Diagnostic
import VisualTemplate.Document
import VisualTemplate.Document.Config
import VisualTemplate.Document.Emit
import VisualTemplate.Document.Escape
import VisualTemplate.Document.Markup
import VisualTemplate.Document.Style
import VisualTemplate.Error
import VisualTemplate.FieldPath
import VisualTemplate.Files
import VisualTemplate.Fill.Palette
import VisualTemplate.Fill.Resolve
import VisualTemplate.Fill.Submission
import VisualTemplate.Html
import VisualTemplate.Html.Builder
import VisualTemplate.Html.Dom
import VisualTemplate.Html.Entity
import VisualTemplate.Html.Forest
import VisualTemplate.Html.Formatting
import VisualTemplate.Html.Name
import VisualTemplate.Html.Place
import VisualTemplate.Html.Reference
import VisualTemplate.Html.Rules.Body
import VisualTemplate.Html.Rules.Foreign
import VisualTemplate.Html.Rules.Head
import VisualTemplate.Html.Rules.Select
import VisualTemplate.Html.Rules.Table
import VisualTemplate.Html.Token
import VisualTemplate.Import
import VisualTemplate.Inference
import VisualTemplate.Inference.Config
import VisualTemplate.Inference.Heuristic
import VisualTemplate.Json.Decode
import VisualTemplate.Json.Number
import VisualTemplate.Json.Source
import VisualTemplate.Json.Value
import VisualTemplate.Length
import VisualTemplate.Main
import VisualTemplate.MaskedPair
import VisualTemplate.Node
import VisualTemplate.Node.Wire
import VisualTemplate.NodeIds
import VisualTemplate.Page
import VisualTemplate.Page.Nodes
import VisualTemplate.Page.Text
import VisualTemplate.Pattern.Program
import VisualTemplate.Pattern.Syntax
import VisualTemplate.Rendering
import VisualTemplate.Schema
import VisualTemplate.Schema.Wire
import VisualTemplate.Selector
import VisualTemplate.Selector.Steps
import VisualTemplate.Selector.Syntax
import VisualTemplate.Selector.Token
import VisualTemplate.Sha256
import VisualTemplate.Store
import VisualTemplate.Style.Font
import VisualTemplate.Style.Inline
import VisualTemplate.Style.Paint
import VisualTemplate.Table
import VisualTemplate.Text.Blank
import VisualTemplate.Text.Category
import VisualTemplate.Text.CharSet
import VisualTemplate.Text.Cut
import VisualTemplate.Text.Fold
import VisualTemplate.Text.Hex
import VisualTemplate.Text.Property
import VisualTemplate.Text.Utf8
import VisualTemplate.Token
import VisualTemplate.Variant
import VisualTemplate.Vector
import VisualTemplate.ViewBox
import VisualTemplate.Proofs.Store.Session
import VisualTemplate.Proofs.Store.Transparency
import VisualTemplate.Proofs.Decimal.Grid
import VisualTemplate.Proofs.Decimal.Shortest
import VisualTemplate.Proofs.Decimal.Layout
import VisualTemplate.Proofs.Json.Compact
import VisualTemplate.Proofs.Text.Utf8
import VisualTemplate.Proofs.Store.Keys
import VisualTemplate.Proofs.Schema.Derivation
import VisualTemplate.Proofs.Schema.Gate
import VisualTemplate.Proofs.Markup.Reading
import VisualTemplate.Proofs.Markup.Written
import VisualTemplate.Proofs.Markup.Body
import VisualTemplate.Proofs.Node.Rendered
import VisualTemplate.Proofs.Fill.Numbering
import VisualTemplate.Proofs.Fill.Hidden
import VisualTemplate.Proofs.Json.Reread
import VisualTemplate.Proofs.Json.Indented
import VisualTemplate.Proofs.Json.Records
import VisualTemplate.Proofs.Node.Settled
import VisualTemplate.Proofs.Node.Reread
import VisualTemplate.Proofs.Schema.RoundTrip
import VisualTemplate.Proofs.Json.Readings
import VisualTemplate.Proofs.Node.Legible
import VisualTemplate.Proofs.Node.Needed
import VisualTemplate.Proofs.Schema.Nesting
import VisualTemplate.Proofs.Schema.Refusal
import VisualTemplate.Proofs.Page.Depth
import VisualTemplate.Proofs.Schema.Reload
import VisualTemplate.Proofs.Node.Variants
import VisualTemplate.Proofs.Node.Paints
import VisualTemplate.Proofs.Fill.Palette
import VisualTemplate.Proofs.Markup.Failure
import VisualTemplate.Proofs.Schema.Imported
import VisualTemplate.Proofs.Store.Shelf
import VisualTemplate.Proofs.Store.Eviction
import VisualTemplate.Proofs.Markup.Values
import VisualTemplate.Proofs.Design.Places
import VisualTemplate.Proofs.Design.Projection
import VisualTemplate.Proofs.Page.Texts
import VisualTemplate.Proofs.Page.Growth
import VisualTemplate.Proofs.Page.WellFormed
import VisualTemplate.Proofs.Markup.Addresses
import VisualTemplate.Proofs.Markup.Sheets
import VisualTemplate.Proofs.Markup.References
import VisualTemplate.Proofs.Markup.SelfContained
import VisualTemplate.Proofs.Markup.Masks
import VisualTemplate.Proofs.Fill.Agreement
import VisualTemplate.Proofs.Design.Visibility
import VisualTemplate.Proofs.Design.Markers
import VisualTemplate.Proofs.Page.Concealed
import VisualTemplate.Proofs.Text.Trim
import VisualTemplate.Proofs.Text.Cut
import VisualTemplate.Proofs.Text.Listed
import VisualTemplate.Proofs.Fill.Chains
import VisualTemplate.Proofs.Decimal.Rounding
import VisualTemplate.Proofs.Decimal.Single
import VisualTemplate.Proofs.Decimal.Fields
import VisualTemplate.Proofs.Decimal.Numerals
import VisualTemplate.Proofs.Decimal.Reread
import VisualTemplate.Proofs.Color.Channels
import VisualTemplate.Proofs.Color.Spelling
import VisualTemplate.Proofs.Color.NormalForm
import VisualTemplate.Proofs.Style.Paint
import VisualTemplate.Proofs.Inference.Spans
import VisualTemplate.Proofs.Inference.Session
import VisualTemplate.Proofs.Inference.Turns
import VisualTemplate.Proofs.Inference.Landing
import VisualTemplate.Proofs.Fill.Lightened
import VisualTemplate.Proofs.Fill.Lookup
import VisualTemplate.Proofs.Path.Slices
import VisualTemplate.Proofs.Schema.Overrides
import VisualTemplate.Proofs.Design.Acceptance
import VisualTemplate.Proofs.Design.Exchange
import VisualTemplate.Proofs.Design.Outlines
import VisualTemplate.Proofs.Schema.Faults
import VisualTemplate.Proofs.Schema.Violations
import VisualTemplate.Proofs.Asset.Payload
import VisualTemplate.Proofs.Markup.Head
import VisualTemplate.Proofs.Markup.Pictures
import VisualTemplate.Proofs.Text.Lines
import VisualTemplate.Proofs.Markup.Decoding
import VisualTemplate.Proofs.Table
import VisualTemplate.Proofs.Style.Declarations
import VisualTemplate.Proofs.Files
import VisualTemplate.Proofs.Command.Untouched
import VisualTemplate.Proofs.Text.Fields
import VisualTemplate.Proofs.ViewBox
import VisualTemplate.Proofs.Markup.Frames
