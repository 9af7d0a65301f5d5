import Placement.Backend.Basic
import Placement.Backend.Reply
import Placement.Backend.Script
import Placement.Brackets
import Placement.Cache.Basic
import Placement.Cache.Key
import Placement.Chain
import Placement.Command.Arguments
import Placement.Command.Basic
import Placement.Command.Path
import Placement.Command.Run
import Placement.Command.WholeNumber
import Placement.Document
import Placement.Failure
import Placement.Graph.Basic
import Placement.Graph.Classifier
import Placement.Graph.Payload
import Placement.Hover.Binding
import Placement.Hover.Declaration
import Placement.Hover.Fence
import Placement.Hover.Signature
import Placement.Json.Reader
import Placement.Json.Writer
import Placement.Location.Basic
import Placement.Location.Display
import Placement.Location.Identity
import Placement.Main
import Placement.Notice
import Placement.Number.Basic
import Placement.Number.Decimal
import Placement.Number.Double
import Placement.Number.Rounding
import Placement.Operators
import Placement.Page.Basic
import Placement.Page.Emoji
import Placement.Page.EmojiTable
import Placement.Page.Markup
import Placement.Page.Style
import Placement.Page.Width
import Placement.Page.WidthTable
import Placement.Position
import Placement.Proofs.BracketCount
import Placement.Proofs.Brackets
import Placement.Proofs.Cache.Holds
import Placement.Proofs.Cache.Key
import Placement.Proofs.Cache.Life
import Placement.Proofs.Cache.Reading
import Placement.Proofs.Cache.Recency
import Placement.Proofs.Cache.Retention
import Placement.Proofs.Chain.Break
import Placement.Proofs.Chain.Extent
import Placement.Proofs.Chain.Order
import Placement.Proofs.Chain.Pass
import Placement.Proofs.Chain.Rule
import Placement.Proofs.Chain.Sighting
import Placement.Proofs.Chain.Stale
import Placement.Proofs.Chain.Statement
import Placement.Proofs.Collapse
import Placement.Proofs.Declaration
import Placement.Proofs.Digit
import Placement.Proofs.Document
import Placement.Proofs.Document.Cutting
import Placement.Proofs.Graph.Classification
import Placement.Proofs.Graph.Payload
import Placement.Proofs.Graph.Reading
import Placement.Proofs.Graph.Refusal
import Placement.Proofs.Graph.Tags
import Placement.Proofs.Graph.Wording
import Placement.Proofs.Hover.BindingList
import Placement.Proofs.Hover.Bindings
import Placement.Proofs.Hover.BoundOrder
import Placement.Proofs.Hover.BoundedMethod
import Placement.Proofs.Hover.CodeBlocks
import Placement.Proofs.Hover.CodeBody
import Placement.Proofs.Hover.Declaration
import Placement.Proofs.Hover.Footnotes
import Placement.Proofs.Hover.Header
import Placement.Proofs.Hover.Method
import Placement.Proofs.Hover.ReturnType
import Placement.Proofs.Hover.Substitution
import Placement.Proofs.Hover.WhereClause
import Placement.Proofs.Identifier
import Placement.Proofs.Location.Hash
import Placement.Proofs.Location.Identity
import Placement.Proofs.Location.Ticks
import Placement.Proofs.Lookup
import Placement.Proofs.Query.FirstText
import Placement.Proofs.Run
import Placement.Proofs.Search
import Placement.Proofs.Session.Atomicity
import Placement.Proofs.Session.History
import Placement.Proofs.Session.Invalidation
import Placement.Proofs.Session.SameText
import Placement.Proofs.Session.Steps
import Placement.Proofs.Session.Structs
import Placement.Proofs.Session.Transparency
import Placement.Proofs.Settings.Reading
import Placement.Proofs.Settings.Saving
import Placement.Proofs.Settings.Unreadable
import Placement.Proofs.SourceOrder
import Placement.Proofs.Text
import Placement.Proofs.TypeText.Balanced
import Placement.Proofs.TypeText.Canonical
import Placement.Proofs.TypeText.Collection
import Placement.Proofs.TypeText.Display
import Placement.Proofs.TypeText.Grammar
import Placement.Proofs.TypeText.Label
import Placement.Proofs.TypeText.Reading
import Placement.Proofs.TypeText.ShownLabel
import Placement.Proofs.TypeText.Single
import Placement.Proofs.TypeText.Splitting
import Placement.Proofs.Value
import Placement.Proofs.Words
import Placement.Query
import Placement.Session
import Placement.Settings
import Placement.Text.AlphanumericTable
import Placement.Text.Basic
import Placement.Text.Blank
import Placement.Text.CapitalTable
import Placement.Text.CodePoint
import Placement.Text.Digit
import Placement.Text.Pattern
import Placement.Text.Quoted
import Placement.Text.UnprintableTable
import Placement.Text.Word
import Placement.Toml.Basic
import Placement.Toml.Element
import Placement.Toml.Entry
import Placement.Toml.Layout
import Placement.Toml.Library
import Placement.Toml.Name
import Placement.Toml.Quoted
import Placement.Toml.Reader
import Placement.Toml.Scalar
import Placement.Toml.Stretch
import Placement.Toml.Writer
import Placement.TypeText.Collection
import Placement.TypeText.Location
import Placement.TypeText.Parameters
import Placement.Value
