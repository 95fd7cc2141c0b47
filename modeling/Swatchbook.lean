import Swatchbook.Catalog
import Swatchbook.Comment.Block
import Swatchbook.Comment.Delimiters
import Swatchbook.Comment.Normal
import Swatchbook.Comment.Section
import Swatchbook.Config
import Swatchbook.Course
import Swatchbook.Disk
import Swatchbook.Fault
import Swatchbook.Flags
import Swatchbook.Glob
import Swatchbook.Junk
import Swatchbook.Language
import Swatchbook.Main
import Swatchbook.Markdown
import Swatchbook.Markdown.Builder
import Swatchbook.Markdown.Code
import Swatchbook.Markdown.Content
import Swatchbook.Markdown.Definition
import Swatchbook.Markdown.Document
import Swatchbook.Markdown.Emphasis
import Swatchbook.Markdown.Entity
import Swatchbook.Markdown.Event
import Swatchbook.Markdown.Heading
import Swatchbook.Markdown.Html
import Swatchbook.Markdown.Inline
import Swatchbook.Markdown.Line
import Swatchbook.Markdown.Link
import Swatchbook.Markdown.Margin
import Swatchbook.Markdown.Markup
import Swatchbook.Markdown.Node
import Swatchbook.Markdown.Source
import Swatchbook.Markdown.Table
import Swatchbook.Navigation
import Swatchbook.Note
import Swatchbook.Page
import Swatchbook.Path
import Swatchbook.Pattern
import Swatchbook.Pattern.Class
import Swatchbook.Pattern.Plan
import Swatchbook.Pattern.Reader
import Swatchbook.Pattern.Search
import Swatchbook.Program
import Swatchbook.Proofs.Address
import Swatchbook.Proofs.Assets
import Swatchbook.Proofs.Blocks
import Swatchbook.Proofs.Canonical
import Swatchbook.Proofs.Catalog
import Swatchbook.Proofs.Collapse
import Swatchbook.Proofs.Completeness
import Swatchbook.Proofs.Component
import Swatchbook.Proofs.Containment
import Swatchbook.Proofs.Content
import Swatchbook.Proofs.Course
import Swatchbook.Proofs.Discovery
import Swatchbook.Proofs.Disk
import Swatchbook.Proofs.Ending
import Swatchbook.Proofs.Escape
import Swatchbook.Proofs.Execution
import Swatchbook.Proofs.Expansion
import Swatchbook.Proofs.Extraction
import Swatchbook.Proofs.Fault
import Swatchbook.Proofs.Forest
import Swatchbook.Proofs.Frame
import Swatchbook.Proofs.Grouping
import Swatchbook.Proofs.Heading
import Swatchbook.Proofs.Highlight
import Swatchbook.Proofs.Indentation
import Swatchbook.Proofs.Inference
import Swatchbook.Proofs.Layout
import Swatchbook.Proofs.Lineage
import Swatchbook.Proofs.Link
import Swatchbook.Proofs.Listing
import Swatchbook.Proofs.Literal
import Swatchbook.Proofs.Lookup
import Swatchbook.Proofs.Matching
import Swatchbook.Proofs.Navigation
import Swatchbook.Proofs.Output
import Swatchbook.Proofs.Path
import Swatchbook.Proofs.Placement
import Swatchbook.Proofs.Program
import Swatchbook.Proofs.Reach
import Swatchbook.Proofs.Reading
import Swatchbook.Proofs.Reference
import Swatchbook.Proofs.Relative
import Swatchbook.Proofs.Report
import Swatchbook.Proofs.Section
import Swatchbook.Proofs.Settled
import Swatchbook.Proofs.Spelling
import Swatchbook.Proofs.Stable
import Swatchbook.Proofs.Steady
import Swatchbook.Proofs.Stray
import Swatchbook.Proofs.Styleguide
import Swatchbook.Proofs.Tag
import Swatchbook.Proofs.Text
import Swatchbook.Proofs.Title
import Swatchbook.Proofs.Trail
import Swatchbook.Proofs.Vacant
import Swatchbook.Proofs.Volume
import Swatchbook.Proofs.Walk
import Swatchbook.Proofs.Way
import Swatchbook.Proofs.Written
import Swatchbook.Renderer
import Swatchbook.Session
import Swatchbook.Styleguide
import Swatchbook.Template.Argument
import Swatchbook.Template.Arithmetic
import Swatchbook.Template.Builtin
import Swatchbook.Template.Filter
import Swatchbook.Template.Free
import Swatchbook.Template.Function
import Swatchbook.Template.Node
import Swatchbook.Template.Reader
import Swatchbook.Template.Run
import Swatchbook.Template.Scope
import Swatchbook.Template.Test
import Swatchbook.Template.Token
import Swatchbook.Template.Value
import Swatchbook.Text
import Swatchbook.Text.Age
import Swatchbook.Text.Break
import Swatchbook.Text.Case
import Swatchbook.Text.Category
import Swatchbook.Text.Decimal
import Swatchbook.Text.Property
import Swatchbook.Text.Ranges
import Swatchbook.Text.Script
import Swatchbook.Toml
import Swatchbook.View
import Swatchbook.Volume
