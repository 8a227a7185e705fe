import Typeset.Compile.Queue
import Typeset.Compile.Wire
import Typeset.Compile.Worker
import Typeset.Document.Basic
import Typeset.Document.Script
import Typeset.Frontmatter
import Typeset.Markdown.Autolink
import Typeset.Markdown.Block
import Typeset.Markdown.Char
import Typeset.Markdown.Emphasis
import Typeset.Markdown.Entity
import Typeset.Markdown.EntityTable
import Typeset.Markdown.Flow
import Typeset.Markdown.Frontmatter
import Typeset.Markdown.Html
import Typeset.Markdown.Inline
import Typeset.Markdown.Label
import Typeset.Markdown.Line
import Typeset.Markdown.Link
import Typeset.Markdown.Opening
import Typeset.Markdown.Parse
import Typeset.Markdown.Span
import Typeset.Markdown.Table
import Typeset.Render.Body
import Typeset.Render.Context
import Typeset.Render.Metadata
import Typeset.Render.Output
import Typeset.Render.PlainText
import Typeset.Render.References
import Typeset.Template.Basic
import Typeset.Template.Bundled
import Typeset.Text.Blank
import Typeset.Text.Case
import Typeset.Text.CaseTable
import Typeset.Text.Properties
import Typeset.Typst.Escape
import Typeset.Typst.Header
import Typeset.Proofs.Script.Idempotence
import Typeset.Proofs.Script.Spans
import Typeset.Proofs.Render.Calls
import Typeset.Proofs.Render.Links
import Typeset.Proofs.Render.CodeFence
import Typeset.Proofs.Render.Table
import Typeset.Proofs.Render.Footnotes
import Typeset.Proofs.Markup.Scan
import Typeset.Proofs.Markup.Pieces
import Typeset.Proofs.Render.WellFormed
import Typeset.Proofs.Render.Title
import Typeset.Proofs.Render.Placement
import Typeset.Proofs.Compile.Lifecycle
import Typeset.Proofs.Compile.Interleaving
import Typeset.Proofs.Typst.Header
import Typeset.Proofs.Frontmatter.FirstWins
import Typeset.Proofs.Compile.Errors
import Typeset.Proofs.Script.Reference
import Typeset.Proofs.Typst.Unescape
import Typeset.Proofs.Frontmatter.Trimmed
import Typeset.Proofs.Render.Threading
