import Typeset.Render.Body
import Typeset.Render.Metadata
import Typeset.Template.Basic
import Typeset.Typst.Header

/-!
Rendering a whole document: metadata resolved, the template chosen, every root block rendered
(but the heading taken as title) and joined by blank lines, all under the template's header.
A style that the registry does not know gives a warning, before any warning of the body.
-/

namespace Typeset.Render

open Template Typst

/-- A rendered document, the metadata it was rendered with, and the warnings. -/
structure Output where
  typst : String
  title : String
  authors : List String
  lang : Lang
  warnings : List Warning
  deriving BEq, Repr

/-- The root blocks of the body: all of them but the one at the excluded index. -/
def bodyBlocks (excluded : Option Nat) (blocks : List Block) : List Block :=
  match excluded with
  | some i => blocks.eraseIdx i
  | none => blocks

/-- The warning for an asked style that the registry does not know. -/
def styleWarnings (registry : Registry) : Option String → List Warning
  | some s => if registry.supports s then [] else [.unknownStyle s]
  | none => []

/-- Renders a document under options with the templates of a registry. -/
def renderDocument (doc : Document) (options : Options) (registry : Registry) : Output :=
  let refs := References.collect doc.children
  let md := resolveMetadata refs doc.children options
  let template := (registry.resolve? options.style).getD fallback
  let (parts, w) := renderBlocks refs [] (bodyBlocks md.excludedHeading doc.children) 0
  ⟨assemble template md (joinRendered parts "\n\n"), md.title, md.authors, md.lang,
    styleWarnings registry options.style ++ w⟩

end Typeset.Render
