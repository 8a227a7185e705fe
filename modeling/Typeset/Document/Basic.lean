/-!
The document tree: what the Markdown reader produces and the Typst writer consumes.

A document is a sequence of blocks. Blocks hold inline content or further blocks; a list holds
items, each a sequence of blocks; a table holds rows of cells, each a sequence of inlines.
Definitions (links, footnotes) and frontmatter are blocks too, so that their place in the
document is kept.
-/

namespace Typeset

/-- How a table column is aligned. -/
inductive Align where
  | left
  | right
  | center
  deriving BEq, Repr, DecidableEq

/-- Inline content: text and the spans that mark it up. -/
inductive Inline where
  | text (value : String)
  | strong (children : List Inline)
  | emphasis (children : List Inline)
  | strike (children : List Inline)
  | highlight (children : List Inline)
  | subscript (children : List Inline)
  | superscript (children : List Inline)
  | inlineCode (value : String)
  | inlineMath (value : String)
  | link (url : String) (children : List Inline)
  /-- A link through a definition, by its normalized identifier and the label as written. -/
  | linkReference (identifier : String) (label : Option String) (children : List Inline)
  | footnoteReference (identifier : String)
  | image (url : String) (alt : String)
  | lineBreak
  deriving BEq, Repr, Inhabited

/-- Block content. -/
inductive Block where
  | frontmatter (value : String)
  | linkDefinition (identifier : String) (url : String)
  | footnoteDefinition (identifier : String) (children : List Block)
  | heading (depth : Nat) (children : List Inline)
  | paragraph (children : List Inline)
  /-- A list; each item is its sequence of blocks. -/
  | list (ordered : Bool) (items : List (List Block))
  | codeBlock (lang : Option String) (value : String)
  | blockquote (children : List Block)
  | thematicBreak
  /-- A table: one alignment per column as declared, and rows of cells, the header row first. -/
  | table (align : List (Option Align)) (rows : List (List (List Inline)))
  | mathBlock (value : String)
  deriving BEq, Repr, Inhabited

/-- A whole document. -/
structure Document where
  children : List Block
  deriving BEq, Repr, Inhabited

namespace Inline

/-- The children of a span that holds inlines, if this is one. -/
def children? : Inline → Option (List Inline)
  | strong cs | emphasis cs | strike cs | highlight cs | subscript cs | superscript cs => some cs
  | link _ cs | linkReference _ _ cs => some cs
  | _ => none

end Inline

end Typeset
