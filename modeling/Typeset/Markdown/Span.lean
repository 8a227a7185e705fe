import Typeset.Document.Basic

/-!
Inline content as the reader builds it. It holds a little more than the document keeps: raw
HTML and images through references, which the document drops, still count for the alternative
text of an image around them. Adjacent text is joined inside a span list, as the reader would
have it, before anything is dropped.
-/

namespace Typeset.Markdown

/-- A piece of inline content. -/
inductive Span where
  | text (value : String)
  | strong (children : List Span)
  | emphasis (children : List Span)
  | delete (children : List Span)
  | code (value : String)
  | math (value : String)
  | html (value : String)
  | link (url : String) (children : List Span)
  /-- A link through a definition: identifier, label as written, children. -/
  | reference (identifier label : String) (children : List Span)
  | image (url alt : String)
  | imageReference (alt : String)
  | footnote (identifier : String)
  | lineBreak
  deriving Repr, Inhabited

mutual

/-- The plain text of a span, as an image's alternative text takes it: the values of text,
code, math and HTML, through the content of the other spans, with nothing for images, footnote
references and breaks. -/
def Span.plain : Span → String
  | .text v | .code v | .math v | .html v => v
  | .strong cs | .emphasis cs | .delete cs | .link _ cs | .reference _ _ cs => Span.plainAll cs
  | .image _ _ | .imageReference _ | .footnote _ | .lineBreak => ""

/-- The plain text of spans. -/
def Span.plainAll : List Span → String
  | [] => ""
  | s :: ss => s.plain ++ Span.plainAll ss

end

/-- Join adjacent text spans. -/
def joinTexts : List Span → List Span
  | .text a :: .text b :: rest => joinTexts (.text (a ++ b) :: rest)
  | s :: rest => s :: joinTexts rest
  | [] => []
  termination_by ss => ss.length

mutual

/-- The document inlines of a span; HTML and images through references have none. -/
def Span.toInlines : Span → List Inline
  | .text v => [.text v]
  | .strong cs => [.strong (Span.allInlines cs)]
  | .emphasis cs => [.emphasis (Span.allInlines cs)]
  | .delete cs => [.strike (Span.allInlines cs)]
  | .code v => [.inlineCode v]
  | .math v => [.inlineMath v]
  | .html _ => []
  | .link url cs => [.link url (Span.allInlines cs)]
  | .reference id label cs => [.linkReference id (some label) (Span.allInlines cs)]
  | .image url alt => [.image url alt]
  | .imageReference _ => []
  | .footnote id => [.footnoteReference id]
  | .lineBreak => [.lineBreak]

/-- The document inlines of spans. -/
def Span.allInlines : List Span → List Inline
  | [] => []
  | s :: ss => s.toInlines ++ Span.allInlines ss

end

end Typeset.Markdown
