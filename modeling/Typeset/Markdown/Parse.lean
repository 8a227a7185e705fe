import Typeset.Document.Script
import Typeset.Markdown.Block
import Typeset.Markdown.Frontmatter
import Typeset.Markdown.Inline

/-!
Reading a Markdown text into a document: frontmatter first (a frontmatter fence never closed
leaves the text without containers), then the block structure, then the inline content of each
block, read with every definition of the document known. Link and
footnote definitions anywhere count, also those inside quotes, lists and footnotes. The first
paragraph of a list item may start with a task list marker, which is dropped.
-/

namespace Typeset.Markdown

mutual

/-- Identifiers of the link definitions in a block. -/
def Flow.links : Flow → List String
  | .definition lab _ => [labelIdentifier lab]
  | .footnote _ cs | .blockquote cs => Flow.linksAll cs
  | .list _ _ items => Flow.linksItems items
  | _ => []

/-- Identifiers of the link definitions in blocks. -/
def Flow.linksAll : List Flow → List String
  | [] => []
  | f :: fs => f.links ++ Flow.linksAll fs

/-- Identifiers of the link definitions in list items. -/
def Flow.linksItems : List (List Flow) → List String
  | [] => []
  | i :: is => Flow.linksAll i ++ Flow.linksItems is

end

mutual

/-- Identifiers of the footnote definitions in a block. -/
def Flow.notes : Flow → List String
  | .footnote lab cs => labelIdentifier lab :: Flow.notesAll cs
  | .blockquote cs => Flow.notesAll cs
  | .list _ _ items => Flow.notesItems items
  | _ => []

/-- Identifiers of the footnote definitions in blocks. -/
def Flow.notesAll : List Flow → List String
  | [] => []
  | f :: fs => f.notes ++ Flow.notesAll fs

/-- Identifiers of the footnote definitions in list items. -/
def Flow.notesItems : List (List Flow) → List String
  | [] => []
  | i :: is => Flow.notesAll i ++ Flow.notesItems is

end

/-- The language of a code block: the first word of its info string, decoded. -/
def codeLang (info : List Char) : Option String :=
  let word := info.takeWhile (fun c => !isSpaceOrTab c)
  if word.isEmpty then none else some (String.ofList (decodeString word))

/-- Document inlines of inline content. -/
def inlinesOf (ctx : InlineContext) (place : TaskPlace) (text : InlineText) : List Inline :=
  Span.allInlines (readInline ctx place text)

/-- Where a block of a list item stands for a task list marker, when nothing but link
definitions came before it in the item (`first`: not even those). Only a paragraph takes a
marker, and not one whose first line carries a block quote marker of its own: the item then no
longer directly precedes it. -/
def Flow.taskPlace (first : Bool) : Flow → TaskPlace
  | .paragraph t =>
    if (t.lines.head?.map (·.quoted)).getD false then .none
    else if first then .first else .afterDefinitions
  | _ => .none

mutual

/-- The document blocks of a block; `place` tells how a paragraph may take a task list marker. -/
def Flow.toBlocks (ctx : InlineContext) (place : TaskPlace) : Flow → List Block
  | .frontmatter v => [.frontmatter (String.ofList v)]
  | .definition lab dest => [.linkDefinition (labelIdentifier lab) (String.ofList (decodeString dest))]
  | .footnote lab cs => [.footnoteDefinition (labelIdentifier lab) (Flow.allBlocks ctx cs)]
  | .heading d c => [.heading d (inlinesOf ctx .none c)]
  | .paragraph c => [.paragraph (inlinesOf ctx place c)]
  | .list o _ items => [.list o (Flow.itemBlocks ctx items)]
  | .code info v => [.codeBlock (codeLang info) (String.ofList v)]
  | .blockquote cs => [.blockquote (Flow.allBlocks ctx cs)]
  | .thematicBreak => [.thematicBreak]
  | .table align rows =>
    [.table align (rows.map fun row => row.map (inlinesOf { ctx with inTable := true } .none))]
  | .math v => [.mathBlock (String.ofList v)]
  | .html => []

/-- The document blocks of blocks. -/
def Flow.allBlocks (ctx : InlineContext) : List Flow → List Block
  | [] => []
  | f :: fs => f.toBlocks ctx .none ++ Flow.allBlocks ctx fs

/-- The document blocks of a list item's blocks, only link definitions having come before them
in the item (`first`: nothing). -/
def Flow.itemBlocksFrom (ctx : InlineContext) (first : Bool) : List Flow → List Block
  | [] => []
  | f :: fs =>
    match f with
    | .definition _ _ => f.toBlocks ctx .none ++ Flow.itemBlocksFrom ctx false fs
    | _ => f.toBlocks ctx (f.taskPlace first) ++ Flow.allBlocks ctx fs

/-- The document blocks of list items. -/
def Flow.itemBlocks (ctx : InlineContext) : List (List Flow) → List (List Block)
  | [] => []
  | fs :: is => Flow.itemBlocksFrom ctx true fs :: Flow.itemBlocks ctx is

end

/-- Reads a Markdown text into a document. -/
def readDocument (opts : Options) (src : String) : Document :=
  let (prev, cs) : Option Char × List Char := match src.toList with
    | '\uFEFF' :: r => (some '\uFEFF', r)
    | cs => (none, cs)
  let lines := splitLines cs
  let flows :=
    if opts.frontmatter then
      match splitFrontmatter lines with
      | some (yaml, v, rest, close) =>
        (if yaml then [Flow.frontmatter v] else []) ++ readFlows opts true close rest
      | none => readFlows opts (!opensFrontmatter lines) prev lines
    else readFlows opts true prev lines
  let ctx : InlineContext :=
    { definitions := Flow.linksAll flows, footnotes := Flow.notesAll flows,
      gfm := opts.gfm, math := opts.math }
  let d : Document := ⟨Flow.allBlocks ctx flows⟩
  if opts.scripts then d.splitScripts else d

end Typeset.Markdown
