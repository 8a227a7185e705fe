import Typeset.Document.Basic
import Typeset.Markdown.Line
import Typeset.Markdown.Link

/-!
The block structure of a Markdown document, as the block reader leaves it. Inline content is
still source text here: it is read only once every definition in the document is known, since a
reference may come before its definition.

A run of paragraph lines that begins with link reference definitions gives them up when it
closes; what is left, if anything, stays a paragraph (or becomes the text of a heading). Labels
name definitions by their source text, in which the prefixes of block quotes around a line
break count too.
-/

namespace Typeset.Markdown

/-- Inline content as the block reader leaves it: lines of text, and the source character just
after the last of them. -/
structure InlineText where
  lines : List TextLine
  after : Option Char := none
  deriving Repr, Inhabited

/-- A block with its inline content still unread. -/
inductive Flow where
  | frontmatter (value : List Char)
  | definition (label : List Char) (destination : List Char)
  | footnote (label : List Char) (children : List Flow)
  | heading (depth : Nat) (text : InlineText)
  | paragraph (text : InlineText)
  /-- A list, with the marker its items share: the bullet, or the delimiter after a number. -/
  | list (ordered : Bool) (marker : Char) (items : List (List Flow))
  | code (info : List Char) (value : List Char)
  | blockquote (children : List Flow)
  | thematicBreak
  | table (align : List (Option Align)) (rows : List (List InlineText))
  | math (value : List Char)
  /-- An HTML block, which the document does not keep; it still separates the blocks around it. -/
  | html
  deriving Repr, Inhabited

/-- Lines joined with all their endings. -/
def TextLine.joinAll : List TextLine → List Char
  | [] => []
  | l :: ls => l.chars ++ l.eol.toList ++ TextLine.joinAll ls

/-- The lines after the first `n` characters of their joined text, which end at a line end. -/
def TextLine.dropChars : Nat → List TextLine → List TextLine
  | _, [] => []
  | n, l :: ls =>
    let k := l.chars.length + l.eol.length
    if n = 0 then l :: ls
    else if k ≤ n then TextLine.dropChars (n - k) ls
    else l :: ls

/-- Where a line of inline content starts in the joined text: its index, the source character
before it, whether it starts inside a tab, and its container prefixes. -/
structure LineStart where
  index : Nat
  prev : Option Char
  cutTab : Bool
  lead : List Char := []
  deriving Repr, Inhabited

/-- The joined characters of lines from index `i`, and where each line starts. The last line's
ending is left out. -/
def layoutFrom : List TextLine → Nat → List Char × List LineStart
  | [], _ => ([], [])
  | [l], i => (l.chars, [⟨i, l.prev, l.cutTab, l.lead⟩])
  | l :: ls, i =>
    let (cs, ss) := layoutFrom ls (i + l.chars.length + l.eol.length)
    (l.chars ++ l.eol.toList ++ cs, ⟨i, l.prev, l.cutTab, l.lead⟩ :: ss)

/-- The source text from index `a` to `b` of joined lines, `starts` being where the lines start
(in order): the characters, with the container prefixes of the lines that start inside the
stretch or at its end put back. -/
def sourceSlice (src : Array Char) (a b : Nat) : List LineStart → List Char
  | [] => slice src a b
  | s :: ss =>
    if a < s.index && s.index ≤ b then slice src a s.index ++ s.lead ++ sourceSlice src s.index b ss
    else sourceSlice src a b ss

/-- The definitions at the start of a text from `i`, and where they stop. A definition keeps
its label as the source has it, prefixes included, since that is what names it. -/
def definitionsFrom (src : Array Char) (starts : List LineStart) (i : Nat) : List Flow × Nat :=
  match definition src i with
  | some (lab, dest, e) =>
    if _ : i < e ∧ i < src.size then
      let (ds, j) := definitionsFrom src starts e
      let a := skipSpaceTab src i + 1
      (.definition (sourceSlice src a (a + lab.length) starts) dest :: ds, j)
    else ([], i)
  | none => ([], i)
  termination_by src.size - i

/-- Paragraph lines split into the definitions they begin with and the lines after them. -/
def splitDefinitions (lines : List TextLine) : List Flow × List TextLine :=
  let src := (TextLine.joinAll lines).toArray
  let (ds, j) := definitionsFrom src (layoutFrom lines 0).2 0
  (ds, TextLine.dropChars j lines)

end Typeset.Markdown
