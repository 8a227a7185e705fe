import Typeset.Markdown.Html
import Typeset.Markdown.Opening

/-!
The block reader: lines in, a tree of blocks out.

Reading works in two layers. The container layer keeps the open block quotes, list items and
footnote definitions. A line first continues as many of them as its prefixes allow, then may
open new ones; what is left of it goes to the flow layer, which keeps at most one open leaf
(paragraph lines, a table, a code block, math, an HTML block) and knows whether the last line
was paragraph text or an underline, and whether a new line would interrupt something.

A line that does not continue every container is lazy. It stays inside them only when it is
paragraph text going on from a paragraph line; otherwise the containers it left close, before
the line, and its block goes in their parent. A container that opens on a line where some
containers did not go on closes them first, and everything open in the flow with them.

The flow's rules that reach across lines:

* A paragraph line ends with the flow set to interrupt: then indented code cannot start, a list
  item cannot be empty or numbered other than `1`, and a complete HTML tag opens no block (on a
  line that is not lazy).
* A setext underline needs paragraph text or an underline on the line before, in the same
  containers. It makes a heading of the paragraph's text after its definitions; with no such
  text, the underline is text itself, and begins the paragraph of the next line when nothing
  stands between them, not even a container prefix.
* A head row of a table is a line of text, with a line ending, that no other block takes; the
  next line, if it goes on in the same containers, is its delimiter row, with as many cells.
  Otherwise the head row is a paragraph line after all. Body rows follow until a line is
  blank, lazy, in a new container, or opens another block. A line starting with `#`, a fence
  character, `*` or `_` is tried only as the block that character opens, and one starting with
  `e`, `i` or a brace (which open no block here) only as text, so none of them is a row.
* Indented code goes on over lines with four columns of indent, and over blank lines when code
  follows them; a lazy line, or one in a new container, neither goes on with it nor lets it go
  on after itself.
* Fenced code, math and HTML blocks take every line of their containers until they close; a
  lazy line closes them before itself.
-/

namespace Typeset.Markdown

/-- Which extensions the reader uses; all are on by default. GFM brings tables, footnotes,
strikethrough, autolink literals and task list items; math brings `$...$` and `$$` blocks;
frontmatter brings a YAML block at the very start; scripts split `^sup^` and `~sub~` spans after
reading. -/
structure Options where
  gfm : Bool := true
  frontmatter : Bool := true
  math : Bool := true
  scripts : Bool := true
  deriving BEq, Repr, Inhabited

/-- A container block open in the reader. -/
inductive Container where
  | quote
  /-- A list item: ordered or not, its marker, the indent its lines need, and whether it began
  with a blank line and has had no other since. -/
  | item (ordered : Bool) (marker : Char) (size : Nat) (blankInitial : Bool)
  | note (label : List Char)
  deriving BEq, Repr, Inhabited

/-- An open container with the blocks it holds so far, latest first. -/
structure Frame where
  container : Container
  children : List Flow := []
  deriving Repr, Inhabited

/-- Paragraph lines being gathered: an underline that had nothing to make a heading of, which
may still begin the paragraph, and the lines of text, latest first. -/
structure Para where
  orphan : Option TextLine := none
  lines : List TextLine := []
  deriving Repr, Inhabited

/-- A paragraph of the given lines. -/
def paragraphOf (ls : List TextLine) : Flow := .paragraph ⟨ls, none⟩

namespace Para

/-- The paragraph with one more line. -/
def add (p : Para) (l : TextLine) : Para := { p with lines := l :: p.lines }

/-- The blocks of the paragraph lines: their definitions, then the rest as a paragraph. An
underline before them begins that paragraph when the lines do not start with a definition;
otherwise it is a paragraph of its own. -/
def close (p : Para) : List Flow :=
  let (defs, rest) := splitDefinitions p.lines.reverse
  let tail := if rest.isEmpty then [] else [paragraphOf rest]
  match p.orphan with
  | none => defs ++ tail
  | some o => if defs.isEmpty && !rest.isEmpty then [paragraphOf (o :: rest)]
    else paragraphOf [o] :: defs ++ tail

/-- What an underline makes of the paragraph lines, if they end in text: the blocks before the
heading, and the heading's lines. -/
def heading? (p : Para) : Option (List Flow × List TextLine) :=
  let (defs, rest) := splitDefinitions p.lines.reverse
  match p.orphan with
  | none => if rest.isEmpty then none else some (defs, rest)
  | some o =>
    if p.lines.isEmpty then some ([], [o])
    else if defs.isEmpty then some ([], o :: rest)
    else if rest.isEmpty then none
    else some (paragraphOf [o] :: defs, rest)

end Para

/-- Characters without one line ending at the front. -/
def dropLeadingEol : List Char → List Char
  | '\r' :: '\n' :: r => r
  | '\n' :: r => r
  | '\r' :: r => r
  | cs => cs

/-- Characters without one line ending at the end. -/
def dropTrailingEol (cs : List Char) : List Char :=
  match cs.reverse with
  | '\n' :: '\r' :: r => r.reverse
  | '\n' :: r => r.reverse
  | '\r' :: r => r.reverse
  | _ => cs

/-- Code lines joined with their endings, the last line's ending kept only when `last`. -/
def joinCode (last : Bool) : List (List Char × String) → List Char
  | [] => []
  | [(cs, e)] => cs ++ (if last then e.toList else [])
  | (cs, e) :: ls => cs ++ e.toList ++ joinCode last ls

/-- The block of a fence with its content lines (latest first). `last` tells whether the
ending of the last line read belongs to it: it does unless a lazy line closed the fence. The
value loses one line ending at each end. -/
def fencedFlow (f : FenceOpen) (openEol : String) (lines : List (List Char × String))
    (last : Bool) : Flow :=
  let raw := match lines with
    | [] => if last then openEol.toList else []
    | _ => openEol.toList ++ joinCode last lines.reverse
  let v := dropTrailingEol (dropLeadingEol raw)
  if f.marker == '$' then .math v else .code f.info v

/-- The block of indented code lines (latest first); the value loses one line ending at its
end. -/
def indentedFlow (lines : List (List Char × String)) : Flow :=
  .code [] (dropTrailingEol (joinCode false lines.reverse))

/-- The open block of the flow. -/
inductive Leaf where
  | text (p : Para)
  /-- A head row waiting for its delimiter row, after the paragraph lines it may interrupt. -/
  | head (p : Para) (row : TextLine) (cells : List InlineText)
  | table (align : List (Option Align)) (rows : List (List InlineText))
  /-- A fence, the ending of its opening line, and its content lines, latest first. -/
  | fenced (f : FenceOpen) (openEol : String) (lines : List (List Char × String))
  /-- Indented code lines, latest first, and the blank lines after them, latest first. -/
  | indented (lines : List (List Char × String)) (blanks : List String)
  | html (kind : Nat)
  deriving Repr, Inhabited

/-- The blocks an open leaf gives when the flow ends or is cut off by a container: a waiting
head row is a paragraph line, blank lines after code are dropped. -/
def Leaf.close : Leaf → List Flow
  | .text p => p.close
  | .head p row _ => (p.add row).close
  | .table align rows => [.table align rows.reverse]
  | .fenced f e ls => [fencedFlow f e ls true]
  | .indented ls _ => [indentedFlow ls]
  | .html _ => [.html]

/-- Whether an open leaf takes every line of its containers. -/
def Leaf.concrete : Leaf → Bool
  | .fenced _ _ _ | .html _ => true
  | _ => false

/-- What the last line of the flow was, as far as later lines care. -/
inductive Last where
  | content
  | underline
  | table
  | other
  deriving BEq, Repr, Inhabited

/-- The state of the flow between lines. -/
structure FlowState where
  leaf : Option Leaf := none
  interrupt : Bool := false
  last : Last := .other
  deriving Repr, Inhabited

/-- The blocks of the open leaf, and the flow without it. -/
def FlowState.flush (st : FlowState) : List Flow × FlowState :=
  match st.leaf with
  | some l => (l.close, { st with leaf := none })
  | none => ([], st)

/-- How a line stands to its containers. -/
structure LineFlags where
  /-- Some container did not go on. -/
  lazy : Bool := false
  /-- A container opened on the line. -/
  pierce : Bool := false
  /-- No container prefix at all comes before the line's text. -/
  bare : Bool := true
  /-- The line is the last one and has no line ending. -/
  final : Bool := false
  /-- The source characters of the container prefixes before the line's text. -/
  lead : List Char := []
  /-- A block quote marker stands among them, and no container opened on the line. -/
  quoted : Bool := false
  deriving Repr, Inhabited

/-- The rest of the line from the cursor as inline content, knowing its prefixes. -/
def LineFlags.textLine (fl : LineFlags) (c : Cursor) (eol : String) : TextLine :=
  { c.textLine eol with lead := fl.lead, quoted := fl.quoted }

/-- What the flow makes of a line: the blocks the open leaf gives before the line, the blocks
finished on it, the state after it, and whether it counts as paragraph text for a lazy line
after it. -/
structure Outcome where
  done : List Flow := []
  made : List Flow := []
  state : FlowState
  paragraph : Bool := false
  deriving Repr, Inhabited

/-- The paragraph a line of text goes on, with the blocks closed for it: a table ends, and a
lone underline stays apart unless nothing stands between it and the line. -/
def paraFor (st : FlowState) (bare : Bool) : List Flow × Para :=
  match st.leaf with
  | some (.text p) => if p.lines.isEmpty && !bare then (p.close, {}) else ([], p)
  | some l => (l.close, {})
  | none => ([], {})

/-- A line of the flow that no open leaf takes, read from its start. -/
def startLine (opts : Options) (st : FlowState) (c : Cursor) (eol : String) (fl : LineFlags) :
    Outcome :=
  let closeThen := fun (made : List Flow) (leaf : Option Leaf) (interrupt : Bool) (last : Last) =>
    let (done, _) := st.flush
    ({ done := done, made := made, state := ⟨leaf, interrupt, last⟩ } : Outcome)
  let content := fun (_ : Unit) =>
    let unsettled := fl.final && unsettledAtEnd c opts.math
      (fun cs => htmlStartUnsettled cs (!(st.interrupt && !fl.lazy)))
    -- a lazy line that is not paragraph text leaves its containers, so it starts a paragraph
    let (done, p) := if fl.lazy && unsettled then (st.flush.1, {}) else paraFor st fl.bare
    ({ done := done, state := ⟨some (.text (p.add (fl.textLine c eol))), true, .content⟩,
       paragraph := !unsettled } : Outcome)
  let fence := fun (f : FenceOpen) => closeThen [] (some (.fenced f eol [])) st.interrupt .other
  let html := fun (k : Nat) =>
    let d := c.indented
    if htmlClosesOnOpening k d.rest then closeThen [.html] none false .other
    else closeThen [] (some (.html k)) st.interrupt .other
  let htmlKind? := fun (_ : Unit) =>
    let d := c.indented
    if d.cur == some '<' then htmlBlockKind? d.rest (!(st.interrupt && !fl.lazy)) else none
  let atx := fun (depth : Nat) (text : List Char) =>
    let h := Flow.heading depth ⟨if text.isEmpty then [] else [{ chars := text, cutTab := false, prev := some ' ', eol := "" }], none⟩
    closeThen [h] none false .other
  match c.cur with
  | some '#' =>
    match atxHeading? c with
    | some (depth, text) => atx depth text
    | none => content ()
  | some '`' | some '~' | some '$' =>
    match fenceOpen? c opts.math with
    | some f => fence f
    | none => content ()
  | some '*' | some '_' => if thematicBreak? c then closeThen [.thematicBreak] none false .other
    else content ()
  | some 'e' | some 'i' | some '{' => content ()
  | _ =>
  if c.isBlank then closeThen [] none false .other
  else
  match (if st.interrupt then none else c.spaceMinMax 4 4) with
  | some d =>
    let line := (d.whole, eol)
    if fl.lazy || fl.pierce then closeThen [indentedFlow [line]] none false .other
    else closeThen [] (some (.indented [line] [])) false .other
  | none =>
  match fenceOpen? c opts.math with
  | some f => fence f
  | none =>
  match htmlKind? () with
  | some k => html k
  | none =>
  match atxHeading? c with
  | some (depth, text) => atx depth text
  | none =>
  match (if !fl.lazy && !fl.pierce && (st.last == .content || st.last == .underline) then
      setextDepth? c else none) with
  | some depth =>
    let line := fl.textLine c eol
    let under : Outcome := match st.leaf with
      | some (.text p) =>
        match p.heading? with
        | some (before, hl) =>
          { done := before, made := [.heading depth ⟨hl, none⟩], state := ⟨none, false, .underline⟩ }
        | none => { done := p.close, state := ⟨some (.text { orphan := some line }), false, .underline⟩ }
      | _ =>
        let (done, _) := st.flush
        { done := done, state := ⟨some (.text { orphan := some line }), false, .underline⟩ }
    under
  | none =>
  if thematicBreak? c then closeThen [.thematicBreak] none false .other
  else if !opts.gfm then content ()
  else
  let d := c.indented
  if st.last == .table && !fl.pierce then
    match st.leaf with
    | some (.table align rows) =>
      if fl.lazy || d.atSpace then content ()
      else { state := ⟨some (.table align (rowTexts d :: rows)), st.interrupt, .table⟩ }
    | _ => content ()
  else
    if eol.isEmpty || d.atSpace || !headPieces (rowPieces d.rest.toArray 0) then content ()
    else
      let (done, p) := paraFor st fl.bare
      { done := done, state := ⟨some (.head p (fl.textLine c eol) (rowTexts d)), true, .content⟩,
        paragraph := true }

/-- A line of the flow: first what the open leaf does with it, then, unless the leaf takes it,
the line read from its start. -/
def flowLine (opts : Options) (st : FlowState) (c : Cursor) (eol : String) (fl : LineFlags) :
    Outcome :=
  let fresh := fun (done : List Flow) (st' : FlowState) =>
    let o := startLine opts st' c eol fl
    { o with done := done ++ o.done }
  match st.leaf with
  | some (.fenced f e ls) =>
    if fl.lazy then fresh [fencedFlow f e ls false] ⟨none, false, .other⟩
    else if closesFence f.marker f.size c then
      { made := [fencedFlow f e ls true], state := ⟨none, false, .other⟩ }
    else { state := { st with leaf := some (.fenced f e (((c.spaceMax f.indent).2.whole, eol) :: ls)) } }
  | some (.html k) =>
    if fl.lazy || ((k == 6 || k == 7) && c.isBlank) then fresh [.html] ⟨none, false, .other⟩
    else if htmlEndIn k c.rest then { made := [.html], state := ⟨none, false, .other⟩ }
    else { state := st }
  | some (.indented ls blanks) =>
    if fl.lazy || fl.pierce then fresh [indentedFlow ls] ⟨none, false, .other⟩
    else
      match c.spaceMinMax 4 4 with
      | some d =>
        let ls := (d.whole, eol) :: (blanks.map fun e => (([] : List Char), e)) ++ ls
        { state := { st with leaf := some (.indented ls []) } }
      | none =>
        if c.isBlank then { state := { st with leaf := some (.indented ls (eol :: blanks)) } }
        else fresh [indentedFlow ls] ⟨none, false, .other⟩
  | some (.head p row cells) =>
    let d := c.indented
    let aligns := if fl.lazy || fl.pierce || d.atSpace then none else delimiterRow? d.rest
    match aligns with
    | some al =>
      if al.length == cells.length then
        { done := p.close, state := ⟨some (.table al [cells]), false, .table⟩ }
      else startLine opts ⟨some (.text (p.add row)), true, .content⟩ c eol fl
    | none => startLine opts ⟨some (.text (p.add row)), true, .content⟩ c eol fl
  | _ => startLine opts st c eol fl

/-- The state of the block reader. -/
structure Reader where
  /-- Open containers, innermost first. -/
  frames : List Frame := []
  /-- The document's blocks, latest first. -/
  root : List Flow := []
  flow : FlowState := {}
  /-- Whether the last line counts as paragraph text. -/
  paraBefore : Bool := false
  /-- The source character before the next line. -/
  prev : Option Char := none
  deriving Repr, Inhabited

/-- A closed list item's blocks added to the blocks of its parent (latest first): they join
the list just before when it has the same kind and marker. -/
def addItem (ordered : Bool) (marker : Char) (item : List Flow) : List Flow → List Flow
  | .list o m items :: rest =>
    if o == ordered && m == marker then .list o m (items ++ [item]) :: rest
    else .list ordered marker [item] :: .list o m items :: rest
  | bs => .list ordered marker [item] :: bs

namespace Reader

/-- Add blocks to the innermost container. -/
def add (bs : List Flow) (r : Reader) : Reader :=
  match r.frames with
  | f :: fs => { r with frames := { f with children := bs.reverse ++ f.children } :: fs }
  | [] => { r with root := bs.reverse ++ r.root }

/-- Add the blocks of a closed container to the blocks of its parent, latest first. -/
def closedInto (f : Frame) (parent : List Flow) : List Flow :=
  match f.container with
  | .quote => .blockquote f.children.reverse :: parent
  | .note lab => .footnote lab f.children.reverse :: parent
  | .item o m _ _ => addItem o m f.children.reverse parent

/-- Close the innermost container. -/
def closeFrame (r : Reader) : Reader :=
  match r.frames with
  | f :: g :: fs => { r with frames := { g with children := closedInto f g.children } :: fs }
  | [f] => { r with frames := [], root := closedInto f r.root }
  | [] => r

/-- Close containers until `n` are open; `fuel` bounds the steps. -/
def closeTo : Nat → Nat → Reader → Reader
  | 0, _, r => r
  | fuel + 1, n, r => if r.frames.length > n then closeTo fuel n r.closeFrame else r

/-- Close the open leaf into the innermost container. -/
def flushLeaf (r : Reader) : Reader :=
  let (bs, st) := r.flow.flush
  { r.add bs with flow := st }

/-- Open a container inside the innermost one. -/
def push (c : Container) (r : Reader) : Reader := { r with frames := { container := c } :: r.frames }

/-- Close everything and answer the document's blocks. -/
def finish (r : Reader) : List Flow :=
  (closeTo r.frames.length 0 r.flushLeaf).root.reverse

end Reader

/-- How far a line continues the containers (outermost first): the number that go on, the
cursor after their prefixes, and the containers as the line leaves them (a list item that sees
a line with text no longer counts as beginning with a blank line). -/
def continueFrames : List Container → Cursor → Nat × Cursor × List Container
  | [], c => (0, c, [])
  | k :: ks, c =>
    let step : Option Cursor × Container := match k with
      | .quote => (quotePrefix? c, k)
      | .item o m size blank =>
        if c.isBlank then (if blank then none else some (c.spaceMax size).2, k)
        else (c.spaceMinMax size size, .item o m size false)
      | .note _ => (if c.isBlank then some (c.spaceMax 4).2 else c.spaceMinMax 4 4, k)
    match step with
    | (some d, k') =>
      let (n, e, ks') := continueFrames ks d
      (n + 1, e, k' :: ks')
    | (none, k') => (0, c, k' :: ks)

/-- A new container at the cursor: the container, the cursor after its prefix, and whether it
is a list item with nothing after its marker. -/
def newContainer? (opts : Options) (c : Cursor) (interrupt : Bool) :
    Option (Container × Cursor × Bool) :=
  match quotePrefix? c with
  | some d => some (.quote, d, false)
  | none =>
    match listItemStart? c interrupt with
    | some s => some (.item s.ordered s.marker s.size s.blank, s.content, s.blank)
    | none =>
      if opts.gfm then (footnoteStart? c).map fun (lab, d) => (.note lab, d, false) else none

/-- Containers opening on a line, one after another; `fuel` bounds how many. `all` tells whether
every container goes on so far. Answers the reader, the cursor, whether one opened, and
whether the line is to be dropped: an empty list item on the last line, with no line ending,
that would cut off a fence. -/
def openContainers (opts : Options) (final : Bool) (n : Nat) :
    Nat → Reader → Cursor → Bool → Bool → Reader × Cursor × Bool × Bool
  | 0, r, c, _, opened => (r, c, opened, false)
  | fuel + 1, r, c, all, opened =>
    let concrete := match r.flow.leaf with
      | some l => l.concrete
      | none => false
    if all && concrete then (r, c, opened, false)
    else
      match newContainer? opts c (if all then r.flow.interrupt else false) with
      | none => (r, c, opened, false)
      | some (k, d, blankItem) =>
        let fenced := match r.flow.leaf with
          | some (.fenced _ _ _) => true
          | _ => false
        if final && blankItem && !all && fenced then (r, c, opened, true)
        else
          let r := if all then r.flushLeaf
            else
              let r := Reader.closeTo r.frames.length n r.flushLeaf
              { r with flow := { r.flow with interrupt := false } }
          openContainers opts final n fuel (r.push k) d true true

/-- Read one line; `containers` tells whether containers are read at all. -/
def Reader.feed (opts : Options) (containers : Bool) (r : Reader) (l : Line) : Reader :=
  let c0 := Cursor.ofLine l r.prev
  let final := l.eol.isEmpty
  let prev := l.eol.toList.getLast?
  let outer := r.frames.reverse.map (·.container)
  let (n, c, ks) := if containers then continueFrames outer c0 else (0, c0, [])
  let r := { r with frames := (r.frames.zip ks.reverse).map fun (f, k) => { f with container := k } }
  let all := n == r.frames.length
  let (r, c, opened, dropped) :=
    if containers then openContainers opts final n (l.chars.length + 1) r c all false
    else (r, c, false, false)
  if dropped then { r with prev := prev }
  else
    let lazy := !opened && !all
    let lead := l.chars.take c.index
    let fl : LineFlags := { lazy := lazy, pierce := opened, bare := outer.isEmpty && !opened,
                            final := final, lead := lead, quoted := lead.contains '>' && !opened }
    let o := flowLine opts r.flow c l.eol fl
    let keep := lazy && o.paragraph && r.paraBefore
    let r := r.add o.done
    let r := if lazy && !keep then
        { Reader.closeTo r.frames.length n r with flow := { r.flow with interrupt := false } }
      else r
    let st := if lazy && !keep then { o.state with interrupt := false } else o.state
    { r.add o.made with flow := st, paraBefore := o.paragraph, prev := prev }

/-- The blocks of a sequence of lines, the first after the source character `prev`;
`containers` tells whether containers are read at all. -/
def readFlows (opts : Options) (containers : Bool) (prev : Option Char) (lines : List Line) :
    List Flow :=
  (lines.foldl (Reader.feed opts containers) { prev := prev }).finish

end Typeset.Markdown
