import Typeset.Markdown.Autolink
import Typeset.Markdown.Emphasis
import Typeset.Markdown.Entity
import Typeset.Markdown.Flow
import Typeset.Markdown.Label

/-!
The inline reader: the content of a paragraph, heading or table cell into spans.

It reads left to right. Code and math spans, escapes, character references, autolinks, raw
HTML and literal links are taken whole where they start. Brackets open labels (`![^` opens a
footnote label after a plain `!`, never an image); a closing bracket looks at the latest open
label: if it is a link to a defined footnote it becomes a footnote reference, and otherwise a
link or image when followed by a resource `(...)`, a full reference `[...]` to a definition, a
collapsed `[]`, or nothing, the last two when the label itself is defined. Once a link or
footnote reference forms, no earlier bracket may open a link or footnote reference around it.
A label names its definition by its source text, block quote markers inside it included. Runs
of `*`, `_` and `~` are only noted, with whether they can open or close by what is on their
sides; `*` and `_` may also open or close next to another marker.

When a level of content is complete, whitespace at line ends is dropped (two spaces or more
make a hard break), the runs are paired into emphasis, and then, outside links, e-mail literals
are found in the source text, the runs left over counting as text.

The content is read from its lines joined with their endings, but the sides of a run are the
characters around it in the source, container prefixes included. A line that starts inside a
tab (a block prefix took some of its columns) keeps, before its first source text, the last of
the spaces and tabs after that tab, or the tab itself when there are none; when something other
than source text or left-over markers follows them, they all go. Code and math spans leave such
a tab out.
-/

namespace Typeset.Markdown

/-- What the inline reader knows of the document and the place being read. -/
structure InlineContext where
  /-- Identifiers of the link definitions. -/
  definitions : List String
  /-- Identifiers of the footnote definitions. -/
  footnotes : List String
  gfm : Bool
  math : Bool
  /-- Whether the content is a table cell, where `\|` in code stands for `|`. -/
  inTable : Bool := false
  /-- Where the lines of the content start. -/
  starts : List LineStart := []
  /-- The source character after the content. -/
  after : Option Char := none

/-- A token of inline content. -/
inductive Piece where
  | data (value : List Char)
  | literal (value : String)
  | eol (value : String)
  | hardBreak
  | run (marker : Char) (size : Nat) (opens closes : Bool)
  /-- An opening bracket, kept as its text if nothing closes it. -/
  | bracket (text : String)
  /-- A task list marker, which leaves no text. -/
  | check
  /-- A tab that starts a line inside it. -/
  | cutTab
  /-- Such a tab with the spaces and tabs after it, once line ends are trimmed. -/
  | cut (spaces : List Char)
  | span (s : Span)
  deriving Repr, Inhabited

/-- What an opening bracket may become. -/
inductive BracketKind where
  | link
  | image
  | footnote
  deriving BEq, Repr, DecidableEq, Inhabited

/-- An opening bracket waiting for its closing one. -/
structure Bracket where
  kind : BracketKind
  /-- Where its piece is in the output. -/
  index : Nat
  /-- The source index just after the opening marker. -/
  after : Nat
  active : Bool
  deriving Repr, Inhabited

/-- The state of the inline reader. -/
structure Scan where
  out : Array Piece := #[]
  /-- Open brackets, latest first. -/
  brackets : List Bracket := []
  /-- Whether the last token was a backslash escape. -/
  escaped : Bool := false
  deriving Inhabited

namespace Scan

/-- Add a piece. -/
def emit (st : Scan) (p : Piece) : Scan := { st with out := st.out.push p, escaped := false }

/-- Add the piece of a backslash escape. -/
def emitEscape (st : Scan) (p : Piece) : Scan := { st with out := st.out.push p, escaped := true }

/-- Open a bracket of a kind, its marker text ending before `after`. -/
def openBracket (st : Scan) (kind : BracketKind) (after : Nat) (text : String) : Scan :=
  { out := st.out.push (.bracket text), escaped := false,
    brackets := ⟨kind, st.out.size, after, true⟩ :: st.brackets }

end Scan

/-- Join adjacent data pieces. -/
def mergeData : List Piece → List Piece
  | .data a :: .data b :: rest => mergeData (.data (a ++ b) :: rest)
  | p :: rest => p :: mergeData rest
  | [] => []
  termination_by ps => ps.length

/-- The source text from index `a` to `b` of the content, container prefixes included: what a
label is named by. -/
def InlineContext.sourceOf (ctx : InlineContext) (src : Array Char) (a b : Nat) : List Char :=
  sourceSlice src a b ctx.starts

/-- The source character before index `i` of the content: at a line start, the one before the
line in the source. -/
def InlineContext.before (ctx : InlineContext) (src : Array Char) (i : Nat) : Option Char :=
  match ctx.starts.find? (·.index == i) with
  | some s => s.prev
  | none => if i = 0 then none else src[i - 1]?

/-- The source character at index `e` of the content, or the one after the content at its end. -/
def InlineContext.at (ctx : InlineContext) (src : Array Char) (e : Nat) : Option Char :=
  if e < src.size then src[e]? else ctx.after

/-- Whether index `i` is a tab that starts a line inside it. -/
def InlineContext.cutAt (ctx : InlineContext) (i : Nat) : Bool :=
  ctx.starts.any fun s => s.cutTab && s.index == i

/-- Whether a piece is a tab that starts a line inside it. -/
def isCutPiece : Option Piece → Bool
  | some .cutTab => true
  | _ => false

/-- Whether a piece is source text. -/
def isDataPiece : Option Piece → Bool
  | some (.data _) => true
  | _ => false

/-- Whether a piece is a line ending. -/
def isEolPiece : Option Piece → Bool
  | some (.eol _) => true
  | _ => false

/-- A data piece `j` of `ps` with the whitespace at line ends trimmed: spaces and tabs after a
line ending and before one go, and so do those at the very start and end when `whole` holds.
Two spaces or more (and no tab) before a line ending make a hard break. -/
def trimPiece (whole : Bool) (ps : Array Piece) (j : Nat) : Piece → List Piece
  | .data cs =>
    let last := j + 1 == ps.size
    let trimStart := (whole && j == 0) || (j > 0 && isEolPiece ps[j - 1]?)
    let trimEnd := (whole && last) || isEolPiece ps[j + 1]?
    let tail := if trimEnd then cs.reverse.takeWhile isSpaceOrTab else []
    let body := cs.take (cs.length - tail.length)
    let hard := trimEnd && !last && tail.length ≥ 2 && tail.all (· == ' ')
    let breaks : List Piece := if hard then [.hardBreak] else []
    if j > 0 && isCutPiece ps[j - 1]? then
      let lead := body.takeWhile isSpaceOrTab
      let rest := body.drop lead.length
      .cut lead :: (if rest.isEmpty then [] else [.data rest]) ++ breaks
    else
      let body := if trimStart then body.dropWhile isSpaceOrTab else body
      (if body.isEmpty then [] else [.data body]) ++ breaks
  | .cutTab => if isDataPiece ps[j + 1]? then [] else [.cut []]
  | p => [p]

/-- Items of pieces; a line ending right after a hard break leaves no text. -/
def toItems : List Piece → List Item
  | .hardBreak :: .eol _ :: rest => .span .lineBreak :: toItems rest
  | p :: rest =>
    let here : List Item := match p with
      | .data cs => [.data cs]
      | .literal s | .eol s | .bracket s => [.span (.text s)]
      | .hardBreak => [.span .lineBreak]
      | .run m n o c => [.run m n o c]
      | .check | .cutTab => []
      | .cut ws => [.cut ws]
      | .span s => [.span s]
    here ++ toItems rest
  | [] => []
  termination_by ps => ps.length

/-- Source text as spans: split at its e-mail literals when `emails` holds. -/
def dataSpans (emails : Bool) (cs : List Char) : List Span :=
  if cs.isEmpty then []
  else if emails then emailSpans cs.toArray 0 0
  else [.text (String.ofList cs)]

/-- The spans of resolved items. `pending` is the source text read since the last other item:
runs left over join it as their markers, so e-mail literals are looked for in the whole
stretch. -/
def itemSpans (emails : Bool) (pending : List Char) : List Item → List Span
  | [] => dataSpans emails pending
  | .run m n _ _ :: rest => itemSpans emails (pending ++ List.replicate n m) rest
  | .data cs :: rest => itemSpans emails (pending ++ cs) rest
  | .span s :: rest => dataSpans emails pending ++ s :: itemSpans emails [] rest
  | .pair m k content :: rest =>
    dataSpans emails pending ++
      pairSpan m k (joinTexts (itemSpans emails [] content)) :: itemSpans emails [] rest
  | .cut ws :: rest =>
    let textual := match rest with
      | .data _ :: _ | .run _ _ _ _ :: _ => true
      | _ => false
    itemSpans emails (pending ++ (if textual then [ws.getLast?.getD '\t'] else [])) rest

/-- The spans of a complete level of pieces. `whole` marks the content as a whole (its ends
are trimmed), `emails` whether e-mail literals are looked for. -/
def finishLevel (whole emails : Bool) (ps : List Piece) : List Span :=
  let ps := mergeData (ps.map fun p => match p with
    | .bracket t => .data t.toList
    | p => p)
  let arr := ps.toArray
  let ps := ps.zipIdx.flatMap fun (p, j) => trimPiece whole arr j p
  joinTexts (itemSpans emails [] (resolveRuns [] (toItems ps)))

/-- The index of a closing run of exactly `size` markers from `j`, if any. -/
def closingRun (src : Array Char) (marker : Char) (size j : Nat) : Option Nat :=
  if j < src.size then
    if charIs src j (· == marker) then
      let e := runEnd src (· == marker) j
      if e - j == size then some j
      else if _ : j < e then closingRun src marker size e else none
    else closingRun src marker size (j + 1)
  else none
  termination_by src.size - j

/-- Code content without one space at each end, when both ends are spaces and something else
is inside. Line endings stay as written and do not pad. -/
def stripPadding (cs : List Char) : List Char :=
  if cs.any (· != ' ') && cs.head? == some ' ' && cs.getLast? == some ' ' then
    (cs.drop 1).dropLast
  else cs

/-- `\|` read as `|`, as code in table cells has it. -/
def unescapePipes : List Char → List Char
  | '\\' :: '|' :: rest => '|' :: unescapePipes rest
  | c :: rest => c :: unescapePipes rest
  | [] => []

/-- A code or math span at `i`: its value and the index after it. -/
def rawSpan (ctx : InlineContext) (src : Array Char) (marker : Char) (i : Nat) :
    Option (String × Nat) :=
  let e := runEnd src (· == marker) i
  match closingRun src marker (e - i) e with
  | some j =>
    let inner := (List.range (j - e)).filterMap fun k =>
      if ctx.cutAt (e + k) then none else src[e + k]?
    let inner := if ctx.inTable then unescapePipes inner else inner
    some (String.ofList (stripPadding inner), j + (e - i))
  | none => none

/-- Whether a literal `www.` link may start after `prev`. -/
def wwwMayFollow : Option Char → Bool
  | none => true
  | some c => c == '\t' || c == '\n' || c == '\r' || c == ' ' || c == '(' || c == '*' || c == '_' ||
    c == '~' || c == '[' || c == ']'

/-- Whether a literal `http` link may start after `prev`. -/
def protocolMayFollow : Option Char → Bool
  | none => true
  | some c => !isAsciiAlpha c

/-- Whether a character may start an inline construct, after `prev`. -/
def startsSomething (ctx : InlineContext) (prev : Option Char) (c : Char) : Bool :=
  c == '\n' || c == '\r' || c == '\\' || c == '&' || c == '`' || c == '*' || c == '_' ||
    c == '<' || c == '!' || c == '[' || c == ']' || (c == '$' && ctx.math) ||
    (ctx.gfm && (c == '~' || ((c == 'w' || c == 'W') && wwwMayFollow prev) ||
      ((c == 'h' || c == 'H') && protocolMayFollow prev)))

/-- Past plain characters from `i`. -/
def plainEnd (ctx : InlineContext) (src : Array Char) (i : Nat) : Nat :=
  if i < src.size then
    match src[i]? with
    | some c => if startsSomething ctx src[i - 1]? c then i else plainEnd ctx src (i + 1)
    | none => i
  else i
  termination_by src.size - i

/-- What a closing bracket links to. -/
inductive Target where
  | resource (url : String)
  /-- The definition that the text in brackets names; `named` tells whether any text stands
  there to be the label. -/
  | label (identifier : String) (named : Bool)
  /-- The definition that a second label names, with that label's text. -/
  | reference (identifier label : String)

/-- Close the latest bracket `b` at `i` into a span, `rest` being the brackets before it. A link
or footnote reference leaves no earlier bracket able to open a link or footnote around it. -/
def closeBracket (st : Scan) (b : Bracket) (rest : List Bracket) (node : List Piece → Span) : Scan :=
  let children := (st.out.extract (b.index + 1) st.out.size).toList
  let out := (st.out.extract 0 b.index).push (.span (node children))
  let rest := if b.kind == .image then rest
    else rest.map fun x => if x.kind == .image then x else { x with active := false }
  { out := out, brackets := rest, escaped := false }

/-- The span of a label that found its target. The label of a reference through the bracket's
own text is the plain text of what it holds. -/
def labelSpan (b : Bracket) (caret : Bool) (t : Target) (children : List Piece) : Span :=
  let children := if caret then .data ['^'] :: children else children
  let spans := finishLevel false false children
  match b.kind, t with
  | .image, .resource url => .image url (Span.plainAll spans)
  | .image, _ => .imageReference (Span.plainAll spans)
  | _, .resource url => .link url spans
  | _, .label id named => .reference id (if named then Span.plainAll spans else "") spans
  | _, .reference id lab => .reference id lab spans

/-- Characters without the spaces and tabs next to their line endings; `pending` holds spaces
and tabs read but not yet kept, `fresh` tells whether a line ending came last. -/
def trimAtLineEnds (pending : List Char) (fresh : Bool) : List Char → List Char
  | [] => pending
  | c :: cs =>
    if isSpaceOrTab c then
      if fresh then trimAtLineEnds [] true cs else trimAtLineEnds (pending ++ [c]) false cs
    else if c == '\n' || c == '\r' then c :: trimAtLineEnds [] true cs
    else pending ++ c :: trimAtLineEnds [] false cs

/-- The text of a label in a second pair of brackets: escapes and character references
decoded, with no spaces or tabs next to its line endings. -/
def referenceText (cs : List Char) : String := String.ofList (decodeString (trimAtLineEnds [] false cs))

/-- A closing bracket at `i`. -/
def closeLabel (ctx : InlineContext) (src : Array Char) (i : Nat) (st : Scan) : Scan × Nat :=
  match st.brackets with
  | [] => (st.emit (.data [']']), i + 1)
  | b :: rest =>
    let nok := fun (_ : Unit) => ({ st with brackets := rest }.emit (.data [']']), i + 1)
    if !b.active then nok ()
    else
      let id := labelIdentifier (ctx.sourceOf src b.after i)
      if b.kind == .footnote && ctx.footnotes.contains id then
        (closeBracket st b rest fun _ => .footnote id, i + 1)
      else
        let caret := b.kind == .footnote
        let id := if caret then "^" ++ id else id
        let own : Target := .label id (!caret || b.after < i)
        let defined := ctx.definitions.contains id
        let shortcut := fun (_ : Unit) =>
          (closeBracket st b rest (labelSpan b caret own), i + 1)
        match src[i + 1]? with
        | some '(' =>
          match resource src (i + 1) with
          | some (dest, e) =>
            (closeBracket st b rest (labelSpan b caret (.resource (String.ofList (decodeString dest)))), e)
          | none => if defined then shortcut () else nok ()
        | some '[' =>
          let full := match label src (i + 1) with
            | some (ref, e) =>
              let refId := labelIdentifier (ctx.sourceOf src (i + 2) (e - 1))
              if ctx.definitions.contains refId then
                some (closeBracket st b rest (labelSpan b caret (.reference refId (referenceText ref))), e)
              else none
            | none => none
          match full with
          | some r => r
          | none =>
            if defined && charIs src (i + 2) (· == ']') then
              (closeBracket st b rest (labelSpan b caret own), i + 3)
            else nok ()
        | _ => if defined then shortcut () else nok ()

/-- Read one token at `i`: the new state and where to go on. -/
def step (ctx : InlineContext) (src : Array Char) (i : Nat) (st : Scan) : Scan × Nat :=
  match src[i]? with
  | none => (st, i + 1)
  | some c =>
    let prev := src[i - 1]?
    let prev := if i == 0 then none else prev
    if ctx.cutAt i then (st.emit .cutTab, i + 1)
    else if c == '\n' || c == '\r' then
      let e := afterLineEnd src i
      (st.emit (.eol (String.ofList (slice src i e))), e)
    else if c == '\\' then
      match src[i + 1]? with
      | some d =>
        if isAsciiPunct d then (st.emitEscape (.literal d.toString), i + 2)
        else if d == '\n' || d == '\r' then (st.emit .hardBreak, i + 1)
        else (st.emit (.data ['\\']), i + 1)
      | none => (st.emit (.data ['\\']), i + 1)
    else if c == '&' then
      match charRef? (slice src (i + 1) (i + 42)) with
      | some (v, n) => (st.emit (.literal v), i + 1 + n)
      | none => (st.emit (.data ['&']), i + 1)
    else if c == '`' || (c == '$' && ctx.math) then
      let e := runEnd src (· == c) i
      if prev != some c || st.escaped then
        match rawSpan ctx src c i with
        | some (v, j) => (st.emit (.span (if c == '`' then .code v else .math v)), j)
        | none => (st.emit (.data (slice src i e)), e)
      else (st.emit (.data (slice src i e)), e)
    else if c == '*' || c == '_' || (c == '~' && ctx.gfm) then
      let e := runEnd src (· == c) i
      let sidePrev := ctx.before src i
      let sideNext := ctx.at src e
      let before := classify sidePrev
      let after := classify sideNext
      -- emphasis markers may stand next to other markers; strikethrough ones may not
      let marks := fun (x : Option Char) =>
        c != '~' && (x == some '*' || x == some '_' || (ctx.gfm && x == some '~'))
      let opens := after == .other || (after == .punctuation && before != .other) || marks sideNext
      let closes := before == .other || (before == .punctuation && after != .other) || marks sidePrev
      let opens' := if c == '_' then opens && (before != .other || !closes) else opens
      let closes' := if c == '_' then closes && (after != .other || !opens) else closes
      (st.emit (.run c (e - i) opens' closes'), e)
    else if c == '<' then
      match angleAutolink? src i with
      | some (url, text, e) => (st.emit (.span (.link url [.text text])), e)
      | none =>
        match htmlSpan src i with
        | some e => (st.emit (.span (.html (String.ofList (slice src i e)))), e)
        | none => (st.emit (.data ['<']), i + 1)
    else if c == '!' then
      -- with footnotes, `![^` is no image: the bracket opens a footnote instead
      if charIs src (i + 1) (· == '[') && !(ctx.gfm && charIs src (i + 2) (· == '^')) then
        (st.openBracket .image (i + 2) "![", i + 2)
      else (st.emit (.data ['!']), i + 1)
    else if c == '[' then
      if ctx.gfm && charIs src (i + 1) (· == '^') then (st.openBracket .footnote (i + 2) "[^", i + 2)
      else (st.openBracket .link (i + 1) "[", i + 1)
    else if c == ']' then closeLabel ctx src i st
    else
      let free := ctx.gfm
      let lit : Option (String × Nat) :=
        if free && (c == 'w' || c == 'W') && wwwMayFollow prev then
          (wwwLiteral? src ctx.after i).map fun e => ("http://", e)
        else if free && (c == 'h' || c == 'H') && protocolMayFollow prev then
          (protocolLiteral? src ctx.after i).map fun e => ("", e)
        else none
      match lit with
      | some (pre, e) =>
        let text := String.ofList (slice src i e)
        (st.emit (.span (.link (pre ++ text) [.text text])), e)
      | none =>
        let e := plainEnd ctx src (i + 1)
        (st.emit (.data (slice src i e)), e)

/-- Read tokens from `i` to the end. -/
def scanFrom (ctx : InlineContext) (src : Array Char) (i : Nat) (st : Scan) : Scan :=
  if i < src.size then
    let (st', j) := step ctx src i st
    scanFrom ctx src (max j (i + 1)) st'
  else st
  termination_by src.size - i
  decreasing_by omega

/-- The index after a task list marker at the start of content, if there is one: `[`, then `x`,
`X`, a space, a tab or a line ending (a carriage return and line feed counting as one), then
`]`, then a line ending, or spaces and tabs before more content. -/
def taskMarkerEnd? (src : Array Char) : Option Nat :=
  let k := if charIs src 1 (· == '\r') && charIs src 2 (· == '\n') then 3 else 2
  if charIs src 0 (· == '[') && charIs src 1 (fun c => isMdSpace c || c == 'x' || c == 'X') &&
      charIs src k (· == ']') &&
      (charIs src (k + 1) (fun c => c == '\n' || c == '\r') ||
        (charIs src (k + 1) isSpaceOrTab && skipSpaceTab src (k + 1) < src.size)) then
    some (k + 1)
  else none

/-- Spans without the first character of a leading text, a carriage return and line feed
counting as one. -/
def dropFirstChar : List Span → List Span
  | .text v :: rest =>
    let t := String.ofList (match v.toList with
      | '\r' :: '\n' :: r => r
      | _ :: r => r
      | [] => [])
    if t.isEmpty then rest else .text t :: rest
  | ss => ss

/-- Where a paragraph stands with respect to a task list marker at its start. -/
inductive TaskPlace where
  /-- No marker is read. -/
  | none
  /-- The first block of a list item: the marker goes, and one character after it. -/
  | first
  /-- The first paragraph of a list item after its link definitions: the marker goes alone. -/
  | afterDefinitions
  deriving BEq, Repr, DecidableEq, Inhabited

/-- The spans of inline content, which may start with a task list marker as `place` says. -/
def readInline (ctx : InlineContext) (place : TaskPlace) (text : InlineText) : List Span :=
  let (content, starts) := layoutFrom text.lines 0
  let ctx := { ctx with starts := starts, after := text.after }
  let src := content.toArray
  let mark := if ctx.gfm && place != .none then taskMarkerEnd? src else none
  let marked := mark.isSome
  let st : Scan := if marked then ({} : Scan).emit .check else {}
  let st := scanFrom ctx src (mark.getD 0) st
  let spans := finishLevel true ctx.gfm st.out.toList
  if marked && place == .first then dropFirstChar spans else spans

end Typeset.Markdown
