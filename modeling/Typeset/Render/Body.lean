import Typeset.Render.PlainText
import Typeset.Typst.Escape

/-!
The body writer: blocks and inlines as Typst markup, with the warnings that arise, in order.

Warnings never stop the rendering: each marks a place where the output falls back to something
plainer. Rendered pieces are laid out by lines: indenting puts two spaces per level before every
line, and joining leaves out the pieces that render to nothing.

A footnote reference is expanded in place, as `#footnote[...]` around its definition's blocks.
The keys of the footnotes being expanded form a stack: a reference whose key is already on it
is recursive and renders nothing. Each expansion pushes a key of the reference table that was
not on the stack, so the writer ends: the pair (footnote keys not on the stack, size of the
node) goes down on every call.
-/

namespace Typeset.Render

/-! ## Warnings and layout -/

/-- Something the writer could not render as asked. -/
inductive Warning where
  /-- A footnote reference without a root definition. -/
  | unresolvedFootnote (identifier : String)
  /-- A footnote reference met again while its own definition is being expanded. -/
  | recursiveFootnote (identifier : String)
  /-- A link reference without a root definition. -/
  | unresolvedLink (identifier : String)
  /-- A style that the registry does not know; the default template is used. -/
  | unknownStyle (style : String)
  deriving BEq, Repr, Inhabited

/-- The sentence that describes a warning. -/
def Warning.message : Warning → String
  | .unresolvedFootnote i => "footnote '" ++ i ++ "' has no definition"
  | .recursiveFootnote i => "footnote '" ++ i ++ "' references itself"
  | .unresolvedLink i => "link reference '" ++ i ++ "' has no definition"
  | .unknownStyle s => "unknown style '" ++ s ++ "', using default template"

/-- Every line of a text, blank lines included, prefixed with two spaces per level; level zero
leaves the text as it is. -/
def indentLines (text : String) (level : Nat) : String :=
  if level = 0 then text
  else
    let pad := String.ofList (List.replicate (2 * level) ' ')
    "\n".intercalate ((text.toList.splitOn '\n').map fun l => pad ++ String.ofList l)

/-- Rendered pieces joined by a separator, absent and empty pieces left out. -/
def joinRendered (parts : List (Option String)) (sep : String) : String :=
  sep.intercalate (parts.filterMap fun p => p.filter (!·.isEmpty))

/-! ## The writer -/

open Text Typst

/-- Markup with the warnings that rendering it gave, in order. -/
abbrev Rendered (α : Type) := α × List Warning

/-- The table of contents, written for a paragraph that says only `[toc]`. -/
def outline : String := "#outline(title: auto, indent: auto)"

/-- A horizontal rule across the text width. -/
def ruleLine : String := "#line(length: 100%, stroke: 0.6pt)"

/-- The number of footnote keys of the table that are not on the stack. -/
def freeKeys (refs : References) (stack : List String) : Nat :=
  (refs.footnoteKeys.filter fun k => !stack.contains k).length

/-- Pushing a key of the table that is not on the stack leaves fewer free keys: the keys free
after are the keys free before less `key`, which is one of them. -/
theorem freeKeys_push {refs : References} {stack : List String} {key : String}
    (hk : key ∈ refs.footnoteKeys) (hs : stack.contains key = false) :
    freeKeys refs (key :: stack) < freeKeys refs stack := by
  have hafter : (refs.footnoteKeys.filter fun k => !(key :: stack).contains k) =
      (refs.footnoteKeys.filter fun k => !stack.contains k).filter
        fun k => !(key :: stack).contains k := by
    rw [List.filter_filter]
    exact List.filter_congr fun k _ => by cases h : stack.contains k <;> simp_all
  unfold freeKeys
  rw [hafter, List.length_filter_lt_length_iff_exists]
  exact ⟨key, by simpa [List.mem_filter, hk] using hs, by simp⟩

/-- The key of a found footnote entry is the key looked up, and is in the table. -/
theorem mem_footnoteKeys_of_entry {refs : References} {key : String} {e : String × List Block}
    (h : refs.footnoteEntry? key = some e) : key ∈ refs.footnoteKeys := by
  have h' : refs.footnotes.find? (·.1 == key) = some e := h
  have he := List.find?_some h'
  have : e.1 = key := by simpa using he
  exact this ▸ List.mem_map_of_mem (List.mem_of_find?_eq_some h')

/-- The column alignment keyword. -/
def alignName : Option Align → String
  | some .right => "right"
  | some .center => "center"
  | _ => "left"

/-- A link with a label; a blank label shows the url itself. -/
def hyperlink (url label : String) : String :=
  let label := if isBlankText label then escapeText url else label
  "#link(\"" ++ escapeString url ++ "\")[" ++ label ++ "]"

/-- Inline code: backticks around the value, a backslash before each backtick inside. -/
def inlineCode (value : String) : String :=
  "`" ++ String.ofList (value.toList.flatMap fun c => if c = '`' then ['\\', '`'] else [c]) ++ "`"

/-- A code block: a fence long enough for the code, the trimmed language tag after the opening
one, the code lines, and the closing fence, all indented. One final newline of the code is
dropped. -/
def codeBlock (lang : Option String) (value : String) (indent : Nat) : String :=
  let cs := value.toList
  let v := String.ofList (if cs.getLast? = some '\n' then cs.dropLast else cs)
  let f := fence v
  let tag := (lang.map trim).getD ""
  let opening := if tag.isEmpty then f else f ++ tag
  "\n".intercalate [indentLines opening indent, indentLines v indent, indentLines f indent]

/-- The heading marker of a depth, clamped to levels 1 to 6. -/
def headingMarker (depth : Nat) : String :=
  String.ofList (List.replicate (min 6 (max 1 depth)) '=')

/-- A paragraph whose plain text is `[toc]`, in any case and with blanks around, stands for
the table of contents. -/
def isTocMarker (refs : References) (cs : List Inline) : Bool :=
  toLower (trim (plainText refs cs)) == "[toc]"

/-- A table cell; header cells are bold. -/
def cellMarkup (header : Bool) (content : String) : String :=
  if header then "[*" ++ content ++ "*]" else "[" ++ content ++ "]"

/-- The `#table` call of a table with the given header width, alignments and cells. -/
def tableMarkup (width : Nat) (align : List (Option Align)) (cells : List String)
    (indent : Nat) : String :=
  let columns := ", ".intercalate (List.replicate width "auto")
  let aligns := ", ".intercalate ((List.range width).map fun i => alignName (align[i]?.getD none))
  indentLines ("\n".intercalate
    ["#table(", "  columns: (" ++ columns ++ "),", "  align: (" ++ aligns ++ "),",
      "  " ++ ", ".intercalate cells, ")"]) indent

/-- A quote around already rendered children. -/
def quoteMarkup (body : String) (indent : Nat) : String :=
  let opening := indentLines "#quote[" indent
  let closing := indentLines "]" indent
  if isBlankText body then opening ++ "\n" ++ closing
  else "\n".intercalate [opening, indentLines body (indent + 1), closing]

/-- The paragraph an item starts with, and the item's other blocks. -/
def leadParagraph? : List Block → Option (List Inline × List Block)
  | .paragraph cs :: rest => some (cs, rest)
  | _ => none

theorem sizeOf_leadParagraph {item : List Block} {cs : List Inline} {rest : List Block}
    (h : leadParagraph? item = some (cs, rest)) :
    sizeOf cs < sizeOf item ∧ sizeOf rest < sizeOf item := by
  match item, h with
  | .paragraph cs :: rest, rfl => simp; omega

mutual

/-- A block as markup at an indent level; definitions and frontmatter render nothing. -/
def renderBlock (refs : References) (stack : List String) : Block → Nat → Rendered (Option String)
  | .frontmatter _, _ | .linkDefinition _ _, _ | .footnoteDefinition _ _, _ => (none, [])
  | .heading d cs, indent =>
    let (r, w) := renderInlines refs stack cs
    (some (indentLines (headingMarker d ++ " " ++ r) indent), w)
  | .paragraph cs, indent =>
    if isTocMarker refs cs then (some (indentLines outline indent), [])
    else
      let (r, w) := renderInlines refs stack cs
      (some (indentLines r indent), w)
  | .list o items, indent =>
    let (ls, w) := renderItems refs stack (if o then "+" else "-") items indent
    (some (joinRendered (ls.map some) "\n"), w)
  | .codeBlock l v, indent => (some (codeBlock l v indent), [])
  | .blockquote cs, indent =>
    let (parts, w) := renderBlocks refs stack cs 0
    (some (quoteMarkup (joinRendered parts "\n\n") indent), w)
  | .thematicBreak, indent => (some (indentLines ruleLine indent), [])
  | .table _ [], _ => (none, [])
  | .table a (header :: body), indent =>
    let (hs, w1) := renderCells refs stack true header
    let (bs, w2) := renderRows refs stack body
    (some (tableMarkup header.length a (hs ++ bs) indent), w1 ++ w2)
  | .mathBlock v, indent => (some (indentLines ("$ " ++ trim v ++ " $") indent), [])
  termination_by b => (freeKeys refs stack, sizeOf b)
  decreasing_by
    all_goals simp_wf
    all_goals exact Prod.Lex.right _ (by omega)

/-- Blocks rendered one by one at an indent level. -/
def renderBlocks (refs : References) (stack : List String) :
    List Block → Nat → Rendered (List (Option String))
  | [], _ => ([], [])
  | b :: bs, indent =>
    let (o, w1) := renderBlock refs stack b indent
    let (os, w2) := renderBlocks refs stack bs indent
    (o :: os, w1 ++ w2)
  termination_by bs => (freeKeys refs stack, sizeOf bs)
  decreasing_by
    all_goals simp_wf
    all_goals exact Prod.Lex.right _ (by omega)

/-- The items of a list, each as its lines: the marker line (with the first paragraph, when the
item starts with one) and the item's other blocks one level deeper. -/
def renderItems (refs : References) (stack : List String) (marker : String) :
    List (List Block) → Nat → Rendered (List String)
  | [], _ => ([], [])
  | item :: items, indent =>
    let base := String.ofList (List.replicate (2 * indent) ' ')
    match h : leadParagraph? item with
    | some (cs, rest) =>
      have := sizeOf_leadParagraph h
      let (r, w) := renderInlines refs stack cs
      let (p, w1) := if isTocMarker refs cs then (outline, []) else (r, w)
      let (ls, w2) := renderItemRest refs stack rest (indent + 1)
      let (is, w3) := renderItems refs stack marker items indent
      ("\n".intercalate ((base ++ marker ++ " " ++ p) :: ls) :: is, w1 ++ w2 ++ w3)
    | none =>
      let (ls, w1) := renderItemRest refs stack item (indent + 1)
      let (is, w2) := renderItems refs stack marker items indent
      ("\n".intercalate ((base ++ marker) :: ls) :: is, w1 ++ w2)
  termination_by items => (freeKeys refs stack, sizeOf items)
  decreasing_by
    all_goals simp_wf
    all_goals exact Prod.Lex.right _ (by omega)

/-- The blocks of an item after its marker line: a nested list always gives a line, any other
block only when it renders to something nonempty. -/
def renderItemRest (refs : References) (stack : List String) :
    List Block → Nat → Rendered (List String)
  | [], _ => ([], [])
  | .list o items :: rest, nested =>
    let (ls, w1) := renderItems refs stack (if o then "+" else "-") items nested
    let (rs, w2) := renderItemRest refs stack rest nested
    (joinRendered (ls.map some) "\n" :: rs, w1 ++ w2)
  | b :: rest, nested =>
    let (o, w1) := renderBlock refs stack b nested
    let (rs, w2) := renderItemRest refs stack rest nested
    match o with
    | some r => (if r.isEmpty then rs else r :: rs, w1 ++ w2)
    | none => (rs, w1 ++ w2)
  termination_by bs => (freeKeys refs stack, sizeOf bs)
  decreasing_by
    all_goals simp_wf
    all_goals exact Prod.Lex.right _ (by omega)

/-- The cells of one table row. -/
def renderCells (refs : References) (stack : List String) (header : Bool) :
    List (List Inline) → Rendered (List String)
  | [] => ([], [])
  | c :: cs =>
    let (r, w1) := renderInlines refs stack c
    let (rs, w2) := renderCells refs stack header cs
    (cellMarkup header r :: rs, w1 ++ w2)
  termination_by cs => (freeKeys refs stack, sizeOf cs)
  decreasing_by
    all_goals simp_wf
    all_goals exact Prod.Lex.right _ (by omega)

/-- The cells of the body rows, row after row. -/
def renderRows (refs : References) (stack : List String) :
    List (List (List Inline)) → Rendered (List String)
  | [] => ([], [])
  | row :: rows =>
    let (r, w1) := renderCells refs stack false row
    let (rs, w2) := renderRows refs stack rows
    (r ++ rs, w1 ++ w2)
  termination_by rows => (freeKeys refs stack, sizeOf rows)
  decreasing_by
    all_goals simp_wf
    all_goals exact Prod.Lex.right _ (by omega)

/-- A sequence of inlines as markup. -/
def renderInlines (refs : References) (stack : List String) :
    List Inline → Rendered String
  | [] => ("", [])
  | x :: xs =>
    let (o, w1) := renderInline refs stack x
    let (r, w2) := renderInlines refs stack xs
    (o.getD "" ++ r, w1 ++ w2)
  termination_by xs => (freeKeys refs stack, sizeOf xs)
  decreasing_by
    all_goals simp_wf
    all_goals exact Prod.Lex.right _ (by omega)

/-- One inline as markup; a footnote reference that cannot be expanded renders nothing. -/
def renderInline (refs : References) (stack : List String) : Inline → Rendered (Option String)
  | .text v => (some (escapeText v), [])
  | .strong cs => let (r, w) := renderInlines refs stack cs; (some ("*" ++ r ++ "*"), w)
  | .emphasis cs => let (r, w) := renderInlines refs stack cs; (some ("_" ++ r ++ "_"), w)
  | .strike cs => let (r, w) := renderInlines refs stack cs; (some ("#strike[" ++ r ++ "]"), w)
  | .highlight cs =>
    let (r, w) := renderInlines refs stack cs; (some ("#highlight[" ++ r ++ "]"), w)
  | .subscript cs => let (r, w) := renderInlines refs stack cs; (some ("#sub[" ++ r ++ "]"), w)
  | .superscript cs =>
    let (r, w) := renderInlines refs stack cs; (some ("#super[" ++ r ++ "]"), w)
  | .footnoteReference i => renderFootnote refs stack i
  | .inlineCode v => (some (inlineCode v), [])
  | .inlineMath v => (some ("$" ++ trim v ++ "$"), [])
  | .image url _ => (some ("#image(\"" ++ escapeString url ++ "\")"), [])
  | .link url cs => let (r, w) := renderInlines refs stack cs; (some (hyperlink url r), w)
  | .linkReference i l cs =>
    let (r, w) := renderInlines refs stack cs
    match refs.linkUrl? i with
    | some url => (some (hyperlink url r), w)
    | none =>
      (some (if r.isEmpty then escapeText (literalLabel l i) else r), w ++ [.unresolvedLink i])
  | .lineBreak => (some "\\\n", [])
  termination_by x => (freeKeys refs stack, sizeOf x)
  decreasing_by
    all_goals simp_wf
    all_goals exact Prod.Lex.right _ (by omega)

/-- A footnote reference expanded: its definition's blocks rendered with its key pushed,
joined by spaces and trimmed, inside `#footnote[...]`. -/
def renderFootnote (refs : References) (stack : List String) (identifier : String) :
    Rendered (Option String) :=
  let key := toLower identifier
  match h : refs.footnoteEntry? key with
  | none => (none, [.unresolvedFootnote identifier])
  | some (_, body) =>
    if hs : stack.contains key then (none, [.recursiveFootnote identifier])
    else
      have hk := mem_footnoteKeys_of_entry h
      have hd := freeKeys_push hk (by simpa using hs)
      let (parts, w) := renderBlocks refs (key :: stack) body 0
      (some ("#footnote[" ++ trim (joinRendered parts " ") ++ "]"), w)
  termination_by (freeKeys refs stack, 0)
  decreasing_by exact Prod.Lex.left _ _ hd

end

end Typeset.Render
