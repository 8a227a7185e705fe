import Typeset.Markdown.Table

/-!
The lines that open blocks, each recognized at a cursor after the prefixes of the enclosing
containers. Each may be indented up to three columns; with four or more a line opens none of
them.

* A block quote marker: `>`, then one optional column of space.
* A list item: `*`, `+`, `-` (not when the line is a thematic break), or one to nine digits and
  `.` or `)`; when it would interrupt a paragraph the item may not be empty and a number must be
  `1`. The content starts after one to four columns of space, or after one column when there
  are more or when nothing follows. The item's size, the indent its later lines need, counts the
  stretch from the start of the item to its content, plus one for an empty item.
* A footnote definition: `[^label]:` with no whitespace in the label, then any spaces.
* An ATX heading: one to six `#`, then a space, a tab or the end; a closing run of `#` after a
  space is not content.
* A code fence: three or more backticks (with no backtick after them on the line) or tildes; a
  math fence: two or more dollar signs, with no dollar sign after them.
* A thematic break: three or more of one of `*`, `-`, `_`, with only spaces and tabs between.
* A setext underline: a run of `=` or of `-` and nothing after but spaces and tabs.
-/

namespace Typeset.Markdown

/-- The cursor past up to three columns of indent. -/
def Cursor.indented (c : Cursor) : Cursor := (c.spaceMax 3).2

/-- The cursor after a block quote marker at `c` and one optional column of space. -/
def quotePrefix? (c : Cursor) : Option Cursor :=
  let d := c.indented
  match d.cur with
  | some '>' =>
    let e := d.skip
    some (if e.atSpace then e.next else e)
  | _ => none

/-- Whether the line at the cursor is a thematic break. -/
def thematicBreak? (c : Cursor) : Bool :=
  let d := c.indented
  match d.cur with
  | some m =>
    (m == '*' || m == '-' || m == '_') && d.rest.all (fun x => x == m || isSpaceOrTab x) &&
      (d.rest.filter (· == m)).length ≥ 3
  | none => false

/-- The content of an ATX heading line without its closing run of `#`. -/
def atxContent (after : List Char) : List Char :=
  let t := trimSpaceTab after
  let rev := t.reverse
  let hashes := rev.takeWhile (· == '#')
  let before := rev.drop hashes.length
  if hashes.isEmpty then t
  else
    match before with
    | [] => []
    | b :: _ => if isSpaceOrTab b then trimSpaceTab before.reverse else t

/-- An ATX heading at the cursor: its depth and content. -/
def atxHeading? (c : Cursor) : Option (Nat × List Char) :=
  let d := c.indented
  if d.cur != some '#' then none
  else
    let hashes := d.rest.takeWhile (· == '#')
    let after := d.rest.drop hashes.length
    if hashes.length > 6 then none
    else
      match after with
      | [] => some (hashes.length, [])
      | x :: _ => if isSpaceOrTab x then some (hashes.length, atxContent after) else none

/-- The opening line of a code or math fence. -/
structure FenceOpen where
  marker : Char
  size : Nat
  /-- The indent before the fence, which content lines lose as far as they have it. -/
  indent : Nat
  info : List Char
  deriving Repr, Inhabited

/-- A fence opening at the cursor. Dollar fences count only when `math` holds. -/
def fenceOpen? (c : Cursor) (math : Bool) : Option FenceOpen :=
  let (k, d) := c.spaceMax 3
  match d.cur with
  | some m =>
    let run := d.rest.takeWhile (· == m)
    let info := d.rest.drop run.length
    if (m == '`' && run.length ≥ 3 && !info.contains '`') || (m == '~' && run.length ≥ 3) ||
        (math && m == '$' && run.length ≥ 2 && !info.contains '$') then
      some ⟨m, run.length, if k = 0 then 0 else c.spanLength d, trimSpaceTab info⟩
    else none
  | none => none

/-- Whether the line at the cursor closes a fence of `marker` at least `size` long. -/
def closesFence (marker : Char) (size : Nat) (c : Cursor) : Bool :=
  let d := c.indented
  d.cur == some marker &&
    let run := d.rest.takeWhile (· == marker)
    run.length ≥ size && (d.rest.drop run.length).all isSpaceOrTab

/-- The heading depth a setext underline at the cursor gives. -/
def setextDepth? (c : Cursor) : Option Nat :=
  let d := c.indented
  match d.cur with
  | some m =>
    if (m == '=' || m == '-') && (d.rest.drop (d.rest.takeWhile (· == m)).length).all isSpaceOrTab
    then some (if m == '=' then 1 else 2)
    else none
  | none => none

/-- The start of a list item. -/
structure ItemStart where
  ordered : Bool
  /-- The bullet, or the delimiter after the number. -/
  marker : Char
  size : Nat
  /-- Whether nothing follows the marker on its line. -/
  blank : Bool
  content : Cursor
  deriving Repr, Inhabited

/-- The marker of a list item at `d`: whether it is ordered, its character, and the cursor
after it. -/
def itemMarker? (d : Cursor) (interrupt : Bool) : Option (Bool × Char × Cursor) :=
  match d.cur with
  | none => none
  | some ch =>
    if ch == '*' || ch == '-' then (if thematicBreak? d then none else some (false, ch, d.skip))
    else if ch == '+' then some (false, ch, d.skip)
    else if isAsciiDigit ch && (!interrupt || ch == '1') then
      let ds := d.rest.takeWhile isAsciiDigit
      match d.rest.drop ds.length with
      | x :: _ =>
        if (x == '.' || x == ')') && ds.length ≤ 9 && (!interrupt || ds.length < 2) then
          some (true, x, d.skipN (ds.length + 1))
        else none
      | [] => none
    else none

/-- A list item opening at the cursor. -/
def listItemStart? (c : Cursor) (interrupt : Bool) : Option ItemStart :=
  match itemMarker? c.indented interrupt with
  | none => none
  | some (ordered, mark, m) =>
    if m.isBlank then
      if interrupt then none else some ⟨ordered, mark, c.spanLength m + 1, true, m⟩
    else
      let (k, w) := m.spaceMax 4
      if 1 ≤ k && !w.atSpace then some ⟨ordered, mark, c.spanLength w, false, w⟩
      else if m.atSpace then some ⟨ordered, mark, c.spanLength m.next, false, m.next⟩
      else none

/-- The label of a footnote definition from `cs` (after `[^`), up to its closing bracket, and
the characters after the bracket. -/
def footnoteLabelFrom (acc : List Char) : List Char → Option (List Char × List Char)
  | [] => none
  | ']' :: rest => if acc.isEmpty then none else some (acc.reverse, rest)
  | '[' :: _ => none
  | '\\' :: x :: rest =>
    if x == '[' || x == '\\' || x == ']' then footnoteLabelFrom (x :: '\\' :: acc) rest
    else if isMdSpace x then none
    else footnoteLabelFrom (x :: '\\' :: acc) rest
  | x :: rest => if isMdSpace x then none else footnoteLabelFrom (x :: acc) rest

/-- A footnote definition opening at the cursor: its label and the cursor after `]:` and the
spaces there. The label holds at most 999 bytes. -/
def footnoteStart? (c : Cursor) : Option (List Char × Cursor) :=
  let d := c.indented
  match d.rest with
  | '[' :: '^' :: rest =>
    match footnoteLabelFrom [] rest with
    | some (lab, ':' :: _) =>
      if (String.ofList lab).utf8ByteSize > 999 then none
      else some (lab, (d.skipN (lab.length + 4)).skipSpaces)
    | _ => none
  | _ => none

/-- Whether the last line of a text, with no line ending, is the start of a fence, a thematic
break or an HTML block that only the end of the text shows to be none: one or two backticks or
tildes (one dollar sign with `math`), one or two thematic break markers, or an HTML opening not
yet refused. -/
def unsettledAtEnd (c : Cursor) (math : Bool) (htmlOpen : List Char → Bool) : Bool :=
  let d := c.indented
  match d.rest with
  | [] => false
  | m :: rest =>
    if d.taken > 0 then false
    else if m == '`' || m == '~' then rest.all (· == m) && rest.length < 2
    else if m == '$' then math && rest.isEmpty
    else if m == '*' || m == '-' || m == '_' then
      rest.all (fun x => x == m || isSpaceOrTab x) && (rest.filter (· == m)).length < 2
    else if m == '<' then htmlOpen d.rest
    else false

end Typeset.Markdown
