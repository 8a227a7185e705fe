import Typeset.Markdown.Char

/-!
Lines of a Markdown source, and a cursor over one line.

A line ends at a line feed, a carriage return, or a carriage return followed by a line feed; the
ending is kept with the line so that values spanning lines are rebuilt as written. The cursor
knows the column of its position, with a tab stop every four columns, and may stand inside a tab
when a block prefix takes only some of its columns.
-/

namespace Typeset.Markdown

/-- One line of the source: its characters and the line ending after them (empty at the end of
the text). -/
structure Line where
  chars : List Char
  eol : String
  deriving BEq, Repr, Inhabited

/-- Split characters into lines; `acc` holds the current line so far, reversed. A final line
ending does not open an empty last line. -/
def splitLinesFrom (acc : List Char) : List Char → List Line
  | [] => if acc.isEmpty then [] else [⟨acc.reverse, ""⟩]
  | '\r' :: '\n' :: rest => ⟨acc.reverse, "\r\n"⟩ :: splitLinesFrom [] rest
  | '\r' :: rest => ⟨acc.reverse, "\r"⟩ :: splitLinesFrom [] rest
  | '\n' :: rest => ⟨acc.reverse, "\n"⟩ :: splitLinesFrom [] rest
  | c :: rest => splitLinesFrom (c :: acc) rest

/-- The lines of a text. -/
def splitLines (cs : List Char) : List Line := splitLinesFrom [] cs

/-- Lines joined back with their own endings; the ending of the last line is left out. -/
def joinLines : List Line → List Char
  | [] => []
  | [l] => l.chars
  | l :: ls => l.chars ++ l.eol.toList ++ joinLines ls

/-- A line of inline content as the block reader leaves it: its characters from where the block
prefixes end, whether the first of them is a tab of which the prefixes took some columns, the
source character just before them, and the line ending after them. `lead` holds the source
characters of the line before its text (the container prefixes), and `quoted` tells whether a
block quote marker of an enclosing container stands among them, with no container opening on
the line. -/
structure TextLine where
  chars : List Char
  cutTab : Bool
  prev : Option Char
  eol : String
  lead : List Char := []
  quoted : Bool := false
  deriving BEq, Repr, Inhabited

/-- Columns from `column` to the next tab stop. -/
def tabWidth (column : Nat) : Nat := 4 - column % 4

theorem tabWidth_pos (column : Nat) : 0 < tabWidth column := by
  unfold tabWidth; have := Nat.mod_lt column (show 0 < 4 by omega); omega

/-- A position in a line. A tab spans the columns up to the next tab stop, and a block prefix
may take some of them only: the cursor then stands inside the tab, `taken` columns into it, and
reads as a space until the tab is passed. -/
structure Cursor where
  /-- The characters from the current one on; inside a tab, the tab itself comes first. -/
  rest : List Char
  /-- The column the cursor is at. -/
  column : Nat
  /-- Columns of the tab at the head of `rest` already passed; zero when there are none. -/
  taken : Nat
  /-- How many characters of the line are passed in full. -/
  index : Nat
  /-- The source character before the current one: the previous line's ending at the start of a
  line, nothing at the start of the text. -/
  prev : Option Char
  deriving BEq, Repr, Inhabited

namespace Cursor

/-- A cursor at the start of a line, after the source character `prev`. -/
def ofLine (l : Line) (prev : Option Char) : Cursor := ⟨l.chars, 0, 0, 0, prev⟩

/-- The character at the cursor; inside a tab, after its first column, a space. -/
def cur (c : Cursor) : Option Char :=
  match c.rest with
  | '\t' :: _ => if c.taken > 0 then some ' ' else some '\t'
  | x :: _ => some x
  | [] => none

/-- Whether the cursor is at a space or a tab. -/
def atSpace (c : Cursor) : Bool :=
  match c.rest with
  | x :: _ => isSpaceOrTab x
  | [] => false

/-- Past one column: a whole character, or one column of a tab. -/
def next (c : Cursor) : Cursor :=
  match c.rest with
  | [] => c
  | '\t' :: r =>
    if tabWidth c.column ≤ 1 then ⟨r, c.column + 1, 0, c.index + 1, some '\t'⟩
    else ⟨c.rest, c.column + 1, c.taken + 1, c.index, c.prev⟩
  | x :: r => ⟨r, c.column + 1, 0, c.index + 1, some x⟩

/-- Past up to `max` columns of spaces and tabs: how many were passed, and the cursor after
them. -/
def spaceMax : Nat → Cursor → Nat × Cursor
  | 0, c => (0, c)
  | n + 1, c =>
    if c.atSpace then
      let (k, d) := spaceMax n c.next
      (k + 1, d)
    else (0, c)

/-- Past at least `min` and at most `max` columns of spaces and tabs, as many as there are. -/
def spaceMinMax (min max : Nat) (c : Cursor) : Option Cursor :=
  let (k, d) := spaceMax max c
  if min ≤ k then some d else none

/-- Past all spaces and tabs. -/
def skipSpaces (c : Cursor) : Cursor :=
  match h : c.rest with
  | ' ' :: r => skipSpaces ⟨r, c.column + 1, 0, c.index + 1, some ' '⟩
  | '\t' :: r => skipSpaces ⟨r, c.column + tabWidth c.column, 0, c.index + 1, some '\t'⟩
  | _ => c
  termination_by c.rest.length
  decreasing_by all_goals simp [h]

/-- Past one whole character (never used inside a tab). -/
def skip (c : Cursor) : Cursor :=
  match c.rest with
  | x :: r => ⟨r, c.column + 1, 0, c.index + 1, some x⟩
  | [] => c

/-- Past `n` whole characters. -/
def skipN : Nat → Cursor → Cursor
  | 0, c => c
  | n + 1, c => skipN n c.skip

/-- Whether only spaces and tabs are left. -/
def isBlank (c : Cursor) : Bool := c.rest.all isSpaceOrTab

/-- The characters left, without a tab the cursor stands inside of. -/
def whole (c : Cursor) : List Char := if c.taken > 0 then c.rest.drop 1 else c.rest

/-- The rest of the line as inline content. -/
def textLine (c : Cursor) (eol : String) : TextLine :=
  { chars := c.rest, cutTab := c.taken > 0, prev := c.prev, eol := eol }

/-- The length of the stretch from `a` to `b` as Markdown counts a block prefix: whole
characters, and for an end inside a tab, four columns less those taken of it. -/
def spanLength (a b : Cursor) : Nat :=
  let s := a.index + (if a.taken > 0 then 1 else 0)
  let e := b.index + (if b.taken > 0 then 1 else 0)
  (e - s) + (if a.taken > 0 then 4 - a.taken else 0) + (if b.taken > 0 then 4 - b.taken else 0)

end Cursor

end Typeset.Markdown
