import Typeset.Markdown.Flow

/-!
Rows of GFM tables. A row is cut into pieces: a divider at each pipe, and runs of text between
spaces and pipes, where a backslash keeps a following pipe or backslash in its run (also inside
code). A cell holds the text from its first run to its last; a pipe at the start of the row opens
no cell, and one at the end closes the last cell without opening another, so `|` alone is one
empty cell. A head row needs more than a lone pipe. A delimiter row holds one cell per column,
each dashes with an optional colon at either end, and has a pipe or a colon somewhere, which
tells it from a thematic break or a heading underline.
-/

namespace Typeset.Markdown

/-- Characters without the spaces and tabs at both ends. -/
def trimSpaceTab (cs : List Char) : List Char :=
  ((cs.dropWhile isSpaceOrTab).reverse.dropWhile isSpaceOrTab).reverse

/-- A piece of a table row. -/
inductive RowPiece where
  | divider
  /-- A run of cell text, by the indexes of its first character and of the one after it. -/
  | run (start stop : Nat)
  deriving BEq, Repr, Inhabited

/-- The end of a run of cell text from `i`: up to a space, a tab or a pipe, a backslash keeping
a following pipe or backslash. -/
def runStop (src : Array Char) (i : Nat) : Nat :=
  if h : i < src.size then
    let c := src[i]
    if isSpaceOrTab c || c == '|' then i
    else if c == '\\' && charIs src (i + 1) (fun d => d == '\\' || d == '|') then
      runStop src (i + 2)
    else runStop src (i + 1)
  else i
  termination_by src.size - i

/-- The pieces of a row from `i`. -/
def rowPieces (src : Array Char) (i : Nat) : List RowPiece :=
  if h : i < src.size then
    let c := src[i]
    if isSpaceOrTab c then rowPieces src (i + 1)
    else if c == '|' then .divider :: rowPieces src (i + 1)
    else
      let e := runStop src i
      if _ : i < e ∧ e ≤ src.size then .run i e :: rowPieces src e else []
  else []
  termination_by src.size - i

/-- Cells being gathered: whether the row's first pipe is still awaited, the cell closed by the
last pipe (not yet given out, since a pipe at the end of the row closes no further cell), the
text of the cell being read, and the cells given out, latest first. -/
structure CellScan where
  first : Bool := true
  closed : Option (Option (Nat × Nat)) := none
  current : Option (Nat × Nat) := none
  out : List (Option (Nat × Nat)) := []

/-- One piece into the cells. -/
def CellScan.step (s : CellScan) : RowPiece → CellScan
  | .run a b =>
    match s.current with
    | some (a', _) => { s with first := false, current := some (a', b) }
    | none =>
      let out := match s.closed with
        | some c => c :: s.out
        | none => s.out
      { first := false, closed := none, current := some (a, b), out := out }
  | .divider =>
    if s.first then { s with first := false }
    else
      let out := match s.closed with
        | some c => c :: s.out
        | none => s.out
      { s with closed := some s.current, current := none, out := out }

/-- The cells of a row's pieces, each as the range of its text (none when empty). -/
def rowCells (ps : List RowPiece) : List (Option (Nat × Nat)) :=
  let s := ps.foldl CellScan.step {}
  (match s.closed with
    | some c => c :: s.out
    | none => s.current :: s.out).reverse

/-- The inline text of a cell of the row `src`, whose first character follows `prev`. -/
def cellText (src : Array Char) (prev : Option Char) : Option (Nat × Nat) → InlineText
  | none => ⟨[], none⟩
  | some (a, b) =>
    let before := if a = 0 then prev else src[a - 1]?
    ⟨[{ chars := slice src a b, cutTab := false, prev := before, eol := "" }], src[b]?⟩

/-- The cells of a row at the cursor (past its indent). -/
def rowTexts (d : Cursor) : List InlineText :=
  let src := d.rest.toArray
  (rowCells (rowPieces src 0)).map (cellText src d.prev)

/-- Whether a row's pieces make a head row: anything but a single pipe. -/
def headPieces (ps : List RowPiece) : Bool := ps != [.divider] && !ps.isEmpty

/-- The alignment of a delimiter cell with or without a colon on either side. -/
def alignOf (left right : Bool) : Option Align :=
  if left && right then some .center
  else if left then some .left
  else if right then some .right
  else none

/-- The cells of a delimiter row from the start of a cell, latest first in `acc`, and whether a
pipe or colon was seen. -/
def delimiterFrom (cs : List Char) (acc : List (Option Align)) (seen : Bool) :
    Option (List (Option Align) × Bool) :=
  if cs.isEmpty then some (acc.reverse, seen)
  else
    let left := cs.head? == some ':'
    let cs1 := if left then cs.drop 1 else cs
    let dashes := cs1.takeWhile (· == '-')
    if dashes.isEmpty then none
    else
      let cs2 := cs1.drop dashes.length
      let right := cs2.head? == some ':'
      let cs3 := (if right then cs2.drop 1 else cs2).dropWhile isSpaceOrTab
      let acc := alignOf left right :: acc
      let seen := seen || left || right
      match cs3 with
      | [] => some (acc.reverse, seen)
      | '|' :: rest =>
        let next := rest.dropWhile isSpaceOrTab
        if _ : next.length < cs.length then delimiterFrom next acc true else none
      | _ => none
  termination_by cs.length

/-- The alignments a delimiter row declares from its first character on, if it is one. -/
def delimiterRow? (cs : List Char) : Option (List (Option Align)) :=
  let r := match cs with
    | '|' :: rest => delimiterFrom (rest.dropWhile isSpaceOrTab) [] true
    | c :: _ => if c == '-' || c == ':' then delimiterFrom cs [] false else none
    | [] => none
  match r with
  | some (aligns, true) => some aligns
  | _ => none

end Typeset.Markdown
