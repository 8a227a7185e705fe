import Typeset.Render.Body

/-!
Tables: the `#table` call the writer gives for a table with rows.

The call declares one `auto` column and one alignment per header cell: the alignments are read
from the table's declared alignments by position, missing ones are left-aligned and those past the
header are dropped. Then come the cells, row after row, the header's in bold
(`renderBlock_table_layout`). The body rows are flattened as they are, and nothing pads or cuts
them to the header's width: so a cell stands in the row and column it comes from when every body
row has as many cells as the header (`getElem?_flatten_of_length`), and a shorter or longer row
moves every cell after it (`table_short_row_shifts_cells`).
-/

namespace Typeset.Render

open Text Typst

/-- The cells of a row are rendered one by one, each in its brackets. -/
theorem renderCells_fst (refs : References) (s : List String) (header : Bool) :
    ∀ cs : List (List Inline),
      (renderCells refs s header cs).1 =
        cs.map fun c => cellMarkup header (renderInlines refs s c).1
  | [] => by simp [renderCells]
  | c :: cs => by simp [renderCells, renderCells_fst refs s header cs]

/-- The cells of the body rows are rendered row after row. -/
theorem renderRows_fst (refs : References) (s : List String) :
    ∀ rows : List (List (List Inline)),
      (renderRows refs s rows).1 =
        rows.flatten.map fun c => cellMarkup false (renderInlines refs s c).1
  | [] => by simp [renderRows]
  | row :: rows => by simp [renderRows, renderCells_fst, renderRows_fst refs s rows]

/-- The alignment of a column, read from the declared ones by position: right or center when
declared so, left when declared left, undeclared or missing. -/
theorem alignName_getD (align : List (Option Align)) (j : Nat) :
    alignName (align[j]?.getD none) =
      if align[j]? = some (some Align.right) then "right"
      else if align[j]? = some (some Align.center) then "center" else "left" := by
  rcases align[j]? with _ | _ | a
  · rfl
  · rfl
  · cases a <;> rfl

/-- In rows of `c` items each, the item in row `r` and column `j` stands at `r * c + j` of the
flattened rows. -/
theorem getElem?_flatten_of_length {α : Type} {c j : Nat} (hj : j < c) :
    ∀ {rows : List (List α)}, (∀ row ∈ rows, row.length = c) →
      ∀ r, rows.flatten[r * c + j]? = rows[r]?.bind (·[j]?)
  | [], _, r => by simp
  | row :: rows, h, 0 => by
    have hrow : row.length = c := h row List.mem_cons_self
    rw [List.flatten_cons, Nat.zero_mul, Nat.zero_add, List.getElem?_append_left (by omega)]
    simp
  | row :: rows, h, r + 1 => by
    have hrow : row.length = c := h row List.mem_cons_self
    have ih := getElem?_flatten_of_length hj (fun row' h' => h row' (List.mem_cons_of_mem _ h')) r
    have hidx : (r + 1) * c + j - row.length = r * c + j := by
      rw [hrow, Nat.succ_mul]
      omega
    rw [List.flatten_cons, List.getElem?_append_right (by rw [hrow, Nat.succ_mul]; omega), hidx, ih]
    simp

/-- Rows of `c` items each flatten to `c` items per row. -/
theorem length_flatten_of_length {α : Type} {c : Nat} :
    ∀ {rows : List (List α)}, (∀ row ∈ rows, row.length = c) →
      rows.flatten.length = c * rows.length
  | [], _ => by simp
  | row :: rows, h => by
    have hrow : row.length = c := h row List.mem_cons_self
    rw [List.flatten_cons, List.length_append, hrow,
      length_flatten_of_length fun row' h' => h row' (List.mem_cons_of_mem _ h'), List.length_cons,
      Nat.mul_succ, Nat.add_comm]

/-- **The `#table` call of a table.** For every table with a header row, at every indent and
under every stack: with `c` the number of header cells, the call declares `c` columns of width
`auto` and `c` alignments, the one of column `j` being right or center when the table declares
so for `j` and left otherwise; then come the header cells in bold and the body cells row after row.
When every body row has `c` cells, the cell list holds `c` cells per row and the cell of row `r`
and column `j` stands at `r * c + j`. A table without rows renders nothing. -/
theorem renderBlock_table_layout (refs : References) (s : List String)
    (align : List (Option Align)) (header : List (List Inline)) (body : List (List (List Inline)))
    (n : Nat) :
    let c := header.length
    let cell := fun (bold : Bool) (x : List Inline) =>
      if bold then "[*" ++ (renderInlines refs s x).1 ++ "*]"
      else "[" ++ (renderInlines refs s x).1 ++ "]"
    let cells := header.map (cell true) ++ body.flatten.map (cell false)
    (renderBlock refs s (.table align (header :: body)) n).1 =
        some (indentLines ("\n".intercalate ["#table(",
          "  columns: (" ++ ", ".intercalate (List.replicate c "auto") ++ "),",
          "  align: (" ++ ", ".intercalate ((List.range c).map fun j =>
            if align[j]? = some (some Align.right) then "right"
            else if align[j]? = some (some Align.center) then "center" else "left") ++ "),",
          "  " ++ ", ".intercalate cells, ")"]) n) ∧
      ((∀ row ∈ body, row.length = c) →
        cells.length = c * (body.length + 1) ∧
          ∀ r j x, j < c → (header :: body)[r]?.bind (·[j]?) = some x →
            cells[r * c + j]? = some (cell (r == 0) x)) ∧
      (renderBlock refs s (.table align []) n).1 = none := by
  intro c cell cells
  have hcell : ∀ b x, cellMarkup b (renderInlines refs s x).1 = cell b x := fun b x => rfl
  refine ⟨?_, fun hrows => ⟨?_, fun r j x hj hx => ?_⟩, by simp [renderBlock]⟩
  · simp only [renderBlock, renderCells_fst, renderRows_fst, tableMarkup, alignName_getD, hcell]
    rfl
  · have hbody : body.flatten.length = c * body.length := length_flatten_of_length hrows
    simp only [cells, List.length_append, List.length_map, hbody, c]
    rw [Nat.mul_succ, Nat.add_comm]
  · -- the header fills the first `c` places, and the body rows the next ones by rows of `c`
    cases r with
    | zero =>
      simp only [List.getElem?_cons_zero, Option.bind_some] at hx
      have hjh : j < header.length := hj
      rw [Nat.zero_mul, Nat.zero_add, List.getElem?_append_left (by simpa using hjh),
        List.getElem?_map, hx]
      rfl
    | succ r =>
      simp only [List.getElem?_cons_succ] at hx
      have hc : c ≤ (r + 1) * c + j := by
        rw [Nat.succ_mul]
        omega
      rw [List.getElem?_append_right (by simpa using hc), List.length_map,
        show (r + 1) * c + j - header.length = r * c + j by
          show (r + 1) * c + j - c = r * c + j
          rw [Nat.succ_mul]
          omega,
        List.getElem?_map, getElem?_flatten_of_length hj hrows r, hx]
      rfl

/-- A short body row moves every cell after it: with two columns, the row `[c]` leaves `d`, the
first cell of the row after it, in the second column of the row before. -/
theorem table_short_row_shifts_cells :
    (renderBlock ⟨[], []⟩ [] (.table [none, none]
      [[[.text "a"], [.text "b"]], [[.text "c"]], [[.text "d"], [.text "e"]]]) 0).1 =
      some ("#table(\n  columns: (auto, auto),\n  align: (left, left),\n" ++
        "  [*a*], [*b*], [c], [d], [e]\n)") := by
  simp only [renderBlock, renderCells, renderRows, renderInlines, renderInline]
  decide

end Typeset.Render
