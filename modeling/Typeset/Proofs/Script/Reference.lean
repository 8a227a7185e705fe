import Typeset.Proofs.Script.Idempotence

/-!
The span pass as a structural map.

`Document.mapTextLeaves f` is the reference map: `f` replaces every text leaf of headings,
paragraphs and table cells, at any depth of quotes, lists and footnotes and inside strong,
emphasis, strike, highlight and links, and leaves everything else as it is: superscripts and
subscripts with what they hold, code, math, frontmatter, and the identifiers, URLs and labels of
links and definitions.

The pass is that map with `f` the splitting of nonempty texts, an empty text being kept
(`splitScripts_eq_mapTextLeaves`). Splitting every text leaf would drop an empty one, since the
splitting of the empty text gives no node, while the pass only splits texts that hold a marker
(`splitScripts_keeps_empty_text`).

The pass runs in place with an early return: a sequence of inlines in which no node needs a visit
is left at once (`visitInlines`). No such sequence holds anything the full traversal would
rewrite, since every span the traversal enters needs a visit whatever it holds, and a text
without a marker splits into itself (`splitInlines_of_quiet`). So the early returns change
nothing (`visitInlines_eq_splitInlines`).
-/

namespace Typeset

open ScriptGaps

/-! ## The reference map -/

mutual

/-- The reference map at an inline: `f` replaces a text leaf, the children of strong, emphasis,
strike, highlight and links are mapped, and every other node stays. -/
def Inline.mapTextLeaves (f : String → List Inline) : Inline → List Inline
  | .text v => f v
  | .strong cs => [.strong (Inline.mapTextLeavesAll f cs)]
  | .emphasis cs => [.emphasis (Inline.mapTextLeavesAll f cs)]
  | .strike cs => [.strike (Inline.mapTextLeavesAll f cs)]
  | .highlight cs => [.highlight (Inline.mapTextLeavesAll f cs)]
  | .link url cs => [.link url (Inline.mapTextLeavesAll f cs)]
  | .linkReference i l cs => [.linkReference i l (Inline.mapTextLeavesAll f cs)]
  | x => [x]

/-- The reference map over a sequence of inlines. -/
def Inline.mapTextLeavesAll (f : String → List Inline) : List Inline → List Inline
  | [] => []
  | x :: xs => x.mapTextLeaves f ++ Inline.mapTextLeavesAll f xs

end

mutual

/-- The reference map at a block: the inline content of headings, paragraphs and table cells is
mapped, footnotes, quotes and list items are entered, and every other block stays. -/
def Block.mapTextLeaves (f : String → List Inline) : Block → Block
  | .heading d cs => .heading d (Inline.mapTextLeavesAll f cs)
  | .paragraph cs => .paragraph (Inline.mapTextLeavesAll f cs)
  | .footnoteDefinition i cs => .footnoteDefinition i (Block.mapTextLeavesAll f cs)
  | .blockquote cs => .blockquote (Block.mapTextLeavesAll f cs)
  | .list o items => .list o (Block.mapTextLeavesItems f items)
  | .table a rows => .table a (rows.map (·.map (Inline.mapTextLeavesAll f)))
  | b => b

/-- The reference map over a sequence of blocks. -/
def Block.mapTextLeavesAll (f : String → List Inline) : List Block → List Block
  | [] => []
  | b :: bs => b.mapTextLeaves f :: Block.mapTextLeavesAll f bs

/-- The reference map over list items. -/
def Block.mapTextLeavesItems (f : String → List Inline) : List (List Block) → List (List Block)
  | [] => []
  | item :: items => Block.mapTextLeavesAll f item :: Block.mapTextLeavesItems f items

end

/-- The reference map over a document. -/
def Document.mapTextLeaves (f : String → List Inline) (d : Document) : Document :=
  ⟨Block.mapTextLeavesAll f d.children⟩

/-- The leaf function of the pass: a nonempty text is split, the empty text stays. -/
def splitLeaf (v : String) : List Inline := if v = "" then [.text v] else splitText v

/-! ## The pass is the reference map -/

/-- A text splits as the pass splits it: one that holds a marker is split, and one that holds
none splits into itself, unless it is empty. -/
theorem splitInline_text (v : String) : splitInline (.text v) = splitLeaf v := by
  unfold splitInline splitLeaf
  by_cases hm : hasMarker v = true
  · rw [if_pos hm, if_neg (ne_empty_of_hasMarker hm)]
  · rw [if_neg hm]
    by_cases hv : v = ""
    · rw [if_pos hv]
    · rw [if_neg hv, splitText_of_quiet (quiet_of_hasMarker_false (by simpa using hm)) hv]

mutual

theorem splitInline_eq_mapTextLeaves : ∀ x : Inline, splitInline x = x.mapTextLeaves splitLeaf
  | .text v => by rw [splitInline_text, Inline.mapTextLeaves]
  | .strong cs | .emphasis cs | .strike cs | .highlight cs | .link _ cs
  | .linkReference _ _ cs => by
    simp [splitInline, Inline.mapTextLeaves, splitInlines_eq_mapTextLeavesAll cs]
  | .subscript _ | .superscript _ | .inlineCode _ | .inlineMath _ | .footnoteReference _
  | .image _ _ | .lineBreak => by
    simp [splitInline, Inline.mapTextLeaves]

theorem splitInlines_eq_mapTextLeavesAll : ∀ xs : List Inline,
    splitInlines xs = Inline.mapTextLeavesAll splitLeaf xs
  | [] => rfl
  | x :: xs => by
    simp [splitInlines, Inline.mapTextLeavesAll, splitInline_eq_mapTextLeaves x,
      splitInlines_eq_mapTextLeavesAll xs]

end

mutual

theorem splitBlock_eq_mapTextLeaves : ∀ b : Block, splitBlock b = b.mapTextLeaves splitLeaf
  | .heading _ cs | .paragraph cs => by
    simp [splitBlock, Block.mapTextLeaves, splitInlines_eq_mapTextLeavesAll]
  | .footnoteDefinition _ cs | .blockquote cs => by
    simp [splitBlock, Block.mapTextLeaves, splitBlocks_eq_mapTextLeavesAll cs]
  | .list _ items => by
    simp [splitBlock, Block.mapTextLeaves, splitItems_eq_mapTextLeavesItems items]
  | .table _ rows => by
    simp [splitBlock, Block.mapTextLeaves, splitCells, splitInlines_eq_mapTextLeavesAll]
  | .frontmatter _ | .linkDefinition _ _ | .codeBlock _ _ | .thematicBreak | .mathBlock _ => by
    simp [splitBlock, Block.mapTextLeaves]

theorem splitBlocks_eq_mapTextLeavesAll : ∀ bs : List Block,
    splitBlocks bs = Block.mapTextLeavesAll splitLeaf bs
  | [] => rfl
  | b :: bs => by
    simp [splitBlocks, Block.mapTextLeavesAll, splitBlock_eq_mapTextLeaves b,
      splitBlocks_eq_mapTextLeavesAll bs]

theorem splitItems_eq_mapTextLeavesItems : ∀ items : List (List Block),
    splitItems items = Block.mapTextLeavesItems splitLeaf items
  | [] => rfl
  | item :: items => by
    simp [splitItems, Block.mapTextLeavesItems, splitBlocks_eq_mapTextLeavesAll item,
      splitItems_eq_mapTextLeavesItems items]

end

/-! ## The early return changes nothing -/

/-- An inline that needs no visit is settled: a text without a marker, a superscript or a
subscript, or a node without children. -/
theorem settled_of_needsVisit_eq_false : ∀ {x : Inline}, x.needsVisit = false → x.settled = true
  | .text v, h => quiet_of_hasMarker_false h
  | .strong _, h | .emphasis _, h | .strike _, h | .highlight _, h | .link _ _, h
  | .linkReference _ _ _, h => by simp [Inline.needsVisit, Inline.children?] at h
  | .subscript _, _ | .superscript _, _ | .inlineCode _, _ | .inlineMath _, _
  | .footnoteReference _, _ | .image _ _, _ | .lineBreak, _ => rfl

/-- A sequence in which no node needs a visit is one the full traversal leaves as it is. -/
theorem splitInlines_of_quiet {xs : List Inline} (h : xs.any Inline.needsVisit = false) :
    splitInlines xs = xs := by
  refine splitInlines_of_settled xs (settledAll_of_forall fun x hx => ?_)
  exact settled_of_needsVisit_eq_false (by simpa using List.any_eq_false.1 h x hx)

theorem guardVisit_splitInlines (xs : List Inline) :
    Inline.guardVisit xs (splitInlines xs) = splitInlines xs := by
  unfold Inline.guardVisit
  split
  · rfl
  · rename_i h
    exact (splitInlines_of_quiet (by simpa using h)).symm

mutual

theorem visitNode_eq_splitInline : ∀ x : Inline, visitNode x = splitInline x
  | .text _ => rfl
  | .strong cs | .emphasis cs | .strike cs | .highlight cs | .link _ cs
  | .linkReference _ _ cs => by
    simp [visitNode, splitInline, visitEach_eq_splitInlines cs, guardVisit_splitInlines]
  | .subscript _ | .superscript _ | .inlineCode _ | .inlineMath _ | .footnoteReference _
  | .image _ _ | .lineBreak => rfl

theorem visitEach_eq_splitInlines : ∀ xs : List Inline, visitEach xs = splitInlines xs
  | [] => rfl
  | x :: xs => by
    simp [visitEach, splitInlines, visitNode_eq_splitInline x, visitEach_eq_splitInlines xs]

end

/-- The pass with its early returns is the full traversal. -/
theorem visitInlines_eq_splitInlines (xs : List Inline) : visitInlines xs = splitInlines xs := by
  rw [visitInlines, visitEach_eq_splitInlines, guardVisit_splitInlines]

/-! ## The pass against the reference map -/

/-- **The span pass is the reference map.** On every document the pass replaces each nonempty
text leaf of heading, paragraph and cell content by its splitting, at every depth of quotes,
lists and footnotes and inside strong, emphasis, strike, highlight and links, keeps an empty
text, and leaves every other node as it is. The in-place pass with its early return, run on any
sequence of inlines, gives the same map. -/
theorem splitScripts_eq_mapTextLeaves (d : Document) :
    d.splitScripts = d.mapTextLeaves splitLeaf ∧
      ∀ xs, visitInlines xs = Inline.mapTextLeavesAll splitLeaf xs := by
  refine ⟨?_, fun xs => ?_⟩
  · rw [Document.splitScripts, Document.mapTextLeaves, splitBlocks_eq_mapTextLeavesAll]
  · rw [visitInlines_eq_splitInlines, splitInlines_eq_mapTextLeavesAll]

/-- Splitting every text leaf is not the pass: an empty text holds no marker and stays, while its
splitting gives no node. -/
theorem splitScripts_keeps_empty_text :
    Document.splitScripts ⟨[.paragraph [.text ""]]⟩ ≠
      Document.mapTextLeaves splitText ⟨[.paragraph [.text ""]]⟩ := by
  have hsplit : splitText "" = [] := by
    simp [splitText, splitChars, pendingText]
  simp [Document.splitScripts, splitBlocks, splitBlock, splitInlines, splitInline, hasMarker,
    Document.mapTextLeaves, Block.mapTextLeavesAll, Block.mapTextLeaves,
    Inline.mapTextLeavesAll, Inline.mapTextLeaves, hsplit]

end Typeset
