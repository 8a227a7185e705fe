import Typeset.Proofs.Script.Gaps

/-!
Running the span pass twice is running it once.

The pass's output is settled: every text it walks into is quiet, so that a second scan finds no
span in it, and superscripts and subscripts are settled whatever they hold, since the pass never
enters them (their bodies may well hold markers: `^a~b~c^`). The pass settles every tree
(`settledBlocks_splitBlocks`), and it leaves a settled tree as it is (`splitBlocks_of_settled`).
Together: the pass is idempotent (`Document.splitScripts_splitScripts`), and its fixed points are
exactly the settled documents.
-/

namespace Typeset

open ScriptGaps

mutual

/-- Inline content the span pass leaves as it is: quiet text, and settled children in every span
the pass walks into. -/
def Inline.settled : Inline → Bool
  | .text v => quiet v.toList
  | .strong cs | .emphasis cs | .strike cs | .highlight cs | .link _ cs
  | .linkReference _ _ cs => Inline.settledAll cs
  | _ => true

/-- Every inline of a sequence is settled. -/
def Inline.settledAll : List Inline → Bool
  | [] => true
  | x :: xs => x.settled && Inline.settledAll xs

end

mutual

/-- A block the span pass leaves as it is. -/
def Block.settled : Block → Bool
  | .heading _ cs | .paragraph cs => Inline.settledAll cs
  | .footnoteDefinition _ cs | .blockquote cs => Block.settledAll cs
  | .list _ items => Block.settledItems items
  | .table _ rows => rows.all fun row => row.all Inline.settledAll
  | _ => true

/-- Every block of a sequence is settled. -/
def Block.settledAll : List Block → Bool
  | [] => true
  | b :: bs => b.settled && Block.settledAll bs

/-- Every block of every list item is settled. -/
def Block.settledItems : List (List Block) → Bool
  | [] => true
  | item :: items => Block.settledAll item && Block.settledItems items

end

/-- A document the span pass leaves as it is. -/
def Document.settled (d : Document) : Bool := Block.settledAll d.children

/-! ## Inline content -/

theorem splitInlines_append (ys : List Inline) :
    ∀ xs : List Inline, splitInlines (xs ++ ys) = splitInlines xs ++ splitInlines ys
  | [] => by simp [splitInlines]
  | x :: xs => by simp [splitInlines, splitInlines_append ys xs]

theorem settledAll_append (ys : List Inline) :
    ∀ xs : List Inline, Inline.settledAll (xs ++ ys) = (Inline.settledAll xs && Inline.settledAll ys)
  | [] => by simp [Inline.settledAll]
  | x :: xs => by simp [Inline.settledAll, settledAll_append ys xs, Bool.and_assoc]

theorem settledAll_of_forall : ∀ {xs : List Inline}, (∀ x ∈ xs, x.settled = true) →
    Inline.settledAll xs = true
  | [], _ => rfl
  | x :: xs, h => by
    simp only [Inline.settledAll, Bool.and_eq_true]
    exact ⟨h x (by simp), settledAll_of_forall fun y hy => h y (by simp [hy])⟩

/-- Text without a marker is quiet. -/
theorem quiet_of_hasMarker_false {v : String} (h : hasMarker v = false) : quiet v.toList = true := by
  have hno : ∀ c ∈ v.toList, (c == '^' || c == '~') = false := by
    simpa [hasMarker] using h
  suffices ∀ cs : List Char, (∀ c ∈ cs, (c == '^' || c == '~') = false) → quietBefore cs [] = true
    from this _ hno
  intro cs
  induction cs with
  | nil => intro; rfl
  | cons c cs ih =>
    intro hcs
    have hc : (c == '^' || c == '~') = false := hcs c (by simp)
    simp [quietBefore, opensSpan, hc, ih fun d hd => hcs d (by simp [hd])]

theorem ne_empty_of_hasMarker {v : String} (h : hasMarker v = true) : v ≠ "" := by
  rintro rfl
  cases h

/-- A piece of a split text is settled: quiet text, or a span the pass never enters. -/
theorem settled_of_piece {y : Inline} (h : Piece y) : y.settled = true := by
  rcases h with ⟨t, rfl, hq, -⟩ | ⟨m, body, rfl⟩
  · exact hq
  · simp only [spanNode]
    split <;> simp [Inline.settled]

mutual

/-- The pass settles what it makes of an inline. -/
theorem settledAll_splitInline : ∀ x : Inline, Inline.settledAll (splitInline x) = true
  | .text v => by
    simp only [splitInline]
    split
    · exact settledAll_of_forall fun y hy => settled_of_piece (piece_of_mem_splitText hy)
    · rename_i hm
      simp [Inline.settledAll, Inline.settled, quiet_of_hasMarker_false (by simpa using hm)]
  | .strong cs | .emphasis cs | .strike cs | .highlight cs | .link _ cs
  | .linkReference _ _ cs => by
    simp [splitInline, Inline.settledAll, Inline.settled, settledAll_splitInlines cs]
  | .subscript _ | .superscript _ | .inlineCode _ | .inlineMath _ | .footnoteReference _
  | .image _ _ | .lineBreak => by
    simp [splitInline, Inline.settledAll, Inline.settled]

/-- The pass settles a sequence of inlines. -/
theorem settledAll_splitInlines : ∀ xs : List Inline, Inline.settledAll (splitInlines xs) = true
  | [] => rfl
  | x :: xs => by
    simp [splitInlines, settledAll_append, settledAll_splitInline x, settledAll_splitInlines xs]

end

mutual

/-- The pass leaves a settled inline as it is. -/
theorem splitInline_of_settled : ∀ x : Inline, x.settled = true → splitInline x = [x]
  | .text v, h => by
    simp only [Inline.settled] at h
    simp only [splitInline]
    split
    · rename_i hm
      exact splitText_of_quiet h (ne_empty_of_hasMarker hm)
    · rfl
  | .strong cs, h | .emphasis cs, h | .strike cs, h | .highlight cs, h | .link _ cs, h
  | .linkReference _ _ cs, h => by
    simp only [Inline.settled] at h
    simp [splitInline, splitInlines_of_settled cs h]
  | .subscript _, _ | .superscript _, _ | .inlineCode _, _ | .inlineMath _, _
  | .footnoteReference _, _ | .image _ _, _ | .lineBreak, _ => by
    simp [splitInline]

/-- The pass leaves a settled sequence of inlines as it is. -/
theorem splitInlines_of_settled : ∀ xs : List Inline, Inline.settledAll xs = true →
    splitInlines xs = xs
  | [], _ => rfl
  | x :: xs, h => by
    simp only [Inline.settledAll, Bool.and_eq_true] at h
    simp [splitInlines, splitInline_of_settled x h.1, splitInlines_of_settled xs h.2]

end

theorem splitInlines_splitInlines (xs : List Inline) :
    splitInlines (splitInlines xs) = splitInlines xs :=
  splitInlines_of_settled _ (settledAll_splitInlines xs)

/-! ## Blocks -/

theorem settled_splitCells (rows : List (List (List Inline))) :
    (splitCells rows).all (fun row => row.all Inline.settledAll) = true := by
  simp [splitCells, settledAll_splitInlines]

theorem splitCells_of_settled {rows : List (List (List Inline))}
    (h : rows.all (fun row => row.all Inline.settledAll) = true) : splitCells rows = rows := by
  simp only [List.all_eq_true] at h
  have hrow : ∀ row ∈ rows, row.map splitInlines = row := fun row hrow =>
    (List.map_congr_left fun c hc => splitInlines_of_settled c (h row hrow c hc)).trans
      (List.map_id row)
  exact (List.map_congr_left hrow).trans (List.map_id rows)

mutual

/-- The pass settles a block. -/
theorem settled_splitBlock : ∀ b : Block, (splitBlock b).settled = true
  | .heading _ cs | .paragraph cs => by simp [splitBlock, Block.settled, settledAll_splitInlines]
  | .footnoteDefinition _ cs | .blockquote cs => by
    simp [splitBlock, Block.settled, settledAll_splitBlocks cs]
  | .list _ items => by simp [splitBlock, Block.settled, settledItems_splitItems items]
  | .table _ rows => by simp only [splitBlock, Block.settled, settled_splitCells]
  | .frontmatter _ | .linkDefinition _ _ | .codeBlock _ _ | .thematicBreak | .mathBlock _ => by
    simp [splitBlock, Block.settled]

/-- The pass settles a sequence of blocks. -/
theorem settledAll_splitBlocks : ∀ bs : List Block, Block.settledAll (splitBlocks bs) = true
  | [] => rfl
  | b :: bs => by
    simp [splitBlocks, Block.settledAll, settled_splitBlock b, settledAll_splitBlocks bs]

/-- The pass settles list items. -/
theorem settledItems_splitItems : ∀ items : List (List Block),
    Block.settledItems (splitItems items) = true
  | [] => rfl
  | item :: items => by
    simp [splitItems, Block.settledItems, settledAll_splitBlocks item,
      settledItems_splitItems items]

end

mutual

/-- The pass leaves a settled block as it is. -/
theorem splitBlock_of_settled : ∀ b : Block, b.settled = true → splitBlock b = b
  | .heading _ cs, h | .paragraph cs, h => by
    simp only [Block.settled] at h
    simp [splitBlock, splitInlines_of_settled cs h]
  | .footnoteDefinition _ cs, h | .blockquote cs, h => by
    simp only [Block.settled] at h
    simp [splitBlock, splitBlocks_of_settled cs h]
  | .list _ items, h => by
    simp only [Block.settled] at h
    simp [splitBlock, splitItems_of_settled items h]
  | .table _ rows, h => by
    simp only [Block.settled] at h
    simp [splitBlock, splitCells_of_settled h]
  | .frontmatter _, _ | .linkDefinition _ _, _ | .codeBlock _ _, _ | .thematicBreak, _
  | .mathBlock _, _ => by
    simp [splitBlock]

/-- The pass leaves a settled sequence of blocks as it is. -/
theorem splitBlocks_of_settled : ∀ bs : List Block, Block.settledAll bs = true →
    splitBlocks bs = bs
  | [], _ => rfl
  | b :: bs, h => by
    simp only [Block.settledAll, Bool.and_eq_true] at h
    simp [splitBlocks, splitBlock_of_settled b h.1, splitBlocks_of_settled bs h.2]

/-- The pass leaves settled list items as they are. -/
theorem splitItems_of_settled : ∀ items : List (List Block), Block.settledItems items = true →
    splitItems items = items
  | [], _ => rfl
  | item :: items, h => by
    simp only [Block.settledItems, Bool.and_eq_true] at h
    simp [splitItems, splitBlocks_of_settled item h.1, splitItems_of_settled items h.2]

end

/-! ## Documents -/

theorem Document.settled_splitScripts (d : Document) : d.splitScripts.settled = true :=
  settledAll_splitBlocks d.children

/-- The pass leaves a document as it is exactly when the document is settled. -/
theorem Document.splitScripts_eq_self_iff (d : Document) : d.splitScripts = d ↔ d.settled = true := by
  constructor
  · intro h
    rw [← h]
    exact d.settled_splitScripts
  · intro h
    simp only [Document.splitScripts]
    rw [splitBlocks_of_settled d.children h]

/-- **The span pass is idempotent.** A second run finds no span in the text the first run left
between spans, and never enters the superscripts and subscripts the first run made. -/
theorem Document.splitScripts_splitScripts (d : Document) :
    d.splitScripts.splitScripts = d.splitScripts :=
  (d.splitScripts.splitScripts_eq_self_iff).2 d.settled_splitScripts

end Typeset
