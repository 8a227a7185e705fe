import Typeset.Proofs.Render.Title
import Typeset.Proofs.Render.Footnotes

/-!
Where definitions stand among the root blocks does not matter.

Frontmatter, link definitions and footnote definitions render nothing where they stand (they are
silent blocks). They act from a distance only: through the reference table, where the last
definition of a key wins; through the frontmatter fields, where the first frontmatter block
wins; and through the title heading, which is the first root block that is neither frontmatter
nor a link definition. The writer reads the reference table only through its lookups
(`Frame.run_congr`), so two documents render alike when their blocks that are not silent come
in the same order, their frontmatter blocks and the definitions of each key come in the same
order, and their first blocks after the preamble are the same (`renderDocument_eq_of_arrangement`).
Moving one definition or frontmatter block keeps all of this, for a footnote definition as long
as the first block after the preamble stays the same (`renderDocument_move_definition`).
-/

namespace Typeset

/-- A block that renders nothing where it stands: frontmatter and definitions. -/
def Block.silent : Block → Bool
  | .frontmatter _ | .linkDefinition _ _ | .footnoteDefinition _ _ => true
  | _ => false

/-- Whether a block is frontmatter. -/
def Block.isFrontmatter : Block → Bool
  | .frontmatter _ => true
  | _ => false

end Typeset

namespace Typeset.Render

open Text

/-! ## The writer reads the table only through its lookups -/

/-- Two reference tables that resolve every link identifier and every footnote key alike. -/
structure References.Equiv (r r' : References) : Prop where
  links : ∀ i, r.linkUrl? i = r'.linkUrl? i
  footnotes : ∀ k, References.footnoteEntry? r k = References.footnoteEntry? r' k

mutual

theorem plainText_congr {r r' : References} (h : ∀ i, r.linkUrl? i = r'.linkUrl? i) :
    ∀ xs : List Inline, plainText r xs = plainText r' xs
  | [] => rfl
  | x :: xs => by simp only [plainText, plainTextOf_congr h x, plainText_congr h xs]

theorem plainTextOf_congr {r r' : References} (h : ∀ i, r.linkUrl? i = r'.linkUrl? i) :
    ∀ x : Inline, plainTextOf r x = plainTextOf r' x
  | .strong cs | .emphasis cs | .link _ cs => by simp only [plainTextOf, plainText_congr h cs]
  | .linkReference i l cs => by simp only [plainTextOf, plainText_congr h cs, h i]
  | .text _ | .inlineCode _ | .lineBreak | .strike _ | .highlight _ | .subscript _
  | .superscript _ | .footnoteReference _ | .inlineMath _ | .image _ _ => by
    simp only [plainTextOf]

end

theorem isTocMarker_congr {r r' : References} (h : r.Equiv r') (cs : List Inline) :
    isTocMarker r cs = isTocMarker r' cs := by
  simp only [isTocMarker, plainText_congr h.links]

section Congr

variable {r r' : References} {s : List String}

/-- What the writer's measure says of a frame: every frame it is lower on renders alike under
both tables. -/
abbrev Frame.RunsAlikeBelow (r r' : References) (f : Frame) : Prop :=
  ∀ g : Frame, Prod.Lex (· < ·) (· < ·) (g.measure r) (f.measure r) → g.run r = g.run r'

theorem Frame.RunsAlikeBelow.call {f g : Frame} (ih : Frame.RunsAlikeBelow r r' f)
    (hg : Frame.Calls r f g) : g.run r = g.run r' :=
  ih g hg.measure_lt

theorem Frame.run_congr_block (h : r.Equiv r') {b : Block} {n : Nat}
    (ih : Frame.RunsAlikeBelow r r' ⟨s, .block b n⟩) :
    renderBlock r s b n = renderBlock r' s b n := by
  cases b with
  | heading d cs =>
    have e : renderInlines r s cs = renderInlines r' s cs := ih.call .heading
    simp only [renderBlock, e]
  | paragraph cs =>
    cases ht : isTocMarker r cs
    · have e : renderInlines r s cs = renderInlines r' s cs := ih.call (.paragraph ht)
      simp only [renderBlock, ← isTocMarker_congr h, ht, e]
    · simp only [renderBlock, ← isTocMarker_congr h, ht, ↓reduceIte]
  | list o items =>
    have e : renderItems r s (if o then "+" else "-") items n =
        renderItems r' s (if o then "+" else "-") items n := ih.call .list
    simp only [renderBlock, e]
  | blockquote cs =>
    have e : renderBlocks r s cs 0 = renderBlocks r' s cs 0 := ih.call .blockquote
    simp only [renderBlock, e]
  | table a rows =>
    cases rows with
    | nil => simp only [renderBlock]
    | cons header body =>
      have e1 : renderCells r s true header = renderCells r' s true header := ih.call .tableHeader
      have e2 : renderRows r s body = renderRows r' s body := ih.call .tableBody
      simp only [renderBlock, e1, e2]
  | frontmatter _ | linkDefinition _ _ | footnoteDefinition _ _ | codeBlock _ _ | thematicBreak
  | mathBlock _ => simp only [renderBlock]

theorem Frame.run_congr_blocks {bs : List Block} {n : Nat}
    (ih : Frame.RunsAlikeBelow r r' ⟨s, .blocks bs n⟩) :
    renderBlocks r s bs n = renderBlocks r' s bs n := by
  cases bs with
  | nil => simp only [renderBlocks]
  | cons b bs =>
    have e1 : renderBlock r s b n = renderBlock r' s b n := ih.call .blocksHead
    have e2 : renderBlocks r s bs n = renderBlocks r' s bs n := ih.call .blocksTail
    simp only [renderBlocks, e1, e2]

theorem Frame.run_congr_items (h : r.Equiv r') {m : String} {items : List (List Block)} {n : Nat}
    (ih : Frame.RunsAlikeBelow r r' ⟨s, .items m items n⟩) :
    renderItems r s m items n = renderItems r' s m items n := by
  cases items with
  | nil => simp only [renderItems]
  | cons item items =>
    have et : renderItems r s m items n = renderItems r' s m items n := ih.call .itemsTail
    cases hl : leadParagraph? item with
    | some p =>
      obtain ⟨cs, rest⟩ := p
      -- the lead paragraph's inlines are rendered even when it marks the table of contents
      have e1 : renderInlines r s cs = renderInlines r' s cs := by
        refine ih ⟨s, .inlines cs⟩ (Prod.Lex.right _ ?_)
        have := sizeOf_leadParagraph hl
        simp [Call.size]
        omega
      have e2 : renderItemRest r s rest (n + 1) = renderItemRest r' s rest (n + 1) :=
        ih.call (.itemLeadRest hl)
      rw [renderItems, renderItems]
      split
      · rename_i cs' rest' hl'
        rw [hl] at hl'
        cases hl'
        simp only [e1, e2, et, isTocMarker_congr h]
      · rename_i hl'
        rw [hl] at hl'
        cases hl'
    | none =>
      have e1 : renderItemRest r s item (n + 1) = renderItemRest r' s item (n + 1) :=
        ih.call (.itemBare hl)
      rw [renderItems, renderItems]
      split
      · rename_i cs' rest' hl'
        rw [hl] at hl'
        cases hl'
      · simp only [e1, et]

theorem Frame.run_congr_itemRest {bs : List Block} {n : Nat}
    (ih : Frame.RunsAlikeBelow r r' ⟨s, .itemRest bs n⟩) :
    renderItemRest r s bs n = renderItemRest r' s bs n := by
  cases bs with
  | nil => simp only [renderItemRest]
  | cons b rest =>
    have et : renderItemRest r s rest n = renderItemRest r' s rest n := ih.call .restTail
    by_cases hb : ∃ o items, b = .list o items
    · obtain ⟨o, items, rfl⟩ := hb
      have e : renderItems r s (if o then "+" else "-") items n =
          renderItems r' s (if o then "+" else "-") items n := ih.call .restList
      simp only [renderItemRest, e, et]
    · have hb : ∀ o items, b ≠ .list o items := fun o items h => hb ⟨o, items, h⟩
      have e : renderBlock r s b n = renderBlock r' s b n := ih.call (.restBlock hb)
      rw [renderItemRest.eq_3 _ _ _ _ _ (fun o items h => hb o items h),
        renderItemRest.eq_3 _ _ _ _ _ (fun o items h => hb o items h), e, et]

theorem Frame.run_congr_cells {header : Bool} {cs : List (List Inline)}
    (ih : Frame.RunsAlikeBelow r r' ⟨s, .cells header cs⟩) :
    renderCells r s header cs = renderCells r' s header cs := by
  cases cs with
  | nil => simp only [renderCells]
  | cons c cs =>
    have e1 : renderInlines r s c = renderInlines r' s c := ih.call .cellsHead
    have e2 : renderCells r s header cs = renderCells r' s header cs := ih.call .cellsTail
    simp only [renderCells, e1, e2]

theorem Frame.run_congr_rows {rows : List (List (List Inline))}
    (ih : Frame.RunsAlikeBelow r r' ⟨s, .rows rows⟩) :
    renderRows r s rows = renderRows r' s rows := by
  cases rows with
  | nil => simp only [renderRows]
  | cons row rows =>
    have e1 : renderCells r s false row = renderCells r' s false row := ih.call .rowsHead
    have e2 : renderRows r s rows = renderRows r' s rows := ih.call .rowsTail
    simp only [renderRows, e1, e2]

theorem Frame.run_congr_inlines {xs : List Inline}
    (ih : Frame.RunsAlikeBelow r r' ⟨s, .inlines xs⟩) :
    renderInlines r s xs = renderInlines r' s xs := by
  cases xs with
  | nil => simp only [renderInlines]
  | cons x xs =>
    have e1 : renderInline r s x = renderInline r' s x := ih.call .inlinesHead
    have e2 : renderInlines r s xs = renderInlines r' s xs := ih.call .inlinesTail
    simp only [renderInlines, e1, e2]

theorem Frame.run_congr_inline (h : r.Equiv r') {x : Inline}
    (ih : Frame.RunsAlikeBelow r r' ⟨s, .inline x⟩) :
    renderInline r s x = renderInline r' s x := by
  cases x with
  | strong cs | emphasis cs | strike cs | highlight cs | subscript cs | superscript cs
  | link _ cs =>
    have e : renderInlines r s cs = renderInlines r' s cs := ih.call (.span rfl)
    simp only [renderInline, e]
  | linkReference i l cs =>
    have e : renderInlines r s cs = renderInlines r' s cs := ih.call (.span rfl)
    simp only [renderInline, e, h.links i]
  | footnoteReference i =>
    have e : renderFootnote r s i = renderFootnote r' s i := ih.call .reference
    simp only [renderInline, e]
  | text _ | inlineCode _ | inlineMath _ | image _ _ | lineBreak => simp only [renderInline]

theorem Frame.run_congr_footnote (h : r.Equiv r') {i : String}
    (ih : Frame.RunsAlikeBelow r r' ⟨s, .footnote i⟩) :
    renderFootnote r s i = renderFootnote r' s i := by
  cases he : References.footnoteEntry? r (toLower i) with
  | none =>
    have he' : References.footnoteEntry? r' (toLower i) = none := by rw [← h.footnotes, he]
    rw [renderFootnote_of_none he, renderFootnote_of_none he']
  | some e =>
    have he' : References.footnoteEntry? r' (toLower i) = some e := by rw [← h.footnotes, he]
    rw [renderFootnote_of_entry he, renderFootnote_of_entry he']
    split
    · rfl
    · rename_i hk
      have eb : renderBlocks r (toLower i :: s) e.2 0 = renderBlocks r' (toLower i :: s) e.2 0 :=
        ih.call (.expand he hk)
      rw [eb]

end Congr

/-- **The writer reads the reference table only through its lookups.** Two tables that resolve
every link identifier and every footnote key alike give the same rendering of every call. The
induction follows the writer's own measure. -/
theorem Frame.run_congr {r r' : References} (h : r.Equiv r') (f : Frame) : f.run r = f.run r' := by
  induction f using (InvImage.wf (Frame.measure r) (Prod.lex Nat.lt_wfRel Nat.lt_wfRel).wf).induction with
  | _ f ih =>
    obtain ⟨s, c⟩ := f
    cases c with
    | block b n => exact Frame.run_congr_block h ih
    | blocks bs n => exact Frame.run_congr_blocks ih
    | items m items n => exact Frame.run_congr_items h ih
    | itemRest bs n => exact Frame.run_congr_itemRest ih
    | cells header cs => exact Frame.run_congr_cells ih
    | rows rows => exact Frame.run_congr_rows ih
    | inlines xs => exact Frame.run_congr_inlines ih
    | inline x => exact Frame.run_congr_inline h ih
    | footnote i => exact Frame.run_congr_footnote h ih


theorem References.Equiv.symm {r r' : References} (h : r.Equiv r') : r'.Equiv r :=
  ⟨fun i => (h.links i).symm, fun k => (h.footnotes k).symm⟩

/-! ## The table depends on the order of each key's definitions only -/

/-- Whether a block is a definition of the link key `k`. -/
def References.definesLink (k : String) : Block → Bool
  | .linkDefinition i _ => toLower i == k
  | _ => false

/-- Whether a block is a definition of the footnote key `k`. -/
def References.definesFootnote (k : String) : Block → Bool
  | .footnoteDefinition i _ => toLower i == k
  | _ => false

/-- A lookup only sees the entries of its key. -/
theorem lookup_filter_key {α β : Type} [BEq α] [LawfulBEq α] (k : α) :
    ∀ l : List (α × β), (l.filter (·.1 == k)).lookup k = l.lookup k
  | [] => rfl
  | (a, b) :: l => by
    by_cases h : a = k
    · subst h
      simp
    · have hne : (k == a) = false := by simpa using fun e => h e.symm
      simp [List.lookup_cons, h, hne, lookup_filter_key k l]

theorem filter_filterMap_linkEntry (k : String) (bs : List Block) :
    (bs.filterMap References.linkEntry).filter (·.1 == k) =
      (bs.filter (References.definesLink k)).filterMap References.linkEntry := by
  rw [List.filter_filterMap, List.filterMap_filter]
  congr 1
  funext b
  cases b <;> simp [References.linkEntry, References.definesLink, Option.filter_some]

theorem filter_filterMap_footnoteEntry (k : String) (bs : List Block) :
    (bs.filterMap References.footnoteEntry).filter (·.1 == k) =
      (bs.filter (References.definesFootnote k)).filterMap References.footnoteEntry := by
  rw [List.filter_filterMap, List.filterMap_filter]
  congr 1
  funext b
  cases b <;> simp [References.footnoteEntry, References.definesFootnote, Option.filter_some]

/-- A link identifier resolves through the definitions of its key only. -/
theorem linkLookup_collect (bs : List Block) (i : String) :
    (References.collect bs).linkUrl? i =
      ((bs.filter (References.definesLink (toLower i))).filterMap References.linkEntry).reverse.lookup
        (toLower i) := by
  rw [References.linkUrl?, References.collect, ← lookup_filter_key, List.filter_reverse,
    filter_filterMap_linkEntry]

/-- A footnote key resolves through the definitions of that key only. -/
theorem footnoteLookup_collect (bs : List Block) (k : String) :
    References.footnoteEntry? (References.collect bs) k =
      ((bs.filter (References.definesFootnote k)).filterMap References.footnoteEntry).reverse.find?
        (·.1 == k) := by
  rw [References.footnoteEntry?, References.collect, ← filter_filterMap_footnoteEntry,
    ← List.filter_reverse, List.find?_filter]
  congr 1
  funext e
  simp only [and_self, Bool.decide_eq_true]

/-- Two documents whose definitions of each key come in the same order have tables that resolve
alike. -/
theorem References.equiv_collect {bs bs' : List Block}
    (hlinks : ∀ k, bs.filter (References.definesLink k) = bs'.filter (References.definesLink k))
    (hnotes : ∀ k,
      bs.filter (References.definesFootnote k) = bs'.filter (References.definesFootnote k)) :
    (References.collect bs).Equiv (References.collect bs') :=
  ⟨fun i => by rw [linkLookup_collect, linkLookup_collect, hlinks],
    fun k => by rw [footnoteLookup_collect, footnoteLookup_collect, hnotes]⟩


/-! ## Silent blocks -/

theorem silent_of_isPreamble {b : Block} (h : isPreamble b = true) : b.silent = true := by
  cases b <;> simp_all [isPreamble, Block.silent]

theorem renderBlock_of_silent {refs : References} {s : List String} {n : Nat} {b : Block}
    (h : b.silent = true) : renderBlock refs s b n = (none, []) := by
  cases b <;> simp_all [Block.silent, renderBlock]

/-- Silent blocks add nothing to a rendered sequence: without them it joins to the same text and
gives the same warnings. -/
theorem renderBlocks_filter_silent (refs : References) (s : List String) (n : Nat) (sep : String)
    (bs : List Block) :
    joinRendered (renderBlocks refs s (bs.filter (!·.silent)) n).1 sep =
        joinRendered (renderBlocks refs s bs n).1 sep ∧
      (renderBlocks refs s (bs.filter (!·.silent)) n).2 = (renderBlocks refs s bs n).2 := by
  rw [renderBlocks_eq_map, renderBlocks_eq_map]
  constructor
  · -- the pieces joined are the same: a silent block's piece is absent
    simp only [joinRendered, List.filterMap_map, List.filterMap_filter]
    congr 1
    apply List.filterMap_congr
    intro b _
    cases hb : b.silent
    · simp
    · simp [renderBlock_of_silent hb]
  · induction bs with
    | nil => rfl
    | cons b bs ih =>
      cases hb : b.silent
      · simp_all
      · simp_all [renderBlock_of_silent hb]

/-- Leaving out the leading title heading leaves out the first block that is not silent: only
preamble stands before it. -/
theorem filter_silent_eraseIdx {refs : References} {bs : List Block} {t : String} {i : Nat}
    (h : LeadingHeading refs bs t i) :
    (bs.eraseIdx i).filter (!·.silent) = (bs.filter (!·.silent)).tail := by
  obtain ⟨pre, cs, rest, rfl, hpre, rfl, -, -⟩ := h
  have hnone : pre.filter (!·.silent) = [] :=
    List.filter_eq_nil_iff.2 fun b hb => by simp [silent_of_isPreamble (hpre b hb)]
  rw [List.eraseIdx_append_of_length_le (Nat.le_refl _), Nat.sub_self, List.eraseIdx_cons_zero,
    List.filter_append, List.filter_append, hnone]
  simp [Block.silent]


/-! ## The metadata -/

/-- The frontmatter fields come from the frontmatter blocks alone. -/
theorem documentFrontmatter_filter (bs : List Block) :
    documentFrontmatter (bs.filter Block.isFrontmatter) = documentFrontmatter bs := by
  unfold documentFrontmatter
  congr 1
  induction bs with
  | nil => rfl
  | cons b bs ih => cases b <;> simp [List.filter_cons, Block.isFrontmatter, ih]

/-- Under tables that resolve alike, a document whose first block after the preamble is the same
leads with a title of the same text. -/
theorem exists_leadingTitle_of_first {r r' : References} {bs bs' : List Block} (h : r.Equiv r')
    (hf : (firstContent 0 bs).map Prod.snd = (firstContent 0 bs').map Prod.snd) {t : String}
    {i : Nat} (hl : leadingTitle r bs = some ⟨t, i⟩) : ∃ i', leadingTitle r' bs' = some ⟨t, i'⟩ := by
  obtain ⟨cs, hfc, ht, hne⟩ := leadingTitle_eq_some_iff_firstContent.1 hl
  rw [hfc] at hf
  obtain ⟨⟨i', b'⟩, hfc', hb'⟩ := Option.map_eq_some_iff.1 hf.symm
  simp only at hb'
  subst hb'
  exact ⟨i', leadingTitle_eq_some_iff_firstContent.2
    ⟨cs, hfc', by rw [ht, plainText_congr h.links], hne⟩⟩

theorem leadingTitle_text_congr {r r' : References} {bs bs' : List Block} (h : r.Equiv r')
    (hf : (firstContent 0 bs).map Prod.snd = (firstContent 0 bs').map Prod.snd) :
    (leadingTitle r bs).map (·.text) = (leadingTitle r' bs').map (·.text) := by
  cases hl : leadingTitle r bs with
  | some l =>
    obtain ⟨i', hl'⟩ := exists_leadingTitle_of_first h hf hl
    rw [hl']
    rfl
  | none =>
    cases hl' : leadingTitle r' bs' with
    | none => rfl
    | some l' =>
      obtain ⟨i, hl⟩ := exists_leadingTitle_of_first h.symm hf.symm hl'
      simp_all

/-- A heading is left out exactly when the leading title's text is the resolved title, trimmed. -/
theorem excludedHeading_isSome_iff {r : References} {bs : List Block} {options : Options} :
    (resolveMetadata r bs options).excludedHeading.isSome = true ↔
      (leadingTitle r bs).map (·.text) = some (trim (resolveMetadata r bs options).title) := by
  rw [Option.isSome_iff_exists]
  constructor
  · rintro ⟨i, hi⟩
    obtain ⟨t, hl, ht⟩ := excludedHeading_eq_some_iff.1 hi
    rw [hl, ← ht]
    rfl
  · intro h
    obtain ⟨⟨t, i⟩, hl, ht⟩ := Option.map_eq_some_iff.1 h
    exact ⟨i, excludedHeading_eq_some_iff.2 ⟨t, hl, ht⟩⟩

/-- The body without its silent blocks: the document's blocks that are not silent, less the
first when the title heading is left out. -/
theorem filter_silent_bodyBlocks {r : References} {bs : List Block} {options : Options} :
    (bodyBlocks (resolveMetadata r bs options).excludedHeading bs).filter (!·.silent) =
      if (resolveMetadata r bs options).excludedHeading.isSome then (bs.filter (!·.silent)).tail
      else bs.filter (!·.silent) := by
  cases hex : (resolveMetadata r bs options).excludedHeading with
  | none => rfl
  | some i =>
    obtain ⟨t, hl, -⟩ := excludedHeading_eq_some_iff.1 hex
    exact filter_silent_eraseIdx (leadingTitle_eq_some_iff.1 hl)


/-- The document header reads the title, the authors and the language only. -/
theorem assemble_congr {t : Template.Definition} {m m' : Metadata} (htitle : m.title = m'.title)
    (hauthors : m.authors = m'.authors) (hlang : m.lang = m'.lang) (body : String) :
    Typst.assemble t m body = Typst.assemble t m' body := by
  simp only [Typst.assemble, Typst.showRule, Typst.showArgs, htitle, hauthors, hlang]

/-! ## Documents -/

/-- **Arrangement.** Two documents render alike, output and warnings, when their blocks that are
not silent come in the same order, their first blocks after the preamble are the same, and their
frontmatter blocks and the definitions of each key come in the same order. -/
theorem renderDocument_eq_of_arrangement {doc doc' : Document}
    (hcontent : doc.children.filter (!·.silent) = doc'.children.filter (!·.silent))
    (hfirst : (firstContent 0 doc.children).map Prod.snd =
      (firstContent 0 doc'.children).map Prod.snd)
    (hfm : doc.children.filter Block.isFrontmatter = doc'.children.filter Block.isFrontmatter)
    (hlinks : ∀ k, doc.children.filter (References.definesLink k) =
      doc'.children.filter (References.definesLink k))
    (hnotes : ∀ k, doc.children.filter (References.definesFootnote k) =
      doc'.children.filter (References.definesFootnote k))
    (options : Options) (registry : Template.Registry) :
    renderDocument doc options registry = renderDocument doc' options registry := by
  have hr : doc.references.Equiv doc'.references := References.equiv_collect hlinks hnotes
  let md := resolveMetadata doc.references doc.children options
  let md' := resolveMetadata doc'.references doc'.children options
  -- the metadata agrees, but for the index of the heading left out
  have hfront : documentFrontmatter doc.children = documentFrontmatter doc'.children := by
    rw [← documentFrontmatter_filter, hfm, documentFrontmatter_filter]
  have hlead := leadingTitle_text_congr hr hfirst
  have htitle : md.title = md'.title := by simp only [md, md', resolveMetadata, hfront, hlead]
  have hauthors : md.authors = md'.authors := by simp only [md, md', resolveMetadata, hfront]
  have hlang : md.lang = md'.lang := by simp only [md, md', resolveMetadata, hfront]
  have hex : md.excludedHeading.isSome = md'.excludedHeading.isSome := by
    rw [Bool.eq_iff_iff, excludedHeading_isSome_iff, excludedHeading_isSome_iff, hlead, htitle]
  -- the bodies have the same blocks that are not silent, so they render alike
  let body := bodyBlocks md.excludedHeading doc.children
  let body' := bodyBlocks md'.excludedHeading doc'.children
  have hbody : body.filter (!·.silent) = body'.filter (!·.silent) := by
    simp only [body, body', md, md', filter_silent_bodyBlocks]
    rw [hex, hcontent]
  have hrun : renderBlocks doc.references [] (body.filter (!·.silent)) 0 =
      renderBlocks doc'.references [] (body'.filter (!·.silent)) 0 := by
    rw [← hbody]
    exact Frame.run_congr hr ⟨[], .blocks (body.filter (!·.silent)) 0⟩
  obtain ⟨hj, hw⟩ := renderBlocks_filter_silent doc.references [] 0 "\n\n" body
  obtain ⟨hj', hw'⟩ := renderBlocks_filter_silent doc'.references [] 0 "\n\n" body'
  show (⟨Typst.assemble _ md (joinRendered (renderBlocks doc.references [] body 0).1 "\n\n"),
      md.title, md.authors, md.lang, _ ++ (renderBlocks doc.references [] body 0).2⟩ : Output) =
    ⟨Typst.assemble _ md' (joinRendered (renderBlocks doc'.references [] body' 0).1 "\n\n"),
      md'.title, md'.authors, md'.lang, _ ++ (renderBlocks doc'.references [] body' 0).2⟩
  rw [← hj, ← hj', ← hw, ← hw', hrun, assemble_congr htitle hauthors hlang, htitle, hauthors,
    hlang]


/-! ## Moving one block -/

/-- `l'` is `l` with one occurrence of `b` taken out and put back at some place. -/
def Moved {α : Type} (b : α) (l l' : List α) : Prop :=
  ∃ l₁ l₂ m₁ m₂, l = l₁ ++ b :: l₂ ∧ l' = m₁ ++ b :: m₂ ∧ l₁ ++ l₂ = m₁ ++ m₂

/-- Moving a block that a filter drops leaves the filtered list as it was. -/
theorem Moved.filter_eq {α : Type} {b : α} {l l' : List α} {p : α → Bool} (h : Moved b l l')
    (hb : p b = false) : l.filter p = l'.filter p := by
  obtain ⟨l₁, l₂, m₁, m₂, rfl, rfl, he⟩ := h
  have hrest := congrArg (List.filter p) he
  simp only [List.filter_append] at hrest
  simp [List.filter_append, hb, hrest]

/-- The start index does not change which block comes first after the preamble. -/
theorem map_snd_firstContent (s s' : Nat) :
    ∀ bs : List Block, (firstContent s bs).map Prod.snd = (firstContent s' bs).map Prod.snd := by
  intro bs
  induction bs generalizing s s' with
  | nil => rfl
  | cons b bs ih =>
    simp only [firstContent]
    split
    · exact ih (s + 1) (s' + 1)
    · rfl

/-- A preamble block is passed over wherever it stands. -/
theorem firstContent_append_preamble {b : Block} (hb : isPreamble b = true) (s : Nat) :
    ∀ l₁ l₂ : List Block,
      (firstContent s (l₁ ++ b :: l₂)).map Prod.snd = (firstContent s (l₁ ++ l₂)).map Prod.snd
  | [], l₂ => by simp [firstContent, hb, map_snd_firstContent (s + 1) s]
  | c :: l₁, l₂ => by
    simp only [List.cons_append, firstContent]
    split
    · exact firstContent_append_preamble hb (s + 1) l₁ l₂
    · rfl

theorem Moved.firstContent_eq {b : Block} {l l' : List Block} (h : Moved b l l')
    (hb : isPreamble b = true) :
    (firstContent 0 l).map Prod.snd = (firstContent 0 l').map Prod.snd := by
  obtain ⟨l₁, l₂, m₁, m₂, rfl, rfl, he⟩ := h
  rw [firstContent_append_preamble hb, firstContent_append_preamble hb, he]

/-- **Moving a definition.** Moving one link definition or frontmatter block of a document to any
other root position leaves the whole output unchanged, warnings included, as long as the link
definitions of each key and the frontmatter blocks keep their order. So does moving one footnote
definition, as long as the footnote definitions of each key keep their order and the first root
block that is neither frontmatter nor a link definition stays the same. -/
theorem renderDocument_move_definition {doc doc' : Document} {b : Block}
    (hmove : Moved b doc.children doc'.children)
    (hkeep : (isPreamble b = true ∧
        (∀ k, doc.children.filter (References.definesLink k) =
          doc'.children.filter (References.definesLink k)) ∧
        doc.children.filter Block.isFrontmatter = doc'.children.filter Block.isFrontmatter) ∨
      ((∃ i body, b = .footnoteDefinition i body) ∧
        (∀ k, doc.children.filter (References.definesFootnote k) =
          doc'.children.filter (References.definesFootnote k)) ∧
        (firstContent 0 doc.children).map Prod.snd = (firstContent 0 doc'.children).map Prod.snd))
    (options : Options) (registry : Template.Registry) :
    renderDocument doc options registry = renderDocument doc' options registry := by
  have hsilent : b.silent = true := by
    rcases hkeep with ⟨hb, -⟩ | ⟨⟨i, body, rfl⟩, -⟩
    · exact silent_of_isPreamble hb
    · rfl
  have hcontent := hmove.filter_eq (p := (!·.silent)) (by simp [hsilent])
  rcases hkeep with ⟨hb, hlinks, hfm⟩ | ⟨⟨i, body, rfl⟩, hnotes, hfirst⟩
  · -- a preamble block is passed over by the title search, and no footnote definition moves
    have hnotes : ∀ k, doc.children.filter (References.definesFootnote k) =
        doc'.children.filter (References.definesFootnote k) := fun k =>
      hmove.filter_eq (by cases b <;> simp_all [isPreamble, References.definesFootnote])
    exact renderDocument_eq_of_arrangement hcontent (hmove.firstContent_eq hb) hfm hlinks hnotes
      options registry
  · -- no link definition or frontmatter block moves
    exact renderDocument_eq_of_arrangement hcontent hfirst (hmove.filter_eq rfl)
      (fun k => hmove.filter_eq rfl) hnotes options registry

/-- A link definition moved from before the title heading to the end of the document: the
heading is still the title and left out, and the reference still resolves. -/
theorem linkDefinition_moved_to_end :
    renderDocument ⟨[.linkDefinition "a" "https://a", .heading 1 [.text "T"],
        .paragraph [.linkReference "a" none [.text "x"]]]⟩ {} Template.builtIn =
      renderDocument ⟨[.heading 1 [.text "T"], .paragraph [.linkReference "a" none [.text "x"]],
        .linkDefinition "a" "https://a"]⟩ {} Template.builtIn :=
  renderDocument_move_definition
    ⟨[], [.heading 1 [.text "T"], .paragraph [.linkReference "a" none [.text "x"]]],
      [.heading 1 [.text "T"], .paragraph [.linkReference "a" none [.text "x"]]], [], rfl, rfl, rfl⟩
    (.inl ⟨rfl, fun k => by simp [List.filter_cons, References.definesLink], rfl⟩) {} _

end Typeset.Render
