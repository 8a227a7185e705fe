import Typeset.Proofs.Markup.Pieces
import Typeset.Proofs.Render.Footnotes

/-!
Well-formed markup from every call of the writer.

A node is enclosable when each verbatim value in it fits the delimiters the writer puts around
it (`Block.enclosable`): inline code is not empty and holds no backtick, a code block's language
tag does not start with a backtick and holds no run as long as the fence, and every `$` of a math
value, trimmed, comes right after a backslash, an inline one not ending in a backslash. A
footnote definition renders nothing where it stands; what matters of it is what its references
expand. The definitions a node's references lead to, directly or through the bodies of other
definitions (`References.Reached`), expand cleanly when their blocks are enclosable and no body
trimmed for its `#footnote[...]` ends in an escaping backslash (`References.ExpandsClean`).

Then every call of the writer returns fragments (`Frame.sound`): the output of one call is made
of fragments when the outputs of the calls it makes are (`Frame.sound_step`, one lemma for each
of the writer's functions), every call keeps the node enclosable and its references among the
reached ones (`Frame.Calls.enclosable`, `Frame.Calls.reached`), and the calls are well-founded.
So every block and every inline sequence renders to balanced markup, and a document's body to
well-formed markup.

The conditions are needed: the writer copies math as it is, escapes a backtick in inline code
with a backslash that raw text does not read, writes empty inline code as two backticks, writes
the language tag right after the fence, and trims a footnote body even when it ends in a hard
line break; each breaks the markup.
-/

namespace Typeset

open Text Render

mutual

/-- Inline content whose verbatim values fit the delimiters written around them. -/
def Inline.enclosable : Inline → Bool
  | .inlineCode v => v != "" && !v.toList.contains '`'
  | .inlineMath v => dollarsEscaped (trim v).toList && (trim v).toList.getLast? != some '\\'
  | .strong cs | .emphasis cs | .strike cs | .highlight cs | .subscript cs | .superscript cs
  | .link _ cs | .linkReference _ _ cs => Inline.enclosableAll cs
  | .text _ | .footnoteReference _ | .image _ _ | .lineBreak => true

/-- Every inline of a sequence is enclosable. -/
def Inline.enclosableAll : List Inline → Bool
  | [] => true
  | x :: xs => x.enclosable && Inline.enclosableAll xs

end

mutual

/-- A block whose verbatim values fit the delimiters written around them. -/
def Block.enclosable : Block → Bool
  | .heading _ cs | .paragraph cs => Inline.enclosableAll cs
  | .blockquote bs => Block.enclosableAll bs
  | .list _ items => Block.enclosableItems items
  | .table _ rows => rows.all fun row => row.all Inline.enclosableAll
  | .codeBlock lang v => lang.all fun l =>
    (trim l).toList.head? != some '`' &&
      decide (Typst.longestBacktickRun (trim l) < Typst.fenceWidth v)
  | .mathBlock v => dollarsEscaped (trim v).toList
  -- a definition renders nothing where it stands: its blocks count where a reference expands them
  | .frontmatter _ | .linkDefinition _ _ | .footnoteDefinition _ _ | .thematicBreak => true

/-- Every block of a sequence is enclosable. -/
def Block.enclosableAll : List Block → Bool
  | [] => true
  | b :: bs => b.enclosable && Block.enclosableAll bs

/-- Every block of every list item is enclosable. -/
def Block.enclosableItems : List (List Block) → Bool
  | [] => true
  | item :: items => Block.enclosableAll item && Block.enclosableItems items

end

theorem Inline.enclosableAll_iff {xs : List Inline} :
    Inline.enclosableAll xs = true ↔ ∀ x ∈ xs, x.enclosable = true := by
  induction xs with
  | nil => simp [Inline.enclosableAll]
  | cons x xs ih => simp [Inline.enclosableAll, ih]

theorem Block.enclosableAll_iff {bs : List Block} :
    Block.enclosableAll bs = true ↔ ∀ b ∈ bs, b.enclosable = true := by
  induction bs with
  | nil => simp [Block.enclosableAll]
  | cons b bs ih => simp [Block.enclosableAll, ih]

theorem Inline.enclosable_of_children {x : Inline} {cs : List Inline} (h : x.children? = some cs) :
    x.enclosable = Inline.enclosableAll cs := by
  cases x <;> simp only [Inline.children?, Option.some.injEq, reduceCtorEq] at h <;> subst h <;>
    simp [Inline.enclosable]

theorem Block.enclosableAll_leadParagraph {item : List Block} {cs : List Inline} {rest : List Block}
    (h : Render.leadParagraph? item = some (cs, rest)) :
    Block.enclosableAll item = (Inline.enclosableAll cs && Block.enclosableAll rest) := by
  match item, h with
  | .paragraph cs :: rest, rfl => simp [Block.enclosableAll, Block.enclosable]

end Typeset

namespace Typeset.Render

open Text Typst Scan

/-- A call on an enclosable node; list markers are the writer's own. -/
def Call.enclosable : Call → Bool
  | .block b _ => b.enclosable
  | .blocks bs _ | .itemRest bs _ => Block.enclosableAll bs
  | .items m is _ => (m == "+" || m == "-") && Block.enclosableItems is
  | .cells _ cs => cs.all Inline.enclosableAll
  | .rows rs => rs.all fun row => row.all Inline.enclosableAll
  | .inlines xs => Inline.enclosableAll xs
  | .inline x => x.enclosable
  | .footnote _ => true

/-- An output made of fragments, piece by piece. -/
def Call.Sound : (c : Call) → c.Out → Prop
  | .block _ _ | .inline _ | .footnote _ => fun (o : Option String) => ∀ r ∈ o, Fragment r
  | .blocks _ _ => fun (os : List (Option String)) => ∀ o ∈ os, ∀ r ∈ o, Fragment r
  | .items _ _ _ | .itemRest _ _ | .cells _ _ | .rows _ => fun (rs : List String) =>
    ∀ r ∈ rs, Fragment r
  | .inlines _ => Fragment

/-- A frame whose run returns fragments. -/
def Frame.Sound (refs : References) (f : Frame) : Prop := f.call.Sound (f.run refs).1

/-- The footnote keys that the references `ids` lead to: the keys they name, and every key the
definitions of those cite, at any depth. -/
def References.Reached (refs : References) (ids : List String) (k : String) : Prop :=
  ∃ i ∈ ids, Relation.ReflTransGen refs.Cites (toLower i) k

/-- The definitions that the references `ids` lead to expand into well-formed markup under every
stack: their blocks are enclosable, and no body, rendered and trimmed, ends in an escaping
backslash. Definitions that no such reference reaches are left free. -/
structure References.ExpandsClean (refs : References) (ids : List String) : Prop where
  enclosable : ∀ k e, refs.Reached ids k → refs.footnoteEntry? k = some e →
    Block.enclosableAll e.2 = true
  trims : ∀ s k e, refs.Reached ids k → refs.footnoteEntry? k = some e →
    ¬ EndsEscaping (trim (joinRendered (renderBlocks refs (k :: s) e.2 0).1 " "))

/-- A reference of the node is reached from the node's own references. -/
theorem References.reached_self {refs : References} {ids : List String} {i : String}
    (hi : i ∈ ids) : refs.Reached ids (toLower i) :=
  ⟨i, hi, .refl⟩

/-! ## One call keeps nodes enclosable -/

theorem Frame.Calls.enclosable {refs : References} {ids : List String} (hK : refs.ExpandsClean ids)
    {f g : Frame} (h : Frame.Calls refs f g) (hf : f.call.enclosable = true)
    (hreach : ∀ i ∈ f.call.noteRefs, refs.Reached ids (toLower i)) :
    g.call.enclosable = true := by
  cases h with
  | heading | paragraph _ | blockquote =>
    simpa [Call.enclosable, Block.enclosable] using hf
  | list =>
    rename_i o _ _
    cases o <;> simpa [Call.enclosable, Block.enclosable] using hf
  | tableHeader | blocksHead | restBlock _ | cellsHead | rowsHead | inlinesHead =>
    -- the head of a sequence
    simp only [Call.enclosable, Block.enclosable, Block.enclosableAll, Inline.enclosableAll,
      List.all_cons, Bool.and_eq_true] at hf ⊢
    exact hf.1
  | tableBody | blocksTail | restTail | cellsTail | rowsTail | inlinesTail =>
    -- the rest of a sequence
    simp only [Call.enclosable, Block.enclosable, Block.enclosableAll, Inline.enclosableAll,
      List.all_cons, Bool.and_eq_true] at hf ⊢
    exact hf.2
  | itemLead hl _ =>
    simp only [Call.enclosable, Block.enclosableItems, Block.enclosableAll_leadParagraph hl,
      Bool.and_eq_true] at hf ⊢
    exact hf.2.1.1
  | itemLeadRest hl =>
    simp only [Call.enclosable, Block.enclosableItems, Block.enclosableAll_leadParagraph hl,
      Bool.and_eq_true] at hf ⊢
    exact hf.2.1.2
  | itemBare _ =>
    simp only [Call.enclosable, Block.enclosableItems, Bool.and_eq_true] at hf ⊢
    exact hf.2.1
  | itemsTail =>
    -- the list marker stays the same
    simp only [Call.enclosable, Block.enclosableItems, Bool.and_eq_true] at hf ⊢
    exact ⟨hf.1, hf.2.2⟩
  | restList =>
    rename_i o _ _ _
    simp only [Call.enclosable, Block.enclosableAll, Block.enclosable, Bool.and_eq_true] at hf ⊢
    cases o <;> simp [hf.1]
  | span hc => simpa [Call.enclosable, Inline.enclosable_of_children hc] using hf
  | reference => rfl
  | expand he _ =>
    -- the expanded definition is one the node's references reach
    exact hK.enclosable _ _ (hreach _ (by simp [Call.noteRefs])) he

/-- Every call keeps the node's references among those reached: a part of a node holds no other
references, and an expanded definition cites only keys reached through its own. -/
theorem Frame.Calls.reached {refs : References} {ids : List String} {f g : Frame}
    (h : Frame.Calls refs f g) (hreach : ∀ i ∈ f.call.noteRefs, refs.Reached ids (toLower i)) :
    ∀ i ∈ g.call.noteRefs, refs.Reached ids (toLower i) := by
  intro j hj
  rcases h.stack_cases with hs | ⟨i, e, hc, he, -, rfl⟩
  · exact hreach j (h.noteRefs_subset hs j hj)
  · obtain ⟨i₀, hi₀, hpath⟩ := hreach i (by simp [hc, Call.noteRefs])
    have hcite : refs.Cites (toLower i) (toLower j) := ⟨e, he, List.mem_map_of_mem hj⟩
    exact ⟨i₀, hi₀, hpath.tail hcite⟩

/-! ## One call returns fragments when the calls it makes do

One lemma for each function of the writer: the pieces it adds around the outputs of its calls are
fragments, or fragments around a fragment. -/

section Step

variable {refs : References} {s : List String}

/-- A block renders to a fragment when the calls it makes return fragments. -/
theorem Frame.sound_block {b : Block} {n : Nat} (hb : b.enclosable = true)
    (ih : ∀ g, Frame.Calls refs ⟨s, .block b n⟩ g → g.Sound refs) :
    Frame.Sound refs ⟨s, .block b n⟩ := by
  show ∀ r ∈ (renderBlock refs s b n).1, Fragment r
  intro r hr
  cases b with
  | heading d cs =>
    have hcs : Fragment (renderInlines refs s cs).1 := ih ⟨s, .inlines cs⟩ .heading
    simp only [renderBlock, Option.mem_def, Option.some.injEq] at hr
    subst hr
    exact (((fragment_headingMarker d).append (fragment_of_run (by decide))).append hcs).indentLines n
  | paragraph cs =>
    cases ht : isTocMarker refs cs
    · have hcs : Fragment (renderInlines refs s cs).1 := ih ⟨s, .inlines cs⟩ (.paragraph ht)
      simp only [renderBlock, ht, Bool.false_eq_true, if_false, Option.mem_def,
        Option.some.injEq] at hr
      subst hr
      exact hcs.indentLines n
    · simp only [renderBlock, ht, if_true, Option.mem_def, Option.some.injEq] at hr
      subst hr
      exact fragment_outline.indentLines n
  | list o items =>
    have hls : ∀ l ∈ (renderItems refs s (if o then "+" else "-") items n).1, Fragment l :=
      ih ⟨s, .items _ items n⟩ .list
    simp only [renderBlock, Option.mem_def, Option.some.injEq] at hr
    subst hr
    exact Fragment.joinRendered fragment_newline (by simpa using hls)
  | codeBlock l v =>
    simp only [renderBlock, Option.mem_def, Option.some.injEq] at hr
    subst hr
    exact fragment_codeBlock v (fun t ht => by subst ht; simpa [Block.enclosable] using hb) n
  | blockquote cs =>
    have hps : ∀ o ∈ (renderBlocks refs s cs 0).1, ∀ r ∈ o, Fragment r :=
      ih ⟨s, .blocks cs 0⟩ .blockquote
    simp only [renderBlock, Option.mem_def, Option.some.injEq] at hr
    subst hr
    exact fragment_quoteMarkup (Fragment.joinRendered (fragment_of_run (by decide)) hps) n
  | thematicBreak =>
    simp only [renderBlock, Option.mem_def, Option.some.injEq] at hr
    subst hr
    exact fragment_ruleLine.indentLines n
  | table a rows =>
    cases rows with
    | nil => simp [renderBlock] at hr
    | cons header body =>
      have hh : ∀ c ∈ (renderCells refs s true header).1, Fragment c :=
        ih ⟨s, .cells true header⟩ .tableHeader
      have hbd : ∀ c ∈ (renderRows refs s body).1, Fragment c := ih ⟨s, .rows body⟩ .tableBody
      simp only [renderBlock, Option.mem_def, Option.some.injEq] at hr
      subst hr
      exact fragment_tableMarkup _ _ (fun c hc => (List.mem_append.1 hc).elim (hh c) (hbd c)) n
  | mathBlock v =>
    simp only [renderBlock, Option.mem_def, Option.some.injEq] at hr
    subst hr
    exact (fragment_mathBlock (by simpa [Block.enclosable] using hb)).indentLines n
  | frontmatter _ | linkDefinition _ _ | footnoteDefinition _ _ => simp [renderBlock] at hr

theorem Frame.sound_blocks {bs : List Block} {n : Nat}
    (ih : ∀ g, Frame.Calls refs ⟨s, .blocks bs n⟩ g → g.Sound refs) :
    Frame.Sound refs ⟨s, .blocks bs n⟩ := by
  show ∀ o ∈ (renderBlocks refs s bs n).1, ∀ r ∈ o, Fragment r
  cases bs with
  | nil => simp [renderBlocks]
  | cons b bs =>
    have hb : ∀ r ∈ (renderBlock refs s b n).1, Fragment r := ih ⟨s, .block b n⟩ .blocksHead
    have hbs : ∀ o ∈ (renderBlocks refs s bs n).1, ∀ r ∈ o, Fragment r :=
      ih ⟨s, .blocks bs n⟩ .blocksTail
    simp only [renderBlocks, List.mem_cons]
    rintro o (rfl | ho)
    · exact hb
    · exact hbs o ho

/-- The lines of list items are fragments when the calls they make return fragments. -/
theorem Frame.sound_items {m : String} {items : List (List Block)} {n : Nat}
    (hm : (m == "+" || m == "-") = true)
    (ih : ∀ g, Frame.Calls refs ⟨s, .items m items n⟩ g → g.Sound refs) :
    Frame.Sound refs ⟨s, .items m items n⟩ := by
  show ∀ l ∈ (renderItems refs s m items n).1, Fragment l
  have hmarker : Fragment m := by
    simp only [Bool.or_eq_true, beq_iff_eq] at hm
    rcases hm with rfl | rfl <;> exact fragment_of_run (by decide)
  cases items with
  | nil => simp [renderItems]
  | cons item items =>
    have his : ∀ l ∈ (renderItems refs s m items n).1, Fragment l :=
      ih ⟨s, .items m items n⟩ .itemsTail
    simp only [renderItems]
    split
    · rename_i cs rest hl
      have hls : ∀ l ∈ (renderItemRest refs s rest (n + 1)).1, Fragment l :=
        ih ⟨s, .itemRest rest (n + 1)⟩ (.itemLeadRest hl)
      -- the marker line holds the lead paragraph, or the outline it stands for
      have hp : Fragment (if isTocMarker refs cs then (outline, [])
          else ((renderInlines refs s cs).1, (renderInlines refs s cs).2)).1 := by
        cases ht : isTocMarker refs cs
        · exact ih ⟨s, .inlines cs⟩ (.itemLead hl ht)
        · exact fragment_outline
      intro l hl'
      rcases List.mem_cons.1 hl' with rfl | hl'
      · refine Fragment.intercalate fragment_newline fun p hp' => ?_
        rcases List.mem_cons.1 hp' with rfl | hp'
        · exact ((((fragment_spaces _).append hmarker).append (fragment_of_run (by decide))).append hp)
        · exact hls p hp'
      · exact his l hl'
    · rename_i hl
      have hls : ∀ l ∈ (renderItemRest refs s item (n + 1)).1, Fragment l :=
        ih ⟨s, .itemRest item (n + 1)⟩ (.itemBare hl)
      intro l hl'
      rcases List.mem_cons.1 hl' with rfl | hl'
      · refine Fragment.intercalate fragment_newline fun p hp' => ?_
        rcases List.mem_cons.1 hp' with rfl | hp'
        · exact (fragment_spaces _).append hmarker
        · exact hls p hp'
      · exact his l hl'

/-- A line after an item's marker line is the rendering of a block of the item, or a later
line. -/
theorem mem_renderItemRest_cons {b : Block} {rest : List Block} {n : Nat}
    (hb : ∀ o items, b ≠ .list o items) {r : String}
    (hr : r ∈ (renderItemRest refs s (b :: rest) n).1) :
    r ∈ (renderBlock refs s b n).1 ∨ r ∈ (renderItemRest refs s rest n).1 := by
  rw [renderItemRest.eq_3 _ _ _ _ _ (fun o items h => hb o items h)] at hr
  revert hr
  rcases renderBlock refs s b n with ⟨o, w1⟩
  rcases renderItemRest refs s rest n with ⟨rs, w2⟩
  intro hr
  cases o with
  | none => exact .inr hr
  | some x =>
    simp only at hr
    split at hr
    · exact .inr hr
    · rcases List.mem_cons.1 hr with rfl | hr
      · exact .inl rfl
      · exact .inr hr

theorem Frame.sound_itemRest {bs : List Block} {n : Nat}
    (ih : ∀ g, Frame.Calls refs ⟨s, .itemRest bs n⟩ g → g.Sound refs) :
    Frame.Sound refs ⟨s, .itemRest bs n⟩ := by
  show ∀ r ∈ (renderItemRest refs s bs n).1, Fragment r
  cases bs with
  | nil => simp [renderItemRest]
  | cons b rest =>
    have hrest : ∀ r ∈ (renderItemRest refs s rest n).1, Fragment r :=
      ih ⟨s, .itemRest rest n⟩ .restTail
    by_cases hb : ∃ o items, b = .list o items
    · obtain ⟨o, items, rfl⟩ := hb
      have hls : ∀ l ∈ (renderItems refs s (if o then "+" else "-") items n).1, Fragment l :=
        ih ⟨s, .items _ items n⟩ .restList
      simp only [renderItemRest]
      intro r hr
      rcases List.mem_cons.1 hr with rfl | hr
      · exact Fragment.joinRendered fragment_newline (by simpa using hls)
      · exact hrest r hr
    · have hb : ∀ o items, b ≠ .list o items := fun o items h => hb ⟨o, items, h⟩
      have hblock : ∀ r ∈ (renderBlock refs s b n).1, Fragment r :=
        ih ⟨s, .block b n⟩ (.restBlock hb)
      intro r hr
      rcases mem_renderItemRest_cons hb hr with hr | hr
      · exact hblock r hr
      · exact hrest r hr

theorem Frame.sound_cells {header : Bool} {cs : List (List Inline)}
    (ih : ∀ g, Frame.Calls refs ⟨s, .cells header cs⟩ g → g.Sound refs) :
    Frame.Sound refs ⟨s, .cells header cs⟩ := by
  show ∀ r ∈ (renderCells refs s header cs).1, Fragment r
  cases cs with
  | nil => simp [renderCells]
  | cons c cs =>
    have hc : Fragment (renderInlines refs s c).1 := ih ⟨s, .inlines c⟩ .cellsHead
    have hcs : ∀ r ∈ (renderCells refs s header cs).1, Fragment r :=
      ih ⟨s, .cells header cs⟩ .cellsTail
    simp only [renderCells]
    intro r hr
    rcases List.mem_cons.1 hr with rfl | hr
    · exact fragment_cellMarkup header hc
    · exact hcs r hr

theorem Frame.sound_rows {rows : List (List (List Inline))}
    (ih : ∀ g, Frame.Calls refs ⟨s, .rows rows⟩ g → g.Sound refs) :
    Frame.Sound refs ⟨s, .rows rows⟩ := by
  show ∀ r ∈ (renderRows refs s rows).1, Fragment r
  cases rows with
  | nil => simp [renderRows]
  | cons row rows =>
    have hrow : ∀ r ∈ (renderCells refs s false row).1, Fragment r :=
      ih ⟨s, .cells false row⟩ .rowsHead
    have hrows : ∀ r ∈ (renderRows refs s rows).1, Fragment r := ih ⟨s, .rows rows⟩ .rowsTail
    simp only [renderRows]
    intro r hr
    rcases List.mem_append.1 hr with hr | hr
    · exact hrow r hr
    · exact hrows r hr

theorem Frame.sound_inlines {xs : List Inline}
    (ih : ∀ g, Frame.Calls refs ⟨s, .inlines xs⟩ g → g.Sound refs) :
    Frame.Sound refs ⟨s, .inlines xs⟩ := by
  show Fragment (renderInlines refs s xs).1
  cases xs with
  | nil => simpa [renderInlines] using fragment_empty
  | cons x xs =>
    have hx : ∀ r ∈ (renderInline refs s x).1, Fragment r := ih ⟨s, .inline x⟩ .inlinesHead
    have hxs : Fragment (renderInlines refs s xs).1 := ih ⟨s, .inlines xs⟩ .inlinesTail
    -- an inline that renders nothing adds nothing
    have hhead : Fragment ((renderInline refs s x).1.getD "") := by
      cases ho : (renderInline refs s x).1 with
      | none => exact fragment_empty
      | some r => exact hx r ho
    simp only [renderInlines]
    exact hhead.append hxs

/-- An inline renders to a fragment when the calls it makes return fragments. -/
theorem Frame.sound_inline {x : Inline} (hx : x.enclosable = true)
    (ih : ∀ g, Frame.Calls refs ⟨s, .inline x⟩ g → g.Sound refs) :
    Frame.Sound refs ⟨s, .inline x⟩ := by
  show ∀ r ∈ (renderInline refs s x).1, Fragment r
  intro r hr
  cases x with
  | text v =>
    simp only [renderInline, Option.mem_def, Option.some.injEq] at hr
    subst hr
    exact fragment_escapeText v
  | strong cs | emphasis cs =>
    have hcs : Fragment (renderInlines refs s cs).1 := ih ⟨s, .inlines cs⟩ (.span rfl)
    simp only [renderInline, Option.mem_def, Option.some.injEq] at hr
    subst hr
    exact ((fragment_of_run (by decide)).append hcs).append (fragment_of_run (by decide))
  | strike cs | highlight cs | subscript cs | superscript cs =>
    have hcs : Fragment (renderInlines refs s cs).1 := ih ⟨s, .inlines cs⟩ (.span rfl)
    simp only [renderInline, Option.mem_def, Option.some.injEq] at hr
    subst hr
    exact Fragment.bracketed (by simp [bracketOpenings]) (.inl rfl) hcs
  | footnoteReference i =>
    exact ih ⟨s, .footnote i⟩ .reference r (by simpa [renderInline, Frame.run] using hr)
  | inlineCode v =>
    simp only [Inline.enclosable, Bool.and_eq_true, bne_iff_ne, ne_eq, Bool.not_eq_true',
      List.contains_eq_mem, decide_eq_false_iff_not] at hx
    simp only [renderInline, Option.mem_def, Option.some.injEq] at hr
    subst hr
    exact fragment_inlineCode hx.1 hx.2
  | inlineMath v =>
    simp only [Inline.enclosable, Bool.and_eq_true, bne_iff_ne, ne_eq] at hx
    simp only [renderInline, Option.mem_def, Option.some.injEq] at hr
    subst hr
    exact fragment_inlineMath hx.1 hx.2
  | image url _ =>
    simp only [renderInline, Option.mem_def, Option.some.injEq] at hr
    subst hr
    exact fragment_image url
  | link url cs =>
    have hcs : Fragment (renderInlines refs s cs).1 := ih ⟨s, .inlines cs⟩ (.span rfl)
    simp only [renderInline, Option.mem_def, Option.some.injEq] at hr
    subst hr
    exact fragment_hyperlink url hcs
  | linkReference i l cs =>
    have hcs : Fragment (renderInlines refs s cs).1 := ih ⟨s, .inlines cs⟩ (.span rfl)
    cases hu : refs.linkUrl? i with
    | some url =>
      simp only [renderInline, hu, Option.mem_def, Option.some.injEq] at hr
      subst hr
      exact fragment_hyperlink url hcs
    | none =>
      -- an undefined reference shows its label, or its text as written
      simp only [renderInline, hu, Option.mem_def, Option.some.injEq] at hr
      subst hr
      split
      · exact fragment_escapeText _
      · exact hcs
  | lineBreak =>
    simp only [renderInline, Option.mem_def, Option.some.injEq] at hr
    subst hr
    exact fragment_of_run (by decide)

/-- An expanded footnote is a fragment when its body is and trimming cuts no escape. -/
theorem Frame.sound_footnote {ids : List String} {i : String} (hK : refs.ExpandsClean ids)
    (hreach : refs.Reached ids (toLower i))
    (ih : ∀ g, Frame.Calls refs ⟨s, .footnote i⟩ g → g.Sound refs) :
    Frame.Sound refs ⟨s, .footnote i⟩ := by
  show ∀ r ∈ (renderFootnote refs s i).1, Fragment r
  intro r hr
  cases he : refs.footnoteEntry? (toLower i) with
  | none => simp [renderFootnote_of_none he] at hr
  | some e =>
    rw [renderFootnote_of_entry he] at hr
    split at hr
    · simp at hr
    · rename_i hk
      have hbody : ∀ o ∈ (renderBlocks refs (toLower i :: s) e.2 0).1, ∀ r ∈ o, Fragment r :=
        ih ⟨toLower i :: s, .blocks e.2 0⟩ (.expand he hk)
      simp only [Option.mem_def, Option.some.injEq] at hr
      subst hr
      exact Fragment.bracketed (by simp [bracketOpenings]) (.inl rfl)
        ((Fragment.joinRendered (fragment_of_run (by decide)) hbody).trim (hK.trims s _ e hreach he))

/-- A call returns fragments when the calls it makes do. -/
theorem Frame.sound_step {ids : List String} (hK : refs.ExpandsClean ids) {f : Frame}
    (hf : f.call.enclosable = true) (hreach : ∀ i ∈ f.call.noteRefs, refs.Reached ids (toLower i))
    (ih : ∀ g, Frame.Calls refs f g → g.Sound refs) : f.Sound refs := by
  obtain ⟨s, c⟩ := f
  cases c with
  | block b n => exact Frame.sound_block hf ih
  | blocks bs n => exact Frame.sound_blocks ih
  | items m is n =>
    simp only [Call.enclosable, Bool.and_eq_true] at hf
    exact Frame.sound_items hf.1 ih
  | itemRest bs n => exact Frame.sound_itemRest ih
  | cells h cs => exact Frame.sound_cells ih
  | rows rs => exact Frame.sound_rows ih
  | inlines xs => exact Frame.sound_inlines ih
  | inline x => exact Frame.sound_inline hf ih
  | footnote i => exact Frame.sound_footnote hK (hreach i (by simp [Call.noteRefs])) ih

end Step

/-- Every call on an enclosable node returns fragments, when the definitions its references
reach expand cleanly. The induction is on the calls, which are well-founded; each call keeps the
node enclosable and its references reached. -/
theorem Frame.sound {refs : References} {ids : List String} (hK : refs.ExpandsClean ids)
    (f : Frame) (hf : f.call.enclosable = true)
    (hreach : ∀ i ∈ f.call.noteRefs, refs.Reached ids (toLower i)) : f.Sound refs := by
  induction f using (Frame.calls_wellFounded refs).induction with
  | _ f ih =>
    exact Frame.sound_step hK hf hreach fun g hg =>
      ih g hg (hg.enclosable hK hf hreach) (hg.reached hreach)

/-! ## Documents -/

theorem Block.mem_noteRefsAll_iff {bs : List Block} {i : String} :
    i ∈ Block.noteRefsAll bs ↔ ∃ b ∈ bs, i ∈ b.noteRefs := by
  induction bs with
  | nil => simp [Block.noteRefsAll]
  | cons b bs ih => simp [Block.noteRefsAll, ih]

/-- The body's blocks are blocks of the document: at most the title heading is left out. -/
theorem mem_of_mem_bodyBlocks {excluded : Option Nat} {blocks : List Block} {b : Block}
    (h : b ∈ bodyBlocks excluded blocks) : b ∈ blocks := by
  cases excluded with
  | none => exact h
  | some i => exact List.mem_of_mem_eraseIdx h

theorem enclosableAll_bodyBlocks (excluded : Option Nat) {blocks : List Block}
    (h : Block.enclosableAll blocks = true) : Block.enclosableAll (bodyBlocks excluded blocks) = true := by
  rw [Block.enclosableAll_iff] at h ⊢
  exact fun b hb => h b (mem_of_mem_bodyBlocks hb)

/-- The body holds no footnote reference the document does not. -/
theorem mem_noteRefsAll_of_bodyBlocks (excluded : Option Nat) {blocks : List Block} {i : String}
    (h : i ∈ Block.noteRefsAll (bodyBlocks excluded blocks)) : i ∈ Block.noteRefsAll blocks := by
  obtain ⟨b, hb, hi⟩ := Block.mem_noteRefsAll_iff.1 h
  exact Block.mem_noteRefsAll_iff.2 ⟨b, mem_of_mem_bodyBlocks hb, hi⟩

/-- **The writer's markup is well-formed when verbatim values fit their delimiters.** Every
enclosable block, rendered at any indent under any stack, and every enclosable inline sequence
render to well-formed markup, when the footnote definitions their references lead to expand
cleanly: every raw, math and string span that opens closes inside the output, and the brackets
outside spans match, so the bracket a call or a cell opens around a rendered sequence is closed
by the one written after it. So does a document's body, when the document is enclosable and the
definitions its references lead to expand cleanly; a definition that nothing references is free.
Document text stays where it is put: escaped text is read as literal characters, an escaped url
stays in its string literal, and code and math values that fit stay inside their spans. -/
theorem rendered_markup_wellFormed (doc : Document) (options : Options) :
    (∀ s b n, b.enclosable = true → doc.references.ExpandsClean b.noteRefs →
      ∀ r ∈ (renderBlock doc.references s b n).1, WellFormed r) ∧
    (∀ s xs, Inline.enclosableAll xs = true →
      doc.references.ExpandsClean (Inline.noteRefsAll xs) →
      WellFormed (renderInlines doc.references s xs).1) ∧
    (Block.enclosableAll doc.children = true →
      doc.references.ExpandsClean (Block.noteRefsAll doc.children) →
      WellFormed (joinRendered ((Frame.ofDocument doc options).run doc.references).1 "\n\n")) ∧
    (∀ (v : String) d, Within (fun st => st = markupAt d ∨ st = ⟨.markup, .escape, d⟩)
      (markupAt d) (escapeText v).toList) ∧
    (∀ (url : String) d, Within (fun st => ∃ slash, st = ⟨.args, .str slash, d⟩)
      ⟨.args, .str false, d⟩ (escapeString url).toList) ∧
    (∀ (v : String) d, '`' ∉ v.toList →
      Within (fun st => st = ⟨.markup, .ticks 1, d⟩ ∨ st = ⟨.markup, .raw 1 0, d⟩)
        ⟨.markup, .ticks 1, d⟩ v.toList) ∧
    (∀ (v : String) d,
      Within (fun st => ∃ j, j < fenceWidth v ∧ st = ⟨.markup, .raw (fenceWidth v) j, d⟩)
        ⟨.markup, .raw (fenceWidth v) 0, d⟩ v.toList) ∧
    (∀ (m : String) d, dollarsEscaped m.toList = true →
      Within (fun st => ∃ slash, st = ⟨.markup, .math slash, d⟩) ⟨.markup, .math false, d⟩
        m.toList) := by
  refine ⟨fun s b n hb hK r h => ?_, fun s xs hxs hK => ?_, fun hdoc hK => ?_, fun v d => ?_,
    fun url d => ?_, fun v d hv => within_inlineCode hv, fun v d => ?_,
    fun m d hm => within_math false _ hm⟩
  · exact (Frame.sound hK ⟨s, .block b n⟩ hb (fun i hi => References.reached_self hi) r h).wellFormed
  · exact (Frame.sound hK ⟨s, .inlines xs⟩ hxs fun i hi => References.reached_self hi).wellFormed
  · -- the body's references are the document's, so they reach only what the document's reach
    have hbody := Frame.sound hK (Frame.ofDocument doc options) (enclosableAll_bodyBlocks _ hdoc)
      fun i hi => References.reached_self (mem_noteRefsAll_of_bodyBlocks _ hi)
    exact (Fragment.joinRendered (fragment_of_run (by decide)) hbody).wellFormed
  · simpa [escapeText] using within_escapeTextChars d v.toList
  · simpa [escapeString] using within_escapeStringChars d url.toList
  · exact within_raw_of_longestRunFrom 0 0 v.toList (by unfold fenceWidth longestBacktickRun; omega)

/-- A paragraph with a footnote and inline math, the footnote holding inline code, and a second
definition that nothing references and whose inline code would break the markup: the paragraph's
inlines render to well-formed markup. -/
theorem footnoted_math_wellFormed :
    let doc : Document := ⟨[.paragraph [.text "x", .footnoteReference "n", .inlineMath "a^2"],
      .footnoteDefinition "m" [.paragraph [.inlineCode "a`b"]],
      .footnoteDefinition "n" [.paragraph [.inlineCode "f"]]]⟩
    let xs : List Inline := [.text "x", .footnoteReference "n", .inlineMath "a^2"]
    Inline.enclosableAll xs = true ∧ doc.references.ExpandsClean (Inline.noteRefsAll xs) ∧
      WellFormed (renderInlines doc.references [] xs).1 := by
  intro doc xs
  have hxs : Inline.enclosableAll xs = true := by decide +kernel
  -- the last definition is looked up first
  have hent : doc.references.footnoteEntry? (toLower "n") =
      some (toLower "n", [.paragraph [.inlineCode "f"]]) := by
    have hfoot : doc.references.footnotes = [(toLower "n", [.paragraph [.inlineCode "f"]]),
        (toLower "m", [.paragraph [.inlineCode "a`b"]])] := rfl
    simp [References.footnoteEntry?, hfoot]
  -- the reference reaches the key of `n` alone: its definition cites nothing
  have hreach : ∀ k, doc.references.Reached (Inline.noteRefsAll xs) k → k = toLower "n" := by
    rintro k ⟨i, hi, hpath⟩
    simp only [xs, Inline.noteRefsAll, Inline.noteRefs, List.append_nil, List.nil_append,
      List.mem_singleton] at hi
    subst hi
    rcases hpath.cases_head with rfl | ⟨c, ⟨e, he, hc⟩, -⟩
    · rfl
    · rw [hent] at he
      cases he
      simp [Block.noteRefsAll, Block.noteRefs, Inline.noteRefsAll, Inline.noteRefs] at hc
  have ht : isTocMarker doc.references [.inlineCode "f"] = false := by decide +kernel
  have hK : doc.references.ExpandsClean (Inline.noteRefsAll xs) := by
    constructor
    · intro k e hk he
      rw [hreach k hk, hent] at he
      cases he
      decide
    · intro s k e hk he
      rw [hreach k hk, hent] at he
      cases he
      simp only [renderBlocks, renderBlock, ht, renderInlines, renderInline]
      decide
  exact ⟨hxs, hK, (rendered_markup_wellFormed doc {}).2.1 [] xs hxs hK⟩

/-- Without the conditions the markup breaks. A `$` in math ends its span early. A backtick in
inline code ends its raw span early, since raw text reads no escape. Empty inline code is a run of
two backticks, which opens a raw span. A language tag that starts with a backtick makes the
opening fence longer than the closing one. A footnote body ending in a hard line break is trimmed
to a backslash, which then escapes the closing bracket. -/
theorem unenclosable_values_break_markup :
    ¬ WellFormed (renderInlines (Document.references ⟨[]⟩) [] [.inlineMath "a$b"]).1 ∧
    ¬ WellFormed (renderInlines (Document.references ⟨[]⟩) [] [.inlineCode "a`b"]).1 ∧
    ¬ WellFormed (renderInlines (Document.references ⟨[]⟩) [] [.inlineCode ""]).1 ∧
    ¬ WellFormed
      ((renderBlock (Document.references ⟨[]⟩) [] (.codeBlock (some "`x") "y") 0).1.getD "") ∧
    ¬ WellFormed (renderInlines (Document.references
      ⟨[.footnoteDefinition "n" [.paragraph [.text "a", .lineBreak]]]⟩) [] [.footnoteReference "n"]).1 := by
  have he : References.footnoteEntry? (Document.references
      ⟨[.footnoteDefinition "n" [.paragraph [.text "a", .lineBreak]]]⟩) (toLower "n") =
      some (toLower "n", [.paragraph [.text "a", .lineBreak]]) := by
    simp [Document.references, References.collect, References.footnoteEntry, References.footnoteEntry?]
  have ht : isTocMarker (Document.references ⟨[.footnoteDefinition "n" [.paragraph [.text "a",
      .lineBreak]]]⟩) [.text "a", .lineBreak] = false := by decide +kernel
  refine ⟨?_, ?_, ?_, ?_, ?_⟩
  · simp only [renderInlines, renderInline]
    decide
  · simp only [renderInlines, renderInline]
    decide
  · simp only [renderInlines, renderInline]
    decide
  · simp only [renderBlock]
    decide
  · simp only [renderInlines, renderInline, renderFootnote_of_entry he,
      if_neg (show toLower "n" ∉ ([] : List String) from List.not_mem_nil), renderBlocks, renderBlock, ht]
    decide

end Typeset.Render
