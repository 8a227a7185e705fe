import Typeset.Proofs.Render.Calls

/-!
The footnote stack during a rendering, and when a footnote is refused.

The footnote graph of a reference table has an edge from a key to every key that the body of the
key's definition cites, at any depth (`References.Cites`). At every point of a rendering the
stack is a path of that graph: distinct keys of the table, each cited by the definition of the
key pushed before it, and the node being rendered lies in the definition of the innermost key
(`Frame.Nested`). One call keeps this (`Frame.Nested.call`), so every point of a rendering has it
(`Frame.Nested.reach`).

A reference is refused, with a `recursiveFootnote` warning, when its key is on the stack. The
stack being a path that ends at a definition citing the key, a refused key lies on a cycle of the
graph. Every warning of a rendering is given by one of its points (`Frame.exists_emits_of_mem`),
so a document whose footnote graph has no cycle refuses no reference: each one is expanded in
full.
-/

namespace Typeset

open Text

mutual

/-- The identifiers of the footnote references in an inline, at any depth, as written. -/
def Inline.noteRefs : Inline → List String
  | .footnoteReference i => [i]
  | .strong cs | .emphasis cs | .strike cs | .highlight cs | .subscript cs | .superscript cs
  | .link _ cs | .linkReference _ _ cs => Inline.noteRefsAll cs
  | .text _ | .inlineCode _ | .inlineMath _ | .image _ _ | .lineBreak => []

/-- The footnote references of a sequence of inlines. -/
def Inline.noteRefsAll : List Inline → List String
  | [] => []
  | x :: xs => x.noteRefs ++ Inline.noteRefsAll xs

end

/-- The footnote references of table rows. -/
def Inline.noteRefsRows (rows : List (List (List Inline))) : List String :=
  rows.flatMap fun row => row.flatMap Inline.noteRefsAll

mutual

/-- The identifiers of the footnote references in a block, at any depth, as written. -/
def Block.noteRefs : Block → List String
  | .heading _ cs | .paragraph cs => Inline.noteRefsAll cs
  | .footnoteDefinition _ bs | .blockquote bs => Block.noteRefsAll bs
  | .list _ items => Block.noteRefsItems items
  | .table _ rows => Inline.noteRefsRows rows
  | .frontmatter _ | .linkDefinition _ _ | .codeBlock _ _ | .thematicBreak | .mathBlock _ => []

/-- The footnote references of a sequence of blocks. -/
def Block.noteRefsAll : List Block → List String
  | [] => []
  | b :: bs => b.noteRefs ++ Block.noteRefsAll bs

/-- The footnote references of list items. -/
def Block.noteRefsItems : List (List Block) → List String
  | [] => []
  | item :: items => Block.noteRefsAll item ++ Block.noteRefsItems items

end

end Typeset

namespace Typeset.Render

open Text

/-- The footnote graph of a table: the definition of `k` cites `k'` when its body holds, at any
depth, a footnote reference whose identifier lower-cases to `k'`. -/
def References.Cites (refs : References) (k k' : String) : Prop :=
  ∃ e, refs.footnoteEntry? k = some e ∧ k' ∈ (Block.noteRefsAll e.2).map toLower

/-- A footnote graph without cycles. -/
def References.Acyclic (refs : References) : Prop := ∀ k, ¬ Relation.TransGen refs.Cites k k

/-- The footnote references a call's node holds, at any depth. -/
def Call.noteRefs : Call → List String
  | .block b _ => b.noteRefs
  | .blocks bs _ | .itemRest bs _ => Block.noteRefsAll bs
  | .items _ is _ => Block.noteRefsItems is
  | .cells _ cs => cs.flatMap Inline.noteRefsAll
  | .rows rs => Inline.noteRefsRows rs
  | .inlines xs => Inline.noteRefsAll xs
  | .inline x => x.noteRefs
  | .footnote i => [i]

/-- The stack a frame may run under: distinct keys of the table, innermost first, each cited by
the definition of the key below it, with the frame's node inside the definition of the innermost
key. -/
structure Frame.Nested (refs : References) (f : Frame) : Prop where
  distinct : f.stack.Nodup
  keys : ∀ k ∈ f.stack, k ∈ refs.footnoteKeys
  chain : f.stack.IsChain fun k' k => refs.Cites k k'
  cited : ∀ k ∈ f.stack.head?, ∀ i ∈ f.call.noteRefs, refs.Cites k (toLower i)

/-! ## One call keeps the stack a path of the graph -/

theorem noteRefsAll_leadParagraph {item : List Block} {cs : List Inline} {rest : List Block}
    (h : leadParagraph? item = some (cs, rest)) :
    Block.noteRefsAll item = Inline.noteRefsAll cs ++ Block.noteRefsAll rest := by
  match item, h with
  | .paragraph cs :: rest, rfl => simp [Block.noteRefsAll, Block.noteRefs]

theorem noteRefs_children {x : Inline} {cs : List Inline} (h : x.children? = some cs) :
    x.noteRefs = Inline.noteRefsAll cs := by
  cases x <;> simp only [Inline.children?, Option.some.injEq, reduceCtorEq] at h <;> subst h <;>
    simp [Inline.noteRefs]

namespace Frame.Calls

variable {refs : References} {f g : Frame}

/-- A call that keeps the stack goes into a part of its node, with no footnote reference the
node does not hold. -/
theorem noteRefs_subset (h : Calls refs f g) (hs : g.stack = f.stack) :
    ∀ i ∈ g.call.noteRefs, i ∈ f.call.noteRefs := by
  intro i hi
  cases h with
  | heading | paragraph _ | list | blockquote | reference =>
    simpa [Call.noteRefs, Block.noteRefs, Inline.noteRefs] using hi
  | span hc =>
    simpa only [Call.noteRefs, noteRefs_children hc] using hi
  | expand _ _ =>
    exact absurd hs (List.cons_ne_self _ _)
  | itemLead hl _ =>
    simp only [Call.noteRefs, Block.noteRefsItems, noteRefsAll_leadParagraph hl,
      List.mem_append] at hi ⊢
    exact .inl (.inl hi)
  | itemLeadRest hl =>
    simp only [Call.noteRefs, Block.noteRefsItems, noteRefsAll_leadParagraph hl,
      List.mem_append] at hi ⊢
    exact .inl (.inr hi)
  | tableHeader | blocksHead | itemBare _ | restList | restBlock _ | cellsHead | rowsHead
  | inlinesHead =>
    simp only [Call.noteRefs, Block.noteRefs, Block.noteRefsAll, Block.noteRefsItems,
      Inline.noteRefsAll, Inline.noteRefsRows, List.flatMap_cons, List.mem_append] at hi ⊢
    exact .inl hi
  | tableBody | blocksTail | itemsTail | restTail | cellsTail | rowsTail | inlinesTail =>
    simp only [Call.noteRefs, Block.noteRefs, Block.noteRefsAll, Block.noteRefsItems,
      Inline.noteRefsAll, Inline.noteRefsRows, List.flatMap_cons, List.mem_append] at hi ⊢
    exact .inr hi

end Frame.Calls

theorem Frame.nested_nil (refs : References) (c : Call) : Frame.Nested refs ⟨[], c⟩ :=
  ⟨List.nodup_nil, by simp, List.IsChain.nil, by simp⟩

/-- One call keeps the stack a path of the footnote graph. -/
theorem Frame.Nested.call {refs : References} {f g : Frame} (hf : f.Nested refs)
    (h : Frame.Calls refs f g) : g.Nested refs := by
  rcases h.stack_cases with hs | ⟨i, e, hc, he, hn, rfl⟩
  · obtain ⟨hd, hk, hch, hci⟩ := hf
    refine ⟨hs ▸ hd, hs ▸ hk, hs ▸ hch, ?_⟩
    intro k hk' j hj
    rw [hs] at hk'
    exact hci k hk' j (h.noteRefs_subset hs j hj)
  · -- an expansion pushes a key that the innermost definition cites
    obtain ⟨hd, hk, hch, hci⟩ := hf
    refine ⟨List.nodup_cons.2 ⟨hn, hd⟩, ?_, ?_, ?_⟩
    · intro k hk'
      rcases List.mem_cons.1 hk' with rfl | hk'
      · exact mem_footnoteKeys_of_entry he
      · exact hk k hk'
    · cases hstack : f.stack with
      | nil => exact List.IsChain.singleton _
      | cons k s =>
        rw [hstack] at hch hci
        refine List.IsChain.cons_cons ?_ hch
        exact hci k rfl i (by simp [hc, Call.noteRefs])
    · intro k hk' j hj
      simp only [List.head?_cons, Option.mem_def, Option.some.injEq] at hk'
      subst hk'
      exact ⟨e, he, List.mem_map_of_mem hj⟩

/-- Every point reached from a frame whose stack is a path has a path for its stack. -/
theorem Frame.Nested.reach {refs : References} {f g : Frame} (hf : f.Nested refs)
    (h : Relation.ReflTransGen (Frame.Calls refs) f g) : g.Nested refs := by
  induction h with
  | refl => exact hf
  | tail _ hstep ih => exact ih.call hstep

/-- Every key on a path reaches the innermost key in the graph. -/
theorem reflTransGen_cites_of_chain {refs : References} :
    ∀ {k₀ k : String} {s : List String}, (k₀ :: s).IsChain (fun k' k => refs.Cites k k') →
      k ∈ k₀ :: s → Relation.ReflTransGen refs.Cites k k₀
  | _, _, [], _, hk => by
    rw [List.mem_singleton.1 hk]
  | _, k, k₁ :: s, hch, hk => by
    obtain ⟨h01, hrest⟩ := List.isChain_cons_cons.1 hch
    rcases List.mem_cons.1 hk with rfl | hk
    · exact .refl
    · exact (reflTransGen_cites_of_chain hrest hk).tail h01

/-- A key that the node of a frame cites, met while the key is on the stack, lies on a cycle
of the footnote graph. -/
theorem Frame.Nested.cycle {refs : References} {f : Frame} (hf : f.Nested refs) {i : String}
    (hi : i ∈ f.call.noteRefs) (hk : toLower i ∈ f.stack) :
    Relation.TransGen refs.Cites (toLower i) (toLower i) := by
  obtain ⟨hd, -, hch, hci⟩ := hf
  cases hs : f.stack with
  | nil => rw [hs] at hk; cases hk
  | cons k₀ s =>
    rw [hs] at hch hci hk
    have hcite : refs.Cites k₀ (toLower i) := hci k₀ rfl i hi
    exact Relation.TransGen.tail' (reflTransGen_cites_of_chain hch hk) hcite

/-! ## Where the warnings come from -/

/-- The warnings a frame gives of its own, apart from those of the calls it makes: a footnote
reference with no definition or met again while its key is on the stack, and a link reference
with no definition. -/
def Frame.emits (refs : References) : Frame → List Warning
  | ⟨s, .footnote i⟩ =>
    match refs.footnoteEntry? (toLower i) with
    | none => [.unresolvedFootnote i]
    | some _ => if toLower i ∈ s then [.recursiveFootnote i] else []
  | ⟨_, .inline (.linkReference i _ _)⟩ =>
    match refs.linkUrl? i with
    | some _ => []
    | none => [.unresolvedLink i]
  | _ => []

/-- A defined footnote is refused when its key is on the stack, and otherwise expanded: its
definition's blocks rendered under the key pushed, joined by spaces and trimmed. -/
theorem renderFootnote_of_entry {refs : References} {s : List String} {i : String}
    {e : String × List Block} (he : refs.footnoteEntry? (toLower i) = some e) :
    renderFootnote refs s i =
      if toLower i ∈ s then (none, [.recursiveFootnote i])
      else (some ("#footnote[" ++ trim (joinRendered (renderBlocks refs (toLower i :: s) e.2 0).1 " ")
        ++ "]"), (renderBlocks refs (toLower i :: s) e.2 0).2) := by
  rw [renderFootnote]
  split
  · rename_i hn
    rw [hn] at he
    cases he
  · rename_i k body hb
    rw [hb] at he
    cases he
    by_cases hk : toLower i ∈ s <;> simp [hk]

theorem renderFootnote_of_none {refs : References} {s : List String} {i : String}
    (he : refs.footnoteEntry? (toLower i) = none) :
    renderFootnote refs s i = (none, [.unresolvedFootnote i]) := by
  rw [renderFootnote]
  split
  · rfl
  · rename_i k body hb
    rw [hb] at he
    cases he

/-- The warnings of an item's blocks after its marker line: a block other than a list gives its
warnings whether or not it renders to something. -/
theorem renderItemRest_cons_warnings {refs : References} {s : List String} {b : Block}
    {rest : List Block} {n : Nat} (hb : ∀ o items, b ≠ .list o items) :
    (renderItemRest refs s (b :: rest) n).2 =
      (renderBlock refs s b n).2 ++ (renderItemRest refs s rest n).2 := by
  rw [renderItemRest.eq_3 _ _ _ _ _ (fun o items h => hb o items h)]
  rcases renderBlock refs s b n with ⟨o, w1⟩
  rcases renderItemRest refs s rest n with ⟨rs, w2⟩
  cases o <;> rfl

/-- A warning of a run is the frame's own, or a warning of a call it makes. -/
theorem Frame.mem_warnings_step {refs : References} {f : Frame} {w : Warning}
    (hw : w ∈ (f.run refs).2) : w ∈ f.emits refs ∨ ∃ g, Frame.Calls refs f g ∧ w ∈ (g.run refs).2 := by
  obtain ⟨s, c⟩ := f
  cases c with
  | block b n =>
    cases b with
    | heading d cs => exact .inr ⟨_, .heading, by simpa [Frame.run, renderBlock] using hw⟩
    | paragraph cs =>
      cases ht : isTocMarker refs cs
      · exact .inr ⟨_, .paragraph ht, by simpa [Frame.run, renderBlock, ht] using hw⟩
      · simp [Frame.run, renderBlock, ht] at hw
    | list o items => exact .inr ⟨_, .list, by simpa [Frame.run, renderBlock] using hw⟩
    | blockquote cs => exact .inr ⟨_, .blockquote, by simpa [Frame.run, renderBlock] using hw⟩
    | table a rows =>
      cases rows with
      | nil => simp [Frame.run, renderBlock] at hw
      | cons header body =>
        simp only [Frame.run, renderBlock, List.mem_append] at hw
        rcases hw with hw | hw
        · exact .inr ⟨_, .tableHeader, hw⟩
        · exact .inr ⟨_, .tableBody, hw⟩
    | frontmatter _ | linkDefinition _ _ | footnoteDefinition _ _ | codeBlock _ _ | thematicBreak
    | mathBlock _ =>
      simp [Frame.run, renderBlock] at hw
  | blocks bs n =>
    cases bs with
    | nil => simp [Frame.run, renderBlocks] at hw
    | cons b bs =>
      simp only [Frame.run, renderBlocks, List.mem_append] at hw
      rcases hw with hw | hw
      · exact .inr ⟨_, .blocksHead, hw⟩
      · exact .inr ⟨_, .blocksTail, hw⟩
  | items m items n =>
    cases items with
    | nil => simp [Frame.run, renderItems] at hw
    | cons item items =>
      simp only [Frame.run, renderItems] at hw
      split at hw
      · rename_i cs rest hl
        simp only [List.mem_append] at hw
        rcases hw with (hw | hw) | hw
        · cases ht : isTocMarker refs cs
          · exact .inr ⟨_, .itemLead hl ht, by simpa [Frame.run, ht] using hw⟩
          · simp [ht] at hw
        · exact .inr ⟨_, .itemLeadRest hl, hw⟩
        · exact .inr ⟨_, .itemsTail, hw⟩
      · rename_i hl
        simp only [List.mem_append] at hw
        rcases hw with hw | hw
        · exact .inr ⟨_, .itemBare hl, hw⟩
        · exact .inr ⟨_, .itemsTail, hw⟩
  | itemRest bs n =>
    cases bs with
    | nil => simp [Frame.run, renderItemRest] at hw
    | cons b rest =>
      by_cases hb : ∃ o items, b = .list o items
      · obtain ⟨o, items, rfl⟩ := hb
        simp only [Frame.run, renderItemRest, List.mem_append] at hw
        rcases hw with hw | hw
        · exact .inr ⟨_, .restList, hw⟩
        · exact .inr ⟨_, .restTail, hw⟩
      · have hb : ∀ o items, b ≠ .list o items := fun o items h => hb ⟨o, items, h⟩
        simp only [Frame.run, renderItemRest_cons_warnings hb, List.mem_append] at hw
        rcases hw with hw | hw
        · exact .inr ⟨_, .restBlock hb, hw⟩
        · exact .inr ⟨_, .restTail, hw⟩
  | cells h cs =>
    cases cs with
    | nil => simp [Frame.run, renderCells] at hw
    | cons c cs =>
      simp only [Frame.run, renderCells, List.mem_append] at hw
      rcases hw with hw | hw
      · exact .inr ⟨_, .cellsHead, hw⟩
      · exact .inr ⟨_, .cellsTail, hw⟩
  | rows rows =>
    cases rows with
    | nil => simp [Frame.run, renderRows] at hw
    | cons row rows =>
      simp only [Frame.run, renderRows, List.mem_append] at hw
      rcases hw with hw | hw
      · exact .inr ⟨_, .rowsHead, hw⟩
      · exact .inr ⟨_, .rowsTail, hw⟩
  | inlines xs =>
    cases xs with
    | nil => simp [Frame.run, renderInlines] at hw
    | cons x xs =>
      simp only [Frame.run, renderInlines, List.mem_append] at hw
      rcases hw with hw | hw
      · exact .inr ⟨_, .inlinesHead, hw⟩
      · exact .inr ⟨_, .inlinesTail, hw⟩
  | inline x =>
    cases x with
    | strong cs | emphasis cs | strike cs | highlight cs | subscript cs | superscript cs
    | link _ cs =>
      exact .inr ⟨_, .span rfl, by simpa [Frame.run, renderInline] using hw⟩
    | linkReference i l cs =>
      cases hu : refs.linkUrl? i with
      | some url => exact .inr ⟨_, .span rfl, by simpa [Frame.run, renderInline, hu] using hw⟩
      | none =>
        simp only [Frame.run, renderInline, hu, List.mem_append] at hw
        rcases hw with hw | hw
        · exact .inr ⟨_, .span rfl, hw⟩
        · left
          simpa [Frame.emits, hu] using hw
    | footnoteReference i =>
      exact .inr ⟨_, .reference, by simpa [Frame.run, renderInline] using hw⟩
    | text _ | inlineCode _ | inlineMath _ | image _ _ | lineBreak =>
      simp [Frame.run, renderInline] at hw
  | footnote i =>
    cases he : refs.footnoteEntry? (toLower i) with
    | none =>
      left
      simpa [Frame.run, Frame.emits, renderFootnote_of_none he, he] using hw
    | some e =>
      by_cases hk : toLower i ∈ s
      · left
        simpa [Frame.run, Frame.emits, renderFootnote_of_entry he, he, hk] using hw
      · exact .inr ⟨_, .expand he hk, by simpa [Frame.run, renderFootnote_of_entry he, hk] using hw⟩

/-- Every warning of a run is given by one of its points. -/
theorem Frame.exists_emits_of_mem {refs : References} {w : Warning} (f : Frame)
    (hw : w ∈ (f.run refs).2) :
    ∃ g, Relation.ReflTransGen (Frame.Calls refs) f g ∧ w ∈ g.emits refs := by
  induction f using (Frame.calls_wellFounded refs).induction with
  | _ f ih =>
    rcases Frame.mem_warnings_step hw with he | ⟨g, hfg, hg⟩
    · exact ⟨f, .refl, he⟩
    · obtain ⟨h, hgh, hh⟩ := ih g hfg hg
      exact ⟨h, .head hfg hgh, hh⟩

/-- Only a footnote frame whose key is on its stack refuses a reference. -/
theorem Frame.recursiveFootnote_mem_emits {refs : References} {f : Frame} {i : String}
    (h : Warning.recursiveFootnote i ∈ f.emits refs) :
    f.call = .footnote i ∧ toLower i ∈ f.stack := by
  obtain ⟨s, c⟩ := f
  cases c with
  | footnote j =>
    simp only [Frame.emits] at h
    split at h
    · simp at h
    · split at h
      · simp only [List.mem_singleton, Warning.recursiveFootnote.injEq] at h
        subst h
        exact ⟨rfl, by assumption⟩
      · simp at h
  | inline x =>
    cases x with
    | linkReference j l cs =>
      simp only [Frame.emits] at h
      split at h <;> simp at h
    | _ => simp [Frame.emits] at h
  | _ => simp [Frame.emits] at h

/-- The root blocks are each rendered from the stack the sequence is rendered from. -/
theorem Frame.reach_block_of_mem {refs : References} {s : List String} {n : Nat} :
    ∀ {bs : List Block} {b : Block}, b ∈ bs →
      Relation.ReflTransGen (Frame.Calls refs) ⟨s, .blocks bs n⟩ ⟨s, .block b n⟩
  | [], _, hb => absurd hb List.not_mem_nil
  | _ :: _, _, hb => by
    rcases List.mem_cons.1 hb with rfl | hb
    · exact .single .blocksHead
    · exact .head .blocksTail (Frame.reach_block_of_mem hb)

theorem renderDocument_warnings (doc : Document) (options : Options) (registry : Template.Registry) :
    (renderDocument doc options registry).warnings =
      styleWarnings registry options.style ++ ((Frame.ofDocument doc options).run doc.references).2 :=
  rfl

theorem recursiveFootnote_not_mem_styleWarnings (registry : Template.Registry) (style : Option String)
    (i : String) : Warning.recursiveFootnote i ∉ styleWarnings registry style := by
  cases style with
  | none => simp [styleWarnings]
  | some st =>
    simp only [styleWarnings]
    split <;> simp

/-- A refused reference of a document has its key on a cycle of the footnote graph. -/
theorem recursiveFootnote_cycle {doc : Document} {options : Options} {registry : Template.Registry}
    {i : String} (h : Warning.recursiveFootnote i ∈ (renderDocument doc options registry).warnings) :
    Relation.TransGen doc.references.Cites (toLower i) (toLower i) := by
  rw [renderDocument_warnings, List.mem_append] at h
  rcases h with h | h
  · exact absurd h (recursiveFootnote_not_mem_styleWarnings _ _ _)
  · obtain ⟨g, hg, he⟩ := Frame.exists_emits_of_mem _ h
    obtain ⟨hc, hk⟩ := Frame.recursiveFootnote_mem_emits he
    have hn := (Frame.nested_nil doc.references _).reach hg
    exact hn.cycle (by simp [hc, Call.noteRefs]) hk

/-- Under a footnote graph without cycles, no key that a frame's node cites is on its stack. -/
theorem Frame.Nested.not_mem_of_acyclic {refs : References} {f : Frame} (hf : f.Nested refs)
    (hac : refs.Acyclic) {i : String} (hi : i ∈ f.call.noteRefs) : toLower i ∉ f.stack :=
  fun hk => hac _ (hf.cycle hi hk)

/-- **The footnote stack is a path of the footnote graph, and only cycles are refused.** At
every point of a document's rendering the stack holds distinct keys of the table, each cited by
the definition of the key below it, with the node being rendered inside the definition of the
innermost key; each root block is rendered from an empty stack. A reference to a defined
footnote is expanded, its definition rendered under its key, exactly when the key is not on the
stack; otherwise it renders nothing and gives `recursiveFootnote` with the identifier as
written. So a refused key lies on a cycle of the footnote graph, and when the graph has no
cycle, every rendered reference to a defined footnote is expanded and none is refused. -/
theorem footnote_stack_path (doc : Document) (options : Options) (registry : Template.Registry) :
    (∀ f, Relation.ReflTransGen (Frame.Calls doc.references) (Frame.ofDocument doc options) f →
      f.Nested doc.references) ∧
    (∀ b ∈ bodyBlocks (resolveMetadata doc.references doc.children options).excludedHeading
        doc.children,
      Relation.ReflTransGen (Frame.Calls doc.references) (Frame.ofDocument doc options)
        ⟨[], .block b 0⟩) ∧
    (∀ s i e, doc.references.footnoteEntry? (toLower i) = some e →
      renderInline doc.references s (.footnoteReference i) =
        if toLower i ∈ s then (none, [.recursiveFootnote i])
        else (some ("#footnote[" ++
            trim (joinRendered (renderBlocks doc.references (toLower i :: s) e.2 0).1 " ") ++ "]"),
          (renderBlocks doc.references (toLower i :: s) e.2 0).2)) ∧
    (∀ i, Warning.recursiveFootnote i ∈ (renderDocument doc options registry).warnings →
      Relation.TransGen doc.references.Cites (toLower i) (toLower i)) ∧
    (doc.references.Acyclic →
      (∀ f i e, Relation.ReflTransGen (Frame.Calls doc.references) (Frame.ofDocument doc options) f →
        f.call = .inline (.footnoteReference i) →
        doc.references.footnoteEntry? (toLower i) = some e →
        renderInline doc.references f.stack (.footnoteReference i) =
          (some ("#footnote[" ++
              trim (joinRendered (renderBlocks doc.references (toLower i :: f.stack) e.2 0).1 " ") ++
              "]"),
            (renderBlocks doc.references (toLower i :: f.stack) e.2 0).2)) ∧
      ∀ i, Warning.recursiveFootnote i ∉ (renderDocument doc options registry).warnings) := by
  have hreach : ∀ f, Relation.ReflTransGen (Frame.Calls doc.references)
      (Frame.ofDocument doc options) f → f.Nested doc.references :=
    fun f hf => (Frame.nested_nil _ _).reach hf
  refine ⟨hreach, fun b hb => Frame.reach_block_of_mem hb, ?_, fun i h => recursiveFootnote_cycle h,
    fun hac => ⟨?_, fun i h => hac _ (recursiveFootnote_cycle h)⟩⟩
  · intro s i e he
    simp only [renderInline]
    exact renderFootnote_of_entry he
  · intro f i e hf hc he
    have hk : toLower i ∉ f.stack :=
      (hreach f hf).not_mem_of_acyclic hac (by simp [hc, Call.noteRefs, Inline.noteRefs])
    simp only [renderInline]
    rw [renderFootnote_of_entry he, if_neg hk]

end Typeset.Render
