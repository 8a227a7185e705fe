import Typeset.Render.Context
import Typeset.Proofs.Render.Footnotes

/-!
The body writer as one conversion runs it, with one context threaded through every call.

`Runs ctx c o ctx'` says that the call `c` of the writer, given the context `ctx`, returns `o` and
hands back `ctx'`. Its rules follow the writer's code path by path: the parts of a node run one
after another, each given the context the one before handed back; a warning is appended to the
context; a footnote reference enters its key, runs the definition's blocks and leaves the key
again, or gives a warning and nothing when the table has no definition or the key is already
being expanded.

Every rule hands back the footnote stack and the tables it was given, and only appends warnings
(`RenderContext.Keeps`), so every run does (`Runs.keeps`): the one rule that changes the stack, a
footnote expansion, enters its key before the body and leaves it after, and the body's run hands
back the stack with the key on top. A call runs one way only (`Runs.deterministic`), and it does
run, from every context: its run returns what the writer returns under the context's table and
stack, with the writer's warnings appended (`Call.runs`). The induction is on the writer's calls,
which are well-founded. Together, every call of the writer returns and keeps the context
(`writer_keeps_context`).
-/

namespace Typeset.Render

open Text Typst

/-- How one conversion runs a call of the body writer with its context threaded through:
`Runs ctx c o ctx'` says that `c`, given the context `ctx`, returns `o` and hands back `ctx'`. One
rule for each path through the writer. -/
inductive Runs : RenderContext → (c : Call) → c.Out → RenderContext → Prop
  | frontmatter {ctx v n} : Runs ctx (.block (.frontmatter v) n) none ctx
  | linkDefinition {ctx i url n} : Runs ctx (.block (.linkDefinition i url) n) none ctx
  | footnoteDefinition {ctx i body n} : Runs ctx (.block (.footnoteDefinition i body) n) none ctx
  | heading {ctx ctx' d cs n} {r : String} (h : Runs ctx (.inlines cs) r ctx') :
      Runs ctx (.block (.heading d cs) n) (some (indentLines (headingMarker d ++ " " ++ r) n)) ctx'
  | toc {ctx cs n} (ht : isTocMarker ctx.references cs = true) :
      Runs ctx (.block (.paragraph cs) n) (some (indentLines outline n)) ctx
  | paragraph {ctx ctx' cs n} {r : String} (ht : isTocMarker ctx.references cs = false)
      (h : Runs ctx (.inlines cs) r ctx') :
      Runs ctx (.block (.paragraph cs) n) (some (indentLines r n)) ctx'
  | list {ctx ctx' o items n} {ls : List String}
      (h : Runs ctx (.items (if o then "+" else "-") items n) ls ctx') :
      Runs ctx (.block (.list o items) n) (some (joinRendered (ls.map some) "\n")) ctx'
  | codeBlock {ctx l v n} : Runs ctx (.block (.codeBlock l v) n) (some (codeBlock l v n)) ctx
  | blockquote {ctx ctx' cs n} {parts : List (Option String)}
      (h : Runs ctx (.blocks cs 0) parts ctx') :
      Runs ctx (.block (.blockquote cs) n) (some (quoteMarkup (joinRendered parts "\n\n") n)) ctx'
  | thematicBreak {ctx n} : Runs ctx (.block .thematicBreak n) (some (indentLines ruleLine n)) ctx
  | emptyTable {ctx a n} : Runs ctx (.block (.table a []) n) none ctx
  | table {ctx ctx₁ ctx₂ a header body n} {hs bs : List String}
      (h₁ : Runs ctx (.cells true header) hs ctx₁) (h₂ : Runs ctx₁ (.rows body) bs ctx₂) :
      Runs ctx (.block (.table a (header :: body)) n)
        (some (tableMarkup header.length a (hs ++ bs) n)) ctx₂
  | mathBlock {ctx v n} :
      Runs ctx (.block (.mathBlock v) n) (some (indentLines ("$ " ++ trim v ++ " $") n)) ctx
  | blocksNil {ctx n} : Runs ctx (.blocks [] n) [] ctx
  | blocksCons {ctx ctx₁ ctx₂ b bs n} {o : Option String} {os : List (Option String)}
      (h₁ : Runs ctx (.block b n) o ctx₁) (h₂ : Runs ctx₁ (.blocks bs n) os ctx₂) :
      Runs ctx (.blocks (b :: bs) n) (o :: os) ctx₂
  | itemsNil {ctx m n} : Runs ctx (.items m [] n) [] ctx
  | itemToc {ctx ctx₁ ctx₂ m item items n cs rest} {ls is : List String}
      (hl : leadParagraph? item = some (cs, rest)) (ht : isTocMarker ctx.references cs = true)
      (h₁ : Runs ctx (.itemRest rest (n + 1)) ls ctx₁) (h₂ : Runs ctx₁ (.items m items n) is ctx₂) :
      Runs ctx (.items m (item :: items) n)
        ("\n".intercalate
          ((String.ofList (List.replicate (2 * n) ' ') ++ m ++ " " ++ outline) :: ls) :: is) ctx₂
  | itemLead {ctx ctx₁ ctx₂ ctx₃ m item items n cs rest} {p : String} {ls is : List String}
      (hl : leadParagraph? item = some (cs, rest)) (ht : isTocMarker ctx.references cs = false)
      (h₁ : Runs ctx (.inlines cs) p ctx₁) (h₂ : Runs ctx₁ (.itemRest rest (n + 1)) ls ctx₂)
      (h₃ : Runs ctx₂ (.items m items n) is ctx₃) :
      Runs ctx (.items m (item :: items) n)
        ("\n".intercalate ((String.ofList (List.replicate (2 * n) ' ') ++ m ++ " " ++ p) :: ls)
          :: is) ctx₃
  | itemBare {ctx ctx₁ ctx₂ m item items n} {ls is : List String} (hl : leadParagraph? item = none)
      (h₁ : Runs ctx (.itemRest item (n + 1)) ls ctx₁) (h₂ : Runs ctx₁ (.items m items n) is ctx₂) :
      Runs ctx (.items m (item :: items) n)
        ("\n".intercalate ((String.ofList (List.replicate (2 * n) ' ') ++ m) :: ls) :: is) ctx₂
  | restNil {ctx n} : Runs ctx (.itemRest [] n) [] ctx
  | restList {ctx ctx₁ ctx₂ o items rest n} {ls rs : List String}
      (h₁ : Runs ctx (.items (if o then "+" else "-") items n) ls ctx₁)
      (h₂ : Runs ctx₁ (.itemRest rest n) rs ctx₂) :
      Runs ctx (.itemRest (.list o items :: rest) n) (joinRendered (ls.map some) "\n" :: rs) ctx₂
  | restBlock {ctx ctx₁ ctx₂ b rest n} {o : Option String} {rs : List String}
      (hb : ∀ o items, b ≠ .list o items) (h₁ : Runs ctx (.block b n) o ctx₁)
      (h₂ : Runs ctx₁ (.itemRest rest n) rs ctx₂) :
      Runs ctx (.itemRest (b :: rest) n) ((o.filter (!·.isEmpty)).toList ++ rs) ctx₂
  | cellsNil {ctx h} : Runs ctx (.cells h []) [] ctx
  | cellsCons {ctx ctx₁ ctx₂ h c cs} {r : String} {rs : List String}
      (h₁ : Runs ctx (.inlines c) r ctx₁) (h₂ : Runs ctx₁ (.cells h cs) rs ctx₂) :
      Runs ctx (.cells h (c :: cs)) (cellMarkup h r :: rs) ctx₂
  | rowsNil {ctx} : Runs ctx (.rows []) [] ctx
  | rowsCons {ctx ctx₁ ctx₂ row rows} {r rs : List String}
      (h₁ : Runs ctx (.cells false row) r ctx₁) (h₂ : Runs ctx₁ (.rows rows) rs ctx₂) :
      Runs ctx (.rows (row :: rows)) (r ++ rs) ctx₂
  | inlinesNil {ctx} : Runs ctx (.inlines []) "" ctx
  | inlinesCons {ctx ctx₁ ctx₂ x xs} {o : Option String} {r : String}
      (h₁ : Runs ctx (.inline x) o ctx₁) (h₂ : Runs ctx₁ (.inlines xs) r ctx₂) :
      Runs ctx (.inlines (x :: xs)) (o.getD "" ++ r) ctx₂
  | text {ctx v} : Runs ctx (.inline (.text v)) (some (escapeText v)) ctx
  | strong {ctx ctx' cs} {r : String} (h : Runs ctx (.inlines cs) r ctx') :
      Runs ctx (.inline (.strong cs)) (some ("*" ++ r ++ "*")) ctx'
  | emphasis {ctx ctx' cs} {r : String} (h : Runs ctx (.inlines cs) r ctx') :
      Runs ctx (.inline (.emphasis cs)) (some ("_" ++ r ++ "_")) ctx'
  | strike {ctx ctx' cs} {r : String} (h : Runs ctx (.inlines cs) r ctx') :
      Runs ctx (.inline (.strike cs)) (some ("#strike[" ++ r ++ "]")) ctx'
  | highlight {ctx ctx' cs} {r : String} (h : Runs ctx (.inlines cs) r ctx') :
      Runs ctx (.inline (.highlight cs)) (some ("#highlight[" ++ r ++ "]")) ctx'
  | subscript {ctx ctx' cs} {r : String} (h : Runs ctx (.inlines cs) r ctx') :
      Runs ctx (.inline (.subscript cs)) (some ("#sub[" ++ r ++ "]")) ctx'
  | superscript {ctx ctx' cs} {r : String} (h : Runs ctx (.inlines cs) r ctx') :
      Runs ctx (.inline (.superscript cs)) (some ("#super[" ++ r ++ "]")) ctx'
  | reference {ctx ctx' i} {o : Option String} (h : Runs ctx (.footnote i) o ctx') :
      Runs ctx (.inline (.footnoteReference i)) o ctx'
  | inlineCode {ctx v} : Runs ctx (.inline (.inlineCode v)) (some (inlineCode v)) ctx
  | inlineMath {ctx v} : Runs ctx (.inline (.inlineMath v)) (some ("$" ++ trim v ++ "$")) ctx
  | image {ctx url alt} :
      Runs ctx (.inline (.image url alt)) (some ("#image(\"" ++ escapeString url ++ "\")")) ctx
  | link {ctx ctx' url cs} {r : String} (h : Runs ctx (.inlines cs) r ctx') :
      Runs ctx (.inline (.link url cs)) (some (hyperlink url r)) ctx'
  | linkResolved {ctx ctx' i l cs url} {r : String} (h : Runs ctx (.inlines cs) r ctx')
      (hu : ctx'.references.linkUrl? i = some url) :
      Runs ctx (.inline (.linkReference i l cs)) (some (hyperlink url r)) ctx'
  | linkUnresolved {ctx ctx' i l cs} {r : String} (h : Runs ctx (.inlines cs) r ctx')
      (hu : ctx'.references.linkUrl? i = none) :
      Runs ctx (.inline (.linkReference i l cs))
        (some (if r.isEmpty then escapeText (literalLabel l i) else r))
        (ctx'.warn (.unresolvedLink i))
  | lineBreak {ctx} : Runs ctx (.inline .lineBreak) (some "\\\n") ctx
  | unresolvedFootnote {ctx i} (he : ctx.references.footnoteEntry? (toLower i) = none) :
      Runs ctx (.footnote i) none (ctx.warn (.unresolvedFootnote i))
  | recursiveFootnote {ctx i e} (he : ctx.references.footnoteEntry? (toLower i) = some e)
      (hk : ctx.enterFootnote (toLower i) = none) :
      Runs ctx (.footnote i) none (ctx.warn (.recursiveFootnote i))
  | expand {ctx ctx₁ ctx₂ i k body} {parts : List (Option String)}
      (he : ctx.references.footnoteEntry? (toLower i) = some (k, body))
      (hk : ctx.enterFootnote (toLower i) = some ctx₁) (h : Runs ctx₁ (.blocks body 0) parts ctx₂) :
      Runs ctx (.footnote i) (some ("#footnote[" ++ trim (joinRendered parts " ") ++ "]"))
        ctx₂.exitFootnote

/-! ## Every run keeps the context -/

/-- A call keeps the context it was given: it hands back the same footnote stack and tables, and
the warnings it was given with its own after them. -/
structure RenderContext.Keeps (before after : RenderContext) : Prop where
  footnoteStack : after.footnoteStack = before.footnoteStack
  warnings : before.warnings <+: after.warnings
  references : after.references = before.references

namespace RenderContext.Keeps

theorem refl (ctx : RenderContext) : ctx.Keeps ctx := ⟨rfl, List.prefix_refl _, rfl⟩

theorem trans {a b c : RenderContext} (hab : a.Keeps b) (hbc : b.Keeps c) : a.Keeps c :=
  ⟨hbc.footnoteStack.trans hab.footnoteStack, hab.warnings.trans hbc.warnings,
    hbc.references.trans hab.references⟩

theorem warn {a b : RenderContext} (h : a.Keeps b) (w : Warning) : a.Keeps (b.warn w) :=
  ⟨h.footnoteStack, h.warnings.trans (List.prefix_append _ _), h.references⟩

/-- Entering a key, running something that keeps the context, and leaving the key again keeps
the context: what the body hands back has the key on top of the stack it was given. -/
theorem footnote {ctx ctx₁ ctx₂ : RenderContext} {key : String}
    (hk : ctx.enterFootnote key = some ctx₁) (h : ctx₁.Keeps ctx₂) :
    ctx.Keeps ctx₂.exitFootnote := by
  unfold RenderContext.enterFootnote at hk
  split at hk
  · cases hk
  · cases hk
    refine ⟨?_, h.warnings, h.references⟩
    simp [RenderContext.exitFootnote, h.footnoteStack]

end RenderContext.Keeps

/-- **Every run keeps the context.** Whatever call runs, from whatever context, it hands back the
footnote stack and the tables it was given, and the warnings it was given with its own after them.
The induction is on the run. -/
theorem Runs.keeps {ctx ctx' : RenderContext} {c : Call} {o : c.Out} (h : Runs ctx c o ctx') :
    ctx.Keeps ctx' := by
  induction h with
  | frontmatter | linkDefinition | footnoteDefinition | toc _ | codeBlock | thematicBreak
  | emptyTable | mathBlock | blocksNil | itemsNil | restNil | cellsNil | rowsNil | inlinesNil
  | text | inlineCode | inlineMath | image | lineBreak =>
    exact .refl _
  | heading _ ih | paragraph _ _ ih | list _ ih | blockquote _ ih | strong _ ih | emphasis _ ih
  | strike _ ih | highlight _ ih | subscript _ ih | superscript _ ih | reference _ ih | link _ ih
  | linkResolved _ _ ih =>
    exact ih
  | table _ _ ih₁ ih₂ | blocksCons _ _ ih₁ ih₂ | itemToc _ _ _ _ ih₁ ih₂ | itemBare _ _ _ ih₁ ih₂
  | restList _ _ ih₁ ih₂ | restBlock _ _ _ ih₁ ih₂ | cellsCons _ _ ih₁ ih₂ | rowsCons _ _ ih₁ ih₂
  | inlinesCons _ _ ih₁ ih₂ =>
    exact ih₁.trans ih₂
  | itemLead _ _ _ _ _ ih₁ ih₂ ih₃ => exact (ih₁.trans ih₂).trans ih₃
  | linkUnresolved _ _ ih => exact ih.warn _
  | unresolvedFootnote _ | recursiveFootnote _ _ => exact (RenderContext.Keeps.refl _).warn _
  | expand _ hk _ ih => exact RenderContext.Keeps.footnote hk ih

/-! ## A call runs one way -/

/-- A call runs one way only: the side conditions of the rules for one call exclude each other,
and the parts of a node run from the contexts the parts before them hand back. -/
theorem Runs.deterministic {ctx ctx₁ ctx₂ : RenderContext} {c : Call} {o₁ o₂ : c.Out}
    (h₁ : Runs ctx c o₁ ctx₁) (h₂ : Runs ctx c o₂ ctx₂) : o₁ = o₂ ∧ ctx₁ = ctx₂ := by
  induction h₁ generalizing ctx₂ with
  | frontmatter | linkDefinition | footnoteDefinition | codeBlock | thematicBreak | emptyTable
  | mathBlock | blocksNil | itemsNil | restNil | cellsNil | rowsNil | inlinesNil | text
  | inlineCode | inlineMath | image | lineBreak =>
    cases h₂
    exact ⟨rfl, rfl⟩
  | heading _ ih | list _ ih | blockquote _ ih | strong _ ih | emphasis _ ih | strike _ ih
  | highlight _ ih | subscript _ ih | superscript _ ih | reference _ ih | link _ ih =>
    cases h₂
    rename_i g
    obtain ⟨rfl, rfl⟩ := ih g
    exact ⟨rfl, rfl⟩
  | table _ _ ih₁ ih₂ | blocksCons _ _ ih₁ ih₂ | cellsCons _ _ ih₁ ih₂ | rowsCons _ _ ih₁ ih₂
  | inlinesCons _ _ ih₁ ih₂ =>
    cases h₂
    rename_i g₁ g₂
    obtain ⟨rfl, rfl⟩ := ih₁ g₁
    obtain ⟨rfl, rfl⟩ := ih₂ g₂
    exact ⟨rfl, rfl⟩
  | toc ht =>
    cases h₂ with
    | toc _ => exact ⟨rfl, rfl⟩
    | paragraph ht' _ => cases ht.symm.trans ht'
  | paragraph ht _ ih =>
    cases h₂ with
    | toc ht' => cases ht.symm.trans ht'
    | paragraph _ g =>
      obtain ⟨rfl, rfl⟩ := ih g
      exact ⟨rfl, rfl⟩
  | itemToc hl ht _ _ ih₁ ih₂ =>
    cases h₂ with
    | itemToc hl' _ g₁ g₂ =>
      cases hl.symm.trans hl'
      obtain ⟨rfl, rfl⟩ := ih₁ g₁
      obtain ⟨rfl, rfl⟩ := ih₂ g₂
      exact ⟨rfl, rfl⟩
    | itemLead hl' ht' _ _ _ =>
      cases hl.symm.trans hl'
      cases ht.symm.trans ht'
    | itemBare hl' _ _ => cases hl.symm.trans hl'
  | itemLead hl ht _ _ _ ih₁ ih₂ ih₃ =>
    cases h₂ with
    | itemToc hl' ht' _ _ =>
      cases hl.symm.trans hl'
      cases ht.symm.trans ht'
    | itemLead hl' _ g₁ g₂ g₃ =>
      cases hl.symm.trans hl'
      obtain ⟨rfl, rfl⟩ := ih₁ g₁
      obtain ⟨rfl, rfl⟩ := ih₂ g₂
      obtain ⟨rfl, rfl⟩ := ih₃ g₃
      exact ⟨rfl, rfl⟩
    | itemBare hl' _ _ => cases hl.symm.trans hl'
  | itemBare hl _ _ ih₁ ih₂ =>
    cases h₂ with
    | itemToc hl' _ _ _ | itemLead hl' _ _ _ _ => cases hl.symm.trans hl'
    | itemBare _ g₁ g₂ =>
      obtain ⟨rfl, rfl⟩ := ih₁ g₁
      obtain ⟨rfl, rfl⟩ := ih₂ g₂
      exact ⟨rfl, rfl⟩
  | restList _ _ ih₁ ih₂ =>
    cases h₂ with
    | restList g₁ g₂ =>
      obtain ⟨rfl, rfl⟩ := ih₁ g₁
      obtain ⟨rfl, rfl⟩ := ih₂ g₂
      exact ⟨rfl, rfl⟩
    | restBlock hb _ _ => exact absurd rfl (hb _ _)
  | restBlock hb _ _ ih₁ ih₂ =>
    cases h₂ with
    | restList _ _ => exact absurd rfl (hb _ _)
    | restBlock _ g₁ g₂ =>
      obtain ⟨rfl, rfl⟩ := ih₁ g₁
      obtain ⟨rfl, rfl⟩ := ih₂ g₂
      exact ⟨rfl, rfl⟩
  | linkResolved _ hu ih =>
    cases h₂ with
    | linkResolved g hu' =>
      obtain ⟨rfl, rfl⟩ := ih g
      cases hu.symm.trans hu'
      exact ⟨rfl, rfl⟩
    | linkUnresolved g hu' =>
      obtain ⟨rfl, rfl⟩ := ih g
      cases hu.symm.trans hu'
  | linkUnresolved _ hu ih =>
    cases h₂ with
    | linkResolved g hu' =>
      obtain ⟨rfl, rfl⟩ := ih g
      cases hu.symm.trans hu'
    | linkUnresolved g _ =>
      obtain ⟨rfl, rfl⟩ := ih g
      exact ⟨rfl, rfl⟩
  | unresolvedFootnote he =>
    cases h₂ with
    | unresolvedFootnote _ => exact ⟨rfl, rfl⟩
    | recursiveFootnote he' _ | expand he' _ _ => cases he.symm.trans he'
  | recursiveFootnote he hk =>
    cases h₂ with
    | unresolvedFootnote he' => cases he.symm.trans he'
    | recursiveFootnote _ _ => exact ⟨rfl, rfl⟩
    | expand _ hk' _ => cases hk.symm.trans hk'
  | expand he hk _ ih =>
    cases h₂ with
    | unresolvedFootnote he' => cases he.symm.trans he'
    | recursiveFootnote _ hk' => cases hk.symm.trans hk'
    | expand he' hk' g =>
      cases he.symm.trans he'
      cases hk.symm.trans hk'
      obtain ⟨rfl, rfl⟩ := ih g
      exact ⟨rfl, rfl⟩

/-! ## Every call runs, as the writer renders it -/

/-- The run of a frame from any warnings so far: the writer's markup, with the writer's warnings
after those so far, and the table and the stack as they were. -/
def Frame.HasRun (refs : References) (f : Frame) : Prop :=
  ∀ ws, Runs ⟨refs, ws, f.stack⟩ f.call (f.run refs).1 ⟨refs, ws ++ (f.run refs).2, f.stack⟩

/-- The lines after an item's marker line that a block other than a list gives: its markup when
it renders to something nonempty. -/
theorem renderItemRest_cons_of_ne {refs : References} {s : List String} {b : Block}
    {rest : List Block} {n : Nat} (hb : ∀ o items, b ≠ .list o items) :
    renderItemRest refs s (b :: rest) n =
      (((renderBlock refs s b n).1.filter (!·.isEmpty)).toList ++ (renderItemRest refs s rest n).1,
        (renderBlock refs s b n).2 ++ (renderItemRest refs s rest n).2) := by
  rw [renderItemRest.eq_3 _ _ _ _ _ (fun o items h => hb o items h)]
  rcases renderBlock refs s b n with ⟨o, w1⟩
  rcases renderItemRest refs s rest n with ⟨rs, w2⟩
  cases o with
  | none => rfl
  | some r => cases hr : r.isEmpty <;> simp [Option.filter, hr]

section Step

/-! One lemma for each function of the writer: its run is built from the runs of the calls it
makes, the warnings regrouped to the order the context receives them. -/

variable {refs : References} {s : List String}

theorem Frame.hasRun_block {b : Block} {n : Nat}
    (ih : ∀ g, Frame.Calls refs ⟨s, .block b n⟩ g → g.HasRun refs) :
    Frame.HasRun refs ⟨s, .block b n⟩ := by
  intro ws
  show Runs ⟨refs, ws, s⟩ (.block b n) (renderBlock refs s b n).1
    ⟨refs, ws ++ (renderBlock refs s b n).2, s⟩
  cases b with
  | heading d cs =>
    simp only [renderBlock]
    exact Runs.heading (ih _ .heading ws)
  | paragraph cs =>
    cases ht : isTocMarker refs cs
    · simp only [renderBlock, ht, Bool.false_eq_true, if_false]
      exact Runs.paragraph ht (ih _ (.paragraph ht) ws)
    · simp only [renderBlock, ht, if_true, List.append_nil]
      exact Runs.toc ht
  | list o items =>
    simp only [renderBlock]
    exact Runs.list (ih _ .list ws)
  | blockquote cs =>
    simp only [renderBlock]
    exact Runs.blockquote (ih _ .blockquote ws)
  | table a rows =>
    cases rows with
    | nil =>
      simp only [renderBlock, List.append_nil]
      exact Runs.emptyTable
    | cons header body =>
      simp only [renderBlock, ← List.append_assoc]
      exact Runs.table (ih _ .tableHeader ws) (ih _ .tableBody _)
  | frontmatter _ | linkDefinition _ _ | footnoteDefinition _ _ | codeBlock _ _ | thematicBreak
  | mathBlock _ =>
    -- a block that calls nothing: its one rule, with no warnings
    simp only [renderBlock, List.append_nil]
    constructor

theorem Frame.hasRun_blocks {bs : List Block} {n : Nat}
    (ih : ∀ g, Frame.Calls refs ⟨s, .blocks bs n⟩ g → g.HasRun refs) :
    Frame.HasRun refs ⟨s, .blocks bs n⟩ := by
  intro ws
  show Runs ⟨refs, ws, s⟩ (.blocks bs n) (renderBlocks refs s bs n).1
    ⟨refs, ws ++ (renderBlocks refs s bs n).2, s⟩
  cases bs with
  | nil =>
    simp only [renderBlocks, List.append_nil]
    exact Runs.blocksNil
  | cons b bs =>
    simp only [renderBlocks, ← List.append_assoc]
    exact Runs.blocksCons (ih _ .blocksHead ws) (ih _ .blocksTail _)

theorem Frame.hasRun_items {m : String} {items : List (List Block)} {n : Nat}
    (ih : ∀ g, Frame.Calls refs ⟨s, .items m items n⟩ g → g.HasRun refs) :
    Frame.HasRun refs ⟨s, .items m items n⟩ := by
  intro ws
  show Runs ⟨refs, ws, s⟩ (.items m items n) (renderItems refs s m items n).1
    ⟨refs, ws ++ (renderItems refs s m items n).2, s⟩
  cases items with
  | nil =>
    simp only [renderItems, List.append_nil]
    exact Runs.itemsNil
  | cons item items =>
    rw [renderItems.eq_2]
    split
    next cs rest hl =>
      -- the marker line holds the lead paragraph, or the outline it stands for
      cases ht : isTocMarker refs cs
      · simp only [Bool.false_eq_true, if_false, ← List.append_assoc]
        exact Runs.itemLead hl ht (ih _ (.itemLead hl ht) ws) (ih _ (.itemLeadRest hl) _)
          (ih _ .itemsTail _)
      · simp only [if_true, List.nil_append, ← List.append_assoc]
        exact Runs.itemToc hl ht (ih _ (.itemLeadRest hl) ws) (ih _ .itemsTail _)
    next hl =>
      simp only [← List.append_assoc]
      exact Runs.itemBare hl (ih _ (.itemBare hl) ws) (ih _ .itemsTail _)

theorem Frame.hasRun_itemRest {bs : List Block} {n : Nat}
    (ih : ∀ g, Frame.Calls refs ⟨s, .itemRest bs n⟩ g → g.HasRun refs) :
    Frame.HasRun refs ⟨s, .itemRest bs n⟩ := by
  intro ws
  show Runs ⟨refs, ws, s⟩ (.itemRest bs n) (renderItemRest refs s bs n).1
    ⟨refs, ws ++ (renderItemRest refs s bs n).2, s⟩
  cases bs with
  | nil =>
    simp only [renderItemRest, List.append_nil]
    exact Runs.restNil
  | cons b rest =>
    by_cases hl : ∃ o items, b = .list o items
    · obtain ⟨o, items, rfl⟩ := hl
      simp only [renderItemRest, ← List.append_assoc]
      exact Runs.restList (ih _ .restList ws) (ih _ .restTail _)
    · have hb : ∀ o items, b ≠ .list o items := fun o items h => hl ⟨o, items, h⟩
      rw [renderItemRest_cons_of_ne hb, ← List.append_assoc]
      exact Runs.restBlock hb (ih _ (.restBlock hb) ws) (ih _ .restTail _)

theorem Frame.hasRun_cells {h : Bool} {cs : List (List Inline)}
    (ih : ∀ g, Frame.Calls refs ⟨s, .cells h cs⟩ g → g.HasRun refs) :
    Frame.HasRun refs ⟨s, .cells h cs⟩ := by
  intro ws
  show Runs ⟨refs, ws, s⟩ (.cells h cs) (renderCells refs s h cs).1
    ⟨refs, ws ++ (renderCells refs s h cs).2, s⟩
  cases cs with
  | nil =>
    simp only [renderCells, List.append_nil]
    exact Runs.cellsNil
  | cons c cs =>
    simp only [renderCells, ← List.append_assoc]
    exact Runs.cellsCons (ih _ .cellsHead ws) (ih _ .cellsTail _)

theorem Frame.hasRun_rows {rows : List (List (List Inline))}
    (ih : ∀ g, Frame.Calls refs ⟨s, .rows rows⟩ g → g.HasRun refs) :
    Frame.HasRun refs ⟨s, .rows rows⟩ := by
  intro ws
  show Runs ⟨refs, ws, s⟩ (.rows rows) (renderRows refs s rows).1
    ⟨refs, ws ++ (renderRows refs s rows).2, s⟩
  cases rows with
  | nil =>
    simp only [renderRows, List.append_nil]
    exact Runs.rowsNil
  | cons row rows =>
    simp only [renderRows, ← List.append_assoc]
    exact Runs.rowsCons (ih _ .rowsHead ws) (ih _ .rowsTail _)

theorem Frame.hasRun_inlines {xs : List Inline}
    (ih : ∀ g, Frame.Calls refs ⟨s, .inlines xs⟩ g → g.HasRun refs) :
    Frame.HasRun refs ⟨s, .inlines xs⟩ := by
  intro ws
  show Runs ⟨refs, ws, s⟩ (.inlines xs) (renderInlines refs s xs).1
    ⟨refs, ws ++ (renderInlines refs s xs).2, s⟩
  cases xs with
  | nil =>
    simp only [renderInlines, List.append_nil]
    exact Runs.inlinesNil
  | cons x xs =>
    simp only [renderInlines, ← List.append_assoc]
    exact Runs.inlinesCons (ih _ .inlinesHead ws) (ih _ .inlinesTail _)

theorem Frame.hasRun_inline {x : Inline}
    (ih : ∀ g, Frame.Calls refs ⟨s, .inline x⟩ g → g.HasRun refs) :
    Frame.HasRun refs ⟨s, .inline x⟩ := by
  intro ws
  show Runs ⟨refs, ws, s⟩ (.inline x) (renderInline refs s x).1
    ⟨refs, ws ++ (renderInline refs s x).2, s⟩
  cases x with
  | strong cs | emphasis cs | strike cs | highlight cs | subscript cs | superscript cs
  | link _ cs =>
    -- markup around the children, which run from the same context
    simp only [renderInline]
    constructor
    exact ih _ (.span rfl) ws
  | linkReference i l cs =>
    cases hu : refs.linkUrl? i with
    | some url =>
      simp only [renderInline, hu]
      exact Runs.linkResolved (ih _ (.span rfl) ws) hu
    | none =>
      simp only [renderInline, hu, ← List.append_assoc]
      exact Runs.linkUnresolved (ih _ (.span rfl) ws) hu
  | footnoteReference i =>
    simp only [renderInline]
    exact Runs.reference (ih _ .reference ws)
  | text _ | inlineCode _ | inlineMath _ | image _ _ | lineBreak =>
    simp only [renderInline, List.append_nil]
    constructor

theorem Frame.hasRun_footnote {i : String}
    (ih : ∀ g, Frame.Calls refs ⟨s, .footnote i⟩ g → g.HasRun refs) :
    Frame.HasRun refs ⟨s, .footnote i⟩ := by
  intro ws
  show Runs ⟨refs, ws, s⟩ (.footnote i) (renderFootnote refs s i).1
    ⟨refs, ws ++ (renderFootnote refs s i).2, s⟩
  cases he : refs.footnoteEntry? (toLower i) with
  | none =>
    rw [renderFootnote_of_none he]
    exact Runs.unresolvedFootnote he
  | some e =>
    rw [renderFootnote_of_entry he]
    by_cases hs : toLower i ∈ s
    · simp only [hs, if_true]
      exact Runs.recursiveFootnote he (by simp [hs])
    · -- the definition's blocks run with the key on the stack, and leaving it restores `s`
      simp only [hs, if_false]
      exact Runs.expand he (by simp [hs]) (ih _ (.expand he hs) ws)

theorem Frame.hasRun_step {f : Frame} (ih : ∀ g, Frame.Calls refs f g → g.HasRun refs) :
    f.HasRun refs := by
  obtain ⟨s, c⟩ := f
  cases c with
  | block b n => exact Frame.hasRun_block ih
  | blocks bs n => exact Frame.hasRun_blocks ih
  | items m is n => exact Frame.hasRun_items ih
  | itemRest bs n => exact Frame.hasRun_itemRest ih
  | cells h cs => exact Frame.hasRun_cells ih
  | rows rs => exact Frame.hasRun_rows ih
  | inlines xs => exact Frame.hasRun_inlines ih
  | inline x => exact Frame.hasRun_inline ih
  | footnote i => exact Frame.hasRun_footnote ih

end Step

/-- Every frame has its run. The induction is on the calls, which are well-founded. -/
theorem Frame.hasRun (refs : References) (f : Frame) : f.HasRun refs := by
  induction f using (Frame.calls_wellFounded refs).induction with
  | _ f ih => exact Frame.hasRun_step ih

/-- **Every call runs**, from every context: it returns what the writer returns under the
context's table and stack, and hands back the context with the writer's warnings appended. -/
theorem Call.runs (ctx : RenderContext) (c : Call) :
    Runs ctx c (Frame.run ctx.references ⟨ctx.footnoteStack, c⟩).1
      ⟨ctx.references, ctx.warnings ++ (Frame.run ctx.references ⟨ctx.footnoteStack, c⟩).2,
        ctx.footnoteStack⟩ :=
  Frame.hasRun ctx.references ⟨ctx.footnoteStack, c⟩ ctx.warnings

/-- Whatever a run returns is the writer's result. -/
theorem Runs.eq_run {ctx ctx' : RenderContext} {c : Call} {o : c.Out} (h : Runs ctx c o ctx') :
    o = (Frame.run ctx.references ⟨ctx.footnoteStack, c⟩).1 ∧
      ctx' = ⟨ctx.references, ctx.warnings ++ (Frame.run ctx.references ⟨ctx.footnoteStack, c⟩).2,
        ctx.footnoteStack⟩ :=
  h.deterministic (Call.runs ctx c)

/-- The context threaded through the body writer is kept. From every context, each call of the
writer (a block, an inline, an inline sequence, and every function they call) returns the
writer's markup and hands back the context with the writer's warnings appended; and every run
of a call hands back the footnote stack and the tables it was given, and the warnings it was
given with its own after them. -/
theorem writer_keeps_context (ctx : RenderContext) (c : Call) :
    Runs ctx c (Frame.run ctx.references ⟨ctx.footnoteStack, c⟩).1
        ⟨ctx.references, ctx.warnings ++ (Frame.run ctx.references ⟨ctx.footnoteStack, c⟩).2,
          ctx.footnoteStack⟩ ∧
      ∀ o ctx', Runs ctx c o ctx' → ctx.Keeps ctx' :=
  ⟨Call.runs ctx c, fun _ _ h => h.keeps⟩

end Typeset.Render
