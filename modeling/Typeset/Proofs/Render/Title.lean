import Typeset.Proofs.Render.Calls
import Mathlib.Data.List.DropRight

/-!
Which root blocks make the body, and where the title, the authors and the language come from.

The metadata is merged from four places, the first that gives a value winning: the caller's
options, the fields of the first frontmatter block among the root blocks, the leading title
heading (for the title only), and the defaults (empty, none, Chinese). The leading title heading
is the first root block other than frontmatter and link definitions, when it is a level-1
heading with nonblank plain text (`LeadingHeading`). It is left out of the body exactly when its
text is the resolved title, both trimmed; every other root block is rendered, in order, each from
an empty footnote stack (`renderDocument_title_and_body`).
-/

namespace Typeset.Render

open Text

/-! ## Trimming twice -/

theorem dropTrailingBlanks_eq_rdropWhile (cs : List Char) :
    dropTrailingBlanks cs = cs.rdropWhile isBlank := rfl

/-- Trailing blanks dropped from a text with no leading blank leave no leading blank. -/
theorem dropBlanks_dropTrailingBlanks_dropBlanks (cs : List Char) :
    dropBlanks (dropTrailingBlanks (dropBlanks cs)) = dropTrailingBlanks (dropBlanks cs) := by
  rw [dropTrailingBlanks_eq_rdropWhile]
  obtain ⟨rest, hrest⟩ := (List.rdropWhile_prefix (p := isBlank) (l := dropBlanks cs))
  unfold dropBlanks at hrest ⊢
  cases hu : (cs.dropWhile isBlank).rdropWhile isBlank with
  | nil => rfl
  | cons c u =>
    -- the first character kept is the first character after the leading blanks
    have hhead : (cs.dropWhile isBlank).head? = some c := by
      rw [← hrest, hu]
      rfl
    have hc : isBlank c = false := by
      simpa [hhead] using List.head?_dropWhile_not isBlank cs
    simp [hc]

theorem trimChars_trimChars (cs : List Char) : trimChars (trimChars cs) = trimChars cs := by
  unfold trimChars
  rw [dropBlanks_dropTrailingBlanks_dropBlanks, dropTrailingBlanks_eq_rdropWhile,
    dropTrailingBlanks_eq_rdropWhile, List.rdropWhile_idempotent]

@[simp]
theorem trim_trim (s : String) : trim (trim s) = trim s := by
  simp [trim, trimChars_trimChars]


/-! ## The leading title heading -/

/-- The root blocks open with a title heading at `index`: only frontmatter and link definitions
stand before it, it is a level-1 heading, and its plain text, trimmed, is `text`, which is not
empty. -/
def LeadingHeading (refs : References) (blocks : List Block) (text : String) (index : Nat) : Prop :=
  ∃ pre cs rest, blocks = pre ++ .heading 1 cs :: rest ∧ (∀ b ∈ pre, isPreamble b = true) ∧
    index = pre.length ∧ text = trim (plainText refs cs) ∧ text ≠ ""

/-- The first root block that is not preamble is `b`, at `start` plus the number of blocks
before it. -/
theorem firstContent_eq_some_iff {b : Block} :
    ∀ {blocks : List Block} {start i : Nat}, firstContent start blocks = some (i, b) ↔
      ∃ pre rest, blocks = pre ++ b :: rest ∧ (∀ p ∈ pre, isPreamble p = true) ∧
        isPreamble b = false ∧ i = start + pre.length
  | [], _, _ => by simp [firstContent]
  | c :: bs, start, i => by
    rw [firstContent]
    cases hc : isPreamble c
    · -- the first block is content: it is `b`, with nothing before it
      simp only [Bool.false_eq_true, if_false, Option.some.injEq, Prod.mk.injEq]
      constructor
      · rintro ⟨rfl, rfl⟩
        exact ⟨[], bs, rfl, by simp, hc, rfl⟩
      · rintro ⟨pre, rest, heq, hpre, hb, rfl⟩
        cases pre with
        | nil => simp_all
        | cons p pre =>
          simp only [List.cons_append, List.cons.injEq] at heq
          obtain ⟨rfl, -⟩ := heq
          simp [hpre c (by simp)] at hc
    · -- the first block is preamble: the search goes on one index further
      simp only [if_true]
      rw [firstContent_eq_some_iff]
      constructor
      · rintro ⟨pre, rest, rfl, hpre, hb, rfl⟩
        refine ⟨c :: pre, rest, rfl, ?_, hb, by simp; omega⟩
        simp only [List.mem_cons, forall_eq_or_imp]
        exact ⟨hc, hpre⟩
      · rintro ⟨pre, rest, heq, hpre, hb, rfl⟩
        cases pre with
        | nil =>
          simp only [List.nil_append, List.cons.injEq] at heq
          obtain ⟨rfl, -⟩ := heq
          simp [hc] at hb
        | cons p pre =>
          simp only [List.cons_append, List.cons.injEq] at heq
          obtain ⟨rfl, rfl⟩ := heq
          exact ⟨pre, rest, rfl, fun q hq => hpre q (by simp [hq]), hb, by simp; omega⟩

/-- The leading title is the first block after the preamble, when it is a level-1 heading with
nonblank plain text. -/
theorem leadingTitle_eq_some_iff_firstContent {refs : References} {blocks : List Block}
    {t : String} {i : Nat} :
    leadingTitle refs blocks = some ⟨t, i⟩ ↔
      ∃ cs, firstContent 0 blocks = some (i, .heading 1 cs) ∧ t = trim (plainText refs cs) ∧
        t ≠ "" := by
  unfold leadingTitle
  constructor
  · intro h
    split at h
    · rename_i index cs hfc
      simp only at h
      split at h
      · cases h
      · rename_i hne
        simp only [Option.some.injEq, LeadingTitle.mk.injEq] at h
        obtain ⟨rfl, rfl⟩ := h
        exact ⟨cs, hfc, rfl, by simpa using hne⟩
    · cases h
  · rintro ⟨cs, hfc, rfl, hne⟩
    rw [hfc]
    simp [hne]

theorem leadingTitle_eq_some_iff {refs : References} {blocks : List Block} {t : String} {i : Nat} :
    leadingTitle refs blocks = some ⟨t, i⟩ ↔ LeadingHeading refs blocks t i := by
  rw [leadingTitle_eq_some_iff_firstContent]
  constructor
  · rintro ⟨cs, hfc, rfl, hne⟩
    obtain ⟨pre, rest, rfl, hpre, -, hi⟩ := firstContent_eq_some_iff.1 hfc
    exact ⟨pre, cs, rest, rfl, hpre, by simpa using hi, rfl, hne⟩
  · rintro ⟨pre, cs, rest, rfl, hpre, rfl, rfl, hne⟩
    exact ⟨cs, firstContent_eq_some_iff.2 ⟨pre, rest, rfl, hpre, rfl, by simp⟩, rfl, hne⟩

/-- The leading title's text is trimmed already. -/
theorem trim_leadingTitle_text {refs : References} {blocks : List Block} {l : LeadingTitle}
    (h : leadingTitle refs blocks = some l) : trim l.text = l.text := by
  obtain ⟨pre, cs, rest, -, -, -, ht, -⟩ := leadingTitle_eq_some_iff.1 h
  rw [ht, trim_trim]

/-! ## The frontmatter fields -/

/-- `raw` is the value of the first frontmatter block among the root blocks. -/
def FirstFrontmatter (blocks : List Block) (raw : String) : Prop :=
  ∃ pre rest, blocks = pre ++ .frontmatter raw :: rest ∧ ∀ b ∈ pre, ∀ v, b ≠ .frontmatter v

/-- A document's frontmatter fields are those of its first frontmatter block, or none at all
when it has no frontmatter block. -/
theorem documentFrontmatter_cases (blocks : List Block) :
    (∃ raw, FirstFrontmatter blocks raw ∧ documentFrontmatter blocks = Frontmatter.parse raw) ∨
      ((∀ b ∈ blocks, ∀ v, b ≠ .frontmatter v) ∧ documentFrontmatter blocks = {}) := by
  unfold documentFrontmatter
  split
  · rename_i raw h
    obtain ⟨pre, b, rest, rfl, hb, hpre⟩ := List.findSome?_eq_some_iff.1 h
    cases b <;> simp only [Option.some.injEq, reduceCtorEq] at hb
    subst hb
    refine .inl ⟨_, ⟨pre, rest, rfl, fun b hb v hv => ?_⟩, rfl⟩
    subst hv
    simpa using hpre _ hb
  · rename_i h
    refine .inr ⟨fun b hb v hv => ?_, rfl⟩
    subst hv
    simpa using List.findSome?_eq_none_iff.1 h _ hb

/-! ## The excluded heading and the body -/

/-- The heading left out of the body is the leading title heading, when its text is the resolved
title, trimmed. -/
theorem excludedHeading_eq_some_iff {refs : References} {blocks : List Block} {options : Options}
    {i : Nat} : (resolveMetadata refs blocks options).excludedHeading = some i ↔
      ∃ t, leadingTitle refs blocks = some ⟨t, i⟩ ∧
        t = trim (resolveMetadata refs blocks options).title := by
  simp only [resolveMetadata]
  cases hl : leadingTitle refs blocks with
  | none => simp
  | some l =>
    have ht := trim_leadingTitle_text hl
    obtain ⟨t, j⟩ := l
    simp only at ht
    simp only [ht, beq_iff_eq, Option.some.injEq, LeadingTitle.mk.injEq]
    split <;> grind

/-- The blocks of a sequence are rendered one by one from the same stack: the parts are the
blocks' own, in order, and so are the warnings. -/
theorem renderBlocks_eq_map (refs : References) (s : List String) (n : Nat) :
    ∀ bs : List Block, renderBlocks refs s bs n =
      (bs.map fun b => (renderBlock refs s b n).1, bs.flatMap fun b => (renderBlock refs s b n).2) := by
  intro bs
  induction bs with
  | nil => rw [renderBlocks]; rfl
  | cons b bs ih =>
    rw [renderBlocks, ih]
    rfl

theorem eraseIdx_eq_filter_zipIdx {α : Type} :
    ∀ (l : List α) (n i : Nat),
      l.eraseIdx i = ((l.zipIdx n).filter fun p => p.2 != n + i).map Prod.fst
  | [], _, _ => rfl
  | a :: l, n, 0 => by
    -- every index after the first is above it
    have hkeep : (l.zipIdx (n + 1)).filter (fun p => p.2 != n) = l.zipIdx (n + 1) :=
      List.filter_eq_self.2 fun p hp => by
        have := List.le_snd_of_mem_zipIdx hp
        simp only [bne_iff_ne, ne_eq]
        omega
    simp [hkeep, List.zipIdx_map_fst]
  | a :: l, n, i + 1 => by
    have ih := eraseIdx_eq_filter_zipIdx l (n + 1) i
    rw [show n + 1 + i = n + (i + 1) by omega] at ih
    simp [ih]

/-- The body blocks are the root blocks whose index is not the excluded one, in order. -/
theorem bodyBlocks_eq_filter (excluded : Option Nat) (blocks : List Block) :
    bodyBlocks excluded blocks = (blocks.zipIdx.filter fun p => some p.2 != excluded).map Prod.fst := by
  cases excluded with
  | none =>
    have hkeep : ∀ p : Block × Nat, (some p.2 != none) = true := fun _ => rfl
    simp [bodyBlocks, hkeep, List.zipIdx_map_fst]
  | some i =>
    rw [bodyBlocks, eraseIdx_eq_filter_zipIdx blocks 0 i, Nat.zero_add]
    rfl

/-! ## The document -/

/-- **The title heading and the body.** For every document, options and registry, the output's
metadata comes from the options, then the first frontmatter block's fields (a title given there
counts even when empty), then the leading title heading (for the title), then the defaults. The
body renders every root block, in document order and each from an empty footnote stack, but at
most one: the leading title heading, left out exactly when its text is the resolved title, both
trimmed. So when neither the options nor the frontmatter give a title, a leading title heading
becomes the title and is left out, and no other block ever is. -/
theorem renderDocument_title_and_body (doc : Document) (options : Options)
    (registry : Template.Registry) :
    let refs := doc.references
    let out := renderDocument doc options registry
    ∃ (fm : Frontmatter) (leading : Option LeadingTitle) (excluded : Option Nat),
      ((∃ raw, FirstFrontmatter doc.children raw ∧ fm = Frontmatter.parse raw) ∨
        ((∀ b ∈ doc.children, ∀ v, b ≠ .frontmatter v) ∧ fm = {})) ∧
      (∀ t i, leading = some ⟨t, i⟩ ↔ LeadingHeading refs doc.children t i) ∧
      out.title = (options.title <|> fm.title <|> leading.map (·.text) |>.getD "") ∧
      out.authors = (options.authors <|> fm.authors |>.getD []) ∧
      out.lang = (options.lang <|> fm.lang.bind coerceLang |>.getD .zh) ∧
      (∀ i, excluded = some i ↔ ∃ t, leading = some ⟨t, i⟩ ∧ t = trim out.title) ∧
      (options.title = none → fm.title = none →
        ∀ l ∈ leading, out.title = l.text ∧ excluded = some l.index) ∧
      let body := (doc.children.zipIdx.filter fun p => some p.2 != excluded).map Prod.fst
      out.typst = Typst.assemble ((registry.resolve? options.style).getD Template.fallback)
          ⟨out.title, out.authors, out.lang, excluded⟩
          (joinRendered (body.map fun b => (renderBlock refs [] b 0).1) "\n\n") ∧
      out.warnings = styleWarnings registry options.style ++
        body.flatMap fun b => (renderBlock refs [] b 0).2 := by
  intro refs out
  let md := resolveMetadata refs doc.children options
  have hbody : renderBlocks refs [] (bodyBlocks md.excludedHeading doc.children) 0 =
      let body := (doc.children.zipIdx.filter fun p => some p.2 != md.excludedHeading).map Prod.fst
      (body.map fun b => (renderBlock refs [] b 0).1,
        body.flatMap fun b => (renderBlock refs [] b 0).2) := by
    rw [renderBlocks_eq_map, bodyBlocks_eq_filter]
  refine ⟨documentFrontmatter doc.children, leadingTitle refs doc.children, md.excludedHeading,
    documentFrontmatter_cases _, fun t i => leadingTitle_eq_some_iff, rfl, rfl, rfl,
    fun i => excludedHeading_eq_some_iff, ?_, ?_, ?_⟩
  · -- without a title from the options or the frontmatter, the leading heading's text is the title
    intro hopt hfm l hl
    have htitle : out.title = l.text := by
      show md.title = l.text
      simp [md, resolveMetadata, hopt, hfm, Option.mem_def.1 hl]
    refine ⟨htitle, excludedHeading_eq_some_iff.2 ⟨l.text, Option.mem_def.1 hl, ?_⟩⟩
    rw [show md.title = l.text from htitle, trim_leadingTitle_text (Option.mem_def.1 hl)]
  · show Typst.assemble _ md
        (joinRendered (renderBlocks refs [] (bodyBlocks md.excludedHeading doc.children) 0).1
          "\n\n") = _
    rw [hbody]
    rfl
  · show _ ++ (renderBlocks refs [] (bodyBlocks md.excludedHeading doc.children) 0).2 = _
    rw [hbody]

end Typeset.Render
