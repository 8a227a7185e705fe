import Typeset.Render.Output
import Mathlib.Logic.Relation
import Mathlib.Data.List.Dedup
import Mathlib.Data.List.Perm.Subperm

/-!
The calls the body writer makes, and why there are finitely many.

A frame is one call of the writer's functions (`renderBlock`, `renderBlocks`, `renderItems`,
`renderItemRest`, `renderCells`, `renderRows`, `renderInlines`, `renderInline`,
`renderFootnote`) together with the stack of footnote keys it runs under; `Frame.run` runs it.
`Frame.Calls refs f g` says that running `f` calls `g` directly: there is one constructor for
each recursive call in the writer. The frames reached from the document's own call are the
points of a rendering.

Every call but one keeps the stack and goes into a smaller node. The exception is the expansion
of a footnote reference, which jumps to the definition's body anywhere in the document; it pushes
a key of the table that was not on the stack. So the pair (keys of the table not on the stack,
size of the node) goes down lexicographically on every call, and the call relation is
well-founded: no rendering, however its footnotes cite each other, runs forever. Along every
chain of calls from an empty stack the stack holds distinct keys of the table, so footnote
expansions never nest deeper than the number of distinct keys.
-/

namespace Typeset

/-- The reference table of a document: its root link and footnote definitions. -/
def Document.references (doc : Document) : Render.References :=
  Render.References.collect doc.children

end Typeset

namespace Typeset.Render

open Text

/-- One call of the body writer, with the node it is called on. -/
inductive Call where
  | block (b : Block) (indent : Nat)
  | blocks (bs : List Block) (indent : Nat)
  | items (marker : String) (items : List (List Block)) (indent : Nat)
  | itemRest (bs : List Block) (indent : Nat)
  | cells (header : Bool) (cells : List (List Inline))
  | rows (rows : List (List (List Inline)))
  | inlines (xs : List Inline)
  | inline (x : Inline)
  | footnote (identifier : String)

/-- What a call returns, before its warnings. -/
def Call.Out : Call → Type
  | .block _ _ | .inline _ | .footnote _ => Option String
  | .blocks _ _ => List (Option String)
  | .items _ _ _ | .itemRest _ _ | .cells _ _ | .rows _ => List String
  | .inlines _ => String

/-- The size of the node a call walks; a footnote expansion walks none of the node it came
from. -/
noncomputable def Call.size : Call → Nat
  | .block b _ => sizeOf b
  | .blocks bs _ => sizeOf bs
  | .items _ is _ => sizeOf is
  | .itemRest bs _ => sizeOf bs
  | .cells _ cs => sizeOf cs
  | .rows rs => sizeOf rs
  | .inlines xs => sizeOf xs
  | .inline x => sizeOf x
  | .footnote _ => 0

/-- A call under the stack of the footnote keys being expanded, innermost first. -/
structure Frame where
  stack : List String
  call : Call

namespace Frame

/-- Runs a frame with the writer's own functions. -/
def run (refs : References) : (f : Frame) → Rendered f.call.Out
  | ⟨s, .block b n⟩ => renderBlock refs s b n
  | ⟨s, .blocks bs n⟩ => renderBlocks refs s bs n
  | ⟨s, .items m items n⟩ => renderItems refs s m items n
  | ⟨s, .itemRest bs n⟩ => renderItemRest refs s bs n
  | ⟨s, .cells h cs⟩ => renderCells refs s h cs
  | ⟨s, .rows rows⟩ => renderRows refs s rows
  | ⟨s, .inlines xs⟩ => renderInlines refs s xs
  | ⟨s, .inline x⟩ => renderInline refs s x
  | ⟨s, .footnote i⟩ => renderFootnote refs s i

/-- The call `renderDocument` makes: the body blocks, the title heading left out, under an
empty stack. -/
def ofDocument (doc : Document) (options : Options) : Frame :=
  ⟨[], .blocks (bodyBlocks (resolveMetadata doc.references doc.children options).excludedHeading
    doc.children) 0⟩

/-- The direct calls of the body writer: one rule for each recursive call in its definitions.
A paragraph that marks the table of contents renders the outline and not its inlines; a
footnote reference expands the definition of its key, under the key pushed, only when the table
has the key and the stack does not. -/
inductive Calls (refs : References) : Frame → Frame → Prop
  | heading {s d cs n} : Calls refs ⟨s, .block (.heading d cs) n⟩ ⟨s, .inlines cs⟩
  | paragraph {s cs n} (h : isTocMarker refs cs = false) :
      Calls refs ⟨s, .block (.paragraph cs) n⟩ ⟨s, .inlines cs⟩
  | list {s o items n} :
      Calls refs ⟨s, .block (.list o items) n⟩ ⟨s, .items (if o then "+" else "-") items n⟩
  | blockquote {s cs n} : Calls refs ⟨s, .block (.blockquote cs) n⟩ ⟨s, .blocks cs 0⟩
  | tableHeader {s a header body n} :
      Calls refs ⟨s, .block (.table a (header :: body)) n⟩ ⟨s, .cells true header⟩
  | tableBody {s a header body n} :
      Calls refs ⟨s, .block (.table a (header :: body)) n⟩ ⟨s, .rows body⟩
  | blocksHead {s b bs n} : Calls refs ⟨s, .blocks (b :: bs) n⟩ ⟨s, .block b n⟩
  | blocksTail {s b bs n} : Calls refs ⟨s, .blocks (b :: bs) n⟩ ⟨s, .blocks bs n⟩
  | itemLead {s m item items n cs rest} (h : leadParagraph? item = some (cs, rest))
      (ht : isTocMarker refs cs = false) :
      Calls refs ⟨s, .items m (item :: items) n⟩ ⟨s, .inlines cs⟩
  | itemLeadRest {s m item items n cs rest} (h : leadParagraph? item = some (cs, rest)) :
      Calls refs ⟨s, .items m (item :: items) n⟩ ⟨s, .itemRest rest (n + 1)⟩
  | itemBare {s m item items n} (h : leadParagraph? item = none) :
      Calls refs ⟨s, .items m (item :: items) n⟩ ⟨s, .itemRest item (n + 1)⟩
  | itemsTail {s m item items n} : Calls refs ⟨s, .items m (item :: items) n⟩ ⟨s, .items m items n⟩
  | restList {s o items rest n} :
      Calls refs ⟨s, .itemRest (.list o items :: rest) n⟩ ⟨s, .items (if o then "+" else "-") items n⟩
  | restBlock {s b rest n} (h : ∀ o items, b ≠ .list o items) :
      Calls refs ⟨s, .itemRest (b :: rest) n⟩ ⟨s, .block b n⟩
  | restTail {s b rest n} : Calls refs ⟨s, .itemRest (b :: rest) n⟩ ⟨s, .itemRest rest n⟩
  | cellsHead {s h c cs} : Calls refs ⟨s, .cells h (c :: cs)⟩ ⟨s, .inlines c⟩
  | cellsTail {s h c cs} : Calls refs ⟨s, .cells h (c :: cs)⟩ ⟨s, .cells h cs⟩
  | rowsHead {s row rows} : Calls refs ⟨s, .rows (row :: rows)⟩ ⟨s, .cells false row⟩
  | rowsTail {s row rows} : Calls refs ⟨s, .rows (row :: rows)⟩ ⟨s, .rows rows⟩
  | inlinesHead {s x xs} : Calls refs ⟨s, .inlines (x :: xs)⟩ ⟨s, .inline x⟩
  | inlinesTail {s x xs} : Calls refs ⟨s, .inlines (x :: xs)⟩ ⟨s, .inlines xs⟩
  | span {s x cs} (h : x.children? = some cs) : Calls refs ⟨s, .inline x⟩ ⟨s, .inlines cs⟩
  | reference {s i} : Calls refs ⟨s, .inline (.footnoteReference i)⟩ ⟨s, .footnote i⟩
  | expand {s i e} (h : refs.footnoteEntry? (toLower i) = some e) (hs : toLower i ∉ s) :
      Calls refs ⟨s, .footnote i⟩ ⟨toLower i :: s, .blocks e.2 0⟩

/-- The writer's termination measure of a frame. -/
noncomputable def measure (refs : References) (f : Frame) : Nat × Nat := (freeKeys refs f.stack, f.call.size)

end Frame

/-! ## What one call does to the stack -/

theorem sizeOf_lt_of_children {x : Inline} {cs : List Inline} (h : x.children? = some cs) :
    sizeOf cs < sizeOf x := by
  cases x <;> simp only [Inline.children?, Option.some.injEq, reduceCtorEq] at h <;> subst h <;>
    simp +arith

namespace Frame.Calls

variable {refs : References} {f g : Frame}

/-- A call keeps the stack, or expands a footnote reference: it pushes the reference's key,
which the table has and the stack has not, and renders the key's definition. -/
theorem stack_cases (h : Calls refs f g) :
    g.stack = f.stack ∨ ∃ i e, f.call = .footnote i ∧ refs.footnoteEntry? (toLower i) = some e ∧
      toLower i ∉ f.stack ∧ g = ⟨toLower i :: f.stack, .blocks e.2 0⟩ := by
  cases h with
  | expand he hs => exact .inr ⟨_, _, rfl, he, hs, rfl⟩
  | _ => exact .inl rfl

/-- Every call lowers the writer's measure. -/
theorem measure_lt (h : Calls refs f g) : Prod.Lex (· < ·) (· < ·) (g.measure refs) (f.measure refs) := by
  cases h with
  | expand he hs =>
    exact Prod.Lex.left _ _ (freeKeys_push (mem_footnoteKeys_of_entry he) (by simpa using hs))
  | itemLead h _ | itemLeadRest h =>
    have := sizeOf_leadParagraph h
    exact Prod.Lex.right _ (by simp [Call.size]; omega)
  | span h =>
    exact Prod.Lex.right _ (by simpa [Call.size] using sizeOf_lt_of_children h)
  | _ => exact Prod.Lex.right _ (by simp +arith [Call.size])

end Frame.Calls

/-- No chain of calls is infinite: the writer ends on every frame. -/
theorem Frame.calls_wellFounded (refs : References) :
    WellFounded fun g f : Frame => Frame.Calls refs f g :=
  Subrelation.wf (fun h => Frame.Calls.measure_lt h)
    (InvImage.wf (Frame.measure refs) (Prod.lex Nat.lt_wfRel Nat.lt_wfRel).wf)

/-! ## The stack holds distinct keys of the table -/

/-- A stack of distinct keys of the table. -/
def StackOK (refs : References) (s : List String) : Prop :=
  s.Nodup ∧ ∀ k ∈ s, k ∈ refs.footnoteKeys

theorem StackOK.nil (refs : References) : StackOK refs [] := by simp [StackOK]

theorem StackOK.call {refs : References} {f g : Frame} (hf : StackOK refs f.stack)
    (h : Frame.Calls refs f g) : StackOK refs g.stack := by
  rcases h.stack_cases with hs | ⟨i, e, -, he, hn, rfl⟩
  · rw [hs]
    exact hf
  · refine ⟨List.nodup_cons.2 ⟨hn, hf.1⟩, ?_⟩
    intro k hk
    rcases List.mem_cons.1 hk with rfl | hk
    · exact mem_footnoteKeys_of_entry he
    · exact hf.2 k hk

theorem StackOK.reach {refs : References} {f g : Frame} (hf : StackOK refs f.stack)
    (h : Relation.ReflTransGen (Frame.Calls refs) f g) : StackOK refs g.stack := by
  induction h with
  | refl => exact hf
  | tail _ hstep ih => exact ih.call hstep

/-- A stack of distinct keys is no longer than the number of distinct keys. -/
theorem StackOK.length_le {refs : References} {s : List String} (h : StackOK refs s) :
    s.length ≤ refs.footnoteKeys.dedup.length :=
  (List.Nodup.subperm h.1 fun k hk => List.mem_dedup.2 (h.2 k hk)).length_le

/-- **The writer ends, however footnotes cite each other.** For every document: every call of
the writer either keeps the stack or pushes a key of the table that was not on it, and lowers
the pair (keys not on the stack, size of the node) lexicographically; so no chain of calls is
infinite. Along every chain of calls from the document's own call, the stack holds distinct keys
of the table, and footnote expansions nest no deeper than the number of distinct keys. -/
theorem footnote_nesting_bounded (doc : Document) (options : Options) :
    (∀ f g : Frame, Frame.Calls doc.references f g →
      (g.stack = f.stack ∨ ∃ k ∈ doc.references.footnoteKeys, k ∉ f.stack ∧ g.stack = k :: f.stack) ∧
      Prod.Lex (· < ·) (· < ·) (g.measure doc.references) (f.measure doc.references)) ∧
    WellFounded (fun g f : Frame => Frame.Calls doc.references f g) ∧
    ∀ f, Relation.ReflTransGen (Frame.Calls doc.references) (Frame.ofDocument doc options) f →
      f.stack.Nodup ∧ (∀ k ∈ f.stack, k ∈ doc.references.footnoteKeys) ∧
        f.stack.length ≤ doc.references.footnoteKeys.dedup.length := by
  refine ⟨fun f g h => ⟨?_, h.measure_lt⟩, Frame.calls_wellFounded _, fun f hf => ?_⟩
  · rcases h.stack_cases with hs | ⟨i, e, -, he, hn, rfl⟩
    · exact .inl hs
    · exact .inr ⟨_, mem_footnoteKeys_of_entry he, hn, rfl⟩
  · have hok := (StackOK.nil _).reach hf
    exact ⟨hok.1, hok.2, hok.length_le⟩

end Typeset.Render
