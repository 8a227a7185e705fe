import Typeset.Render.Body

/-!
The state one conversion threads through the body writer.

The context holds the document's reference tables, the warnings given so far, and the
lower-cased keys of the footnotes being expanded, innermost first. A warning is appended to it. A
footnote reference enters its key, which fails when the key is already being expanded, and leaves
it again once the definition's blocks are rendered.
-/

namespace Typeset.Render

/-- The state of one conversion: the definition tables, the warnings so far, and the keys of the
footnotes being expanded, innermost first. -/
structure RenderContext where
  references : References
  warnings : List Warning
  footnoteStack : List String

namespace RenderContext

/-- Records a warning after those given so far. -/
def warn (ctx : RenderContext) (w : Warning) : RenderContext :=
  { ctx with warnings := ctx.warnings ++ [w] }

/-- Marks a footnote key as being expanded; none when it already is. -/
def enterFootnote (ctx : RenderContext) (key : String) : Option RenderContext :=
  if ctx.footnoteStack.contains key then none
  else some { ctx with footnoteStack := key :: ctx.footnoteStack }

/-- Leaves the innermost footnote expansion. -/
def exitFootnote (ctx : RenderContext) : RenderContext :=
  { ctx with footnoteStack := ctx.footnoteStack.tail }

@[simp] theorem warn_mk (refs : References) (ws : List Warning) (s : List String) (w : Warning) :
    (⟨refs, ws, s⟩ : RenderContext).warn w = ⟨refs, ws ++ [w], s⟩ := rfl

@[simp] theorem enterFootnote_mk (refs : References) (ws : List Warning) (s : List String)
    (key : String) :
    (⟨refs, ws, s⟩ : RenderContext).enterFootnote key =
      if key ∈ s then none else some ⟨refs, ws, key :: s⟩ := by
  simp [enterFootnote]

@[simp] theorem exitFootnote_mk (refs : References) (ws : List Warning) (key : String)
    (s : List String) : (⟨refs, ws, key :: s⟩ : RenderContext).exitFootnote = ⟨refs, ws, s⟩ := rfl

end RenderContext

end Typeset.Render
