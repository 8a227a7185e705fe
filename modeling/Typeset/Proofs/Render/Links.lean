import Typeset.Proofs.Render.Calls

/-!
How a link reference resolves.

A link reference takes the url of the last link definition of its key among the root blocks,
before or after the reference, the key being the lower case of the identifier on both sides
(`linkUrl?_collect`). Definitions inside quotes, lists or footnotes are not root blocks and never
count. With a url the reference is a link around its rendered children, or around the url itself
when those are blank, and it adds no warning of its own. Without one it is its rendered children,
or its label when they render to nothing, and it adds one warning naming the identifier as
written. The plain text of a reference, which title detection reads, resolves through the same
url (`linkReference_resolves`).
-/

namespace Typeset.Render

open Text Typst

/-- The url of the last root link definition whose identifier has the lower case of
`identifier`. -/
def lastLinkUrl? (blocks : List Block) (identifier : String) : Option String :=
  (blocks.filterMap fun b => match b with
    | .linkDefinition j url => if toLower j = toLower identifier then some url else none
    | _ => none).getLast?

/-- The label a reference shows for itself: its label when it has a nonempty one, its identifier
otherwise. -/
theorem literalLabel_eq (label : Option String) (identifier : String) :
    literalLabel label identifier = (label.filter fun l => !l.isEmpty).getD identifier := by
  cases label with
  | none => rfl
  | some l => by_cases h : l.isEmpty <;> simp [literalLabel, Option.filter, h]

/-- The table resolves a link identifier to the url of the last root definition of its key. -/
theorem linkUrl?_collect (bs : List Block) (i : String) :
    (References.collect bs).linkUrl? i = lastLinkUrl? bs i := by
  rw [References.linkUrl?, References.collect, List.lookup_eq_findSome?,
    ← List.getLast?_filterMap, List.filterMap_filterMap, lastLinkUrl?]
  congr 2
  funext b
  cases b with
  | linkDefinition j url =>
    by_cases h : toLower j = toLower i
    · simp [References.linkEntry, h]
    · simp [References.linkEntry, h, Ne.symm h]
  | _ => rfl

example : (References.collect [.linkDefinition "Docs" "https://old",
    .linkDefinition "DOCS" "https://new"]).linkUrl? "docs" = some "https://new" := by
  decide +kernel

/-- **A link reference resolves through the last root definition of its key.** For every
document, every stack of footnotes being expanded (so at every place of a rendering, footnote
bodies included) and every link reference: when the root blocks define its key, it renders as a
link to the url of the last such definition, around its rendered children or around the escaped
url when those are blank, and adds only its children's warnings. Otherwise it renders as its
children, or as its escaped label (the identifier when the label is absent or empty) when they
render to nothing, and adds one unresolved-link warning with the identifier as written. Its plain
text takes the same url when its children's text is blank. -/
theorem linkReference_resolves (doc : Document) (s : List String) (i : String)
    (label : Option String) (cs : List Inline) :
    let children := renderInlines doc.references s cs
    renderInline doc.references s (.linkReference i label cs) =
      (match lastLinkUrl? doc.children i with
        | some u =>
          (some ("#link(\"" ++ escapeString u ++ "\")[" ++
            (if isBlankText children.1 then escapeText u else children.1) ++ "]"), children.2)
        | none =>
          (some (if children.1.isEmpty then escapeText ((label.filter fun l => !l.isEmpty).getD i)
            else children.1), children.2 ++ [.unresolvedLink i])) ∧
    plainTextOf doc.references (.linkReference i label cs) =
      if isBlankText (plainText doc.references cs) then
        (lastLinkUrl? doc.children i).getD ((label.filter fun l => !l.isEmpty).getD i)
      else plainText doc.references cs := by
  intro children
  have hurl : doc.references.linkUrl? i = lastLinkUrl? doc.children i := linkUrl?_collect _ i
  constructor
  · -- the writer's own case split, on the table's answer
    simp only [renderInline, hurl, children]
    cases lastLinkUrl? doc.children i with
    | some u => rfl
    | none => simp [literalLabel_eq]
  · simp only [plainTextOf, hurl]
    by_cases hb : isBlankText (plainText doc.references cs) = true
    · cases lastLinkUrl? doc.children i <;> simp [hb, literalLabel_eq]
    · simp [hb]

end Typeset.Render
