import Typeset.Document.Basic
import Typeset.Text.Case

/-!
The reference table: the link and footnote definitions at the root of a document, by key. A key
is the lower case of the identifier, on both sides of a lookup, and of several definitions with
one key the last in the document wins. Definitions nested in quotes, lists or footnotes are not
in the table.
-/

namespace Typeset.Render

open Text

/-- Root definitions by key, the one that wins for each key coming first. -/
structure References where
  links : List (String × String)
  footnotes : List (String × List Block)
  deriving Inhabited

namespace References

/-- The link entry a root block gives, if it is a link definition. -/
def linkEntry : Block → Option (String × String)
  | .linkDefinition i url => some (toLower i, url)
  | _ => none

/-- The footnote entry a root block gives, if it is a footnote definition. -/
def footnoteEntry : Block → Option (String × List Block)
  | .footnoteDefinition i body => some (toLower i, body)
  | _ => none

/-- The table of a document's root blocks. Entries are kept last definition first, so that the
first entry of a key is the one that wins. -/
def collect (blocks : List Block) : References :=
  ⟨(blocks.filterMap linkEntry).reverse, (blocks.filterMap footnoteEntry).reverse⟩

/-- The url a link identifier resolves to. -/
def linkUrl? (r : References) (identifier : String) : Option String :=
  r.links.lookup (toLower identifier)

/-- The entry of a footnote key. -/
def footnoteEntry? (r : References) (key : String) : Option (String × List Block) :=
  r.footnotes.find? (·.1 == key)

/-- The keys of the footnote table. -/
def footnoteKeys (r : References) : List String := r.footnotes.map (·.1)

end References

end Typeset.Render
