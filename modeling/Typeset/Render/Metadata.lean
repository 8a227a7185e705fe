import Typeset.Frontmatter
import Typeset.Render.PlainText
import Typeset.Text.Case

/-!
Document metadata: title, authors and language, merged from the caller's options, the first
frontmatter block of the document, a leading title heading and defaults, in that order.

A leading title is the first root block that is neither frontmatter nor a link definition, when
it is a level-1 heading with nonblank plain text. When that text, trimmed, equals the resolved
title, trimmed, the heading is the title and is left out of the body.
-/

namespace Typeset.Render

open Text

/-- The document language the templates know. -/
inductive Lang where
  | zh
  | en
  deriving BEq, Repr, Inhabited, DecidableEq

/-- The language code. -/
def Lang.code : Lang → String
  | .zh => "zh"
  | .en => "en"

/-- What the caller asks of a rendering; an absent field leaves the choice to the document. -/
structure Options where
  title : Option String := none
  authors : Option (List String) := none
  style : Option String := none
  lang : Option Lang := none
  deriving BEq, Repr, Inhabited

/-- A leading title heading: its trimmed plain text and its index among the root blocks. -/
structure LeadingTitle where
  text : String
  index : Nat
  deriving BEq, Repr

/-- The resolved metadata, and the index of the root heading left out of the body, if any. -/
structure Metadata where
  title : String
  authors : List String
  lang : Lang
  excludedHeading : Option Nat
  deriving BEq, Repr

/-- The language a free-form language value names: one starting with `zh` or `en` after trimming
and lower-casing. -/
def coerceLang (value : String) : Option Lang :=
  let v := toLower (trim value)
  if v.startsWith "zh" then some .zh
  else if v.startsWith "en" then some .en
  else none

/-- The fields of the first frontmatter block among the root blocks. -/
def documentFrontmatter (blocks : List Block) : Frontmatter :=
  match blocks.findSome? fun b => match b with
    | .frontmatter v => some v
    | _ => none with
  | some raw => Frontmatter.parse raw
  | none => {}

/-- Whether a root block is passed over when looking for the leading title. -/
def isPreamble : Block → Bool
  | .frontmatter _ | .linkDefinition _ _ => true
  | _ => false

/-- The first root block that is not preamble, with its index, counting from `start`. -/
def firstContent (start : Nat) : List Block → Option (Nat × Block)
  | [] => none
  | b :: bs => if isPreamble b then firstContent (start + 1) bs else some (start, b)

/-- The leading title heading of the root blocks. -/
def leadingTitle (refs : References) (blocks : List Block) : Option LeadingTitle :=
  match firstContent 0 blocks with
  | some (index, .heading 1 children) =>
    let text := trim (plainText refs children)
    if text.isEmpty then none else some ⟨text, index⟩
  | _ => none

/-- The metadata of a document under options. -/
def resolveMetadata (refs : References) (blocks : List Block) (options : Options) : Metadata :=
  let fm := documentFrontmatter blocks
  let leading := leadingTitle refs blocks
  let lang := options.lang <|> (fm.lang.bind coerceLang) |>.getD .zh
  let title := options.title <|> fm.title <|> (leading.map (·.text)) |>.getD ""
  let authors := options.authors <|> fm.authors |>.getD []
  let excluded := match leading with
    | some l => if trim l.text == trim title then some l.index else none
    | none => none
  ⟨title, authors, lang, excluded⟩

end Typeset.Render
