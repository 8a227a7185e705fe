import Typeset.Text.Case
import Typeset.Markdown.Char

/-!
Labels of links, images and footnotes. Two labels name the same definition when their normal
forms agree: the words of the label (split at Markdown whitespace) are joined by one space, except
that a label starting with a word joins its first two words with none, and the text is folded by
lower casing and then upper casing (so that letters whose lower form upper cases to a different
capital still meet). The identifier that the document tree records is the lower case of the
normal form.
-/

namespace Typeset.Markdown

/-- The words of a label, split at Markdown whitespace. -/
def labelWords (cs : List Char) : List (List Char) :=
  (cs.splitOnP isMdSpace).filter (!·.isEmpty)

/-- Words joined for the normal form: one space between words, none between the first two when
the label starts with a word (`tight`). -/
def joinWords (tight : Bool) : List (List Char) → List Char
  | [] => []
  | [w] => w
  | w :: v :: rest => w ++ (if tight then [] else [' ']) ++ joinWords false (v :: rest)

/-- The normal form under which labels are compared. -/
def normalizeLabel (cs : List Char) : String :=
  let tight := match cs.head? with
    | some c => !isMdSpace c
    | none => false
  Text.toUpper (Text.toLower (String.ofList (joinWords tight (labelWords cs))))

/-- The identifier recorded for a label. -/
def labelIdentifier (cs : List Char) : String := Text.toLower (normalizeLabel cs)

end Typeset.Markdown
