import Typeset.Render.References
import Typeset.Text.Blank

/-!
The plain text of inline content, as used to recognize a title heading or a table-of-contents
marker. Text and code give their value, strong, emphasis and links their children's text, a line
break a newline; a link reference gives its children's text, or when that is blank the url it
resolves to, or its label. Everything else gives nothing.
-/

namespace Typeset.Render

open Text

/-- The label a link reference shows when it has nothing else: the label as written if it is
nonempty, the identifier otherwise. -/
def literalLabel (label : Option String) (identifier : String) : String :=
  match label with
  | some l => if l.isEmpty then identifier else l
  | none => identifier

mutual

/-- The plain text of a sequence of inlines. -/
def plainText (refs : References) : List Inline → String
  | [] => ""
  | x :: xs => plainTextOf refs x ++ plainText refs xs

/-- The plain text of one inline. -/
def plainTextOf (refs : References) : Inline → String
  | .text v | .inlineCode v => v
  | .strong cs | .emphasis cs | .link _ cs => plainText refs cs
  | .linkReference i l cs =>
    let t := plainText refs cs
    if !isBlankText t then t
    else
      match refs.linkUrl? i with
      | some url => url
      | none => literalLabel l i
  | .lineBreak => "\n"
  | _ => ""

end

end Typeset.Render
