import Typeset.Render.Metadata
import Typeset.Template.Basic
import Typeset.Typst.Escape

/-!
The document header: the line that imports the template and the show rule that applies its
entry function to the body, with the title, the authors and the language as arguments. The
title is passed when it is nonempty, the authors when there are any, the language always.
-/

namespace Typeset.Typst

open Render Template

/-- The import line of a template. -/
def importLine (t : Definition) : String := "#import \"" ++ t.path ++ "\": " ++ t.entry

/-- An array of already written items; a single item keeps a trailing comma, so that it is not
read as a parenthesized value. -/
def array (items : List String) : String :=
  match items with
  | [x] => "(" ++ x ++ ",)"
  | _ => "(" ++ ", ".intercalate items ++ ")"

/-- The named arguments of the show rule. -/
def showArgs (m : Metadata) : List String :=
  (if m.title.isEmpty then [] else ["title: " ++ quote m.title]) ++
  (if m.authors.isEmpty then [] else ["authors: " ++ array (m.authors.map quote)]) ++
  ["lang: " ++ quote m.lang.code]

/-- The show rule that applies a template to the body. -/
def showRule (t : Definition) (m : Metadata) : String :=
  "#show: " ++ t.entry ++ ".with(" ++ ", ".intercalate (showArgs m) ++ ")"

/-- A whole Typst document: header, a blank line, show rule, a blank line, body and a final
newline. -/
def assemble (t : Definition) (m : Metadata) (body : String) : String :=
  importLine t ++ "\n\n" ++ showRule t m ++ "\n\n" ++ body ++ "\n"

end Typeset.Typst
