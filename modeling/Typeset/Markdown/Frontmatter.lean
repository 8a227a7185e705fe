import Typeset.Markdown.Line

/-!
A frontmatter block at the very start of a document: a fence line of three `-` (YAML) or three
`+` (TOML), then content lines, then the same fence again. Fence lines may end in spaces or
tabs. An opening fence that ends the text opens no frontmatter; one never closed holds the
whole text, which is then read without containers. The value is the lines between the fences,
with their own line endings.
-/

namespace Typeset.Markdown

/-- The character of a frontmatter fence line. -/
def frontmatterFence? (cs : List Char) : Option Char :=
  match cs with
  | m :: m2 :: m3 :: rest =>
    if (m == '-' || m == '+') && m2 == m && m3 == m && rest.all isSpaceOrTab then some m else none
  | _ => none

/-- A frontmatter block split off the start of the lines: whether it is YAML, its value, the
lines after it, and the last character of the closing fence's line ending. -/
def splitFrontmatter (lines : List Line) : Option (Bool × List Char × List Line × Option Char) :=
  match lines with
  | first :: rest =>
    match frontmatterFence? first.chars with
    | some m =>
      if first.eol.isEmpty then none
      else
        match rest.findIdx? (fun l => frontmatterFence? l.chars == some m) with
        | some k =>
          let close := (rest.drop k).head?.map (·.eol.toList.getLast?)
          some (m == '-', joinLines (rest.take k), rest.drop (k + 1), close.getD none)
        | none => none
    | none => none
  | [] => none

/-- Whether the first line opens a frontmatter block: a fence line with a line ending. -/
def opensFrontmatter (lines : List Line) : Bool :=
  match lines with
  | first :: _ => (frontmatterFence? first.chars).isSome && !first.eol.isEmpty
  | [] => false

end Typeset.Markdown
