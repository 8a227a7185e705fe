import Typeset.Text.Blank

/-!
The frontmatter reader: a line-oriented reading of the few `key: value` fields that drive a
document's metadata, `lang` (or `language`), `title`, `author` and `authors`. Every other line is
ignored, and the reader never fails.

The first occurrence of each field wins. For `lang` and `title` a value that reads as the empty
text does not count, so a later line may still give one; for the authors any occurrence counts.
`authors` takes a value on its own line (`[a, b]` or a single name) or, when its line has none,
the `- item` lines right below it.
-/

namespace Typeset

open Text

/-- The fields a frontmatter block gives, each absent until a line gives it. -/
structure Frontmatter where
  lang : Option String := none
  title : Option String := none
  authors : Option (List String) := none
  deriving BEq, Repr, Inhabited

namespace Frontmatter

/-- No field was given. -/
def isEmpty (f : Frontmatter) : Bool := f.lang.isNone && f.title.isNone && f.authors.isNone

/-- A scalar value: blanks trimmed, then one pair of matching surrounding quotes (double or
single) removed and the inside trimmed again. -/
def unquoteChars (value : List Char) : List Char :=
  let v := trimChars value
  match v with
  | q :: rest@(_ :: _) =>
    if (q = '"' ∨ q = '\'') ∧ rest.getLast? = some q then trimChars rest.dropLast else v
  | _ => v

/-- A scalar value as text. -/
def unquote (value : String) : String := String.ofList (unquoteChars value.toList)

/-- The key and the rest of a `key: rest` line: the key is the text before the first colon,
trimmed, and must be a nonempty word without blanks. -/
def splitKey (line : List Char) : Option (List Char × List Char) :=
  if ':' ∈ line then
    let key := trimChars (line.takeWhile (· ≠ ':'))
    if key.isEmpty || key.any isBlank then none else some (key, (line.dropWhile (· ≠ ':')).drop 1)
  else none

/-- Texts with the empty ones removed. -/
def nonEmpty (values : List String) : List String := values.filter (!·.isEmpty)

/-- An `authors` value on its own line: `[a, b, c]` is split at commas, anything else is one
name. -/
def inlineList (value : List Char) : List String :=
  match value with
  | '[' :: rest@(_ :: _) =>
    if rest.getLast? = some ']' then
      nonEmpty ((rest.dropLast.splitOn ',').map (String.ofList ∘ unquoteChars))
    else nonEmpty [String.ofList (unquoteChars value)]
  | _ => nonEmpty [String.ofList (unquoteChars value)]

/-- The item text of a `- item` line: what follows the dash after leading blanks, if anything
does. -/
def listItem? (line : List Char) : Option (List Char) :=
  match dropBlanks line with
  | '-' :: item@(_ :: _) => some item
  | _ => none

/-- A field that is absent or empty may still be given. -/
def isUnset (value : Option String) : Bool :=
  match value with
  | none => true
  | some s => s.isEmpty

/-- Reads the remaining lines into the fields given so far. -/
def readLines (acc : Frontmatter) : List (List Char) → Frontmatter
  | [] => acc
  | line :: rest =>
    match splitKey line with
    | none => readLines acc rest
    | some (key, value) =>
      let key := String.ofList key
      if (key == "lang" || key == "language") && isUnset acc.lang && !value.isEmpty then
        readLines { acc with lang := some (String.ofList (unquoteChars value)) } rest
      else if key == "title" && isUnset acc.title && !value.isEmpty then
        readLines { acc with title := some (String.ofList (unquoteChars value)) } rest
      else if key == "author" && acc.authors.isNone && !value.isEmpty then
        readLines { acc with authors := some (nonEmpty [String.ofList (unquoteChars value)]) } rest
      else if key == "authors" && acc.authors.isNone then
        let inline := trimChars value
        if !inline.isEmpty then
          readLines { acc with authors := some (inlineList inline) } rest
        else
          let items := (rest.takeWhile (listItem? · |>.isSome)).filterMap listItem?
          let after := rest.dropWhile (listItem? · |>.isSome)
          readLines
            { acc with authors := some (nonEmpty (items.map (String.ofList ∘ unquoteChars))) } after
      else readLines acc rest
  termination_by lines => lines.length
  decreasing_by
    all_goals simp_wf
    all_goals first
      | omega
      | have := (List.dropWhile_suffix (l := rest) (fun l => (listItem? l).isSome)).length_le
        omega

/-- The lines of a raw block: split at line feeds, each with trailing carriage returns
removed. -/
def lines (raw : String) : List (List Char) :=
  (raw.toList.splitOn '\n').map fun l => (l.reverse.dropWhile (· = '\r')).reverse

/-- Reads the fields of a raw frontmatter block. -/
def parse (raw : String) : Frontmatter := readLines {} (lines raw)

end Frontmatter

end Typeset
