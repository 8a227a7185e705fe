/-!
Keeping text literal in Typst markup: escapes and raw fences.

In markup, a backslash makes the next character literal; `escapeText` puts one before each
character that markup would read otherwise: backslash, `#`, `*`, `_`, backtick, `[`, `]` and `$`.
Inside a string literal only backslash, the double quote and the newline need escapes;
`escapeString` writes them as `\\`, `\"` and `\n`, and `quote` wraps the result in quotes.

Code is kept literal in a raw block, which opens and closes with a run of backticks and ends at
the first run at least as long as its fence; the fence is therefore one backtick longer than the
longest run inside the code, and never shorter than three.
-/

namespace Typeset.Typst

/-- Characters that markup reads as syntax and that text therefore escapes. -/
def isMarkupSpecial (c : Char) : Bool :=
  c == '\\' || c == '#' || c == '*' || c == '_' || c == '`' || c == '[' || c == ']' || c == '$'

/-- Markup-escaped characters: a backslash before each special one. -/
def escapeTextChars : List Char → List Char
  | [] => []
  | c :: cs => if isMarkupSpecial c then '\\' :: c :: escapeTextChars cs else c :: escapeTextChars cs

/-- Text as markup that shows exactly that text. -/
def escapeText (s : String) : String := String.ofList (escapeTextChars s.toList)

/-- String-literal-escaped characters. -/
def escapeStringChars : List Char → List Char
  | [] => []
  | c :: cs =>
    if c = '\\' then '\\' :: '\\' :: escapeStringChars cs
    else if c = '"' then '\\' :: '"' :: escapeStringChars cs
    else if c = '\n' then '\\' :: 'n' :: escapeStringChars cs
    else c :: escapeStringChars cs

/-- The body of a string literal that reads back as the given text. -/
def escapeString (s : String) : String := String.ofList (escapeStringChars s.toList)

/-- A string literal that reads back as the given text. -/
def quote (s : String) : String := "\"" ++ escapeString s ++ "\""

/-! ## Raw fences -/

/-- The longest run of backticks in a character list, with `cur` backticks just before it and
`best` the longest run so far. -/
def longestRunFrom (cur best : Nat) : List Char → Nat
  | [] => max cur best
  | c :: cs => if c = '`' then longestRunFrom (cur + 1) best cs else longestRunFrom 0 (max cur best) cs

/-- The longest run of backticks in a text. -/
def longestBacktickRun (s : String) : Nat := longestRunFrom 0 0 s.toList

/-- The number of backticks of the fence for a code text. -/
def fenceWidth (code : String) : Nat := max 3 (longestBacktickRun code + 1)

/-- The fence for a code text. -/
def fence (code : String) : String := String.ofList (List.replicate (fenceWidth code) '`')

end Typeset.Typst
