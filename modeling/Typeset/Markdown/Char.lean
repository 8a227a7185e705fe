import Typeset.Text.Blank
import Typeset.Text.Properties

/-!
Character classes of Markdown. Markdown whitespace is space, tab, line feed and carriage return;
ASCII punctuation is the 32 printable ASCII characters that are neither letters, digits nor
space. For emphasis a character is whitespace (Unicode White_Space, and the edges of the text),
punctuation (Unicode punctuation and symbols, and ASCII punctuation), or other.
-/

namespace Typeset.Markdown

/-- Space or tab. -/
def isSpaceOrTab (c : Char) : Bool := c == ' ' || c == '\t'

/-- Markdown whitespace: space, tab, line feed or carriage return. -/
def isMdSpace (c : Char) : Bool := c == ' ' || c == '\t' || c == '\n' || c == '\r'

/-- ASCII punctuation: `!` to `/`, `:` to `@`, `[` to backtick, and `{` to `~`. -/
def isAsciiPunct (c : Char) : Bool :=
  let n := c.toNat
  (33 ≤ n && n ≤ 47) || (58 ≤ n && n ≤ 64) || (91 ≤ n && n ≤ 96) || (123 ≤ n && n ≤ 126)

/-- An ASCII letter. -/
def isAsciiAlpha (c : Char) : Bool := ('a' ≤ c && c ≤ 'z') || ('A' ≤ c && c ≤ 'Z')

/-- An ASCII digit. -/
def isAsciiDigit (c : Char) : Bool := '0' ≤ c && c ≤ '9'

/-- An ASCII letter or digit. -/
def isAsciiAlnum (c : Char) : Bool := isAsciiAlpha c || isAsciiDigit c

/-- An ASCII hexadecimal digit. -/
def isHexDigit (c : Char) : Bool :=
  isAsciiDigit c || ('a' ≤ c && c ≤ 'f') || ('A' ≤ c && c ≤ 'F')

/-- How a character next to an emphasis marker run counts. -/
inductive Side where
  | whitespace
  | punctuation
  | other
  deriving BEq, Repr, DecidableEq

/-- The class of the character next to a marker run; the edge of the text counts as
whitespace. -/
def classify : Option Char → Side
  | none => .whitespace
  | some c =>
    if Text.isBlank c then .whitespace
    else if isAsciiPunct c || Text.isPunctuation c then .punctuation
    else .other

/-- The ASCII lower case of a character. -/
def asciiLower (c : Char) : Char := if 'A' ≤ c && c ≤ 'Z' then Char.ofNat (c.toNat + 32) else c

end Typeset.Markdown
