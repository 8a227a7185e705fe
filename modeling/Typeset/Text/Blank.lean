/-!
Blank characters and trimming. A character is blank when Unicode gives it the White_Space
property; trimming drops blank characters from one or both ends of a text and keeps everything
in between, blank or not.
-/

namespace Typeset.Text

/-- A character is blank when it has the Unicode White_Space property: tab to carriage return,
space, next line, no-break space, ogham space mark, en quad to hair space, the line and paragraph
separators, narrow no-break space, medium mathematical space and ideographic space. -/
def isBlank (c : Char) : Bool :=
  let n := c.toNat
  (9 ≤ n && n ≤ 13) || n == 32 || n == 0x85 || n == 0xA0 || n == 0x1680 ||
    (0x2000 ≤ n && n ≤ 0x200A) || n == 0x2028 || n == 0x2029 || n == 0x202F ||
    n == 0x205F || n == 0x3000

/-- The characters with leading blanks dropped. -/
def dropBlanks (cs : List Char) : List Char := cs.dropWhile isBlank

/-- The characters with trailing blanks dropped. -/
def dropTrailingBlanks (cs : List Char) : List Char := (cs.reverse.dropWhile isBlank).reverse

/-- The characters with blanks dropped at both ends. -/
def trimChars (cs : List Char) : List Char := dropTrailingBlanks (dropBlanks cs)

/-- A text with blanks dropped at both ends. -/
def trim (s : String) : String := String.ofList (trimChars s.toList)

/-- A text with leading blanks dropped. -/
def trimStart (s : String) : String := String.ofList (dropBlanks s.toList)

/-- A text with trailing blanks dropped. -/
def trimEnd (s : String) : String := String.ofList (dropTrailingBlanks s.toList)

/-- A text is blank when it has no character other than blanks, the empty text included. -/
def isBlankText (s : String) : Bool := s.toList.all isBlank

end Typeset.Text
