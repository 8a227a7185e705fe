import Typeset.Markdown.Char
import Typeset.Markdown.Link

/-!
Raw HTML in Markdown: which lines open an HTML block and when it ends, and which spans of inline
content are HTML. The reader keeps neither in the document, but it has to know their extent.

Blocks are of seven kinds: raw text elements (`pre`, `script`, `style`, `textarea`), comments,
processing instructions, declarations, character data sections, the block-level elements by
name, and any other complete tag alone on its line. The first five end at a closing marker on
some line, looked for after the opening; the last two end before a blank line. Inline HTML is an open tag, a closing tag, a
comment, a processing instruction, a declaration or a character data section.
-/

namespace Typeset.Markdown

/-- Elements whose content is raw text. -/
def rawTagNames : List String := ["pre", "script", "style", "textarea"]

/-- Elements that open an HTML block of the sixth kind. -/
def blockTagNames : List String :=
  ["address", "article", "aside", "base", "basefont", "blockquote", "body", "caption", "center",
   "col", "colgroup", "dd", "details", "dialog", "dir", "div", "dl", "dt", "fieldset",
   "figcaption", "figure", "footer", "form", "frame", "frameset", "h1", "h2", "h3", "h4", "h5",
   "h6", "head", "header", "hr", "html", "iframe", "legend", "li", "link", "main", "menu",
   "menuitem", "nav", "noframes", "ol", "optgroup", "option", "p", "param", "search", "section",
   "summary", "table", "tbody", "td", "tfoot", "th", "thead", "title", "tr", "track", "ul"]

/-- ASCII lower case of a character list, as a string. -/
def asciiLowerString (cs : List Char) : String := String.ofList (cs.map asciiLower)

/-- Whether a character may continue a tag name. -/
def isTagNameChar (c : Char) : Bool := isAsciiAlnum c || c == '-'

/-- Whether a character may start an attribute name. -/
def isAttrStart (c : Char) : Bool := isAsciiAlpha c || c == '_' || c == ':'

/-- Whether a character may continue an attribute name. -/
def isAttrChar (c : Char) : Bool := isAsciiAlnum c || c == '_' || c == ':' || c == '.' || c == '-'

/-- Past the end of a tag name from `i`. -/
def tagNameEnd (src : Array Char) (i : Nat) : Nat :=
  if i < src.size then
    if charIs src i isTagNameChar then tagNameEnd src (i + 1) else i
  else i
  termination_by src.size - i

/-- Past an attribute name from `i`. -/
def attrNameEnd (src : Array Char) (i : Nat) : Nat :=
  if i < src.size then
    if charIs src i isAttrChar then attrNameEnd src (i + 1) else i
  else i
  termination_by src.size - i

/-- The index after the closing `quote` of a quoted attribute value, reading from `i`. -/
def quotedEnd (src : Array Char) (quote : Char) (i : Nat) : Option Nat :=
  if i < src.size then
    match src[i]? with
    | some c => if c == quote then some (i + 1) else quotedEnd src quote (i + 1)
    | none => none
  else none
  termination_by src.size - i

/-- Whether a character ends an unquoted attribute value. -/
def endsUnquoted (c : Char) : Bool :=
  c == '"' || c == '\'' || c == '/' || c == '<' || c == '=' || c == '>' || c == '`' || isMdSpace c

/-- Past an unquoted attribute value from `i`. -/
def unquotedEnd (src : Array Char) (i : Nat) : Nat :=
  if i < src.size then
    if charIs src i endsUnquoted then i else unquotedEnd src (i + 1)
  else i
  termination_by src.size - i

/-- An attribute value of inline HTML at `i`: the index after it. Unquoted, its first character
is taken whatever it is, and it must end at whitespace, `/` or `>`. -/
def attrValue (src : Array Char) (i : Nat) : Option Nat :=
  match src[i]? with
  | none => none
  | some c =>
    if c == '<' || c == '=' || c == '>' || c == '`' then none
    else if c == '"' || c == '\'' then quotedEnd src c (i + 1)
    else
      let e := unquotedEnd src (i + 1)
      if charIs src e (fun d => d == '"' || d == '\'' || d == '<' || d == '=' || d == '`') then none
      else some e

/-- The rest of an inline open tag after its name, from `i`: attributes, each after whitespace,
then `>` or `/>`. Answers the index after `>`. -/
def openTagEnd (src : Array Char) (i : Nat) : Option Nat :=
  let k := skipWhitespace src i
  match src[k]? with
  | some '/' => if charIs src (k + 1) (· == '>') then some (k + 2) else none
  | some '>' => some (k + 1)
  | some c =>
    if k > i && isAttrStart c then
      let n := attrNameEnd src (k + 1)
      let k2 := skipWhitespace src n
      let next : Option Nat :=
        if charIs src k2 (· == '=') then attrValue src (skipWhitespace src (k2 + 1))
        else some n
      match next with
      | some j => if _ : i < j ∧ i < src.size then openTagEnd src j else none
      | none => none
    else none
  | none => none
  termination_by src.size - i
  decreasing_by omega

/-- Whether a character may start an attribute name in the opening tag of an HTML block, where
digits may too. -/
def isBlockAttrStart (c : Char) : Bool := isAsciiAlnum c || c == '_' || c == ':'

/-- Where the reader of an HTML block's opening tag stands among its attributes. -/
inductive AttrStep where
  | beforeName
  | name
  | afterName
  | beforeValue
  | unquoted
  | quoted (mark : Char)
  | afterQuoted
  deriving BEq, Repr, Inhabited

/-- An order on the steps that every step reading no character lowers. -/
def AttrStep.rank : AttrStep → Nat
  | .beforeName | .quoted _ => 0
  | .afterName | .afterQuoted => 1
  | .name | .unquoted => 2
  | .beforeValue => 3

/-- The rest of a line after a `>` at its start. -/
def afterTagClose : List Char → Option (List Char)
  | '>' :: r => some r
  | _ => none

/-- The attributes of an HTML block's opening tag on its line, read from `step`: the rest of the
line after the closing `>`. An unquoted value ends at whitespace, a quote, `/`, `<`, `=`, `>` or
a backtick, and what ends it is read as what may follow a name: `a=b=c` gives `a` two values,
and `a=/>` an empty one. -/
def blockAttrsEnd : AttrStep → List Char → Option (List Char)
  | .beforeName, c :: r =>
    if isSpaceOrTab c then blockAttrsEnd .beforeName r
    else if c == '/' then afterTagClose r
    else if isBlockAttrStart c then blockAttrsEnd .name r
    else afterTagClose (c :: r)
  | .name, c :: r => if isAttrChar c then blockAttrsEnd .name r else blockAttrsEnd .afterName (c :: r)
  | .afterName, c :: r =>
    if isSpaceOrTab c then blockAttrsEnd .afterName r
    else if c == '=' then blockAttrsEnd .beforeValue r
    else blockAttrsEnd .beforeName (c :: r)
  | .beforeValue, c :: r =>
    if c == '<' || c == '=' || c == '>' || c == '`' then none
    else if isSpaceOrTab c then blockAttrsEnd .beforeValue r
    else if c == '"' || c == '\'' then blockAttrsEnd (.quoted c) r
    else blockAttrsEnd .unquoted (c :: r)
  | .unquoted, c :: r =>
    if endsUnquoted c then blockAttrsEnd .afterName (c :: r) else blockAttrsEnd .unquoted r
  | .quoted m, c :: r => if c == m then blockAttrsEnd .afterQuoted r else blockAttrsEnd (.quoted m) r
  | .afterQuoted, c :: r =>
    if isSpaceOrTab c || c == '/' || c == '>' then blockAttrsEnd .beforeName (c :: r) else none
  | _, [] => none
  termination_by step cs => 4 * cs.length + step.rank
  decreasing_by all_goals simp only [List.length_cons, AttrStep.rank]; omega

/-- The index after the first occurrence of `pat` at or after `i`. -/
def findAfter (src : Array Char) (pat : List Char) (i : Nat) : Option Nat :=
  if i < src.size then
    if slice src i (i + pat.length) == pat then some (i + pat.length)
    else findAfter src pat (i + 1)
  else none
  termination_by src.size - i

/-- Inline HTML at `i` (at a `<`): the index after it. -/
def htmlSpan (src : Array Char) (i : Nat) : Option Nat :=
  match src[i + 1]? with
  | some '!' =>
    if slice src (i + 2) (i + 4) == ['-', '-'] then findAfter src ['-', '-', '>'] (i + 2)
    else if slice src (i + 2) (i + 9) == "[CDATA[".toList then findAfter src [']', ']', '>'] (i + 9)
    else if charIs src (i + 2) isAsciiAlpha then findAfter src ['>'] (i + 3)
    else none
  | some '?' => findAfter src ['?', '>'] (i + 2)
  | some '/' =>
    if charIs src (i + 2) isAsciiAlpha then
      let k := skipWhitespace src (tagNameEnd src (i + 3))
      if charIs src k (· == '>') then some (k + 1) else none
    else none
  | some c =>
    if isAsciiAlpha c then
      let n := tagNameEnd src (i + 2)
      if charIs src n (fun d => d == '/' || d == '>' || isMdSpace d) || n ≥ src.size then
        openTagEnd src n
      else none
    else none
  | none => none

/-- Whether only spaces and tabs follow `i`, to the end of the line. -/
def restBlank (src : Array Char) (i : Nat) : Bool := atLineEnd src (skipSpaceTab src i)

/-- The kind of HTML block that a line opens (one to seven), if any; the seventh only when
`complete` holds. -/
def htmlBlockKind? (line : List Char) (complete : Bool) : Option Nat :=
  let src := line.toArray
  if !charIs src 0 (· == '<') then none
  else if slice src 1 4 == ['!', '-', '-'] then some 2
  else if slice src 1 9 == "![CDATA[".toList then some 5
  else if charIs src 1 (· == '!') then (if charIs src 2 isAsciiAlpha then some 4 else none)
  else if charIs src 1 (· == '?') then some 3
  else
    let closing := charIs src 1 (· == '/')
    let s := if closing then 2 else 1
    if !charIs src s isAsciiAlpha then none
    else
      let n := tagNameEnd src (s + 1)
      let name := asciiLowerString (slice src s n)
      let ends := n ≥ src.size || charIs src n (fun d => d == '>' || isSpaceOrTab d)
      if !closing && rawTagNames.contains name && ends then some 1
      else if blockTagNames.contains name then
        if ends then some 6
        else if charIs src n (· == '/') then (if charIs src (n + 1) (· == '>') then some 6 else none)
        else none
      else if !complete then none
      else if !(ends || charIs src n (· == '/')) then none
      else if closing then
        let k := skipSpaceTab src n
        if charIs src k (· == '>') && restBlank src (k + 1) then some 7 else none
      else
        match blockAttrsEnd .beforeName (line.drop n) with
        | some r => if r.all isSpaceOrTab then some 7 else none
        | none => none

/-- Whether a line is `<`, `</` or either with a tag name that runs to its end. -/
def endsInTagName (line : List Char) : Bool :=
  match line with
  | '<' :: '/' :: rest => rest.all isTagNameChar && (rest.head?.map isAsciiAlpha).getD true
  | '<' :: rest => rest.all isTagNameChar && (rest.head?.map isAsciiAlpha).getD true
  | _ => false

/-- Characters that complete the start of an HTML block: the rest of a comment or character data
opening, a tag name, or the end of an attribute and its tag. -/
def htmlCompletions : List String :=
  ["!--", "--", "-", "![CDATA[", "[CDATA[", "CDATA[", "DATA[", "ATA[", "TA[", "A[", "[", "p>",
   ">", "/>", "x>", "\">", "'>"]

/-- Whether a line that opens no HTML block is still the beginning of one that does: a reader
that only sees the line so far cannot yet refuse it. -/
def htmlStartUnsettled (line : List Char) (complete : Bool) : Bool :=
  (htmlBlockKind? line complete).isNone &&
    (endsInTagName line ||
      htmlCompletions.any fun s => (htmlBlockKind? (line ++ s.toList) complete).isSome)

/-- Whether characters hold the end tag of a raw text element: `</` and the name, in any case,
then `>`. After a failed match the search goes on at the character that broke it. -/
def rawEndIn : List Char → Bool
  | [] => false
  | '<' :: '/' :: rest =>
    let name := (rest.takeWhile isAsciiAlpha).take 8
    if (rest.drop name.length).head? == some '>' && rawTagNames.contains (asciiLowerString name)
    then true
    else rawEndIn (rest.drop name.length)
  | _ :: rest => rawEndIn rest
  termination_by cs => cs.length
  decreasing_by all_goals simp only [List.length_drop, List.length_cons]; omega

/-- Whether characters hold the end of a comment, two dashes or more and then `>`, given how
many dashes (at most two counted) come right before them. -/
def commentEndFrom (dashes : Nat) : List Char → Bool
  | '-' :: rest => commentEndFrom (min (dashes + 1) 2) rest
  | '>' :: rest => dashes == 2 || commentEndFrom 0 rest
  | _ :: rest => commentEndFrom 0 rest
  | [] => false

/-- Whether characters hold `-->`, read as the rest of a comment. -/
def commentEndIn (cs : List Char) : Bool := commentEndFrom 0 cs

/-- Whether characters hold `?>`. -/
def instructionEndIn : List Char → Bool
  | '?' :: '>' :: _ => true
  | _ :: rest => instructionEndIn rest
  | [] => false

/-- Whether characters hold `]]>`, read on from the character after `]]` when it is not `>`. -/
def cdataEndIn : List Char → Bool
  | ']' :: ']' :: rest => if rest.head? == some '>' then true else cdataEndIn rest
  | _ :: rest => cdataEndIn rest
  | [] => false

/-- Whether characters, read as part of an HTML block of the given kind, hold its closing
marker: the end tag of a raw text element, `-->`, `?>`, `>` or `]]>` for the first five kinds.
The last two kinds end only before a blank line. -/
def htmlEndIn (kind : Nat) (cs : List Char) : Bool :=
  match kind with
  | 1 => rawEndIn cs
  | 2 => commentEndIn cs
  | 3 => instructionEndIn cs
  | 4 => cs.contains '>'
  | 5 => cdataEndIn cs
  | _ => false

/-- How many characters of a line the opening of an HTML block of the given kind takes: the
closing marker is looked for only after them. -/
def htmlOpeningLength (kind : Nat) (line : List Char) : Nat :=
  match kind with
  | 1 => tagNameEnd line.toArray 1
  | 2 => 4
  | 3 => 2
  | 4 => 3
  | 5 => 9
  | _ => line.length

/-- Whether the line that opens an HTML block of the given kind also closes it, looking after
the opening only. Right after `<!--` or `<?` a `>` already closes, as it would after more
dashes or a `?`: `<!-->` and `<?>` are whole blocks. -/
def htmlClosesOnOpening (kind : Nat) (line : List Char) : Bool :=
  let rest := line.drop (htmlOpeningLength kind line)
  match kind with
  | 2 => commentEndFrom 2 rest
  | 3 => rest.head? == some '>' || instructionEndIn rest
  | _ => htmlEndIn kind rest

end Typeset.Markdown
