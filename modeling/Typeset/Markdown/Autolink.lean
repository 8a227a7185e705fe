import Typeset.Markdown.Char
import Typeset.Markdown.Html
import Typeset.Markdown.Span

/-!
Links without brackets: autolinks in angle brackets, and GFM literal links in running text.

A literal link starts with `www.` (after whitespace, an opening parenthesis or an emphasis
marker, or at the start) or with `http://` or `https://` (not after an ASCII letter). Its domain
is a run of characters that are neither whitespace nor punctuation, with dashes, and dots and
underscores that do not trail; no underscore may sit in its last two segments. Its path runs to
whitespace. Trailing punctuation is not part of the link, nor a closing parenthesis without an
opening one inside the link, nor an entity-like `&name;` at the end. Punctuation trails only
before whitespace, `<` or the end of the source: at the end of a table cell the source goes on
with its pipe, so punctuation there stays in the link.

E-mail literals are found afterwards in plain text: letters, digits and `+-._` before an `@`
(with `mailto:` or `xmpp:` before them taken in), then a domain with at least one dot that ends
in a letter.
-/

namespace Typeset.Markdown

/-- Marks that may trail a literal link without belonging to it. -/
def trailMarks : List Char := ['!', '"', '\'', ')', '*', ',', '.', ':', ';', '?', '_', '~']

/-- Marks in a path that are checked for trailing. -/
def pathMarks : List Char := ['!', '"', '&', '\'', ')', '*', ',', '.', ':', ';', '<', '?', ']', '_', '~']

/-- Past ASCII letters from `i`. -/
def alphaEnd (src : Array Char) (i : Nat) : Nat :=
  if i < src.size then
    if charIs src i isAsciiAlpha then alphaEnd src (i + 1) else i
  else i
  termination_by src.size - i

/-- Whether a literal link ends before the source character `after` that follows the text it
is read from: at the end of the source, whitespace or `<`. -/
def endsBefore (after : Option Char) : Bool :=
  match after with
  | none => true
  | some c => c == '<' || classify (some c) == .whitespace

/-- Whether the characters from `j` are trailing marks up to the end of a literal link:
whitespace, `<`, or the end of the text when the source character `after` it ends a link. A `]`
ends it when whitespace, a bracket, a parenthesis or the end of the text follows. -/
def trailEnds (src : Array Char) (after : Option Char) (j : Nat) : Bool :=
  if j < src.size then
    match src[j]? with
    | some c =>
      if trailMarks.contains c then trailEnds src after (j + 1)
      else if c == '&' then
        let k := alphaEnd src (j + 1)
        if _ : j + 1 < k ∧ charIs src k (· == ';') = true then trailEnds src after (k + 1) else false
      else if c == '<' then true
      else if c == ']' then
        match src[j + 1]? with
        | none => true
        | some d =>
          if d == '\t' || d == '\n' || d == '\r' || d == ' ' || d == '(' || d == '[' then true
          else trailEnds src after (j + 1)
      else classify (some c) == .whitespace
    | none => endsBefore after
  else endsBefore after
  termination_by src.size - j

/-- The end of a literal link's domain from `j`, if the domain is acceptable: `seen` tells
whether a character other than `-`, `.`, `_` came; `under` and `underPrev` whether the last and
the one before last segment hold an underscore. -/
def domainFrom (src : Array Char) (after : Option Char) (j : Nat) (seen under underPrev : Bool) :
    Option Nat :=
  let finish : Option Nat := if under || underPrev || !seen then none else some j
  if j < src.size then
    match src[j]? with
    | some c =>
      if c == '.' || c == '_' then
        if trailEnds src after j then finish
        else if c == '_' then domainFrom src after (j + 1) seen true underPrev
        else domainFrom src after (j + 1) seen false under
      else if c == '-' then domainFrom src after (j + 1) seen under underPrev
      else if classify (some c) == .other then domainFrom src after (j + 1) true under underPrev
      else finish
    | none => finish
  else finish
  termination_by src.size - j

/-- The end of a literal link's path from `j`, with `opens` and `closes` parentheses seen. -/
def pathFrom (src : Array Char) (after : Option Char) (j opens closes : Nat) : Nat :=
  if j < src.size then
    match src[j]? with
    | some c =>
      if c == '(' then pathFrom src after (j + 1) (opens + 1) closes
      else if pathMarks.contains c then
        if trailEnds src after j then
          if c == ')' && closes < opens then pathFrom src after (j + 1) opens (closes + 1) else j
        else pathFrom src after (j + 1) opens (if c == ')' then closes + 1 else closes)
      else if classify (some c) == .whitespace then j
      else pathFrom src after (j + 1) opens closes
    | none => j
  else j
  termination_by src.size - j

/-- A literal link starting `www.` at `i`, `after` being the source character after the text:
the index after the link. -/
def wwwLiteral? (src : Array Char) (after : Option Char) (i : Nat) : Option Nat :=
  let w := slice src i (i + 3)
  if w.length == 3 && w.all (fun c => c == 'w' || c == 'W') && charIs src (i + 3) (· == '.') &&
      i + 4 < src.size then
    (domainFrom src after i false false false).map fun d => pathFrom src after d 0 0
  else none

/-- A literal link starting `http://` or `https://` at `i`, `after` being the source character
after the text: the index after the link. -/
def protocolLiteral? (src : Array Char) (after : Option Char) (i : Nat) : Option Nat :=
  let k := alphaEnd src i
  let name := asciiLowerString (slice src i k)
  if (name == "http" || name == "https") && slice src k (k + 3) == [':', '/', '/'] then
    (domainFrom src after (k + 3) false false false).map fun d => pathFrom src after d 0 0
  else none

/-- Whether a character may come before the `@` of an e-mail literal. -/
def isAddressChar (c : Char) : Bool := isAsciiAlnum c || c == '+' || c == '-' || c == '.' || c == '_'

/-- Back from `k` over characters satisfying `p`, not below `low`. -/
def backWhile (src : Array Char) (p : Char → Bool) (low : Nat) : Nat → Nat
  | 0 => 0
  | k + 1 => if k + 1 > low && charIs src k p then backWhile src p low k else k + 1

/-- The start of the address before an `@` at `sign`, not below `low`. -/
def addressStart (src : Array Char) (low sign : Nat) : Option Nat :=
  let k := backWhile src isAddressChar low sign
  if k == sign || (k > low && charIs src (k - 1) (· == '/')) then none else some k

/-- The kind of an e-mail literal by what precedes its address. -/
inductive AddressKind where
  | email
  | mailto
  | xmpp
  deriving BEq, Repr, DecidableEq

/-- Where an e-mail literal starts, taking in a `mailto:` or `xmpp:` before the address. -/
def protocolBefore (src : Array Char) (low start : Nat) : Nat × AddressKind :=
  if start > low && charIs src (start - 1) (· == ':') then
    let k := backWhile src isAsciiAlnum low (start - 1)
    let name := asciiLowerString (slice src k (start - 1))
    if name == "xmpp" then (k, .xmpp)
    else if name == "mailto" then (k, .mailto)
    else (start, .email)
  else (start, .email)

/-- Past an e-mail domain from `j`; `dot` tells whether a dot came. -/
def domainEnd (src : Array Char) (xmpp : Bool) (j : Nat) (dot : Bool) : Nat × Bool :=
  if j < src.size then
    match src[j]? with
    | some c =>
      if isAsciiAlnum c || c == '-' || c == '_' || (xmpp && c == '/') then domainEnd src xmpp (j + 1) dot
      else if c == '.' && charIs src (j + 1) isAsciiAlnum then domainEnd src xmpp (j + 1) true
      else (j, dot)
    | none => (j, dot)
  else (j, dot)
  termination_by src.size - j

/-- The end of the domain of an e-mail literal starting at `start`, if acceptable. -/
def emailDomain? (src : Array Char) (start : Nat) (xmpp : Bool) : Option Nat :=
  let (e, dot) := domainEnd src xmpp start false
  if e > start && dot && charIs src (e - 1) (fun c => c == '.' || isAsciiAlpha c) then some e
  else none

/-- Text from `low` split at the e-mail literals found from `i`. -/
def emailSpans (src : Array Char) (low i : Nat) : List Span :=
  if i < src.size then
    if charIs src i (· == '@') then
      match addressStart src low i with
      | some s =>
        let (p, kind) := protocolBefore src low s
        match emailDomain? src (i + 1) (kind == AddressKind.xmpp) with
        | some e =>
          if _ : i < e then
            let text := String.ofList (slice src p e)
            let url := if kind == AddressKind.email then "mailto:" ++ text else text
            let before := slice src low p
            (if before.isEmpty then [] else [Span.text (String.ofList before)]) ++
              [Span.link url [.text text]] ++ emailSpans src e (e + 1)
          else emailSpans src low (i + 1)
        | none => emailSpans src low (i + 1)
      | none => emailSpans src low (i + 1)
    else emailSpans src low (i + 1)
  else if low < src.size then [.text (String.ofList (slice src low src.size))] else []
  termination_by src.size - i

/-- Whether a character is ASCII atext, as in e-mail autolinks. -/
def isAtext (c : Char) : Bool :=
  isAsciiAlnum c || c == '#' || c == '$' || c == '%' || c == '&' || c == '\'' || c == '*' ||
    c == '+' || c == '-' || c == '.' || c == '/' || c == '=' || c == '?' || c == '^' || c == '_' ||
    c == '`' || c == '{' || c == '|' || c == '}' || c == '~'

/-- Past characters satisfying `p` from `i`. -/
def runEnd (src : Array Char) (p : Char → Bool) (i : Nat) : Nat :=
  if i < src.size then
    if charIs src i p then runEnd src p (i + 1) else i
  else i
  termination_by src.size - i

/-- Past the labels of an autolink's e-mail domain from `j` (at the start of a label): the index
of the closing `>`. `size` counts the characters of the current label. -/
def autolinkDomain (src : Array Char) (j size : Nat) (atStart : Bool) : Option Nat :=
  if j < src.size then
    match src[j]? with
    | some c =>
      if atStart then
        if isAsciiAlnum c then autolinkDomain src (j + 1) 1 false else none
      else if c == '.' then
        if charIs src (j - 1) isAsciiAlnum then autolinkDomain src (j + 1) 0 true else none
      else if c == '>' then
        if charIs src (j - 1) isAsciiAlnum then some j else none
      else if (isAsciiAlnum c || c == '-') && size < 63 then autolinkDomain src (j + 1) (size + 1) false
      else none
    | none => none
  else none
  termination_by src.size - j

/-- The rest of a URI autolink after its scheme and colon, from `j`: the index of `>`. -/
def uriEnd (src : Array Char) (j : Nat) : Option Nat :=
  if j < src.size then
    match src[j]? with
    | some c =>
      if c == '>' then some j
      else if c == ' ' || c == '<' || isAsciiControl c then none
      else uriEnd src (j + 1)
    | none => none
  else none
  termination_by src.size - j

/-- An autolink in angle brackets at `i`: its url, its text and the index after `>`. -/
def angleAutolink? (src : Array Char) (i : Nat) : Option (String × String × Nat) :=
  let s := i + 1
  let scheme := runEnd src (fun c => isAsciiAlnum c || c == '+' || c == '-' || c == '.') s
  let uri : Option Nat :=
    if charIs src s isAsciiAlpha && scheme - s ≥ 2 && scheme - s ≤ 32 && charIs src scheme (· == ':') then
      uriEnd src (scheme + 1)
    else none
  match uri with
  | some e => let t := String.ofList (slice src s e); some (t, t, e + 1)
  | none =>
    let a := runEnd src isAtext s
    if a > s && charIs src a (· == '@') then
      match autolinkDomain src (a + 1) 0 true with
      | some e => let t := String.ofList (slice src s e); some ("mailto:" ++ t, t, e + 1)
      | none => none
    else none

end Typeset.Markdown
