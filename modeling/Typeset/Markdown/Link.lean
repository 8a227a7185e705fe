import Typeset.Markdown.Char

/-!
The parts of links shared by definitions and inline links, scanned over a source array: a label
in brackets, a destination (in angle brackets, or raw with balanced parentheses), and a title in
double quotes, single quotes or parentheses. Each scanner starts at an index and answers the
index just after what it read, so that callers can go on from there; each loop ends because the
index grows towards the size of the source.
-/

namespace Typeset.Markdown

/-- The characters of `src` from `i` up to `j`. -/
def slice (src : Array Char) (i j : Nat) : List Char := (src.extract i j).toList

/-- Whether the character at `i` satisfies `p`; false past the end. -/
def charIs (src : Array Char) (i : Nat) (p : Char → Bool) : Bool :=
  match src[i]? with
  | some c => p c
  | none => false

/-- Past Markdown whitespace (spaces, tabs and line endings) from `i`. -/
def skipWhitespace (src : Array Char) (i : Nat) : Nat :=
  if i < src.size then
    if charIs src i isMdSpace then skipWhitespace src (i + 1) else i
  else i
  termination_by src.size - i

/-- Past spaces and tabs from `i`. -/
def skipSpaceTab (src : Array Char) (i : Nat) : Nat :=
  if i < src.size then
    if charIs src i isSpaceOrTab then skipSpaceTab src (i + 1) else i
  else i
  termination_by src.size - i

/-- Whether `i` is at a line ending or at the end of the source. -/
def atLineEnd (src : Array Char) (i : Nat) : Bool :=
  match src[i]? with
  | none => true
  | some c => c == '\n' || c == '\r'

/-- The index after the line ending at `i` (a carriage return and line feed count as one). -/
def afterLineEnd (src : Array Char) (i : Nat) : Nat :=
  match src[i]?, src[i + 1]? with
  | some '\r', some '\n' => i + 2
  | some _, _ => i + 1
  | none, _ => i

/-- Whether a character is an ASCII control character. -/
def isAsciiControl (c : Char) : Bool := c.toNat < 32 || c.toNat == 127

/-- Whether a character may not stand in a raw destination: an ASCII control character other
than the null character, which destinations take as text. -/
def barsDestination (c : Char) : Bool := c != '\x00' && isAsciiControl c

/-- The inside of a destination in angle brackets, the opening one at `i - 1`, and the index
after the closing one. A backslash keeps a following bracket or backslash inside. -/
def enclosedFrom (src : Array Char) (start i : Nat) : Option (List Char × Nat) :=
  if i < src.size then
    match src[i]? with
    | some '>' => some (slice src start i, i + 1)
    | some '<' | some '\n' | some '\r' => none
    | some '\\' =>
      if charIs src (i + 1) (fun d => d == '<' || d == '>' || d == '\\') then
        enclosedFrom src start (i + 2)
      else enclosedFrom src start (i + 1)
    | _ => enclosedFrom src start (i + 1)
  else none
  termination_by src.size - i

/-- A raw destination from `start`, read up to `i` with `depth` parentheses open; at most
`limit` may be open at once. It ends at whitespace, a line ending, the end, or a closing
parenthesis with none open. -/
def rawFrom (src : Array Char) (limit start i depth : Nat) : Option (List Char × Nat) :=
  if i < src.size then
    match src[i]? with
    | some c =>
      if depth == 0 && (c == ')' || isMdSpace c) then some (slice src start i, i)
      else if c == '(' && depth < limit then rawFrom src limit start (i + 1) (depth + 1)
      else if c == ')' then rawFrom src limit start (i + 1) (depth - 1)
      else if c == ' ' || c == '(' || barsDestination c then none
      else if c == '\\' && charIs src (i + 1) (fun d => d == '(' || d == ')' || d == '\\') then
        rawFrom src limit start (i + 2) depth
      else rawFrom src limit start (i + 1) depth
    | none => none
  else if depth == 0 then some (slice src start i, i) else none
  termination_by src.size - i

/-- A destination at `i`: in angle brackets (maybe empty), or raw (not empty). -/
def destination (src : Array Char) (i limit : Nat) : Option (List Char × Nat) :=
  match src[i]? with
  | some '<' => enclosedFrom src (i + 1) (i + 1)
  | some c =>
    if c == ' ' || c == ')' || barsDestination c then none
    else rawFrom src limit i i 0
  | none => none

/-- The rest of a title up to its closing mark `close`, from `i`; the index after the mark. -/
def titleFrom (src : Array Char) (close : Char) (i : Nat) : Option Nat :=
  if i < src.size then
    match src[i]? with
    | some c =>
      if c == close then some (i + 1)
      else if c == '\\' && charIs src (i + 1) (fun d => d == close || d == '\\') then
        titleFrom src close (i + 2)
      else titleFrom src close (i + 1)
    | none => none
  else none
  termination_by src.size - i

/-- A title at `i`; the index after its closing mark. -/
def title (src : Array Char) (i : Nat) : Option Nat :=
  match src[i]? with
  | some '"' => titleFrom src '"' (i + 1)
  | some '\'' => titleFrom src '\'' (i + 1)
  | some '(' => titleFrom src ')' (i + 1)
  | _ => none

/-- The most bytes a label may hold. -/
def labelSizeMax : Nat := 999

/-- The rest of a label in brackets from `i`, the opening bracket at `start - 1`: its inside
and the index after the closing bracket. `seen` tells whether a character other than whitespace
came already, `size` how many bytes of UTF-8 the label took so far; a line ending and the spaces
and tabs after it take none. -/
def labelFrom (src : Array Char) (start i size : Nat) (seen : Bool) : Option (List Char × Nat) :=
  if size > labelSizeMax then none
  else if i < src.size then
    match src[i]? with
    | some '[' => none
    | some ']' => if seen then some (slice src start i, i + 1) else none
    | some '\\' =>
      if charIs src (i + 1) (fun d => d == '[' || d == '\\' || d == ']') then
        labelFrom src start (i + 2) (size + 2) true
      else labelFrom src start (i + 1) (size + 1) true
    | some c =>
      if c == '\n' || c == '\r' then
        labelFrom src start (max (skipSpaceTab src (afterLineEnd src i)) (i + 1)) size seen
      else labelFrom src start (i + 1) (size + c.utf8Size) (seen || !isSpaceOrTab c)
    | none => none
  else none
  termination_by src.size - i

/-- A label in brackets at `i`: its inside and the index after it. -/
def label (src : Array Char) (i : Nat) : Option (List Char × Nat) :=
  if charIs src i (· == '[') then labelFrom src (i + 1) (i + 1) 0 false else none

/-- An inline resource `(destination title)` at `i`: the destination as written and the index
after the closing parenthesis. -/
def resource (src : Array Char) (i : Nat) : Option (List Char × Nat) :=
  let j := skipWhitespace src (i + 1)
  if charIs src j (· == ')') then some ([], j + 1)
  else
    match destination src j 32 with
    | none => none
    | some (dest, k) =>
      if charIs src k isMdSpace then
        let k2 := skipWhitespace src k
        if charIs src k2 (fun c => c == '"' || c == '\'' || c == '(') then
          match title src k2 with
          | some t =>
            let k3 := skipWhitespace src t
            if charIs src k3 (· == ')') then some (dest, k3 + 1) else none
          | none => none
        else if charIs src k2 (· == ')') then some (dest, k2 + 1) else none
      else if charIs src k (· == ')') then some (dest, k + 1) else none

/-- A link reference definition at `i` (after any spaces): label, destination as written, and
the index after its last line. A title may follow on the same line or the next; a line with a
broken title still ends the definition before it. -/
def definition (src : Array Char) (i : Nat) : Option (List Char × List Char × Nat) :=
  let j := skipSpaceTab src i
  match label src j with
  | none => none
  | some (lab, k) =>
    if !charIs src k (· == ':') then none
    else
      let k1 := skipWhitespace src (k + 1)
      match destination src k1 (src.size + 1) with
      | none => none
      | some (dest, k2) =>
        let titled : Option Nat :=
          if charIs src k2 isMdSpace then
            match title src (skipWhitespace src k2) with
            | some t =>
              let k4 := skipSpaceTab src t
              if atLineEnd src k4 then some (afterLineEnd src k4) else none
            | none => none
          else none
        match titled with
        | some e => some (lab, dest, e)
        | none =>
          let k4 := skipSpaceTab src k2
          if atLineEnd src k4 then some (lab, dest, afterLineEnd src k4) else none

end Typeset.Markdown
