import Std.Data.HashMap
import Typeset.Markdown.Char
import Typeset.Markdown.EntityTable

/-!
Character references: `&name;` for a named reference of HTML, `&#digits;` with one to seven
decimal digits and `&#xhex;` with one to six hexadecimal digits. A numeric reference to a
character that is not allowed in text (NUL and the controls other than tab, line feed, form
feed and carriage return, surrogates, or beyond the Unicode range) stands for the replacement
character; noncharacters stand for themselves.
-/

namespace Typeset.Markdown

/-- The named references by name. -/
def entityMap : Std.HashMap String String :=
  let words := entityText.splitOn " "
  let rec pairs : List String → List (String × String)
    | k :: v :: rest => (k, v) :: pairs rest
    | _ => []
  Std.HashMap.ofList (pairs words)

/-- The text of a named reference. -/
def namedEntity? (name : String) : Option String := entityMap.get? name

/-- The character a numeric reference stands for. -/
def numericChar (code : Nat) : Char :=
  if code < 9 || code == 11 || (13 < code && code < 32) || (126 < code && code < 160) ||
      (55295 < code && code < 57344) || code > 1114111 then '�'
  else Char.ofNat code

/-- The value of digits in a base. -/
def digitsValue (base : Nat) (ds : List Char) : Nat :=
  ds.foldl (fun acc d =>
    let v := if isAsciiDigit d then d.toNat - 48
      else if 'a' ≤ d && d ≤ 'f' then d.toNat - 87 else d.toNat - 55
    acc * base + v) 0

/-- A numeric reference body: digits of a base, at most `most` of them, then `;`. The count
returned is of all characters taken, `lead` of them before the digits. -/
def numericRef? (base : Nat) (digit : Char → Bool) (most lead : Nat) (cs : List Char) :
    Option (String × Nat) :=
  let ds := cs.takeWhile digit
  if 1 ≤ ds.length && ds.length ≤ most && (cs.drop ds.length).head? == some ';' then
    some ((numericChar (digitsValue base ds)).toString, lead + ds.length + 1)
  else none

/-- A character reference at the start of the characters after `&`: its text and how many
characters it takes, the `;` included. -/
def charRef? (cs : List Char) : Option (String × Nat) :=
  match cs with
  | '#' :: x :: hex =>
    if x == 'x' || x == 'X' then numericRef? 16 isHexDigit 6 2 hex
    else numericRef? 10 isAsciiDigit 7 1 (x :: hex)
  | _ =>
    let name := cs.takeWhile isAsciiAlnum
    if 1 ≤ name.length && name.length ≤ 31 && (cs.drop name.length).head? == some ';' then
      (namedEntity? (String.ofList name)).map fun v => (v, name.length + 1)
    else none

/-- Text with backslash escapes of ASCII punctuation and character references decoded, as in
destinations, titles and code info. -/
def decodeString : List Char → List Char
  | [] => []
  | '\\' :: c :: rest =>
    if isAsciiPunct c then c :: decodeString rest else '\\' :: decodeString (c :: rest)
  | '&' :: rest =>
    match charRef? rest with
    | some (v, n) => v.toList ++ decodeString (rest.drop n)
    | none => '&' :: decodeString rest
  | c :: rest => c :: decodeString rest
  termination_by cs => cs.length
  decreasing_by all_goals (simp only [List.length_cons, List.length_drop]; omega)

end Typeset.Markdown
