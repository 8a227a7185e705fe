import Typeset.Text.CaseTable
import Typeset.Text.Properties

/-!
Full Unicode case mapping of texts. Each character maps through the tables of
`Typeset.Text.CaseTable`; a capital sigma becomes the final form `ς` when it ends a word (a cased
letter before it and none after it, case-ignorable characters in between not counting), and `σ`
otherwise.
-/

namespace Typeset.Text

/-- Where a run sends a code point it covers. -/
def CaseRun.target? (r : CaseRun) (n : Nat) : Option Nat :=
  if r.first ≤ n ∧ n ≤ r.last ∧ (n - r.first) % r.stride = 0 then some (n + r.shift).toNat
  else none

/-- Where the first run that covers `n` sends it. The runs of a table are in order of their first
code point, so the search stops at the first run that starts past `n`: no later run covers it. -/
def runTarget? (runs : Array CaseRun) (n : Nat) : Option Nat :=
  go 0
where
  /-- The search from run `i` on. -/
  go (i : Nat) : Option Nat :=
    if h : i < runs.size then
      let r := runs[i]
      if n < r.first then none
      else
        match r.target? n with
        | some m => some m
        | none => go (i + 1)
    else none
  termination_by runs.size - i

/-- The wide mapping of `n`. The table is in increasing order of code point, so the search stops
at the first entry past `n`. -/
def wideTarget? (n : Nat) : List (Nat × String) → Option String
  | [] => none
  | (k, s) :: rest => if n < k then none else if n == k then some s else wideTarget? n rest

/-- The characters one character maps to, through a run table and a table of wide mappings. -/
def mapChar (runs : Array CaseRun) (wide : List (Nat × String)) (c : Char) : List Char :=
  match wideTarget? c.toNat wide with
  | some s => s.toList
  | none =>
    match runTarget? runs c.toNat with
    | some m => [Char.ofNat m]
    | none => [c]

/-- Whether a character has the Unicode Cased property. -/
def isCased (c : Char) : Bool := inRanges casedRanges c.toNat

/-- Whether a character has the Unicode Case_Ignorable property. -/
def isCaseIgnorable (c : Char) : Bool := inRanges caseIgnorableRanges c.toNat

/-- Whether the first character that is not case-ignorable is cased. -/
def casedAhead (cs : List Char) : Bool :=
  match cs.dropWhile isCaseIgnorable with
  | c :: _ => isCased c
  | [] => false

/-- A capital sigma between `before` (nearest first) and `after` ends a word. -/
def endsWord (before after : List Char) : Bool := casedAhead before && !casedAhead after

/-- Lower case of a character list; `before` holds the characters already passed, nearest
first. -/
def lowerFrom (before : List Char) : List Char → List Char
  | [] => []
  | c :: rest =>
    (if c = 'Σ' then [if endsWord before rest then 'ς' else 'σ']
     else mapChar lowerRuns lowerWide c) ++ lowerFrom (c :: before) rest

/-- The full lower case of a text. -/
def toLower (s : String) : String := String.ofList (lowerFrom [] s.toList)

/-- The full upper case of a text. -/
def toUpper (s : String) : String := String.ofList (s.toList.flatMap (mapChar upperRuns upperWide))

end Typeset.Text
