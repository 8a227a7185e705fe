import Typeset.Document.Basic

/-!
Superscript and subscript spans in text: `^up^` and `~down~`.

A span opens with a marker (`^` or `~`), holds at least one character and no line break, and
closes at the first marker of the same kind after its first character. Text is scanned from the
left: at each position a span is taken if one opens there, otherwise the character stays text.
Spans never overlap, and the text between them is kept as it is.

The document pass splits the text of headings, paragraphs and table cells, at any depth of
quotes, lists and footnotes, also inside strong, emphasis, strike, highlight and links, but never
inside an existing superscript or subscript.
-/

namespace Typeset

/-- Whether a character ends a line. -/
def isLineBreak (c : Char) : Bool := c == '\n' || c == '\r'

/-- The span body that follows an opening `marker`: its first character, which may be any
character but a line break, and everything up to the next `marker`, together with the text
after that closing marker. `acc` holds the body read so far, last character first. -/
def spanBody (marker : Char) (acc : List Char) : List Char → Option (List Char × List Char)
  | [] => none
  | c :: rest =>
    if isLineBreak c then none
    else if c = marker ∧ acc ≠ [] then some (acc.reverse, rest)
    else spanBody marker (c :: acc) rest

theorem spanBody_length {marker : Char} {acc cs body rest : List Char}
    (h : spanBody marker acc cs = some (body, rest)) : rest.length < cs.length := by
  induction cs generalizing acc with
  | nil => simp [spanBody] at h
  | cons c cs ih =>
    simp only [spanBody] at h
    split at h
    · simp at h
    · split at h
      · simp only [Option.some.injEq, Prod.mk.injEq] at h
        rw [← h.2]; simp
      · have := ih h; simp; omega

/-- The node of a span with its marker and body. -/
def spanNode (marker : Char) (body : List Char) : Inline :=
  if marker = '^' then .superscript [.text (String.ofList body)]
  else .subscript [.text (String.ofList body)]

/-- Text pending before the next span, as a node if there is any. -/
def pendingText (pending : List Char) : List Inline :=
  if pending.isEmpty then [] else [.text (String.ofList pending.reverse)]

/-- Splits characters into text and spans; `pending` holds the text read since the last span,
last character first. -/
def splitChars (pending : List Char) : List Char → List Inline
  | [] => pendingText pending
  | c :: rest =>
    if c = '^' ∨ c = '~' then
      match h : spanBody c [] rest with
      | some (body, after) =>
        have := spanBody_length h
        pendingText pending ++ spanNode c body :: splitChars [] after
      | none => splitChars (c :: pending) rest
    else splitChars (c :: pending) rest
  termination_by cs => cs.length

/-- A text value split into text and spans. -/
def splitText (value : String) : List Inline := splitChars [] value.toList

/-- Whether a text holds a span marker. -/
def hasMarker (value : String) : Bool := value.toList.any fun c => c == '^' || c == '~'

mutual

/-- Splits the spans in a sequence of inlines. -/
def splitInlines : List Inline → List Inline
  | [] => []
  | x :: xs => splitInline x ++ splitInlines xs

/-- Splits the spans in one inline, giving the nodes that replace it. -/
def splitInline : Inline → List Inline
  | .text v => if hasMarker v then splitText v else [.text v]
  | .strong cs => [.strong (splitInlines cs)]
  | .emphasis cs => [.emphasis (splitInlines cs)]
  | .strike cs => [.strike (splitInlines cs)]
  | .highlight cs => [.highlight (splitInlines cs)]
  | .link url cs => [.link url (splitInlines cs)]
  | .linkReference i l cs => [.linkReference i l (splitInlines cs)]
  | x => [x]

end

/-- Whether the pass has work at an inline: a text with a marker, or a span with children other
than a superscript or a subscript, whose children the pass never enters. -/
def Inline.needsVisit : Inline → Bool
  | .text v => hasMarker v
  | .superscript _ | .subscript _ => false
  | x => x.children?.isSome

/-- The early return of the pass as it runs in place: a sequence in which no node needs a visit
is kept as it is, and any other is replaced by its visit. -/
def Inline.guardVisit (xs visited : List Inline) : List Inline :=
  if xs.any Inline.needsVisit then visited else xs

mutual

/-- The in-place pass over the nodes of a sequence, in order. -/
def visitEach : List Inline → List Inline
  | [] => []
  | x :: xs => visitNode x ++ visitEach xs

/-- The in-place pass at one node: a text with a marker is split, the children of strong,
emphasis, strike, highlight and links are visited behind the early return, and every other node
stays. -/
def visitNode : Inline → List Inline
  | .text v => if hasMarker v then splitText v else [.text v]
  | .strong cs => [.strong (Inline.guardVisit cs (visitEach cs))]
  | .emphasis cs => [.emphasis (Inline.guardVisit cs (visitEach cs))]
  | .strike cs => [.strike (Inline.guardVisit cs (visitEach cs))]
  | .highlight cs => [.highlight (Inline.guardVisit cs (visitEach cs))]
  | .link url cs => [.link url (Inline.guardVisit cs (visitEach cs))]
  | .linkReference i l cs => [.linkReference i l (Inline.guardVisit cs (visitEach cs))]
  | x => [x]

end

/-- The pass over a sequence of inlines as it runs in place, returning early when no node needs
a visit. `splitInlines` is the same pass without the early returns. -/
def visitInlines (xs : List Inline) : List Inline := Inline.guardVisit xs (visitEach xs)

/-- Splits the spans in table cells. -/
def splitCells (rows : List (List (List Inline))) : List (List (List Inline)) :=
  rows.map (·.map splitInlines)

mutual

/-- Splits the spans in a block. -/
def splitBlock : Block → Block
  | .heading d cs => .heading d (splitInlines cs)
  | .paragraph cs => .paragraph (splitInlines cs)
  | .footnoteDefinition i cs => .footnoteDefinition i (splitBlocks cs)
  | .blockquote cs => .blockquote (splitBlocks cs)
  | .list o items => .list o (splitItems items)
  | .table a rows => .table a (splitCells rows)
  | b => b

/-- Splits the spans in a sequence of blocks. -/
def splitBlocks : List Block → List Block
  | [] => []
  | b :: bs => splitBlock b :: splitBlocks bs

/-- Splits the spans in list items. -/
def splitItems : List (List Block) → List (List Block)
  | [] => []
  | item :: items => splitBlocks item :: splitItems items

end

/-- Splits the spans in a whole document. -/
def Document.splitScripts (d : Document) : Document := ⟨splitBlocks d.children⟩

end Typeset
