import Mathlib.Algebra.Group.Nat.Even
import Mathlib.Data.List.Induction
import Typeset.Proofs.Typst.Header

/-!
Escaped text read back.

Markup and string literals read escapes the same way: from the left, a backslash that is not
itself escaped takes the character after it, and every other character stands for itself
(`readEscapes`). Markup shows an escaped character without its backslash; a string literal
reads `\n` as a line feed.

Markup escaping writes a special character (`isMarkupSpecial`) escaped and any other plain
(`readEscapes_escapeTextChars`). So deleting the escaping backslashes gives the text back, every
special character of the output is an escaping backslash or the character one escapes, and the
output ends in an even run of backslashes: it reads the same whatever markup follows it.
String escaping writes the backslash, the quote and the line feed escaped
(`readEscapes_escapeStringChars`): a quoted text holds no unescaped quote and no line feed, and
reads back as itself (`escapes_read_back`).
-/

namespace Typeset.Typst

/-- A character of escaped text as a reader takes it: a backslash with the character after it,
or a character on its own. -/
inductive Escaped where
  | escape (c : Char)
  | plain (c : Char)
  deriving DecidableEq, Repr

/-- Reads escaped text from the left: a backslash that is not itself escaped escapes the
character after it. A backslash with nothing after it stands on its own. -/
def readEscapes : List Char → List Escaped
  | '\\' :: c :: rest => .escape c :: readEscapes rest
  | c :: rest => .plain c :: readEscapes rest
  | [] => []

/-- The character markup shows for a piece: an escaped character without its backslash. -/
def Escaped.char : Escaped → Char
  | .escape c | .plain c => c

/-- How markup escaping writes a character. -/
def markupPiece (c : Char) : Escaped := if isMarkupSpecial c then .escape c else .plain c

/-- How string escaping writes a character: the line feed as the escape `\n`. -/
def stringPiece (c : Char) : Escaped :=
  if c = '\\' ∨ c = '"' then .escape c else if c = '\n' then .escape 'n' else .plain c

/-- The length of the run of backslashes a text ends in. -/
def trailingBackslashes (cs : List Char) : Nat := (cs.reverse.takeWhile (· == '\\')).length

/-! ## Reading -/

theorem readEscapes_plain {c : Char} (h : c ≠ '\\') (rest : List Char) :
    readEscapes (c :: rest) = .plain c :: readEscapes rest := by
  rw [readEscapes.eq_def]
  split <;> simp_all

@[simp] theorem readEscapes_escape (c : Char) (rest : List Char) :
    readEscapes ('\\' :: c :: rest) = .escape c :: readEscapes rest := by
  rfl

@[simp] theorem char_markupPiece (c : Char) : (markupPiece c).char = c := by
  unfold markupPiece
  split <;> rfl

theorem isMarkupSpecial_backslash : isMarkupSpecial '\\' = true := rfl

/-- Markup escaping writes each character as its piece, and the reading of what follows starts
fresh after it. -/
theorem readEscapes_escapeTextChars (cs rest : List Char) :
    readEscapes (escapeTextChars cs ++ rest) = cs.map markupPiece ++ readEscapes rest := by
  induction cs with
  | nil => rfl
  | cons c cs ih =>
    by_cases hc : isMarkupSpecial c = true
    · simp [escapeTextChars, markupPiece, hc, ih]
    · -- a character markup reads as itself is no backslash
      have hb : c ≠ '\\' := fun h => hc (h ▸ isMarkupSpecial_backslash)
      simp only [escapeTextChars, hc, Bool.false_eq_true, if_false, List.cons_append,
        List.map_cons, readEscapes_plain hb, ih, markupPiece]

/-- String escaping writes each character as its piece. -/
theorem readEscapes_escapeStringChars (cs rest : List Char) :
    readEscapes (escapeStringChars cs ++ rest) = cs.map stringPiece ++ readEscapes rest := by
  induction cs with
  | nil => rfl
  | cons c cs ih =>
    by_cases h1 : c = '\\'
    · simp [escapeStringChars, stringPiece, h1, ih]
    by_cases h2 : c = '"'
    · simp [escapeStringChars, stringPiece, h2, ih]
    by_cases h3 : c = '\n'
    · simp [escapeStringChars, stringPiece, h3, ih]
    simp only [escapeStringChars, h1, h2, h3, if_false, List.cons_append, List.map_cons,
      readEscapes_plain h1, ih, stringPiece, or_self]

/-! ## Markup text -/

theorem escapeTextChars_append (cs ds : List Char) :
    escapeTextChars (cs ++ ds) = escapeTextChars cs ++ escapeTextChars ds := by
  induction cs with
  | nil => rfl
  | cons c cs ih =>
    by_cases hc : isMarkupSpecial c = true <;> simp [escapeTextChars, hc, ih]

/-- An escaped text ends in an even run of backslashes: the last character written is either
escaped, and a backslash is written twice, or plain and no backslash. -/
theorem even_trailingBackslashes_escapeTextChars (cs : List Char) :
    Even (trailingBackslashes (escapeTextChars cs)) := by
  induction cs using List.reverseRecOn with
  | nil => exact ⟨0, rfl⟩
  | append_singleton cs c ih =>
    rw [escapeTextChars_append]
    by_cases hb : c = '\\'
    · subst hb
      have h : trailingBackslashes (escapeTextChars cs ++ escapeTextChars ['\\']) =
          trailingBackslashes (escapeTextChars cs) + 2 := by
        simp [trailingBackslashes, escapeTextChars, isMarkupSpecial]
      rw [h]
      exact ih.add ⟨1, rfl⟩
    · have h : trailingBackslashes (escapeTextChars cs ++ escapeTextChars [c]) = 0 := by
        by_cases hc : isMarkupSpecial c = true <;>
          simp [trailingBackslashes, escapeTextChars, hc, hb]
      rw [h]
      exact ⟨0, rfl⟩

theorem plain_mem_escapeText {s : String} {c : Char}
    (h : Escaped.plain c ∈ readEscapes (escapeText s).toList) : isMarkupSpecial c = false := by
  have h' := readEscapes_escapeTextChars s.toList []
  simp only [List.append_nil, readEscapes, escapeText, String.toList_ofList] at h h'
  rw [h'] at h
  obtain ⟨d, -, hd⟩ := List.mem_map.1 h
  by_cases hs : isMarkupSpecial d = true
  · simp [markupPiece, hs] at hd
  · simp only [markupPiece, hs, Bool.false_eq_true, if_false, Escaped.plain.injEq] at hd
    simpa [hd] using hs

/-! ## String literals -/

theorem plain_quote_not_mem_escapeString (s : String) :
    Escaped.plain '"' ∉ readEscapes (escapeString s).toList := by
  have h := readEscapes_escapeStringChars s.toList []
  simp only [List.append_nil, readEscapes] at h
  simp only [escapeString, String.toList_ofList, h, List.mem_map, not_exists, not_and]
  intro c _ hc
  unfold stringPiece at hc
  split at hc
  · cases hc
  · split at hc
    · cases hc
    · cases hc
      simp_all

/-- **Escaping reads back.** Markup escaping: deleting each escaping backslash of
`escapeText s`, the character after it kept, gives `s` back; every special character of
`escapeText s` is an escaping backslash or the character one escapes, none stands on its own;
and `escapeText s` ends in an even run of backslashes, so it escapes nothing that follows it.
String escaping: `quote s` reads as a Typst string literal that holds `s` and ends at the last
character, it holds no unescaped quote inside its quotes, and no line feed. -/
theorem escapes_read_back (s : String) :
    ((readEscapes (escapeText s).toList).map Escaped.char = s.toList ∧
      (∀ c, Escaped.plain c ∈ readEscapes (escapeText s).toList → isMarkupSpecial c = false) ∧
      Even (trailingBackslashes (escapeText s).toList) ∧
      ∀ rest, readEscapes ((escapeText s).toList ++ rest) =
        readEscapes (escapeText s).toList ++ readEscapes rest) ∧
    (readString (quote s).toList = some (s, []) ∧
      Escaped.plain '"' ∉ readEscapes (escapeString s).toList ∧
      '\n' ∉ (quote s).toList) := by
  have hread : ∀ rest, readEscapes ((escapeText s).toList ++ rest) =
      s.toList.map markupPiece ++ readEscapes rest := by
    simpa [escapeText] using readEscapes_escapeTextChars s.toList
  have hself : readEscapes (escapeText s).toList = s.toList.map markupPiece := by
    simpa [readEscapes] using hread []
  refine ⟨⟨?_, fun c hc => plain_mem_escapeText hc, ?_, fun rest => ?_⟩, ?_,
    plain_quote_not_mem_escapeString s, newline_not_mem_quote s⟩
  · simp [hself, Function.comp_def]
  · simpa [escapeText] using even_trailingBackslashes_escapeTextChars s.toList
  · rw [hread, hself]
  · simpa using readString_quote s []

end Typeset.Typst
