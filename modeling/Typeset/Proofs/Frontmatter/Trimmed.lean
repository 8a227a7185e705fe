import Typeset.Proofs.Frontmatter.FirstWins
import Typeset.Proofs.Render.Title

/-!
Every text a frontmatter block gives is trimmed, and no author is empty.

Each field is built from scalars read by `unquoteChars`, which trims, removes a pair of quotes
and trims what was inside: its result is trimmed (`trimChars_unquoteChars`). The language and the
title are one such scalar; every author list goes through `nonEmpty`, whichever form gave it (an
`author:` line, an `authors:` value on its line, `[a, b]` or a single name, or a block of
`- item` lines). So each line the reader takes keeps the fields trimmed and the authors nonempty
(`Clean.readLine`, `Clean.block`), and so does the whole reading (`parse_fields_trimmed`).
-/

namespace Typeset.Frontmatter

open Text Render

/-- The fields of a frontmatter as the reader gives them: the language and the title trimmed,
and every author trimmed and nonempty. -/
structure Clean (f : Frontmatter) : Prop where
  lang : ∀ x, f.lang = some x → trim x = x
  title : ∀ x, f.title = some x → trim x = x
  authors : ∀ l, f.authors = some l → ∀ a ∈ l, trim a = a ∧ a ≠ ""

/-! ## Scalars -/

/-- A scalar is trimmed: trimming happens last on both of its paths. -/
theorem trimChars_unquoteChars (value : List Char) :
    trimChars (unquoteChars value) = unquoteChars value := by
  unfold unquoteChars
  dsimp only
  split
  · split_ifs <;> exact trimChars_trimChars _
  · exact trimChars_trimChars _

theorem trim_unquote (value : List Char) :
    trim (String.ofList (unquoteChars value)) = String.ofList (unquoteChars value) := by
  simp [trim, trimChars_unquoteChars]

/-- Texts that are trimmed stay trimmed through `nonEmpty`, which leaves no empty one. -/
theorem mem_nonEmpty {l : List String} (hl : ∀ a ∈ l, trim a = a) :
    ∀ a ∈ nonEmpty l, trim a = a ∧ a ≠ "" := by
  intro a ha
  simp only [nonEmpty, List.mem_filter, Bool.not_eq_eq_eq_not, Bool.not_true,
    String.isEmpty_eq_false_iff] at ha
  exact ⟨hl a ha.1, ha.2⟩

theorem mem_nonEmpty_unquoted (vs : List (List Char)) :
    ∀ a ∈ nonEmpty (vs.map (String.ofList ∘ unquoteChars)), trim a = a ∧ a ≠ "" :=
  mem_nonEmpty fun a ha => by
    obtain ⟨v, -, rfl⟩ := List.mem_map.1 ha
    exact trim_unquote v

/-- An `authors` value on its own line, flow list or single name, gives trimmed nonempty
authors. -/
theorem mem_inlineList (value : List Char) : ∀ a ∈ inlineList value, trim a = a ∧ a ≠ "" := by
  unfold inlineList
  split
  · split_ifs
    · exact mem_nonEmpty_unquoted _
    · exact mem_nonEmpty_unquoted [_]
  · exact mem_nonEmpty_unquoted [_]

/-! ## One line, then every line -/

namespace Clean

variable {f : Frontmatter}

theorem empty : Clean ({} : Frontmatter) := by
  constructor <;> intro _ h <;> cases h

theorem setLang (h : Clean f) (value : List Char) :
    Clean { f with lang := some (String.ofList (unquoteChars value)) } := by
  refine ⟨fun x hx => ?_, h.title, h.authors⟩
  cases hx
  exact trim_unquote value

theorem setTitle (h : Clean f) (value : List Char) :
    Clean { f with title := some (String.ofList (unquoteChars value)) } := by
  refine ⟨h.lang, fun x hx => ?_, h.authors⟩
  cases hx
  exact trim_unquote value

theorem setAuthors (h : Clean f) {l : List String} (hl : ∀ a ∈ l, trim a = a ∧ a ≠ "") :
    Clean { f with authors := some l } := by
  refine ⟨h.lang, h.title, fun l' hl' => ?_⟩
  cases hl'
  exact hl

/-- A line read on its own keeps the fields clean: each field it sets is an unquoted scalar or
an author list filtered by `nonEmpty`. -/
theorem readLine (h : Clean f) (line : List Char) : Clean (readLines f [line]) := by
  rw [readLines.eq_2]
  cases hsplit : splitKey line with
  | none => simpa [readLines.eq_1] using h
  | some kv =>
    obtain ⟨key, value⟩ := kv
    dsimp only
    split_ifs <;> simp only [List.dropWhile_nil, List.takeWhile_nil, List.filterMap_nil,
      readLines.eq_1]
    · exact h.setLang value
    · exact h.setTitle value
    · exact h.setAuthors (mem_nonEmpty_unquoted [value])
    · exact h.setAuthors (mem_inlineList _)
    · exact h.setAuthors (mem_nonEmpty_unquoted [])
    · exact h

/-- The `- item` lines of a block list give trimmed nonempty authors. -/
theorem block (h : Clean f) (rest : List (List Char)) :
    Clean { f with authors := some (leadingItems rest) } :=
  h.setAuthors (mem_nonEmpty_unquoted _)

/-- Reading any lines keeps the fields clean. -/
theorem readLines (h : Clean f) (ls : List (List Char)) : Clean (Frontmatter.readLines f ls) := by
  induction f, ls using readLines_induction with
  | nil acc => simpa [Frontmatter.readLines.eq_1] using h
  | key acc line rest hkey ih =>
    rw [readLines_key hkey]
    exact ih (h.readLine line)
  | block acc line rest hblock ih =>
    rw [readLines_block hblock]
    exact ih (h.block rest)

end Clean

/-- **Every text a frontmatter block gives is trimmed.** For every raw block, the language and
the title it gives equal their own trim (Unicode White_Space), and every author it gives equals
its own trim and is nonempty, whichever line form gave the authors. -/
theorem parse_fields_trimmed (raw : String) :
    (∀ x, (parse raw).lang = some x → trim x = x) ∧
    (∀ x, (parse raw).title = some x → trim x = x) ∧
    ∀ l, (parse raw).authors = some l → ∀ a ∈ l, trim a = a ∧ a ≠ "" := by
  have h : Clean (parse raw) := Clean.empty.readLines (lines raw)
  exact ⟨h.lang, h.title, h.authors⟩

end Typeset.Frontmatter
