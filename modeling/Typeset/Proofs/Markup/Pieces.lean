import Typeset.Proofs.Markup.Scan
import Typeset.Render.Body
import Mathlib.Data.List.Basic

/-!
The pieces of markup the writer puts together, as the scan reads them.

Escaped text is read as literal characters and an escaped url stays inside its string literal,
whatever they hold. Verbatim values stay inside their spans under conditions on the values:
inline code when it is not empty and holds no backtick; a code block, inside the fence grown for
it, when its language tag holds no backtick; a math value when every `$` in it comes right after
a backslash and, inline, it does not end in a backslash. Under these conditions each piece is a
fragment, and so is every call, link, image, cell, table, quote and list line around fragments.
-/

namespace Typeset.Render

open Text Typst Scan

/-! ## Fixed pieces

A piece of fixed text is checked once, at depth zero, and `run_deepen` moves the check to every
depth. -/

/-- The openings of the calls that take markup in brackets, and of table cells. -/
def bracketOpenings : List String :=
  ["#strike[", "#highlight[", "#sub[", "#super[", "#footnote[", "#quote[", "[", "[*"]

theorem run_bracketOpening {o : String} (ho : o ∈ bracketOpenings) (d : Nat) :
    run true (markupAt d) o.toList = some (markupAt (d + 1)) := by
  have h0 : run true (markupAt 0) o.toList = some (markupAt 1) := by
    simp only [bracketOpenings, List.mem_cons, List.not_mem_nil, or_false] at ho
    rcases ho with rfl | rfl | rfl | rfl | rfl | rfl | rfl | rfl <;> decide
  simpa [State.deepen, markupAt, Nat.add_comm] using run_deepen d h0

theorem run_bracketClosing {c : String} (hc : c = "]" ∨ c = "*]") (d : Nat) :
    run true (markupAt (d + 1)) c.toList = some (markupAt d) := by
  have h0 : run true (markupAt 1) c.toList = some (markupAt 0) := by
    rcases hc with rfl | rfl <;> decide
  simpa [State.deepen, markupAt, Nat.add_comm] using run_deepen d h0

/-- Markup in brackets after a call's opening is a fragment. -/
theorem Fragment.bracketed {o c r : String} (ho : o ∈ bracketOpenings) (hc : c = "]" ∨ c = "*]")
    (hr : Fragment r) : Fragment (o ++ r ++ c) := fun d => by
  simp only [String.toList_append, List.append_assoc]
  rw [run_append_of_eq _ (run_bracketOpening ho d), run_append_of_eq _ (hr (d + 1)),
    run_bracketClosing hc d]

theorem fragment_newline : Fragment "\n" := fragment_of_run (by decide)

theorem fragment_outline : Fragment outline := fragment_of_run (by decide)

theorem fragment_ruleLine : Fragment ruleLine := fragment_of_run (by decide)

theorem fragment_headingMarker (depth : Nat) : Fragment (headingMarker depth) :=
  fragment_of_inert fun c hc => by
    simp only [headingMarker, String.toList_ofList, List.mem_replicate] at hc
    rw [hc.2]
    rfl

theorem fragment_spaces (n : Nat) : Fragment (String.ofList (List.replicate n ' ')) :=
  fragment_of_inert fun c hc => by
    simp only [String.toList_ofList, List.mem_replicate] at hc
    rw [hc.2]
    rfl

/-! ## Escaped text and urls -/

theorem inert_of_not_isMarkupSpecial {c : Char} (h : isMarkupSpecial c = false) : inert c = true := by
  simp only [isMarkupSpecial, Bool.or_eq_false_iff] at h
  simp [inert, h]

theorem run_escapeTextChars (b : Bool) (d : Nat) :
    ∀ cs : List Char, run b (markupAt d) (escapeTextChars cs) = some (markupAt d)
  | [] => rfl
  | c :: cs => by
    cases hc : isMarkupSpecial c
    · simp only [escapeTextChars, hc, Bool.false_eq_true, if_false, run,
        step_markupAt_inert d (inert_of_not_isMarkupSpecial hc), Option.bind_some]
      exact run_escapeTextChars b d cs
    · simp only [escapeTextChars, hc, if_true, run]
      simpa [markupAt, step, plainStep] using run_escapeTextChars b d cs

/-- Escaped text is a fragment. -/
theorem fragment_escapeText (v : String) : Fragment (escapeText v) := fun d => by
  simpa [escapeText] using run_escapeTextChars true d v.toList

/-- Escaped text is read as literal characters: outside every span at the depth it is put at,
each special character right after the backslash that escapes it. -/
theorem within_escapeTextChars (d : Nat) : ∀ cs : List Char,
    Within (fun st => st = markupAt d ∨ st = ⟨.markup, .escape, d⟩) (markupAt d) (escapeTextChars cs)
  | [] => .inl rfl
  | c :: cs => by
    cases hc : isMarkupSpecial c
    · simp only [escapeTextChars, hc, Bool.false_eq_true, if_false]
      exact ⟨.inl rfl, markupAt d, step_markupAt_inert d (inert_of_not_isMarkupSpecial hc),
        within_escapeTextChars d cs⟩
    · simp only [escapeTextChars, hc, if_true]
      exact ⟨.inl rfl, ⟨.markup, .escape, d⟩, by simp [markupAt, step, plainStep], .inr rfl,
        markupAt d, rfl, within_escapeTextChars d cs⟩

/-- Each character of a url is written as itself, when it neither ends nor escapes a string,
or as a backslash and one more character. -/
theorem escapeStringChars_cons (c : Char) (cs : List Char) :
    (∃ x, escapeStringChars (c :: cs) = '\\' :: x :: escapeStringChars cs) ∨
      (c ≠ '\\' ∧ c ≠ '"' ∧ escapeStringChars (c :: cs) = c :: escapeStringChars cs) := by
  by_cases h1 : c = '\\'
  · exact .inl ⟨'\\', by simp [escapeStringChars, h1]⟩
  by_cases h2 : c = '"'
  · exact .inl ⟨'"', by simp [escapeStringChars, h2]⟩
  by_cases h3 : c = '\n'
  · exact .inl ⟨'n', by simp [escapeStringChars, h3]⟩
  exact .inr ⟨h1, h2, by simp [escapeStringChars, h1, h2, h3]⟩

theorem run_escapeStringChars (b : Bool) (d : Nat) : ∀ cs : List Char,
    run b ⟨.args, .str false, d⟩ (escapeStringChars cs) = some ⟨.args, .str false, d⟩
  | [] => rfl
  | c :: cs => by
    have ih := run_escapeStringChars b d cs
    rcases escapeStringChars_cons c cs with ⟨x, he⟩ | ⟨h1, h2, he⟩
    · simp [he, run, step, ih]
    · simp [he, run, step, h1, h2, ih]

theorem run_escapeString (b : Bool) (d : Nat) (url : String) :
    run b ⟨.args, .str false, d⟩ (escapeString url).toList = some ⟨.args, .str false, d⟩ := by
  simpa [escapeString] using run_escapeStringChars b d url.toList

/-- An escaped url stays inside its string literal. -/
theorem within_escapeStringChars (d : Nat) : ∀ cs : List Char,
    Within (fun st => ∃ slash, st = ⟨.args, .str slash, d⟩) ⟨.args, .str false, d⟩
      (escapeStringChars cs)
  | [] => ⟨false, rfl⟩
  | c :: cs => by
    have ih := within_escapeStringChars d cs
    rcases escapeStringChars_cons c cs with ⟨x, he⟩ | ⟨h1, h2, he⟩
    · -- the backslash escapes the next character, and the string goes on
      rw [he]
      exact ⟨⟨false, rfl⟩, _, rfl, ⟨true, rfl⟩, _, rfl, ih⟩
    · rw [he]
      exact ⟨⟨false, rfl⟩, ⟨.args, .str false, d⟩, by simp [step, h1, h2], ih⟩

/-- A link around a fragment label is a fragment: the url stays in its string literal, and the
label sits in the link's brackets. -/
theorem fragment_hyperlink (url : String) {label : String} (h : Fragment label) :
    Fragment (hyperlink url label) := by
  have hl : Fragment (if isBlankText label then escapeText url else label) := by
    split
    · exact fragment_escapeText url
    · exact h
  intro d
  have hopen : run true (markupAt d) "#link(\"".toList = some ⟨.args, .str false, d⟩ := by
    simpa [State.deepen, markupAt] using run_deepen d (show run true (markupAt 0) "#link(\"".toList =
      some ⟨.args, .str false, 0⟩ by decide)
  have hclose : run true ⟨.args, .str false, d⟩ "\")[".toList = some (markupAt (d + 1)) := by
    simpa [State.deepen, markupAt, Nat.add_comm] using run_deepen d (show run true
      ⟨.args, .str false, 0⟩ "\")[".toList = some (markupAt 1) by decide)
  simp only [hyperlink, String.toList_append, List.append_assoc]
  rw [run_append_of_eq _ hopen, run_append_of_eq _ (run_escapeString true d url),
    run_append_of_eq _ hclose, run_append_of_eq _ (hl (d + 1)), run_bracketClosing (.inl rfl) d]

/-- An image is a fragment: its url stays in its string literal. -/
theorem fragment_image (url : String) : Fragment ("#image(\"" ++ escapeString url ++ "\")") := by
  intro d
  have hopen : run true (markupAt d) "#image(\"".toList = some ⟨.args, .str false, d⟩ := by
    simpa [State.deepen, markupAt] using run_deepen d (show run true (markupAt 0)
      "#image(\"".toList = some ⟨.args, .str false, 0⟩ by decide)
  have hclose : run true ⟨.args, .str false, d⟩ "\")".toList = some (markupAt d) := by
    simpa [State.deepen, markupAt] using run_deepen d (show run true ⟨.args, .str false, 0⟩
      "\")".toList = some (markupAt 0) by decide)
  simp only [String.toList_append, List.append_assoc]
  rw [run_append_of_eq _ hopen, run_append_of_eq _ (run_escapeString true d url), hclose]

/-! ## Inline code -/

theorem run_raw_of_no_backtick {b : Bool} {ctx : Context} {k d : Nat} :
    ∀ {cs : List Char}, '`' ∉ cs → run b ⟨ctx, .raw k 0, d⟩ cs = some ⟨ctx, .raw k 0, d⟩
  | [], _ => rfl
  | c :: cs, h => by
    have hc : c ≠ '`' := fun hc => h (hc ▸ List.mem_cons_self)
    simp only [run, step, hc, if_false, Option.bind_some]
    exact run_raw_of_no_backtick fun h' => h (List.mem_cons_of_mem _ h')

/-- Inline code without backticks stays inside the raw span its backtick opened. -/
theorem within_inlineCode {d : Nat} {cs : List Char} (h : '`' ∉ cs) :
    Within (fun st => st = ⟨.markup, .ticks 1, d⟩ ∨ st = ⟨.markup, .raw 1 0, d⟩)
      ⟨.markup, .ticks 1, d⟩ cs := by
  -- from its first character on, the code is in the raw span
  have hraw : ∀ {cs : List Char}, '`' ∉ cs →
      Within (fun st => st = ⟨.markup, .ticks 1, d⟩ ∨ st = ⟨.markup, .raw 1 0, d⟩)
        ⟨.markup, .raw 1 0, d⟩ cs := by
    intro cs hcs
    induction cs with
    | nil => exact .inr rfl
    | cons c cs ih =>
      have hc : c ≠ '`' := fun hc => hcs (hc ▸ List.mem_cons_self)
      exact ⟨.inr rfl, ⟨.markup, .raw 1 0, d⟩, by simp [step, hc],
        ih fun h' => hcs (List.mem_cons_of_mem _ h')⟩
  cases cs with
  | nil => exact .inl rfl
  | cons c cs =>
    have hc : c ≠ '`' := fun hc => h (hc ▸ List.mem_cons_self)
    exact ⟨.inl rfl, ⟨.markup, .raw 1 0, d⟩, by simp [step, hc],
      hraw fun h' => h (List.mem_cons_of_mem _ h')⟩

theorem flatMap_escapeTicks_of_no_backtick :
    ∀ {cs : List Char}, '`' ∉ cs → (cs.flatMap fun c => if c = '`' then ['\\', '`'] else [c]) = cs
  | [], _ => rfl
  | c :: cs, h => by
    have hc : c ≠ '`' := fun hc => h (hc ▸ List.mem_cons_self)
    rw [List.flatMap_cons, if_neg hc, flatMap_escapeTicks_of_no_backtick
      fun h' => h (List.mem_cons_of_mem _ h')]
    rfl

/-- Nonempty inline code without backticks is a fragment: one backtick opens its raw span and
the closing one ends it. -/
theorem fragment_inlineCode {v : String} (hv : v ≠ "") (hb : '`' ∉ v.toList) :
    Fragment (inlineCode v) := by
  intro d
  obtain ⟨c, cs, hcs⟩ : ∃ c cs, v.toList = c :: cs := by
    cases h : v.toList with
    | nil => exact absurd (String.toList_eq_nil_iff.1 h) hv
    | cons c cs => exact ⟨c, cs, rfl⟩
  rw [hcs] at hb
  have hc : c ≠ '`' := fun hc => hb (hc ▸ List.mem_cons_self)
  have hrest : '`' ∉ cs := fun h' => hb (List.mem_cons_of_mem _ h')
  simp only [inlineCode, hcs, flatMap_escapeTicks_of_no_backtick hb, String.toList_append,
    String.toList_ofList]
  simp [run, markupAt, step, plainStep, hc, run_append_of_eq _ (run_raw_of_no_backtick hrest)]

/-! ## Math -/

/-- Every `$` of the text comes right after a backslash, so that none of them ends a math span;
`slash` says whether the text itself comes right after one. -/
def dollarsEscapedAfter (slash : Bool) : List Char → Bool
  | [] => true
  | c :: cs => (c != '$' || slash) && dollarsEscapedAfter (c == '\\') cs

/-- Every `$` of the text comes right after a backslash in it. -/
def dollarsEscaped (cs : List Char) : Bool := dollarsEscapedAfter false cs

/-- Math whose dollars all come right after a backslash stays in its span; the scan ends
remembering whether the last character was a backslash. -/
theorem run_math {b : Bool} {ctx : Context} {d : Nat} :
    ∀ (slash : Bool) (cs : List Char), dollarsEscapedAfter slash cs = true →
      run b ⟨ctx, .math slash, d⟩ cs = some ⟨ctx, .math (cs.foldl (fun _ c => c == '\\') slash), d⟩
  | _, [], _ => rfl
  | slash, c :: cs, h => by
    simp only [dollarsEscapedAfter, Bool.and_eq_true, Bool.or_eq_true, bne_iff_ne, ne_eq] at h
    obtain ⟨hc, hcs⟩ := h
    have hclose : ¬ (c = '$' ∧ slash = false) := by
      rintro ⟨rfl, rfl⟩
      simp at hc
    simp only [run, step, hclose, if_false, Option.bind_some, List.foldl_cons]
    exact run_math (c == '\\') cs hcs

/-- Math whose dollars all come right after a backslash stays inside its span. -/
theorem within_math {d : Nat} :
    ∀ (slash : Bool) (cs : List Char), dollarsEscapedAfter slash cs = true →
      Within (fun st => ∃ s, st = ⟨.markup, .math s, d⟩) ⟨.markup, .math slash, d⟩ cs
  | slash, [], _ => ⟨slash, rfl⟩
  | slash, c :: cs, h => by
    simp only [dollarsEscapedAfter, Bool.and_eq_true, Bool.or_eq_true, bne_iff_ne, ne_eq] at h
    obtain ⟨hc, hcs⟩ := h
    have hclose : ¬ (c = '$' ∧ slash = false) := by
      rintro ⟨rfl, rfl⟩
      simp at hc
    exact ⟨⟨slash, rfl⟩, ⟨.markup, .math (c == '\\'), d⟩, by simp only [step, hclose, if_false],
      within_math (c == '\\') cs hcs⟩

theorem foldl_slash_of_getLast : ∀ (slash : Bool) {cs : List Char}, cs ≠ [] →
    cs.getLast? ≠ some '\\' → cs.foldl (fun _ c => c == '\\') slash = false
  | _, [c], _, h => by simpa using h
  | _, c :: c' :: cs, _, h => by
    rw [List.foldl_cons]
    exact foldl_slash_of_getLast _ (List.cons_ne_nil c' cs) (by simpa using h)

/-- Inline math whose dollars all come right after a backslash, and that does not end in a
backslash, is a fragment. -/
theorem fragment_inlineMath {m : String} (hd : dollarsEscaped m.toList = true)
    (hl : m.toList.getLast? ≠ some '\\') : Fragment ("$" ++ m ++ "$") := by
  intro d
  have hend : m.toList.foldl (fun _ c => c == '\\') false = false := by
    by_cases hm : m.toList = []
    · rw [hm]
      rfl
    · exact foldl_slash_of_getLast false hm hl
  simp only [String.toList_append, List.append_assoc]
  simp [run, markupAt, step, plainStep, run_append_of_eq _ (run_math false _ hd), hend]

/-- A math block whose dollars all come right after a backslash is a fragment: spaces stand
between the value and its dollars. -/
theorem fragment_mathBlock {m : String} (hd : dollarsEscaped m.toList = true) :
    Fragment ("$ " ++ m ++ " $") := by
  intro d
  simp only [String.toList_append, List.append_assoc]
  simp [run, markupAt, step, plainStep, run_append_of_eq _ (run_math false _ hd)]

/-! ## Code blocks

A code block's fence is longer than every run of backticks in the code. When its language tag
does not start with a backtick, which would lengthen the opening run, and holds no run as long
as the fence, which would close the span on its first line, the raw span opened by the fence
runs to the closing fence. -/

theorem run_ticks {b : Bool} {ctx : Context} {d : Nat} :
    ∀ (k m : Nat), run b ⟨ctx, .ticks k, d⟩ (List.replicate m '`') = some ⟨ctx, .ticks (k + m), d⟩
  | k, 0 => rfl
  | k, m + 1 => by
    simp only [List.replicate_succ, run, step, if_true, Option.bind_some]
    rw [run_ticks (k + 1) m, Nat.add_right_comm, Nat.add_assoc]

theorem le_longestRunFrom : ∀ (cur best : Nat) (cs : List Char),
    max cur best ≤ longestRunFrom cur best cs
  | _, _, [] => Nat.le_refl _
  | cur, best, c :: cs => by
    by_cases hc : c = '`'
    · rw [longestRunFrom, if_pos hc]
      have := le_longestRunFrom (cur + 1) best cs
      omega
    · rw [longestRunFrom, if_neg hc]
      have := le_longestRunFrom 0 (max cur best) cs
      omega

theorem run_raw_of_longestRunFrom {b : Bool} {ctx : Context} {d k : Nat} :
    ∀ (cur best : Nat) (cs : List Char), longestRunFrom cur best cs < k →
      ∃ j, run b ⟨ctx, .raw k cur, d⟩ cs = some ⟨ctx, .raw k j, d⟩
  | cur, _, [], _ => ⟨cur, rfl⟩
  | cur, best, c :: cs, h => by
    by_cases hc : c = '`'
    · rw [longestRunFrom, if_pos hc] at h
      have hlt : cur + 1 < k := by
        have := le_longestRunFrom (cur + 1) best cs
        omega
      simp only [run, step, hc, if_true, Nat.ne_of_lt hlt, if_false, Option.bind_some]
      exact run_raw_of_longestRunFrom (cur + 1) best cs h
    · rw [longestRunFrom, if_neg hc] at h
      simp only [run, step, hc, if_false, Option.bind_some]
      exact run_raw_of_longestRunFrom 0 _ cs h

/-- Code whose runs of backticks are all shorter than `k` stays inside a raw span opened by `k`
backticks. -/
theorem within_raw_of_longestRunFrom {d k : Nat} :
    ∀ (cur best : Nat) (cs : List Char), longestRunFrom cur best cs < k →
      Within (fun st => ∃ j, j < k ∧ st = ⟨.markup, .raw k j, d⟩) ⟨.markup, .raw k cur, d⟩ cs
  | cur, best, [], h => ⟨cur, by simp only [longestRunFrom] at h; omega, rfl⟩
  | cur, best, c :: cs, h => by
    have hcur : cur < k := by
      have := le_longestRunFrom cur best (c :: cs)
      omega
    by_cases hc : c = '`'
    · rw [longestRunFrom, if_pos hc] at h
      have hlt : cur + 1 < k := by
        have := le_longestRunFrom (cur + 1) best cs
        omega
      exact ⟨⟨cur, hcur, rfl⟩, ⟨.markup, .raw k (cur + 1), d⟩,
        by simp [step, hc, Nat.ne_of_lt hlt], within_raw_of_longestRunFrom (cur + 1) best cs h⟩
    · rw [longestRunFrom, if_neg hc] at h
      exact ⟨⟨cur, hcur, rfl⟩, ⟨.markup, .raw k 0, d⟩, by simp [step, hc],
        within_raw_of_longestRunFrom 0 _ cs h⟩

theorem run_closingFence {b : Bool} {ctx : Context} {k d : Nat} :
    ∀ (m j : Nat), j + (m + 1) = k →
      run b ⟨ctx, .raw k j, d⟩ (List.replicate (m + 1) '`') = some ⟨ctx, .plain, d⟩
  | 0, j, h => by simp [run, step, h]
  | m + 1, j, h => by
    have hne : j + 1 ≠ k := by omega
    simp only [List.replicate_succ, run, step, if_true, hne, if_false, Option.bind_some]
    exact run_closingFence m (j + 1) (by omega)

/-- A final character other than a backtick leaves the longest run as it was. -/
theorem longestRunFrom_append_of_ne {c : Char} (hc : c ≠ '`') :
    ∀ (cur best : Nat) (cs : List Char), longestRunFrom cur best (cs ++ [c]) = longestRunFrom cur best cs
  | cur, best, [] => by simp [longestRunFrom, hc]
  | cur, best, c' :: cs => by
    by_cases hc' : c' = '`'
    · simp only [List.cons_append, longestRunFrom, if_pos hc']
      exact longestRunFrom_append_of_ne hc (cur + 1) best cs
    · simp only [List.cons_append, longestRunFrom, if_neg hc']
      exact longestRunFrom_append_of_ne hc 0 _ cs

/-- The fence of a code value is the fence of the code the writer keeps, the value less one final
line feed. -/
theorem fenceWidth_code (value : String) :
    fenceWidth (String.ofList (if value.toList.getLast? = some '\n' then value.toList.dropLast
      else value.toList)) = fenceWidth value := by
  split
  · rename_i hlast
    have hsplit : value.toList = value.toList.dropLast ++ ['\n'] :=
      (List.dropLast_append_getLast? _ hlast).symm
    simp only [fenceWidth, longestBacktickRun, String.toList_ofList]
    conv => rhs; rw [hsplit]
    rw [longestRunFrom_append_of_ne (by decide)]
  · simp

theorem zero_lt_fenceWidth (v : String) : 0 < fenceWidth v := by
  unfold fenceWidth
  omega

/-- The fence and a tag that does not start with a backtick and holds no run as long as the fence
open a raw span, which the line feed after them leaves open with no backtick seen. -/
theorem run_fenceOpening {b : Bool} {d k : Nat} {tag : List Char} (hhead : tag.head? ≠ some '`')
    (hrun : longestRunFrom 0 0 tag < k + 1) :
    run b (markupAt d) (List.replicate (k + 1) '`' ++ tag ++ ['\n']) =
      some ⟨.markup, .raw (k + 1) 0, d⟩ := by
  have hticks : run b (markupAt d) (List.replicate (k + 1) '`') = some ⟨.markup, .ticks (k + 1), d⟩ := by
    rw [List.replicate_succ]
    simp only [run, markupAt, step, plainStep]
    simpa [Nat.add_comm] using run_ticks 1 k
  rw [List.append_assoc, run_append_of_eq _ hticks]
  cases tag with
  | nil => simp [run, step]
  | cons c cs =>
    have hc : c ≠ '`' := fun hc => hhead (by simp [hc])
    -- the tag's first character ends the opening run; its later runs are too short to close it
    have hcs : longestRunFrom 0 0 cs < k + 1 := by simpa [longestRunFrom, hc] using hrun
    obtain ⟨j, hj⟩ : ∃ j, run b ⟨.markup, .raw (k + 1) 0, d⟩ cs = some ⟨.markup, .raw (k + 1) j, d⟩ :=
      run_raw_of_longestRunFrom 0 0 cs hcs
    simp only [List.cons_append, run, step, hc, if_false, Option.bind_some]
    rw [run_append_of_eq _ hj]
    simp [run, step]

/-- Code between its fences is a fragment at every indent, with a tag after the opening fence
that does not start with a backtick and holds no run as long as the fence. -/
theorem fragment_fenced (v tag : String) (hhead : tag.toList.head? ≠ some '`')
    (hrun : longestBacktickRun tag < fenceWidth v) (n : Nat) :
    Fragment ("\n".intercalate [indentLines (fence v ++ tag) n, indentLines v n, indentLines (fence v) n]) := by
  intro d
  obtain ⟨k, hk⟩ : ∃ k, fenceWidth v = k + 1 := ⟨fenceWidth v - 1, by unfold fenceWidth; omega⟩
  have hf : (fence v).toList = List.replicate (k + 1) '`' := by simp [fence, hk]
  have hlong : longestRunFrom 0 0 v.toList < k + 1 := by
    rw [← hk]
    unfold fenceWidth longestBacktickRun
    omega
  have hidle : ∀ j, step true ⟨.markup, .raw (k + 1) j, d⟩ ' ' = some ⟨.markup, .raw (k + 1) 0, d⟩ :=
    fun j => by simp [step]
  obtain ⟨j, hv⟩ : ∃ j, run true ⟨.markup, .raw (k + 1) 0, d⟩ v.toList =
      some ⟨.markup, .raw (k + 1) j, d⟩ := run_raw_of_longestRunFrom 0 0 v.toList hlong
  -- the opening line opens the raw span
  have hA : run true (markupAt d) ((indentLines (fence v ++ tag) n).toList ++ ['\n']) =
      some ⟨.markup, .raw (k + 1) 0, d⟩ := by
    rw [run_append, run_indentLines (step_markupAt_inert d rfl), ← run_append,
      String.toList_append, hf]
    exact run_fenceOpening hhead (hk ▸ hrun)
  -- the code stays in it
  have hB : run true ⟨.markup, .raw (k + 1) 0, d⟩ ((indentLines v n).toList ++ ['\n']) =
      some ⟨.markup, .raw (k + 1) 0, d⟩ := by
    rw [run_append, run_indentLines (hidle 0), hv]
    simp [run, step]
  -- and the closing fence ends it
  have hC : run true ⟨.markup, .raw (k + 1) 0, d⟩ (indentLines (fence v) n).toList =
      some (markupAt d) := by
    rw [run_indentLines (hidle 0), hf, run_closingFence k 0 (by omega)]
    rfl
  rw [String.intercalate_cons_cons, String.intercalate_cons_cons, String.intercalate_singleton]
  have hsplit : (indentLines (fence v ++ tag) n ++ "\n" ++ (indentLines v n ++ "\n" ++
      indentLines (fence v) n)).toList = ((indentLines (fence v ++ tag) n).toList ++ ['\n']) ++
      (((indentLines v n).toList ++ ['\n']) ++ (indentLines (fence v) n).toList) := by
    simp
  rw [hsplit, run_append_of_eq _ hA, run_append_of_eq _ hB, hC]

/-- A code block is a fragment when its trimmed language tag does not start with a backtick and
holds no run as long as the fence of its value. -/
theorem fragment_codeBlock {lang : Option String} (value : String)
    (hl : ∀ l ∈ lang, (trim l).toList.head? ≠ some '`' ∧ longestBacktickRun (trim l) < fenceWidth value)
    (n : Nat) : Fragment (codeBlock lang value n) := by
  have htag : ((lang.map trim).getD "").toList.head? ≠ some '`' ∧
      longestBacktickRun ((lang.map trim).getD "") < fenceWidth value := by
    cases lang with
    | none => simpa [longestBacktickRun, longestRunFrom] using zero_lt_fenceWidth value
    | some l => simpa using hl l rfl
  simp only [codeBlock]
  split
  · simpa using fragment_fenced _ "" (by simp)
      (by simpa [longestBacktickRun, longestRunFrom] using zero_lt_fenceWidth _) n
  · exact fragment_fenced _ _ htag.1 (by rw [fenceWidth_code]; exact htag.2) n

/-! ## Cells, tables and quotes -/

theorem fragment_cellMarkup (header : Bool) {r : String} (h : Fragment r) :
    Fragment (cellMarkup header r) := by
  unfold cellMarkup
  split
  · exact Fragment.bracketed (by simp [bracketOpenings]) (.inr rfl) h
  · exact Fragment.bracketed (by simp [bracketOpenings]) (.inl rfl) h

theorem fragment_alignName (a : Option Align) : Fragment (alignName a) := by
  unfold alignName
  split <;> exact fragment_of_run (by decide)

/-- A table of fragment cells is a fragment: the column and alignment lists hold no markup. -/
theorem fragment_tableMarkup (width : Nat) (align : List (Option Align)) {cells : List String}
    (h : ∀ c ∈ cells, Fragment c) (n : Nat) : Fragment (tableMarkup width align cells n) := by
  have hsep : Fragment ", " := fragment_of_run (by decide)
  have hcolumns : Fragment (", ".intercalate (List.replicate width "auto")) :=
    hsep.intercalate fun p hp => by
      rw [List.eq_of_mem_replicate hp]
      exact fragment_of_run (by decide)
  have haligns : Fragment (", ".intercalate
      ((List.range width).map fun i => alignName (align[i]?.getD none))) :=
    hsep.intercalate fun p hp => by
      obtain ⟨i, -, rfl⟩ := List.mem_map.1 hp
      exact fragment_alignName _
  unfold tableMarkup
  refine Fragment.indentLines (Fragment.intercalate (fragment_of_run (by decide)) ?_) n
  intro p hp
  simp only [List.mem_cons, List.not_mem_nil, or_false] at hp
  rcases hp with rfl | rfl | rfl | rfl | rfl
  · exact fragment_of_run (by decide)
  · exact ((fragment_of_run (by decide)).append hcolumns).append (fragment_of_run (by decide))
  · exact ((fragment_of_run (by decide)).append haligns).append (fragment_of_run (by decide))
  · exact (fragment_of_run (by decide)).append (hsep.intercalate h)
  · exact fragment_of_run (by decide)

/-- A quote around a fragment is a fragment, at every indent. -/
theorem fragment_quoteMarkup {body : String} (h : Fragment body) (n : Nat) :
    Fragment (quoteMarkup body n) := by
  intro d
  have hopen : run true (markupAt d) (indentLines "#quote[" n).toList = some (markupAt (d + 1)) := by
    rw [run_indentLines (step_markupAt_inert d rfl)]
    exact run_bracketOpening (by simp [bracketOpenings]) d
  have hclose : run true (markupAt (d + 1)) (indentLines "]" n).toList = some (markupAt d) := by
    rw [run_indentLines (step_markupAt_inert (d + 1) rfl)]
    exact run_bracketClosing (.inl rfl) d
  have hnl : run true (markupAt (d + 1)) "\n".toList = some (markupAt (d + 1)) :=
    fragment_newline (d + 1)
  unfold quoteMarkup
  split
  · simp only [String.toList_append, List.append_assoc]
    rw [run_append_of_eq _ hopen, run_append_of_eq _ hnl, hclose]
  · rw [String.intercalate_cons_cons, String.intercalate_cons_cons, String.intercalate_singleton]
    simp only [String.toList_append, List.append_assoc]
    rw [run_append_of_eq _ hopen, run_append_of_eq _ hnl,
      run_append_of_eq _ ((h.indentLines (n + 1)) (d + 1)), run_append_of_eq _ hnl, hclose]

end Typeset.Render
