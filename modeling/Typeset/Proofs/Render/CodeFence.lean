import Typeset.Render.Body

/-!
Code blocks: the fence and the lines around the code.

The writer scans the code with two counters, the run of backticks being read and the longest run
so far, and this finds exactly the longest run (`infix_ticks_iff_le`). The fence is one backtick
longer than that run and at least three long, so it never occurs in the code. Indenting a text
puts the pad before each of its lines and keeps every run of backticks where it was
(`splitOn_indentLines`, `infix_ticks_indentLines`).

So a code block is laid out as its first line (the indent, the fence, the language tag), the code's
lines behind the indent, and its last line (the indent and the fence), with no run as long as the
fence between the opening run and the closing fence, exactly when the trimmed tag holds no line
feed, does not start with a backtick and holds no run as long as the fence
(`codeBlock_layout`). The tag is written as it is: a tag that breaks one of these (a fenced block
opened by tildes may carry backticks in its tag) runs into the fence, or closes the block on its
first line.
-/

namespace Typeset.Render

open Text Typst

/-- Two spaces for each indent level. -/
def indentPad (n : Nat) : List Char := List.replicate (2 * n) ' '

/-- A fenced block laid out as `out`: the fence of `width` backticks with the tag on the first
line, the lines of `code`, the fence on the last line, all behind the pad of `n` levels; between
the opening run, of exactly `width` backticks, and the closing fence, no run of `width`
backticks, so that nothing closes the block before its last line. -/
structure FencedLayout (width : Nat) (code tag : List Char) (n : Nat) (out : List Char) : Prop where
  lines : out.splitOn '\n' =
    (indentPad n ++ List.replicate width '`' ++ tag) ::
      (code.splitOn '\n').map (indentPad n ++ ·) ++ [indentPad n ++ List.replicate width '`']
  closes : ∃ inner,
    out = indentPad n ++ List.replicate width '`' ++ inner ++ List.replicate width '`' ∧
      inner.head? ≠ some '`' ∧ ¬ List.replicate width '`' <:+: inner

/-! ## Runs of one character -/

section Runs

variable {α : Type} {a b : α}

/-- A run of `a` does not reach over a `b` at the front. -/
theorem infix_replicate_cons (hab : a ≠ b) {k : Nat} {l : List α} :
    List.replicate k a <:+: b :: l ↔ List.replicate k a <:+: l := by
  rw [List.infix_cons_iff]
  constructor
  · rintro (h | h)
    · cases k with
      | zero => exact List.nil_infix
      | succ k =>
        rw [List.replicate_succ, List.cons_prefix_cons] at h
        exact absurd h.1 hab
    · exact h
  · exact Or.inr

/-- A run of `a` lies on one side of a `b`. -/
theorem infix_replicate_append_cons (hab : a ≠ b) {k : Nat} {xs ys : List α} :
    List.replicate k a <:+: xs ++ b :: ys ↔
      List.replicate k a <:+: xs ∨ List.replicate k a <:+: ys := by
  rw [List.infix_append_iff, infix_replicate_cons hab]
  constructor
  · rintro (h | h | ⟨l₁, l₂, hl, h₁, h₂⟩)
    · exact .inl h
    · exact .inr h
    · -- a run that starts before the `b` ends before it
      cases l₂ with
      | nil =>
        rw [List.append_nil] at hl
        exact .inl (hl ▸ h₁.isInfix)
      | cons x l₂ =>
        have hx : x = a := List.eq_of_mem_replicate (by rw [hl]; simp)
        exact absurd (hx ▸ (List.cons_prefix_cons.1 h₂).1) hab
  · rintro (h | h)
    · exact .inl h
    · exact .inr (.inl h)

theorem infix_replicate_replicate_append (hab : a ≠ b) {k : Nat} (m : Nat) (l : List α) :
    List.replicate k a <:+: List.replicate m b ++ l ↔ List.replicate k a <:+: l := by
  induction m with
  | zero => simp
  | succ m ih => rw [List.replicate_succ, List.cons_append, infix_replicate_cons hab, ih]

/-- A run of `a` in pieces joined by `b` lies in one piece. -/
theorem infix_replicate_intercalate (hab : a ≠ b) {k : Nat} :
    ∀ {ls : List (List α)}, ls ≠ [] →
      (List.replicate k a <:+: [b].intercalate ls ↔ ∃ l ∈ ls, List.replicate k a <:+: l)
  | [l], _ => by simp
  | l :: l' :: ls, _ => by
    rw [List.intercalate_cons_cons, List.append_assoc, List.singleton_append,
      infix_replicate_append_cons hab, infix_replicate_intercalate hab (List.cons_ne_nil l' ls)]
    simp

end Runs

/-! ## The longest run of backticks -/

/-- The writer's scan: with `cur` backticks just read and `best` the longest run before them, it
returns the longer of `best` and the longest run in those backticks followed by the rest. -/
theorem le_longestRunFrom_iff : ∀ (cur best : Nat) (cs : List Char) (k : Nat),
    k ≤ longestRunFrom cur best cs ↔
      k ≤ best ∨ List.replicate k '`' <:+: List.replicate cur '`' ++ cs
  | cur, best, [], k => by
    simp only [longestRunFrom, List.append_nil, List.infix_replicate_iff, List.length_replicate,
      and_true]
    omega
  | cur, best, c :: cs, k => by
    by_cases hc : c = '`'
    · -- the run goes on
      rw [longestRunFrom, if_pos hc, le_longestRunFrom_iff (cur + 1) best cs k, hc,
        List.replicate_succ', List.append_assoc, List.singleton_append]
    · -- the run ends at `c`, and the runs after it are those of the rest
      rw [longestRunFrom, if_neg hc, le_longestRunFrom_iff 0 (max cur best) cs k,
        List.replicate_zero, List.nil_append, infix_replicate_append_cons (Ne.symm hc),
        List.infix_replicate_iff]
      simp only [List.length_replicate, and_true]
      constructor
      · rintro (h | h)
        · by_cases hb : k ≤ best
          · exact .inl hb
          · exact .inr (.inl (by omega))
        · exact .inr (.inr h)
      · rintro (h | h | h)
        · exact .inl (by omega)
        · exact .inl (by omega)
        · exact .inr h

/-- The writer's scan finds the longest run of backticks: a text holds a run of `k` backticks
exactly when `k` is at most what the scan returns. -/
theorem infix_ticks_iff_le (s : String) (k : Nat) :
    List.replicate k '`' <:+: s.toList ↔ k ≤ longestBacktickRun s := by
  rw [longestBacktickRun, le_longestRunFrom_iff, List.replicate_zero, List.nil_append]
  constructor
  · exact Or.inr
  · rintro (h | h)
    · rw [Nat.le_zero.1 h]
      exact List.nil_infix
    · exact h

/-- The fence never occurs in the code it fences. -/
theorem fence_not_infix (code : String) : ¬ (fence code).toList <:+: code.toList := by
  rw [fence, String.toList_ofList, infix_ticks_iff_le, fenceWidth]
  omega

/-! ## Indented lines -/

/-- No line of a split holds the character it was split at. -/
theorem not_mem_of_mem_splitOn {c : Char} :
    ∀ {cs l : List Char}, l ∈ cs.splitOn c → c ∉ l
  | [], l, h => by
    rw [List.splitOn_nil, List.mem_singleton] at h
    subst h
    simp
  | x :: xs, l, h => by
    rw [List.splitOn_cons_eq_if_modifyHead] at h
    split at h
    · rcases List.mem_cons.1 h with rfl | h
      · simp
      · exact not_mem_of_mem_splitOn h
    · rename_i hx
      obtain ⟨r, rs, hr⟩ := List.exists_cons_of_ne_nil (List.splitOn_ne_nil c xs)
      rw [hr, List.modifyHead_cons] at h
      rcases List.mem_cons.1 h with rfl | h
      · have hr' : c ∉ r := not_mem_of_mem_splitOn (hr ▸ List.mem_cons_self)
        simp only [List.mem_cons, not_or]
        exact ⟨fun e => hx (by simp [e]), hr'⟩
      · exact not_mem_of_mem_splitOn (hr ▸ List.mem_cons_of_mem _ h)

/-- Indenting is splitting into lines and putting the pad before each, at level zero too. -/
theorem indentLines_toList (t : String) (n : Nat) :
    (indentLines t n).toList =
      ['\n'].intercalate ((t.toList.splitOn '\n').map (indentPad n ++ ·)) := by
  unfold indentLines
  split
  · rename_i h
    simp [h, indentPad]
  · simp [String.toList_intercalate, List.map_map, Function.comp_def, indentPad]

/-- The lines of an indented text are its lines behind the pad. -/
theorem splitOn_indentLines (t : String) (n : Nat) :
    (indentLines t n).toList.splitOn '\n' = (t.toList.splitOn '\n').map (indentPad n ++ ·) := by
  rw [indentLines_toList]
  apply List.splitOn_intercalate
  · intro l hl
    obtain ⟨line, hline, rfl⟩ := List.mem_map.1 hl
    simp [indentPad, not_mem_of_mem_splitOn hline]
  · simp

/-- A text of one line is indented by the pad alone. -/
theorem indentLines_of_not_mem {t : String} (h : '\n' ∉ t.toList) (n : Nat) :
    (indentLines t n).toList = indentPad n ++ t.toList := by
  rw [indentLines_toList, List.splitOn_eq_singleton h]
  simp

/-- A run of backticks lies in one line. -/
theorem infix_ticks_iff_lines (k : Nat) (cs : List Char) :
    List.replicate k '`' <:+: cs ↔ ∃ l ∈ cs.splitOn '\n', List.replicate k '`' <:+: l := by
  rw [← infix_replicate_intercalate (show '`' ≠ '\n' by decide) (List.splitOn_ne_nil '\n' cs),
    List.intercalate_splitOn]

/-- Indenting keeps the runs of backticks. -/
theorem infix_ticks_indentLines (k : Nat) (t : String) (n : Nat) :
    List.replicate k '`' <:+: (indentLines t n).toList ↔ List.replicate k '`' <:+: t.toList := by
  rw [infix_ticks_iff_lines, splitOn_indentLines, infix_ticks_iff_lines]
  simp only [List.mem_map]
  constructor
  · rintro ⟨_, ⟨l, hl, rfl⟩, h⟩
    exact ⟨l, hl, (infix_replicate_replicate_append (by decide) (2 * n) l).1 h⟩
  · rintro ⟨l, hl, h⟩
    exact ⟨_, ⟨l, hl, rfl⟩, (infix_replicate_replicate_append (by decide) (2 * n) l).2 h⟩

/-! ## The layout of a code block -/

/-- A fence and a tag of one line make the first line of the block. -/
theorem indentLines_opening {v tag : String} (hT : '\n' ∉ tag.toList) (n : Nat) :
    (indentLines (fence v ++ tag) n).toList =
      indentPad n ++ List.replicate (fenceWidth v) '`' ++ tag.toList := by
  have hB : (fence v).toList = List.replicate (fenceWidth v) '`' := by simp [fence]
  have hBline : '\n' ∉ (fence v).toList := by simp [hB, List.mem_replicate]
  rw [indentLines_of_not_mem (by simp [hBline, hT]), String.toList_append, hB, List.append_assoc]

/-- What follows the opening run starts with the tag, or with the line feed after it. -/
theorem head?_tag_ne_tick_iff {tag rest : List Char} :
    (tag ++ '\n' :: rest).head? ≠ some '`' ↔ tag.head? ≠ some '`' := by
  cases tag <;> simp

/-- The lines of a block whose tag is one line: the opening line, the code's lines, the closing
line, each behind the pad. -/
theorem splitOn_fenced {v tag : String} (hT : '\n' ∉ tag.toList) (n : Nat) :
    ((indentLines (fence v ++ tag) n).toList ++ '\n' :: ((indentLines v n).toList ++
        '\n' :: (indentPad n ++ List.replicate (fenceWidth v) '`'))).splitOn '\n' =
      (indentPad n ++ List.replicate (fenceWidth v) '`' ++ tag.toList) ::
        (v.toList.splitOn '\n').map (indentPad n ++ ·) ++
        [indentPad n ++ List.replicate (fenceWidth v) '`'] := by
  have hfirst : (indentPad n ++ List.replicate (fenceWidth v) '`' ++ tag.toList).splitOn '\n' =
      [indentPad n ++ List.replicate (fenceWidth v) '`' ++ tag.toList] :=
    List.splitOn_eq_singleton (by simp [indentPad, hT, List.mem_replicate])
  have hlast : (indentPad n ++ List.replicate (fenceWidth v) '`').splitOn '\n' =
      [indentPad n ++ List.replicate (fenceWidth v) '`'] :=
    List.splitOn_eq_singleton (by simp [indentPad, List.mem_replicate])
  rw [List.splitOn_append_cons_self, List.splitOn_append_cons_self, indentLines_opening hT, hfirst,
    splitOn_indentLines, hlast]
  simp

/-- Between the fences, a run as long as the fence can only come from the tag: the code's runs
are shorter and the pad holds none. -/
theorem fence_not_infix_inner {v tag : String}
    (hrun : ¬ List.replicate (fenceWidth v) '`' <:+: tag.toList) (n : Nat) :
    ¬ List.replicate (fenceWidth v) '`' <:+:
      tag.toList ++ '\n' :: ((indentLines v n).toList ++ '\n' :: indentPad n) := by
  rw [infix_replicate_append_cons (by decide), infix_replicate_append_cons (by decide),
    infix_ticks_indentLines, indentPad, ← List.append_nil (List.replicate (2 * n) ' '),
    infix_replicate_replicate_append (by decide)]
  rintro (h | h | h)
  · exact hrun h
  · exact fence_not_infix v (by rw [fence, String.toList_ofList]; exact h)
  · have : fenceWidth v = 0 := by simpa using h
    simp [fenceWidth] at this

/-- The code between its fences, the tag after the opening one, is laid out as fenced exactly
when the tag holds no line feed, does not start with a backtick and holds no run as long as the
fence. -/
theorem fencedLayout_iff (v tag : String) (n : Nat) :
    FencedLayout (fenceWidth v) v.toList tag.toList n
        ("\n".intercalate [indentLines (fence v ++ tag) n, indentLines v n,
          indentLines (fence v) n]).toList ↔
      '\n' ∉ tag.toList ∧ tag.toList.head? ≠ some '`' ∧
        ¬ List.replicate (fenceWidth v) '`' <:+: tag.toList := by
  have hB : (fence v).toList = List.replicate (fenceWidth v) '`' := by simp [fence]
  have hBline : '\n' ∉ (fence v).toList := by simp [hB, List.mem_replicate]
  have hout : ("\n".intercalate [indentLines (fence v ++ tag) n, indentLines v n,
      indentLines (fence v) n]).toList = (indentLines (fence v ++ tag) n).toList ++
        '\n' :: ((indentLines v n).toList ++ '\n' :: (indentLines (fence v) n).toList) := by
    simp
  have hclosing : (indentLines (fence v) n).toList =
      indentPad n ++ List.replicate (fenceWidth v) '`' := by
    rw [indentLines_of_not_mem hBline, hB]
  rw [hout, hclosing]
  constructor
  · rintro ⟨hl, inner, hinner, hhead, hrun⟩
    -- the first line is a line of the output, so the tag holds no line feed
    have hT : '\n' ∉ tag.toList := by
      have hmem : indentPad n ++ List.replicate (fenceWidth v) '`' ++ tag.toList ∈
          ((indentLines (fence v ++ tag) n).toList ++ '\n' :: ((indentLines v n).toList ++
            '\n' :: (indentPad n ++ List.replicate (fenceWidth v) '`'))).splitOn '\n' := by
        rw [hl, List.cons_append]
        exact List.mem_cons_self
      intro h
      exact not_mem_of_mem_splitOn hmem (by simp [h])
    have hopen := indentLines_opening (v := v) hT n
    -- what lies between the fences is the tag and the indented code
    have heq : inner = tag.toList ++ '\n' :: ((indentLines v n).toList ++ '\n' :: indentPad n) := by
      rw [hopen] at hinner
      simp only [List.append_assoc] at hinner
      have hright := List.append_cancel_left (List.append_cancel_left hinner)
      have h2 : inner ++ List.replicate (fenceWidth v) '`' =
          (tag.toList ++ '\n' :: ((indentLines v n).toList ++ '\n' :: indentPad n)) ++
            List.replicate (fenceWidth v) '`' := by
        rw [← hright]
        simp
      exact List.append_cancel_right h2
    subst heq
    exact ⟨hT, head?_tag_ne_tick_iff.1 hhead,
      fun h => hrun (h.trans (List.prefix_append _ _).isInfix)⟩
  · rintro ⟨hT, hhead, hrun⟩
    have hopen := indentLines_opening (v := v) hT n
    exact ⟨splitOn_fenced hT n,
      tag.toList ++ '\n' :: ((indentLines v n).toList ++ '\n' :: indentPad n),
      by simp [hopen], head?_tag_ne_tick_iff.2 hhead, fence_not_infix_inner hrun n⟩

/-- **The layout of a code block.** For every language tag, code value and indent level, with
`code` the value less one final line feed and `width` one more than its longest run of backticks
and at least three: the writer's scan returns that longest run, the fence never occurs in the
code, and the block is laid out as the fence with the trimmed tag on its first line, the code's
lines, and the fence on its last line, all behind two spaces per level, with no run of `width`
backticks between the opening run of exactly `width` and the closing fence, exactly when the
trimmed tag holds no line feed, does not start with a backtick and holds no run of `width`
backticks. -/
theorem codeBlock_layout (lang : Option String) (value : String) (n : Nat) :
    let code := if value.toList.getLast? = some '\n' then value.toList.dropLast else value.toList
    let tag := ((lang.map trim).getD "").toList
    let width := max 3 (longestBacktickRun (String.ofList code) + 1)
    (∀ k, List.replicate k '`' <:+: code ↔ k ≤ longestBacktickRun (String.ofList code)) ∧
      ¬ (fence (String.ofList code)).toList <:+: code ∧
      (FencedLayout width code tag n (codeBlock lang value n).toList ↔
        '\n' ∉ tag ∧ tag.head? ≠ some '`' ∧ ¬ List.replicate width '`' <:+: tag) := by
  intro code tag width
  have hcode : (String.ofList code).toList = code := String.toList_ofList
  refine ⟨fun k => ?_, ?_, ?_⟩
  · rw [← infix_ticks_iff_le, hcode]
  · have := fence_not_infix (String.ofList code)
    rwa [hcode] at this
  -- the opening is the fence followed by the tag, also when the tag is empty
  have hblock : codeBlock lang value n = "\n".intercalate
      [indentLines (fence (String.ofList code) ++ (lang.map trim).getD "") n,
        indentLines (String.ofList code) n, indentLines (fence (String.ofList code)) n] := by
    simp only [codeBlock]
    split
    · rename_i h
      rw [String.isEmpty_iff.1 h, String.append_empty]
    · rfl
  have := fencedLayout_iff (String.ofList code) ((lang.map trim).getD "") n
  rw [hcode] at this
  rw [hblock]
  exact this

/-- A tag holding a run as long as the fence closes the block on its first line: the code `x`
gets a fence of three backticks, and with the tag `a` and three backticks the first line opens a
raw span, names its language and closes it again, all before the code. -/
theorem codeBlock_tag_closes_fence :
    longestBacktickRun "x" = 0 ∧
      codeBlock (some "a```") "x" 0 = "```a```\nx\n```" ∧
      ¬ FencedLayout 3 "x".toList "a```".toList 0 (codeBlock (some "a```") "x" 0).toList := by
  refine ⟨by decide, by decide, fun h => ?_⟩
  have hblock : codeBlock (some "a```") "x" 0 = "\n".intercalate
      [indentLines (fence "x" ++ "a```") 0, indentLines "x" 0, indentLines (fence "x") 0] := by
    decide
  have hw : fenceWidth "x" = 3 := by decide
  rw [hblock, ← hw] at h
  exact ((fencedLayout_iff "x" "a```" 0).1 h).2.2 (by decide)

end Typeset.Render
