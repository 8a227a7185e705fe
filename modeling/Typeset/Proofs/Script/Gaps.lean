import Typeset.Document.Script

/-!
Where a span can open in text, and what the splitter leaves between its spans.

A span opens at a position when a marker stands there and a body closes it on the same line
(`opensSpan`). Whether it does depends only on the characters up to the closing marker, so a
span that opens in a prefix of a text opens at the same place in the whole text
(`opensSpan_append`). The splitter scans from the left and takes a span wherever one opens, so
every text piece it leaves between spans is quiet: no span opens anywhere in it
(`piece_of_mem_splitText`). A quiet text is a single piece of its own (`splitText_of_quiet`).
-/

namespace Typeset.ScriptGaps

open Typeset

/-- Whether a span opens at the head of some characters: a marker, then a body that a second
marker of the same kind closes on the same line. -/
def opensSpan : List Char → Bool
  | c :: rest => (c == '^' || c == '~') && (spanBody c [] rest).isSome
  | [] => false

/-- Whether no span opens at any position of `xs`, when `xs` is followed by `ys`. -/
def quietBefore : List Char → List Char → Bool
  | [], _ => true
  | c :: cs, ys => !opensSpan (c :: cs ++ ys) && quietBefore cs ys

/-- Whether no span opens anywhere in some characters. -/
def quiet (cs : List Char) : Bool := quietBefore cs []

theorem spanBody_append {m : Char} {body rest : List Char} (ys : List Char) :
    ∀ {acc xs : List Char}, spanBody m acc xs = some (body, rest) →
      spanBody m acc (xs ++ ys) = some (body, rest ++ ys)
  | _, [], h => by simp [spanBody] at h
  | acc, c :: xs, h => by
    simp only [spanBody] at h
    simp only [List.cons_append, spanBody]
    by_cases hc : isLineBreak c = true
    · rw [if_pos hc] at h
      cases h
    · rw [if_neg hc] at h ⊢
      by_cases hm : c = m ∧ acc ≠ []
      · rw [if_pos hm] at h ⊢
        simp only [Option.some.injEq, Prod.mk.injEq] at h
        obtain ⟨rfl, rfl⟩ := h
        rfl
      · rw [if_neg hm] at h ⊢
        exact spanBody_append ys h

/-- A span that opens in a prefix opens in the whole text. -/
theorem opensSpan_append {xs : List Char} (ys : List Char) (h : opensSpan xs = true) :
    opensSpan (xs ++ ys) = true := by
  match xs, h with
  | c :: rest, h =>
    simp only [opensSpan, Bool.and_eq_true, Option.isSome_iff_exists] at h
    obtain ⟨hc, ⟨body, after⟩, hb⟩ := h
    simp only [List.cons_append, opensSpan, hc, Bool.true_and]
    rw [spanBody_append ys hb]
    rfl

theorem opensSpan_of_append {xs ys : List Char} (h : opensSpan (xs ++ ys) = false) :
    opensSpan xs = false := by
  cases hx : opensSpan xs
  · rfl
  · rw [opensSpan_append ys hx] at h
    cases h

theorem quietBefore_append_singleton (c : Char) (ys : List Char) :
    ∀ xs : List Char,
      quietBefore (xs ++ [c]) ys = (quietBefore xs (c :: ys) && !opensSpan (c :: ys))
  | [] => by simp [quietBefore]
  | x :: xs => by
    simp only [List.cons_append, quietBefore, List.append_assoc,
      List.nil_append, quietBefore_append_singleton c ys xs, Bool.and_assoc]

/-- What is quiet when followed by more text is quiet on its own. -/
theorem quiet_of_quietBefore {ys : List Char} :
    ∀ {xs : List Char}, quietBefore xs ys = true → quiet xs = true
  | [], _ => rfl
  | x :: xs, h => by
    simp only [quietBefore, Bool.and_eq_true, Bool.not_eq_true'] at h
    have hx : opensSpan (x :: xs) = false :=
      opensSpan_of_append (show opensSpan ((x :: xs) ++ ys) = false from h.1)
    have ih : quiet xs = true := quiet_of_quietBefore h.2
    simp only [quiet, quietBefore, List.append_nil] at ih ⊢
    simp [hx, ih]

/-- On quiet characters the splitter only collects text. -/
theorem splitChars_of_quiet :
    ∀ (pending : List Char) {cs : List Char}, quiet cs = true →
      splitChars pending cs = pendingText (cs.reverse ++ pending)
  | pending, [], _ => by simp [splitChars]
  | pending, c :: rest, h => by
    simp only [quiet, quietBefore, List.append_nil, Bool.and_eq_true, Bool.not_eq_true'] at h
    obtain ⟨hc, hrest⟩ := h
    have ih := splitChars_of_quiet (c :: pending) hrest
    rw [splitChars]
    split
    · rename_i hm
      have hmark : (c == '^' || c == '~') = true := by rcases hm with rfl | rfl <;> rfl
      have hnone : spanBody c [] rest = none := by simpa [opensSpan, hmark] using hc
      split
      · rename_i body after hb
        rw [hnone] at hb
        cases hb
      · simpa using ih
    · simpa using ih

/-- A quiet text is one piece of its own. -/
theorem splitText_of_quiet {v : String} (hq : quiet v.toList = true) (hv : v ≠ "") :
    splitText v = [.text v] := by
  have hne : v.toList ≠ [] := by simpa using hv
  simp [splitText, splitChars_of_quiet [] hq, pendingText, hne, String.ofList_toList]

/-- A piece the splitter gives: a quiet nonempty text, or the node of a span. -/
def Piece (y : Inline) : Prop :=
  (∃ t, y = .text t ∧ quiet t.toList = true ∧ t ≠ "") ∨ ∃ m body, y = spanNode m body

theorem piece_pendingText {pending : List Char} (h : quiet pending.reverse = true) :
    ∀ y ∈ pendingText pending, Piece y := by
  intro y hy
  simp only [pendingText] at hy
  split at hy
  · cases hy
  · rename_i hne
    simp only [List.mem_singleton] at hy
    subst hy
    refine .inl ⟨_, rfl, by rw [String.toList_ofList]; exact h, ?_⟩
    simpa [String.ext_iff] using hne

/-- Every piece the splitter gives is quiet text or a span, as long as no span opens in the text
it holds back. -/
theorem piece_of_mem_splitChars :
    ∀ (pending cs : List Char), quietBefore pending.reverse cs = true →
      ∀ y ∈ splitChars pending cs, Piece y
  | pending, [], h, y, hy => by
    simp only [splitChars] at hy
    exact piece_pendingText h y hy
  | pending, c :: rest, h, y, hy => by
    rw [splitChars] at hy
    split at hy
    · rename_i hm
      split at hy
      · rename_i body after hb
        -- a span opened at `c`: the held-back text ends before it, and the scan restarts
        have := spanBody_length hb
        simp only [List.mem_append, List.mem_cons] at hy
        rcases hy with hy | rfl | hy
        · exact piece_pendingText (quiet_of_quietBefore h) y hy
        · exact .inr ⟨c, body, rfl⟩
        · exact piece_of_mem_splitChars [] after rfl y hy
      · rename_i hb
        have hopen : opensSpan (c :: rest) = false := by simp [opensSpan, hb]
        exact piece_of_mem_splitChars (c :: pending) rest
          (by simp [quietBefore_append_singleton, h, hopen]) y hy
    · rename_i hm
      have hopen : opensSpan (c :: rest) = false := by
        simp [opensSpan, (not_or.1 hm).1, (not_or.1 hm).2]
      exact piece_of_mem_splitChars (c :: pending) rest
        (by simp [quietBefore_append_singleton, h, hopen]) y hy
  termination_by _ cs => cs.length
  decreasing_by
    all_goals simp_wf
    all_goals omega

/-- The pieces of a split text are quiet texts and spans. -/
theorem piece_of_mem_splitText {v : String} {y : Inline} (h : y ∈ splitText v) : Piece y :=
  piece_of_mem_splitChars [] v.toList rfl y h

end Typeset.ScriptGaps
