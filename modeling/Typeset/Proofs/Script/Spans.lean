import Typeset.Proofs.Script.Gaps
import Mathlib.Data.List.Chain

/-!
What the splitter makes of a text: pieces that read back as the text.

A span body is what a marker opens and the next marker of its kind closes: nonempty, on one line,
and holding its marker at most as its first character, since the first character is taken before
any closing marker is looked for (`spanBody_eq_some`). Reading a text piece as itself and a span
as its body between two markers gives back the split text exactly
(`flatMap_spanSource_splitText`). Text pieces are nonempty and never stand next to each other,
since the text held back is given out only when a span follows or the text ends
(`isChain_splitChars`). A text piece is quiet, so splitting it again leaves it whole.
-/

namespace Typeset

open ScriptGaps

/-- The source a piece of a split text stands for: a text is itself, a superscript or subscript
holding one text is that text between two of its markers. -/
def Inline.spanSource : Inline → List Char
  | .text t => t.toList
  | .superscript [.text t] => '^' :: t.toList ++ ['^']
  | .subscript [.text t] => '~' :: t.toList ++ ['~']
  | _ => []

/-- Whether an inline is plain text. -/
def Inline.isText : Inline → Bool
  | .text _ => true
  | _ => false

/-- A body a span with `marker` can hold: nonempty, with no line break, and with its marker at
most as its first character. -/
structure SpanBody (marker : Char) (body : List Char) : Prop where
  ne_nil : body ≠ []
  no_newline : '\n' ∉ body
  no_return : '\r' ∉ body
  marker_first : marker ∉ body.tail

namespace ScriptSpans

theorem isLineBreak_eq_false {c : Char} : isLineBreak c = false ↔ c ≠ '\n' ∧ c ≠ '\r' := by
  simp [isLineBreak]

/-- Once a body has its first character, the scan closes it at the next marker: the characters
before that marker hold no line break and no marker. -/
theorem spanBody_eq_some {m : Char} {body rest : List Char} :
    ∀ {acc cs : List Char}, acc ≠ [] → spanBody m acc cs = some (body, rest) →
      ∃ mid, cs = mid ++ m :: rest ∧ body = acc.reverse ++ mid ∧
        (∀ c ∈ mid, isLineBreak c = false) ∧ m ∉ mid
  | _, [], _, h => by simp [spanBody] at h
  | acc, c :: cs, hacc, h => by
    simp only [spanBody] at h
    by_cases hc : isLineBreak c = true
    · rw [if_pos hc] at h
      cases h
    · rw [if_neg hc] at h
      by_cases hm : c = m
      · -- the marker closes the body here
        rw [if_pos ⟨hm, hacc⟩] at h
        simp only [Option.some.injEq, Prod.mk.injEq] at h
        obtain ⟨rfl, rfl⟩ := h
        exact ⟨[], by simp [hm], by simp, by simp, by simp⟩
      · rw [if_neg fun h' => hm h'.1] at h
        obtain ⟨mid, rfl, rfl, hlb, hmid⟩ := spanBody_eq_some (List.cons_ne_nil c acc) h
        refine ⟨c :: mid, rfl, by simp, ?_, ?_⟩
        · intro x hx
          rcases List.mem_cons.1 hx with rfl | hx
          · simpa using hc
          · exact hlb x hx
        · simp only [List.mem_cons, not_or]
          exact ⟨fun h' => hm h'.symm, hmid⟩

/-- The body a marker opens is a span body, and the marker closes it right after. -/
theorem spanBody_nil_eq_some {m : Char} {cs body rest : List Char}
    (h : spanBody m [] cs = some (body, rest)) : cs = body ++ m :: rest ∧ SpanBody m body := by
  match cs, h with
  | c :: cs, h =>
    simp only [spanBody] at h
    by_cases hc : isLineBreak c = true
    · rw [if_pos hc] at h
      cases h
    · rw [if_neg hc, if_neg fun h' => h'.2 rfl] at h
      obtain ⟨mid, rfl, rfl, hlb, hmid⟩ := spanBody_eq_some (List.cons_ne_nil c []) h
      have hbreaks : ∀ x ∈ c :: mid, x ≠ '\n' ∧ x ≠ '\r' := by
        intro x hx
        rcases List.mem_cons.1 hx with rfl | hx
        · exact isLineBreak_eq_false.1 (by simpa using hc)
        · exact isLineBreak_eq_false.1 (hlb x hx)
      have hn : '\n' ∉ c :: mid := fun h => (hbreaks _ h).1 rfl
      have hr : '\r' ∉ c :: mid := fun h => (hbreaks _ h).2 rfl
      exact ⟨by simp, ⟨List.cons_ne_nil c mid, by simpa using hn, by simpa using hr,
        by simpa using hmid⟩⟩

theorem flatMap_spanSource_pendingText (pending : List Char) :
    (pendingText pending).flatMap Inline.spanSource = pending.reverse := by
  unfold pendingText
  split
  · rename_i h
    simp [List.isEmpty_iff.1 h]
  · simp [Inline.spanSource]

theorem spanSource_spanNode {m : Char} (hm : m = '^' ∨ m = '~') (body : List Char) :
    (spanNode m body).spanSource = m :: body ++ [m] := by
  rcases hm with rfl | rfl <;> simp [spanNode, Inline.spanSource]

/-- The pieces read back as the text held back and the text still to scan. -/
theorem flatMap_spanSource_splitChars (pending cs : List Char) :
    (splitChars pending cs).flatMap Inline.spanSource = pending.reverse ++ cs := by
  fun_induction splitChars pending cs with
  | case1 pending => simp [flatMap_spanSource_pendingText]
  | case2 pending c rest hm body after hb _ ih =>
    obtain ⟨hrest, -⟩ := spanBody_nil_eq_some hb
    rw [List.flatMap_append, List.flatMap_cons, flatMap_spanSource_pendingText,
      spanSource_spanNode hm, ih, hrest]
    simp
  | case3 pending c rest _ _ ih | case4 pending c rest _ ih =>
    rw [ih]
    simp

/-- A split text reads back as the text. -/
theorem flatMap_spanSource_splitText (v : String) :
    (splitText v).flatMap Inline.spanSource = v.toList := by
  simpa [splitText] using flatMap_spanSource_splitChars [] v.toList

theorem isText_spanNode (m : Char) (body : List Char) : (spanNode m body).isText = false := by
  unfold spanNode
  split <;> rfl

theorem isText_of_mem_pendingText {pending : List Char} {y : Inline}
    (h : y ∈ pendingText pending) : y.isText = true := by
  unfold pendingText at h
  split at h
  · cases h
  · simp only [List.mem_singleton] at h
    simp [h, Inline.isText]

theorem isChain_pendingText (R : Inline → Inline → Prop) (pending : List Char) :
    (pendingText pending).IsChain R := by
  unfold pendingText
  split <;> simp

/-- No two text pieces stand next to each other: text held back is given out only before a span
or at the end. -/
theorem isChain_splitChars (pending cs : List Char) :
    (splitChars pending cs).IsChain fun x y => ¬ (x.isText ∧ y.isText) := by
  fun_induction splitChars pending cs with
  | case1 pending => exact isChain_pendingText _ pending
  | case2 pending c rest hm body after hb _ ih =>
    have hspan : (spanNode c body :: splitChars [] after).IsChain
        fun x y => ¬ (x.isText ∧ y.isText) := by
      cases h : splitChars [] after with
      | nil => simp
      | cons y ys =>
        rw [h] at ih
        exact List.isChain_cons_cons.2 ⟨by simp [isText_spanNode], ih⟩
    refine List.isChain_append.2 ⟨isChain_pendingText _ pending, hspan, fun x _ y hy => ?_⟩
    simp only [List.head?_cons, Option.mem_def, Option.some.injEq] at hy
    simp [← hy, isText_spanNode]
  | case3 _ _ _ _ _ ih | case4 _ _ _ _ ih => exact ih

/-- Every span the splitter gives is a superscript or subscript around a span body of its
marker. -/
theorem spanBody_of_mem_splitChars (pending cs : List Char) :
    ∀ y ∈ splitChars pending cs, y.isText = false →
      (∃ t, y = .superscript [.text t] ∧ SpanBody '^' t.toList) ∨
        (∃ t, y = .subscript [.text t] ∧ SpanBody '~' t.toList) := by
  fun_induction splitChars pending cs with
  | case1 pending =>
    intro y hy hy'
    simp [isText_of_mem_pendingText hy] at hy'
  | case2 pending c rest hm body after hb _ ih =>
    intro y hy hy'
    simp only [List.mem_append, List.mem_cons] at hy
    rcases hy with hy | rfl | hy
    · simp [isText_of_mem_pendingText hy] at hy'
    · have hbody := (spanBody_nil_eq_some hb).2
      rcases hm with rfl | rfl
      · exact .inl ⟨String.ofList body, by simp [spanNode], by simpa using hbody⟩
      · exact .inr ⟨String.ofList body, by simp [spanNode], by simpa using hbody⟩
    · exact ih y hy hy'
  | case3 _ _ _ _ _ ih | case4 _ _ _ _ ih => exact ih

end ScriptSpans

open ScriptSpans in
/-- **What the splitter gives.** For every text: reading each text piece as itself and each span
as its body between two of its markers gives back the text; text pieces are nonempty and never
adjacent; every other piece is a superscript or a subscript holding one text, a nonempty body on
one line with its own marker at most first; and no text piece holds a span, so splitting it
again gives it back whole. -/
theorem splitText_pieces_read_back (v : String) :
    (splitText v).flatMap Inline.spanSource = v.toList ∧
      (splitText v).IsChain (fun x y => ¬ (x.isText ∧ y.isText)) ∧
      ∀ y ∈ splitText v,
        (∃ t, y = .text t ∧ t ≠ "" ∧ splitText t = [.text t]) ∨
          (∃ t, y = .superscript [.text t] ∧ SpanBody '^' t.toList) ∨
          (∃ t, y = .subscript [.text t] ∧ SpanBody '~' t.toList) := by
  refine ⟨flatMap_spanSource_splitText v, isChain_splitChars [] v.toList, fun y hy => ?_⟩
  cases hy' : y.isText with
  | false => exact .inr (spanBody_of_mem_splitChars [] v.toList y hy hy')
  | true =>
    -- a text piece is quiet, and quiet text is one piece of its own
    rcases piece_of_mem_splitText hy with ⟨t, rfl, hq, ht⟩ | ⟨m, body, rfl⟩
    · exact .inl ⟨t, rfl, ht, splitText_of_quiet hq ht⟩
    · simp [isText_spanNode] at hy'

end Typeset
