import Typeset.Render.Body
import Typeset.Text.Blank
import Mathlib.Tactic.SplitIfs

/-!
How Typst reads markup, as far as its spans and brackets go.

The scan reads markup one character at a time (`step`, `run`). Outside every span a backslash
makes the next character literal, a run of backticks opens a raw span, `$` opens a math span and
brackets count; `#` and a name read a call, and directly inside the argument list of a `#link(`
or `#image(` call a quote opens a string literal and `)` ends the list. A raw span opened by `k`
backticks ends at the first `k` backticks in a row, with no escape inside; a math span ends at
the next `$` that does not come right after a backslash; a string ends at the next quote that no
backslash escapes. A closing bracket with no bracket open stops the scan.

Markup is `WellFormed` when the scan, started outside every span with no bracket open, comes back
there: every span it opens closes in it, and its brackets match. The pieces the writer produces
are `Fragment`s: well-formed at every depth under the strict scan, which also refuses a `#` that
starts no call. Fragments compose: they concatenate and join (`Fragment.append`,
`Fragment.intercalate`), indenting keeps them (`Fragment.indentLines`), and so does trimming,
unless the trim cuts an escape in two (`Fragment.trim`).
-/

namespace Typeset.Typst.Scan

open Text Render

/-- Whether the scan reads markup, or the argument list of a `#link(` or `#image(` call. -/
inductive Context where
  | markup
  | args
  deriving DecidableEq, Repr

/-- Where the scan stands in its context. -/
inductive Mode where
  /-- Outside every span. -/
  | plain
  /-- Right after an escaping backslash. -/
  | escape
  /-- Right after an unescaped `#` and the lowercase letters `name`. -/
  | call (name : List Char)
  /-- In an unescaped run of `k` backticks. -/
  | ticks (k : Nat)
  /-- In a raw span opened by `k` backticks, `seen` backticks in a row read last. -/
  | raw (k seen : Nat)
  /-- In a math span; `slash` when the last character read was a backslash. -/
  | math (slash : Bool)
  /-- In a string literal; `slash` right after an escaping backslash. -/
  | str (slash : Bool)
  deriving DecidableEq, Repr

/-- The context, the mode, and the number of brackets open. -/
structure State where
  context : Context
  mode : Mode
  depth : Nat
  deriving DecidableEq, Repr

/-- Markup outside every span, `d` brackets deep. -/
def markupAt (d : Nat) : State := ⟨.markup, .plain, d⟩

/-- The calls whose argument list holds a string literal. -/
def stringCall (name : List Char) : Bool := name == "link".toList || name == "image".toList

/-- A character read outside every span. -/
def plainStep (ctx : Context) (d : Nat) (c : Char) : Option State :=
  if c = '\\' then some ⟨ctx, .escape, d⟩
  else if c = '#' then some ⟨ctx, .call [], d⟩
  else if c = '`' then some ⟨ctx, .ticks 1, d⟩
  else if c = '$' then some ⟨ctx, .math false, d⟩
  else if c = '[' then some ⟨ctx, .plain, d + 1⟩
  else if c = ']' then (if d = 0 then none else some ⟨ctx, .plain, d - 1⟩)
  else if ctx = .args ∧ c = '"' then some ⟨ctx, .str false, d⟩
  else if ctx = .args ∧ c = ')' then some ⟨.markup, .plain, d⟩
  else some ⟨ctx, .plain, d⟩

/-- One character read; `none` when it closes a bracket that is not open. The strict scan also
stops at a `#` whose name is followed by anything but `(` or `[`. -/
def step (strict : Bool) : State → Char → Option State
  | ⟨ctx, .plain, d⟩, c => plainStep ctx d c
  | ⟨ctx, .escape, d⟩, _ => some ⟨ctx, .plain, d⟩
  | ⟨ctx, .call name, d⟩, c =>
    if c.isLower then some ⟨ctx, .call (name ++ [c]), d⟩
    else if c = '(' then some ⟨if stringCall name then .args else ctx, .plain, d⟩
    else if strict ∧ c ≠ '[' then none
    else plainStep ctx d c
  | ⟨ctx, .ticks k, d⟩, c =>
    if c = '`' then some ⟨ctx, .ticks (k + 1), d⟩ else some ⟨ctx, .raw k 0, d⟩
  | ⟨ctx, .raw k seen, d⟩, c =>
    if c = '`' then some ⟨ctx, if seen + 1 = k then .plain else .raw k (seen + 1), d⟩
    else some ⟨ctx, .raw k 0, d⟩
  | ⟨ctx, .math slash, d⟩, c =>
    if c = '$' ∧ slash = false then some ⟨ctx, .plain, d⟩ else some ⟨ctx, .math (c == '\\'), d⟩
  | ⟨ctx, .str slash, d⟩, c =>
    if slash then some ⟨ctx, .str false, d⟩
    else if c = '\\' then some ⟨ctx, .str true, d⟩
    else if c = '"' then some ⟨ctx, .plain, d⟩
    else some ⟨ctx, .str false, d⟩

/-- Characters read one after another, up to the first that stops the scan. -/
def run (strict : Bool) : State → List Char → Option State
  | st, [] => some st
  | st, c :: cs => (step strict st c).bind fun st' => run strict st' cs

/-- Well-formed markup: read from outside every span with no bracket open, the scan never closes
a bracket that is not open and ends outside every span with no bracket open. So every span that
opens closes in it, and its brackets match. -/
def WellFormed (s : String) : Prop := run false (markupAt 0) s.toList = some (markupAt 0)

/-- A piece of markup the writer can put anywhere outside spans: balanced under the strict scan,
so that also every `#` in it starts a call. -/
def Fragment (s : String) : Prop := ∀ d, run true (markupAt d) s.toList = some (markupAt d)

/-- Markup whose scan ends right after an escaping backslash, which waits for the character it
escapes. -/
def EndsEscaping (s : String) : Prop := run false (markupAt 0) s.toList = some ⟨.markup, .escape, 0⟩

instance (s : String) : Decidable (WellFormed s) :=
  inferInstanceAs (Decidable (run false (markupAt 0) s.toList = some (markupAt 0)))

instance (s : String) : Decidable (EndsEscaping s) :=
  inferInstanceAs (Decidable (run false (markupAt 0) s.toList = some ⟨.markup, .escape, 0⟩))

/-- Reading `cs` from `st`, the scan passes only through states that satisfy `P`, the first and
the last included. -/
def Within (P : State → Prop) : State → List Char → Prop
  | st, [] => P st
  | st, c :: cs => P st ∧ ∃ t, step false st c = some t ∧ Within P t cs

/-- The characters the scan reads outside spans as themselves. -/
def inert (c : Char) : Bool :=
  !(c == '\\' || c == '#' || c == '`' || c == '$' || c == '[' || c == ']')

/-! ## Runs -/

section Runs

variable {b : Bool}

theorem run_append (b : Bool) :
    ∀ (st : State) (xs ys : List Char), run b st (xs ++ ys) = (run b st xs).bind (run b · ys)
  | st, [], ys => rfl
  | st, c :: xs, ys => by
    simp only [List.cons_append, run]
    cases step b st c with
    | none => rfl
    | some t => exact run_append b t xs ys

theorem run_append_of_eq {st t : State} {xs : List Char} (ys : List Char) (h : run b st xs = some t) :
    run b st (xs ++ ys) = run b t ys := by
  rw [run_append, h]
  rfl

theorem run_singleton (st : State) (c : Char) : run b st [c] = step b st c := by
  simp only [run]
  cases step b st c <;> rfl

/-- A character that leaves the state as it is can be read any number of times. -/
theorem run_replicate_of_step {st : State} {c : Char} (h : step b st c = some st) :
    ∀ m, run b st (List.replicate m c) = some st
  | 0 => rfl
  | m + 1 => by
    simp only [List.replicate_succ, run, h, Option.bind_some]
    exact run_replicate_of_step h m

theorem step_of_strict {st t : State} {c : Char} (h : step true st c = some t) :
    step false st c = some t := by
  obtain ⟨ctx, m, d⟩ := st
  cases m with
  | call name =>
    simp only [step] at h ⊢
    by_cases hl : c.isLower = true
    · simpa [hl] using h
    · by_cases hp : c = '('
      · simpa [hl, hp] using h
      · by_cases hb : c = '['
        · simpa [hl, hp, hb] using h
        · simp [hl, hp, hb] at h
  | _ => exact h

/-- What the strict scan reads, the scan reads the same way. -/
theorem run_of_strict : ∀ {st t : State} {cs : List Char}, run true st cs = some t →
    run false st cs = some t
  | _, _, [], h => h
  | st, t, c :: cs, h => by
    obtain ⟨u, hu, hrun⟩ := Option.bind_eq_some_iff.1 h
    simp only [run, step_of_strict hu, Option.bind_some]
    exact run_of_strict hrun

theorem Fragment.wellFormed {s : String} (h : Fragment s) : WellFormed s :=
  run_of_strict (h 0)

end Runs

/-! ## Depth

The scan reads the same at every depth, as long as it closes no bracket it did not open; so a
piece checked at depth zero is balanced at every depth. -/

/-- The same state with `e` more brackets open. -/
def State.deepen (st : State) (e : Nat) : State := ⟨st.context, st.mode, st.depth + e⟩

theorem plainStep_deepen {ctx : Context} {d : Nat} {c : Char} {t : State} (e : Nat)
    (h : plainStep ctx d c = some t) : plainStep ctx (d + e) c = some (t.deepen e) := by
  simp only [plainStep] at h ⊢
  split_ifs at h ⊢ <;> cases h <;> simp_all [State.deepen] <;> omega

theorem step_deepen {b : Bool} {st t : State} {c : Char} (e : Nat) (h : step b st c = some t) :
    step b (st.deepen e) c = some (t.deepen e) := by
  obtain ⟨ctx, m, d⟩ := st
  cases m with
  | plain => exact plainStep_deepen e h
  | call name =>
    simp only [step, State.deepen] at h ⊢
    split_ifs at h ⊢
    · cases h
      rfl
    · cases h
      rfl
    · cases h
      rfl
    · exact plainStep_deepen e h
  | escape =>
    simp only [step, State.deepen] at h ⊢
    cases h
    rfl
  | ticks _ | raw _ _ | math _ | str _ =>
    simp only [step, State.deepen] at h ⊢
    split_ifs at h ⊢ <;> cases h <;> rfl

theorem run_deepen {b : Bool} (e : Nat) :
    ∀ {st t : State} {cs : List Char}, run b st cs = some t → run b (st.deepen e) cs = some (t.deepen e)
  | _, _, [], h => by cases h; rfl
  | st, t, c :: cs, h => by
    obtain ⟨u, hu, hrun⟩ := Option.bind_eq_some_iff.1 h
    simp only [run, step_deepen e hu, Option.bind_some]
    exact run_deepen e hrun

/-- A piece that the strict scan reads from depth zero back to depth zero is a fragment. -/
theorem fragment_of_run {s : String} (h : run true (markupAt 0) s.toList = some (markupAt 0)) :
    Fragment s := fun d => by
  simpa [State.deepen, markupAt] using run_deepen d h

/-! ## Fragments compose -/

theorem step_markupAt_inert {b : Bool} {c : Char} (d : Nat) (h : inert c = true) :
    step b (markupAt d) c = some (markupAt d) := by
  simp only [inert, Bool.not_eq_true', Bool.or_eq_false_iff, beq_eq_false_iff_ne] at h
  obtain ⟨⟨⟨⟨⟨h1, h2⟩, h3⟩, h4⟩, h5⟩, h6⟩ := h
  simp [markupAt, step, plainStep, h1, h2, h3, h4, h5, h6]

theorem run_markupAt_inert {b : Bool} (d : Nat) :
    ∀ {cs : List Char}, (∀ c ∈ cs, inert c = true) → run b (markupAt d) cs = some (markupAt d)
  | [], _ => rfl
  | c :: cs, h => by
    simp only [run, step_markupAt_inert d (h c (by simp)), Option.bind_some]
    exact run_markupAt_inert d fun c' hc' => h c' (by simp [hc'])

/-- Characters that open and close nothing make a fragment. -/
theorem fragment_of_inert {s : String} (h : ∀ c ∈ s.toList, inert c = true) : Fragment s :=
  fun d => run_markupAt_inert d h

theorem fragment_empty : Fragment "" := fun _ => rfl

theorem Fragment.append {s t : String} (hs : Fragment s) (ht : Fragment t) : Fragment (s ++ t) :=
  fun d => by rw [String.toList_append, run_append_of_eq _ (hs d), ht d]

theorem Fragment.intercalate {sep : String} (hs : Fragment sep) :
    ∀ {parts : List String}, (∀ p ∈ parts, Fragment p) → Fragment (sep.intercalate parts)
  | [], _ => by rw [String.intercalate_nil]; exact fragment_empty
  | [p], h => by rw [String.intercalate_singleton]; exact h p (by simp)
  | p :: q :: ps, h => by
    rw [String.intercalate_cons_cons]
    have hrest : Fragment (sep.intercalate (q :: ps)) :=
      Fragment.intercalate hs fun r hr => h r (List.mem_cons_of_mem _ hr)
    exact ((h p (by simp)).append hs).append hrest

/-- Joining rendered pieces keeps them fragments, when the separator is one. -/
theorem Fragment.joinRendered {sep : String} (hs : Fragment sep) {parts : List (Option String)}
    (h : ∀ o ∈ parts, ∀ r ∈ o, Fragment r) : Fragment (joinRendered parts sep) := by
  apply Fragment.intercalate hs
  intro p hp
  obtain ⟨o, ho, hop⟩ := List.mem_filterMap.1 hp
  exact h o ho p (Option.filter_eq_some_iff.1 hop).1

/-! ## Indenting

A space read right after a newline changes nothing: a newline ends every escape, run of backticks
and call name, and a space opens and closes nothing. So the spaces indenting inserts at the start
of every line are idle. -/

theorem step_space_of_newline {b : Bool} {st t : State} (h : step b st '\n' = some t) :
    step b t ' ' = some t := by
  obtain ⟨ctx, m, d⟩ := st
  cases m with
  | str slash =>
    -- a newline inside a string literal leaves it open, with no escape pending
    have ht : t = ⟨ctx, .str false, d⟩ := by cases slash <;> simpa [step] using h.symm
    simp [ht, step]
  | call name =>
    -- a newline ends the call's name; only the lenient scan reads on
    cases b
    · simp [step, plainStep] at h
      subst h
      simp [step, plainStep]
    · simp [step] at h
  | plain | escape | ticks _ | raw _ _ | math _ =>
    simp [step, plainStep] at h
    subst h
    simp [step, plainStep]

theorem run_intercalate_pad {b : Bool} {pad : List Char}
    (hpad : ∀ st t : State, step b st '\n' = some t → run b t pad = some t) :
    ∀ (ls : List (List Char)) (st : State), run b st pad = some st →
      run b st (['\n'].intercalate (ls.map (pad ++ ·))) = run b st (['\n'].intercalate ls)
  | [], _, _ => rfl
  | [l], st, h => by simp [run_append_of_eq l h]
  | l :: l' :: ls, st, h => by
    simp only [List.map_cons, List.intercalate_cons_cons, List.append_assoc]
    rw [run_append_of_eq _ h, run_append, run_append]
    cases run b st l with
    | none => rfl
    | some u =>
      simp only [Option.bind_some, List.singleton_append, run]
      cases hu : step b u '\n' with
      | none => rfl
      | some t =>
        simp only [Option.bind_some]
        rw [← List.map_cons]
        exact run_intercalate_pad hpad (l' :: ls) t (hpad u t hu)

/-- Indenting keeps what the scan makes of a text, from a state where a space is idle. -/
theorem run_indentLines {b : Bool} {st : State} (hst : step b st ' ' = some st) (t : String)
    (n : Nat) : run b st (indentLines t n).toList = run b st t.toList := by
  unfold indentLines
  split
  · rfl
  · have hlist : (String.intercalate "\n" ((t.toList.splitOn '\n').map
        fun l => String.ofList (List.replicate (2 * n) ' ') ++ String.ofList l)).toList =
        ['\n'].intercalate ((t.toList.splitOn '\n').map (List.replicate (2 * n) ' ' ++ ·)) := by
      simp [String.toList_intercalate, List.map_map, Function.comp_def]
    rw [hlist, run_intercalate_pad (fun _ _ h => run_replicate_of_step (step_space_of_newline h) _)
      _ _ (run_replicate_of_step hst _), List.intercalate_splitOn]

theorem Fragment.indentLines {t : String} (h : Fragment t) (n : Nat) :
    Fragment (indentLines t n) := fun d => by
  rw [run_indentLines (step_markupAt_inert d rfl)]
  exact h d

/-! ## Trimming

Blanks are read outside spans as themselves, so dropping blanks at the front of a fragment keeps
it one. Dropping blanks at the end does too, unless the last blank kept the scan from stopping
right after an escaping backslash: a hard line break, backslash and newline, trimmed to a lone
backslash. -/

theorem inert_of_isBlank {c : Char} (h : isBlank c = true) : inert c = true := by
  cases hc : inert c
  · simp only [inert, Bool.not_eq_false', Bool.or_eq_true, beq_iff_eq] at hc
    rcases hc with (((((rfl | rfl) | rfl) | rfl) | rfl) | rfl) <;> exact absurd h (by decide)
  · rfl

theorem isLower_of_isBlank {c : Char} (h : isBlank c = true) : c.isLower = false := by
  have hl : c.isLower = true ↔ 97 ≤ c.toNat ∧ c.toNat ≤ 122 := by
    show (c.val ≥ 'a'.val && c.val ≤ 'z'.val) = true ↔ _
    simp [UInt32.le_iff_toNat_le, ← Char.toNat_val]
  cases hc : c.isLower
  · rfl
  · have := hl.1 hc
    simp only [isBlank] at h
    simp at h
    omega

/-- What the strict scan does with a blank: outside spans it is read as itself and ends an
escape, after a call name it stops the scan, and inside a span it stays there. -/
theorem step_blank {c : Char} (hc : isBlank c = true) (st : State) :
    step true st c = match st.mode with
      | .plain | .escape => some ⟨st.context, .plain, st.depth⟩
      | .call _ => none
      | .ticks k | .raw k _ => some ⟨st.context, .raw k 0, st.depth⟩
      | .math _ => some ⟨st.context, .math false, st.depth⟩
      | .str _ => some ⟨st.context, .str false, st.depth⟩ := by
  have hi := inert_of_isBlank hc
  have hl := isLower_of_isBlank hc
  simp only [inert, Bool.not_eq_true', Bool.or_eq_false_iff, beq_eq_false_iff_ne] at hi
  obtain ⟨⟨⟨⟨⟨h1, h2⟩, h3⟩, h4⟩, h5⟩, h6⟩ := hi
  have hq : c ≠ '"' := by rintro rfl; exact absurd hc (by decide)
  have hr : c ≠ ')' := by rintro rfl; exact absurd hc (by decide)
  have hp : c ≠ '(' := by rintro rfl; exact absurd hc (by decide)
  obtain ⟨ctx, m, d⟩ := st
  cases m with
  | str slash => cases slash <;> simp [step, h1, hq]
  | _ => simp [step, plainStep, h1, h2, h3, h4, h5, h6, hq, hr, hp, hl]

/-- Blanks that bring the strict scan back to markup at depth `d` start from there, or right
after an escaping backslash. -/
theorem eq_of_run_blanks {d : Nat} :
    ∀ {ws : List Char} {st : State}, (∀ c ∈ ws, isBlank c = true) →
      run true st ws = some (markupAt d) → st = markupAt d ∨ st = ⟨.markup, .escape, d⟩
  | [], _, _, h => by cases h; exact .inl rfl
  | c :: ws, ⟨ctx, m, d'⟩, hw, h => by
    obtain ⟨t, ht, hrun⟩ := Option.bind_eq_some_iff.1 h
    rw [step_blank (hw c (by simp))] at ht
    -- after a blank the scan is never right after an escape, so it is already back
    have ht' : t = markupAt d := by
      rcases eq_of_run_blanks (fun c' hc' => hw c' (by simp [hc'])) hrun with rfl | rfl
      · rfl
      · cases m <;> simp at ht
    subst ht'
    cases m <;> simp [markupAt] at ht
    · obtain ⟨rfl, rfl⟩ := ht
      exact .inl rfl
    · obtain ⟨rfl, rfl⟩ := ht
      exact .inr rfl

theorem Fragment.trim {s : String} (h : Fragment s) (he : ¬ EndsEscaping (Text.trim s)) :
    Fragment (Text.trim s) := by
  apply fragment_of_run
  have hs := h 0
  -- the blanks in front are read as themselves
  rw [← List.takeWhile_append_dropWhile (p := isBlank) (l := s.toList),
    run_append_of_eq _ (run_markupAt_inert 0 fun c hc =>
      inert_of_isBlank (List.all_eq_true.1 List.all_takeWhile c hc))] at hs
  -- the blanks at the end bring the scan back from where the trimmed text leaves it
  have hsplit : s.toList.dropWhile isBlank = dropTrailingBlanks (s.toList.dropWhile isBlank) ++
      ((s.toList.dropWhile isBlank).reverse.takeWhile isBlank).reverse := by
    rw [dropTrailingBlanks, ← List.reverse_append, List.takeWhile_append_dropWhile,
      List.reverse_reverse]
  rw [hsplit, run_append] at hs
  obtain ⟨st, hcore, hws⟩ := Option.bind_eq_some_iff.1 hs
  have hblank : ∀ c ∈ ((s.toList.dropWhile isBlank).reverse.takeWhile isBlank).reverse,
      isBlank c = true := fun c hc =>
    List.all_eq_true.1 List.all_takeWhile c (List.mem_reverse.1 hc)
  have htrim : (Text.trim s).toList = dropTrailingBlanks (s.toList.dropWhile isBlank) := by
    simp [Text.trim, trimChars, dropBlanks]
  rcases eq_of_run_blanks hblank hws with rfl | rfl
  · rw [htrim]
    exact hcore
  · exact absurd (by rw [EndsEscaping, htrim]; exact run_of_strict hcore) he

end Typeset.Typst.Scan
