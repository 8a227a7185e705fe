import Mathlib.Data.List.TakeWhile
import Mathlib.Tactic.SplitIfs
import Typeset.Frontmatter

/-!
Lines added after a frontmatter block never change what its earlier lines gave.

The reader goes line by line, and only one kind of line looks past itself: an `authors:` line with
no value, read while no authors are given, takes the `- item` lines right below it
(`readLines_block`). Any other line does the same whether lines follow it or not
(`readLines_key`). So a block `a`, a line feed and `b` reads as `a` alone and then `b`, unless `a`
ends inside such a block list, whose items then go on into the `- item` lines `b` starts with
(`readLines_append`). And no line takes a field back: a nonempty language or title, and an author
list of any length, once given, stay (`Keeps`, `keeps_readLines`). Together: the first qualifying
occurrence of each field wins (`parse_append_keeps_first`).
-/

namespace Typeset.Frontmatter

open Text

/-! ## One line at a time -/

/-- Whether a line is a `- item` line. -/
def isItem (line : List Char) : Bool := (listItem? line).isSome

/-- The authors that the `- item` lines at the start of some lines give. -/
def leadingItems (ls : List (List Char)) : List String :=
  nonEmpty (((ls.takeWhile isItem).filterMap listItem?).map (String.ofList ∘ unquoteChars))

/-- A line that opens an `authors` block list: no authors are given yet, and the line is the key
`authors` with nothing but blanks after its colon. -/
def OpensBlock (acc : Frontmatter) (line : List Char) : Prop :=
  acc.authors = none ∧
    ∃ key value, splitKey line = some (key, value) ∧ String.ofList key = "authors" ∧
      trimChars value = []

/-- An `authors:` line with no value takes the `- item` lines below it. -/
theorem readLines_block {acc : Frontmatter} {line : List Char} (h : OpensBlock acc line)
    (rest : List (List Char)) :
    readLines acc (line :: rest) =
      readLines { acc with authors := some (leadingItems rest) } (rest.dropWhile isItem) := by
  obtain ⟨hnone, key, value, hsplit, hkey, hvalue⟩ := h
  rw [readLines.eq_2]
  simp [hsplit, hkey, hnone, hvalue, leadingItems]
  rfl

/-- Any other line reads as it would with no line after it. -/
theorem readLines_key {acc : Frontmatter} {line : List Char} (h : ¬ OpensBlock acc line)
    (rest : List (List Char)) :
    readLines acc (line :: rest) = readLines (readLines acc [line]) rest := by
  rw [readLines.eq_2, readLines.eq_2]
  cases hsplit : splitKey line with
  | none => simp [readLines.eq_1]
  | some kv =>
    obtain ⟨key, value⟩ := kv
    dsimp only
    split_ifs with h1 h2 h3 h4 h5
    · simp only [readLines.eq_1]
    · simp only [readLines.eq_1]
    · simp only [readLines.eq_1]
    · simp only [readLines.eq_1]
    · -- the only line that looks ahead is the one `h` rules out
      simp only [Bool.and_eq_true, beq_iff_eq, Option.isNone_iff_eq_none, Bool.not_eq_true',
        List.isEmpty_eq_false_iff, ne_eq, Decidable.not_not] at h4 h5
      exact absurd ⟨h4.2, key, value, hsplit, h4.1, h5⟩ h
    · simp only [readLines.eq_1]

/-- Reading proceeds one line at a time, or by a block list and the lines after it. -/
@[elab_as_elim]
theorem readLines_induction {motive : Frontmatter → List (List Char) → Prop}
    (nil : ∀ acc, motive acc [])
    (key : ∀ acc line rest, ¬ OpensBlock acc line → motive (readLines acc [line]) rest →
      motive acc (line :: rest))
    (block : ∀ acc line rest, OpensBlock acc line →
      motive { acc with authors := some (leadingItems rest) } (rest.dropWhile isItem) →
      motive acc (line :: rest))
    (acc : Frontmatter) (ls : List (List Char)) : motive acc ls := by
  induction hlen : ls.length using Nat.strongRecOn generalizing acc ls with
  | _ n ih =>
    cases ls with
    | nil => exact nil acc
    | cons line rest =>
      simp only [List.length_cons] at hlen
      by_cases hb : OpensBlock acc line
      · have hle := (List.dropWhile_suffix isItem (l := rest)).length_le
        exact block acc line rest hb (ih _ (by omega) _ _ rfl)
      · exact key acc line rest hb (ih _ (by omega) _ _ rfl)

/-! ## No field is taken back -/

/-- `f'` keeps what `f` settled: a nonempty language or title, and an author list. -/
structure Keeps (f f' : Frontmatter) : Prop where
  lang : ∀ x, f.lang = some x → x ≠ "" → f'.lang = some x
  title : ∀ x, f.title = some x → x ≠ "" → f'.title = some x
  authors : ∀ l, f.authors = some l → f'.authors = some l

theorem Keeps.refl (f : Frontmatter) : Keeps f f := ⟨fun _ h _ => h, fun _ h _ => h, fun _ h => h⟩

theorem Keeps.trans {f g h : Frontmatter} (hfg : Keeps f g) (hgh : Keeps g h) : Keeps f h :=
  ⟨fun x hx hne => hgh.lang x (hfg.lang x hx hne) hne,
    fun x hx hne => hgh.title x (hfg.title x hx hne) hne,
    fun l hl => hgh.authors l (hfg.authors l hl)⟩

theorem isUnset_eq_true_iff {v : Option String} : isUnset v = true ↔ ∀ x, v = some x → x = "" := by
  cases v with
  | none => simp [isUnset]
  | some s => simp [isUnset, String.isEmpty_iff]

/-- Each field is the same or was still open. -/
theorem Keeps.of_open {f f' : Frontmatter} (hlang : f'.lang = f.lang ∨ isUnset f.lang = true)
    (htitle : f'.title = f.title ∨ isUnset f.title = true)
    (hauthors : f'.authors = f.authors ∨ f.authors = none) : Keeps f f' := by
  refine ⟨fun x hx hne => ?_, fun x hx hne => ?_, fun l hl => ?_⟩
  · rcases hlang with h | h
    · rw [h, hx]
    · exact absurd (isUnset_eq_true_iff.1 h x hx) hne
  · rcases htitle with h | h
    · rw [h, hx]
    · exact absurd (isUnset_eq_true_iff.1 h x hx) hne
  · rcases hauthors with h | h
    · rw [h, hl]
    · rw [h] at hl
      cases hl

/-- One line keeps every settled field. -/
theorem keeps_readLine (acc : Frontmatter) (line : List Char) : Keeps acc (readLines acc [line]) := by
  rw [readLines.eq_2]
  cases hsplit : splitKey line with
  | none => simpa [readLines.eq_1] using Keeps.refl acc
  | some kv =>
    obtain ⟨key, value⟩ := kv
    dsimp only
    split_ifs with h1 h2 h3 h4 h5 <;> simp only [List.dropWhile_nil, readLines.eq_1]
    · simp only [Bool.and_eq_true] at h1
      exact .of_open (.inr h1.1.2) (.inl rfl) (.inl rfl)
    · simp only [Bool.and_eq_true] at h2
      exact .of_open (.inl rfl) (.inr h2.1.2) (.inl rfl)
    · simp only [Bool.and_eq_true, Option.isNone_iff_eq_none] at h3
      exact .of_open (.inl rfl) (.inl rfl) (.inr h3.1.2)
    · simp only [Bool.and_eq_true, Option.isNone_iff_eq_none] at h4
      exact .of_open (.inl rfl) (.inl rfl) (.inr h4.2)
    · simp only [Bool.and_eq_true, Option.isNone_iff_eq_none] at h4
      exact .of_open (.inl rfl) (.inl rfl) (.inr h4.2)
    · exact Keeps.refl acc

/-- **Reading keeps every settled field**, over any lines. -/
theorem keeps_readLines (acc : Frontmatter) (ls : List (List Char)) : Keeps acc (readLines acc ls) := by
  induction acc, ls using readLines_induction with
  | nil acc => simpa [readLines.eq_1] using Keeps.refl acc
  | key acc line rest hkey ih =>
    rw [readLines_key hkey]
    exact (keeps_readLine acc line).trans ih
  | block acc line rest hblock ih =>
    have hopen : Keeps acc { acc with authors := some (leadingItems rest) } :=
      .of_open (.inl rfl) (.inl rfl) (.inr hblock.1)
    rw [readLines_block hblock]
    exact hopen.trans ih

/-! ## A block followed by more lines -/

/-- Lines that end inside an `authors` block list: one line opens the list after the lines before
it, and every line after it is a `- item` line. -/
def EndsInBlock (acc : Frontmatter) (ls : List (List Char)) : Prop :=
  ∃ pre line items, ls = pre ++ line :: items ∧ OpensBlock (readLines acc pre) line ∧
    ∀ i ∈ items, isItem i = true

/-- More authors added to an author list. -/
def addAuthors (f : Frontmatter) (more : List String) : Frontmatter :=
  { f with authors := f.authors.map (· ++ more) }

/-- Once authors are given, no block list opens. -/
theorem not_endsInBlock_of_authors {acc : Frontmatter} {l : List String}
    (h : acc.authors = some l) (ls : List (List Char)) : ¬ EndsInBlock acc ls := by
  rintro ⟨pre, line, items, -, hopen, -⟩
  have hkept := (keeps_readLines acc pre).authors l h
  rw [hopen.1] at hkept
  cases hkept

theorem endsInBlock_cons_key {acc : Frontmatter} {line : List Char} {rest : List (List Char)}
    (h : ¬ OpensBlock acc line) :
    EndsInBlock acc (line :: rest) ↔ EndsInBlock (readLines acc [line]) rest := by
  constructor
  · rintro ⟨pre, l, items, hls, hopen, hitems⟩
    cases pre with
    | nil =>
      simp only [List.nil_append, List.cons.injEq] at hls
      obtain ⟨rfl, -⟩ := hls
      rw [readLines.eq_1] at hopen
      exact absurd hopen h
    | cons p pre =>
      simp only [List.cons_append, List.cons.injEq] at hls
      obtain ⟨rfl, rfl⟩ := hls
      rw [readLines_key h] at hopen
      exact ⟨pre, l, items, rfl, hopen, hitems⟩
  · rintro ⟨pre, l, items, rfl, hopen, hitems⟩
    refine ⟨line :: pre, l, items, rfl, ?_, hitems⟩
    rwa [readLines_key h]

theorem endsInBlock_cons_block {acc : Frontmatter} {line : List Char} {rest : List (List Char)}
    (h : OpensBlock acc line) : EndsInBlock acc (line :: rest) ↔ ∀ i ∈ rest, isItem i = true := by
  constructor
  · rintro ⟨pre, l, items, hls, hopen, hitems⟩
    cases pre with
    | nil =>
      simp only [List.nil_append, List.cons.injEq] at hls
      rw [hls.2]
      exact hitems
    | cons p pre =>
      simp only [List.cons_append, List.cons.injEq] at hls
      obtain ⟨rfl, rfl⟩ := hls
      -- the list opened first gave authors, so no later line opens one
      rw [readLines_block h] at hopen
      exact (not_endsInBlock_of_authors rfl _ ⟨_, l, items, rfl, hopen, hitems⟩).elim
  · intro hall
    refine ⟨[], line, rest, rfl, ?_, hall⟩
    rwa [readLines.eq_1]

theorem takeWhile_append_of_not_all {α : Type} {p : α → Bool} {xs : List α} (h : ¬ ∀ x ∈ xs, p x = true)
    (ys : List α) : (xs ++ ys).takeWhile p = xs.takeWhile p := by
  have hne : (xs.takeWhile p).length ≠ xs.length := fun hlen =>
    h (List.takeWhile_eq_self_iff.1 ((List.takeWhile_prefix p).eq_of_length hlen))
  rw [List.takeWhile_append, if_neg hne]

theorem dropWhile_append_of_not_all {α : Type} {p : α → Bool} {xs : List α} (h : ¬ ∀ x ∈ xs, p x = true)
    (ys : List α) : (xs ++ ys).dropWhile p = xs.dropWhile p ++ ys := by
  have hne : (xs.dropWhile p).isEmpty = false := by
    rw [List.isEmpty_eq_false_iff]
    exact fun hnil => h (List.dropWhile_eq_nil_iff.1 hnil)
  rw [List.dropWhile_append, hne]
  rfl

theorem leadingItems_append_of_all {ls : List (List Char)} (h : ∀ i ∈ ls, isItem i = true)
    (ms : List (List Char)) : leadingItems (ls ++ ms) = leadingItems ls ++ leadingItems ms := by
  simp [leadingItems, List.takeWhile_append_of_pos h, List.takeWhile_eq_self_iff.2 h, nonEmpty]

/-- **Reading more lines after some lines**: they are read after what the first lines gave,
unless the first lines end inside an `authors` block list, which then takes the `- item` lines
the next ones start with. -/
theorem readLines_append (acc : Frontmatter) (ls ms : List (List Char)) :
    (¬ EndsInBlock acc ls → readLines acc (ls ++ ms) = readLines (readLines acc ls) ms) ∧
    (EndsInBlock acc ls → readLines acc (ls ++ ms) =
      readLines (addAuthors (readLines acc ls) (leadingItems ms)) (ms.dropWhile isItem)) := by
  induction acc, ls using readLines_induction with
  | nil acc =>
    refine ⟨fun _ => by rw [List.nil_append, readLines.eq_1], fun ⟨pre, line, items, h, _⟩ => ?_⟩
    simp at h
  | key acc line rest hkey ih =>
    rw [endsInBlock_cons_key hkey, List.cons_append, readLines_key hkey (rest ++ ms),
      readLines_key hkey rest]
    exact ih
  | block acc line rest hblock ih =>
    rw [endsInBlock_cons_block hblock, List.cons_append, readLines_block hblock (rest ++ ms),
      readLines_block hblock rest]
    by_cases hall : ∀ i ∈ rest, isItem i = true
    · -- the list runs to the end of the first lines and goes on into the next ones
      have hdrop : rest.dropWhile isItem = [] := List.dropWhile_eq_nil_iff.2 hall
      refine ⟨fun h => absurd hall h, fun _ => ?_⟩
      rw [List.dropWhile_append_of_pos hall, leadingItems_append_of_all hall, hdrop,
        readLines.eq_1]
      rfl
    · -- the list ends inside the first lines
      have hset : EndsInBlock { acc with authors := some (leadingItems rest) }
          (rest.dropWhile isItem) → False := not_endsInBlock_of_authors rfl _
      refine ⟨fun _ => ?_, fun h => absurd h hall⟩
      rw [dropWhile_append_of_not_all hall, ← (ih.1 hset)]
      simp only [leadingItems, takeWhile_append_of_not_all hall]

/-! ## The first occurrence wins -/

/-- A block, a line feed and more text split into the block's lines and then the text's. -/
theorem lines_append (a b : String) : lines (a ++ "\n" ++ b) = lines a ++ lines b := by
  simp only [lines, String.toList_append]
  rw [show ("\n" : String).toList = ['\n'] from rfl, List.append_assoc, List.singleton_append,
    List.splitOn_append_cons_self, List.map_append]

/-- **The first qualifying occurrence of each field wins.** Reading a block `a`, a line feed and
any text `b`: a nonempty title or language that `a` gives stays, and an author list that `a` gives
stays, with more authors after it only when `a` ends inside an `authors` block list, and then
exactly the ones that the `- item` lines `b` starts with give. -/
theorem parse_append_keeps_first (a b : String) :
    (∀ x, (parse a).title = some x → x ≠ "" → (parse (a ++ "\n" ++ b)).title = some x) ∧
    (∀ x, (parse a).lang = some x → x ≠ "" → (parse (a ++ "\n" ++ b)).lang = some x) ∧
    (∀ l, (parse a).authors = some l →
      ∃ l', (parse (a ++ "\n" ++ b)).authors = some l' ∧ l <+: l' ∧
        (EndsInBlock {} (lines a) → l' = l ++ leadingItems (lines b)) ∧
        (¬ EndsInBlock {} (lines a) → l' = l)) := by
  by_cases hend : EndsInBlock {} (lines a)
  · -- the block list at the end of `a` goes on into `b`
    have hread : parse (a ++ "\n" ++ b) =
        readLines (addAuthors (parse a) (leadingItems (lines b))) ((lines b).dropWhile isItem) := by
      rw [parse, lines_append, (readLines_append {} _ _).2 hend]
      rfl
    have hk := keeps_readLines (addAuthors (parse a) (leadingItems (lines b)))
      ((lines b).dropWhile isItem)
    rw [← hread] at hk
    refine ⟨hk.title, hk.lang, fun l hl => ⟨l ++ leadingItems (lines b), ?_,
      List.prefix_append l _, fun _ => rfl, fun h => absurd hend h⟩⟩
    exact hk.authors _ (by simp [addAuthors, hl])
  · have hread : parse (a ++ "\n" ++ b) = readLines (parse a) (lines b) := by
      rw [parse, lines_append, (readLines_append {} _ _).1 hend]
      rfl
    have hk := keeps_readLines (parse a) (lines b)
    rw [← hread] at hk
    exact ⟨hk.title, hk.lang, fun l hl =>
      ⟨l, hk.authors l hl, List.prefix_refl l, fun h => absurd h hend, fun _ => rfl⟩⟩

end Typeset.Frontmatter
