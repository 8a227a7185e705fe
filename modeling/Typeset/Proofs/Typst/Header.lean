import Mathlib.Data.List.Forall2
import Typeset.Typst.Header

/-!
Reading the document header back as Typst reads it.

The header is two lines, `#import "P": E` and `#show: E.with(ARGS)`, a blank line after each. A
Typst string literal ends at the first quote that no backslash escapes, and a backslash with the
character after it stands for one character. The show rule's arguments are `name: value` pairs
separated by `, `; a value is a string or an array of strings, and an array of one item keeps a
trailing comma, since `("a")` is the string `"a"` in parentheses.

The readers below accept a part of Typst's syntax: the single-character escapes `\\`, `\"`, `\n`,
`\r` and `\t` (any other escape is refused), and exactly `, ` and `: ` between arguments. What
they read, Typst reads the same way.

The title and the authors go through `quote`, which escapes the backslash, the quote and the line
feed, so whatever they hold, they read back as themselves, on one line, inside their own argument
(`showRule_reads_back`). The template path is written between quotes as it is: it reads back only
when it holds no quote and no backslash, and a path with a quote ends its literal early
(`quoted_path_ends_import_literal`).
-/

namespace Typeset.Typst

open Render Template

/-! ## String literals -/

/-- The character a single-character escape of a Typst string stands for. -/
def escapedChar? : Char → Option Char
  | '\\' => some '\\'
  | '"' => some '"'
  | 'n' => some '\n'
  | 'r' => some '\r'
  | 't' => some '\t'
  | _ => none

/-- Reads a string literal after its opening quote, up to its closing quote: the characters the
literal stands for and the code after it. -/
def readStringBody : List Char → Option (List Char × List Char)
  | [] => none
  | '"' :: rest => some ([], rest)
  | '\\' :: c :: rest => do
    let d ← escapedChar? c
    let (s, r) ← readStringBody rest
    pure (d :: s, r)
  | c :: rest => (readStringBody rest).map fun (s, r) => (c :: s, r)

/-- Reads a string literal at the start of code: the text it stands for and the code after it. -/
def readString : List Char → Option (String × List Char)
  | '"' :: cs => (readStringBody cs).map fun (s, r) => (String.ofList s, r)
  | _ => none

theorem readStringBody_plain {c : Char} (hq : c ≠ '"') (hb : c ≠ '\\') (rest : List Char) :
    readStringBody (c :: rest) = (readStringBody rest).map fun (s, r) => (c :: s, r) := by
  rw [readStringBody.eq_def]
  split <;> simp_all

theorem readStringBody_length {cs s r : List Char} (h : readStringBody cs = some (s, r)) :
    r.length < cs.length := by
  induction cs using readStringBody.induct generalizing s r with
  | case1 => simp [readStringBody] at h
  | case2 rest =>
    simp only [readStringBody, Option.some.injEq, Prod.mk.injEq] at h
    simp [← h.2]
  | case3 c rest ih =>
    simp only [readStringBody, Option.bind_eq_bind, Option.bind_eq_some_iff] at h
    obtain ⟨d, -, ⟨s', r'⟩, hr, h⟩ := h
    simp only [Option.pure_def, Option.some.injEq, Prod.mk.injEq] at h
    have := ih hr
    simp only [List.length_cons, ← h.2]
    omega
  | case4 c rest hq hb ih =>
    rw [readStringBody.eq_4 c rest hq hb] at h
    obtain ⟨⟨s', r'⟩, hr, h⟩ := Option.map_eq_some_iff.1 h
    simp only [Prod.mk.injEq] at h
    have := ih hr
    simp only [List.length_cons, ← h.2]
    omega

/-- A literal that reads is a quote and a body that reads. -/
theorem readString_eq_some {cs r : List Char} {s : String} (h : readString cs = some (s, r)) :
    ∃ body s', cs = '"' :: body ∧ readStringBody body = some (s', r) ∧ s = String.ofList s' := by
  unfold readString at h
  split at h
  · obtain ⟨⟨s', r'⟩, hr, h⟩ := Option.map_eq_some_iff.1 h
    simp only [Prod.mk.injEq] at h
    obtain ⟨rfl, rfl⟩ := h
    exact ⟨_, s', rfl, hr, rfl⟩
  · cases h

theorem readString_length {cs r : List Char} {s : String} (h : readString cs = some (s, r)) :
    r.length < cs.length := by
  obtain ⟨body, s', rfl, hr, -⟩ := readString_eq_some h
  have := readStringBody_length hr
  simp only [List.length_cons]
  omega

/-- A literal reads the same whatever code follows it. -/
theorem readStringBody_append {cs s r : List Char} (h : readStringBody cs = some (s, r))
    (rest : List Char) : readStringBody (cs ++ rest) = some (s, r ++ rest) := by
  induction cs using readStringBody.induct generalizing s r with
  | case1 => simp [readStringBody] at h
  | case2 cs =>
    simp only [readStringBody, Option.some.injEq, Prod.mk.injEq] at h
    obtain ⟨rfl, rfl⟩ := h
    simp [readStringBody]
  | case3 c cs ih =>
    simp only [readStringBody, Option.bind_eq_bind, Option.bind_eq_some_iff] at h
    obtain ⟨d, hd, ⟨s', r'⟩, hr, h⟩ := h
    simp only [Option.pure_def, Option.some.injEq, Prod.mk.injEq] at h
    obtain ⟨rfl, rfl⟩ := h
    simp [readStringBody, hd, ih hr]
  | case4 c cs hq hb ih =>
    rw [readStringBody.eq_4 c cs hq hb] at h
    obtain ⟨⟨s', r'⟩, hr, h⟩ := Option.map_eq_some_iff.1 h
    simp only [Prod.mk.injEq] at h
    obtain ⟨rfl, rfl⟩ := h
    rw [List.cons_append, readStringBody.eq_4 c (cs ++ rest) hq
      (fun c' rest' hc heq => by
        subst hc
        cases cs with
        | nil => simp [readStringBody] at hr
        | cons x xs => exact hb x xs rfl rfl), ih hr]
    rfl

theorem readString_append {cs r : List Char} {s : String} (h : readString cs = some (s, r))
    (rest : List Char) : readString (cs ++ rest) = some (s, r ++ rest) := by
  obtain ⟨body, s', rfl, hr, rfl⟩ := readString_eq_some h
  simp [readString, readStringBody_append hr]

/-- An escaped text reads back as itself, and the literal ends at the quote after it. -/
theorem readStringBody_escape (cs rest : List Char) :
    readStringBody (escapeStringChars cs ++ '"' :: rest) = some (cs, rest) := by
  induction cs with
  | nil => simp [escapeStringChars, readStringBody]
  | cons c cs ih =>
    simp only [escapeStringChars]
    split
    · simp [readStringBody, escapedChar?, *]
    split
    · simp [readStringBody, escapedChar?, *]
    split
    · simp [readStringBody, escapedChar?, *]
    rename_i hb hq _
    rw [List.cons_append, readStringBody_plain hq hb, ih]
    rfl

/-- Characters without a quote or a backslash, written between quotes, read back as
themselves. -/
theorem readStringBody_verbatim (rest : List Char) (cs : List Char) (hq : '"' ∉ cs)
    (hb : '\\' ∉ cs) : readStringBody (cs ++ '"' :: rest) = some (cs, rest) := by
  induction cs with
  | nil => simp [readStringBody]
  | cons c cs ih =>
    simp only [List.mem_cons, not_or] at hq hb
    rw [List.cons_append, readStringBody_plain (Ne.symm hq.1) (Ne.symm hb.1), ih hq.2 hb.2]
    rfl

@[simp] theorem toList_quote (s : String) :
    (quote s).toList = '"' :: escapeStringChars s.toList ++ ['"'] := by
  simp [quote, escapeString]

/-- A quoted text reads back as itself. -/
theorem readString_quote (s : String) (rest : List Char) :
    readString ((quote s).toList ++ rest) = some (s, rest) := by
  simp [readString, readStringBody_escape]

theorem newline_not_mem_escapeStringChars (cs : List Char) : '\n' ∉ escapeStringChars cs := by
  induction cs with
  | nil => simp [escapeStringChars]
  | cons c cs ih =>
    simp only [escapeStringChars]
    split
    · simp [ih]
    split
    · simp [ih]
    split
    · simp [ih]
    rename_i hn
    simp [ih, Ne.symm hn]

theorem newline_not_mem_quote (s : String) : '\n' ∉ (quote s).toList := by
  simp [newline_not_mem_escapeStringChars]

/-! ## Arrays and arguments -/

/-- A value passed to the show rule. -/
inductive ArgValue where
  | str (s : String)
  | array (items : List String)
  deriving DecidableEq, Repr

/-- Reads the rest of an array after an item: `)` closes it, `,)` closes it after a trailing
comma, and `, ` goes on to another item. -/
def readMoreItems (cs : List Char) : Option (List String × List Char) :=
  match cs with
  | ')' :: rest => some ([], rest)
  | ',' :: ')' :: rest => some ([], rest)
  | ',' :: ' ' :: rest =>
    match h : readString rest with
    | some (s, r) =>
      have := readString_length h
      (readMoreItems r).map fun (ss, r') => (s :: ss, r')
    | none => none
  | _ => none
termination_by cs.length

/-- Reads an array of strings. One string in parentheses without a trailing comma is no array. -/
def readArray : List Char → Option (List String × List Char)
  | '(' :: ')' :: rest => some ([], rest)
  | '(' :: cs => do
    let (s, r) ← readString cs
    if r.head? = some ')' then none
    else
      let (ss, r') ← readMoreItems r
      pure (s :: ss, r')
  | _ => none

/-- Reads a value: a string or an array of strings. -/
def readValue : List Char → Option (ArgValue × List Char)
  | cs@('"' :: _) => (readString cs).map fun (s, r) => (.str s, r)
  | cs@('(' :: _) => (readArray cs).map fun (ss, r) => (.array ss, r)
  | _ => none

theorem readMoreItems_length {cs r : List Char} {ss : List String}
    (h : readMoreItems cs = some (ss, r)) : r.length < cs.length := by
  induction cs using readMoreItems.induct generalizing ss r with
  | case1 rest | case2 rest =>
    simp only [readMoreItems, Option.some.injEq, Prod.mk.injEq] at h
    rw [← h.2]
    simp only [List.length_cons]
    omega
  | case3 rest s r' hs _ ih =>
    rw [readMoreItems] at h
    split at h
    · rename_i s₁ r₁ hs₁
      rw [hs] at hs₁
      cases hs₁
      obtain ⟨⟨ss', r''⟩, hr, h⟩ := Option.map_eq_some_iff.1 h
      simp only [Prod.mk.injEq] at h
      have h1 := ih hr
      have h2 := readString_length hs
      simp only [List.length_cons, ← h.2]
      omega
    · cases h
  | case4 rest hs =>
    rw [readMoreItems] at h
    split at h
    · rename_i hs₁
      rw [hs] at hs₁
      cases hs₁
    · cases h
  | case5 cs =>
    rw [readMoreItems.eq_def] at h
    split at h <;> simp_all

theorem readArray_length {cs r : List Char} {ss : List String}
    (h : readArray cs = some (ss, r)) : r.length < cs.length := by
  unfold readArray at h
  split at h
  · simp only [Option.some.injEq, Prod.mk.injEq] at h
    rw [← h.2]
    simp only [List.length_cons]
    omega
  · simp only [Option.bind_eq_bind, Option.bind_eq_some_iff] at h
    obtain ⟨⟨s, r₁⟩, h₁, h⟩ := h
    split at h
    · cases h
    · simp only [Option.bind_eq_some_iff, Option.pure_def, Option.some.injEq] at h
      obtain ⟨⟨ss', r₂⟩, h₂, h⟩ := h
      simp only [Prod.mk.injEq] at h
      have := readString_length h₁
      have := readMoreItems_length h₂
      simp only [List.length_cons, ← h.2]
      omega
  · cases h

theorem readValue_length {cs r : List Char} {v : ArgValue}
    (h : readValue cs = some (v, r)) : r.length < cs.length := by
  unfold readValue at h
  split at h
  · obtain ⟨⟨s, r'⟩, hr, h⟩ := Option.map_eq_some_iff.1 h
    simp only [Prod.mk.injEq] at h
    exact h.2 ▸ readString_length hr
  · obtain ⟨⟨ss, r'⟩, hr, h⟩ := Option.map_eq_some_iff.1 h
    simp only [Prod.mk.injEq] at h
    exact h.2 ▸ readArray_length hr
  · cases h

/-- Reads one named argument `name: value`, the name a nonempty word of letters. -/
def readArg (cs : List Char) : Option ((String × ArgValue) × List Char) :=
  let name := cs.takeWhile Char.isAlpha
  match cs.dropWhile Char.isAlpha with
  | ':' :: ' ' :: vs =>
    if name.isEmpty then none
    else (readValue vs).map fun (v, r) => ((String.ofList name, v), r)
  | _ => none

theorem readArg_length {cs r : List Char} {a : String × ArgValue}
    (h : readArg cs = some (a, r)) : r.length < cs.length := by
  unfold readArg at h
  split at h
  · rename_i vs hvs
    dsimp only at h
    split at h
    · cases h
    · obtain ⟨⟨v, r'⟩, hr, h⟩ := Option.map_eq_some_iff.1 h
      simp only [Prod.mk.injEq] at h
      have h1 := readValue_length hr
      have h2 := (List.dropWhile_suffix Char.isAlpha (l := cs)).length_le
      rw [hvs] at h2
      simp only [List.length_cons, ← h.2] at h2 ⊢
      omega
  · cases h

/-- Reads the arguments of a call: named arguments separated by `, `, up to the end. -/
def readArgs (cs : List Char) : Option (List (String × ArgValue)) :=
  match h : readArg cs with
  | some (a, []) => some [a]
  | some (a, ',' :: ' ' :: rest) =>
    have := readArg_length h
    (readArgs rest).map (a :: ·)
  | _ => none
termination_by cs.length
decreasing_by simp at this; omega

/-! ## The arguments read back -/

/-- The separator between items and between arguments. -/
theorem toList_commaSpace : (", " : String).toList = [',', ' '] := rfl

theorem readMoreItems_sep {cs r : List Char} {s : String} (h : readString cs = some (s, r)) :
    readMoreItems (',' :: ' ' :: cs) = (readMoreItems r).map fun (ss, r') => (s :: ss, r') := by
  rw [readMoreItems.eq_def]
  simp only
  split <;> simp_all

/-- Quoted items after the first of an array read back as themselves, up to the closing
parenthesis. -/
theorem readMoreItems_quoted (rest : List Char) (y : String) (ys : List String) :
    readMoreItems ((", " ++ ", ".intercalate ((y :: ys).map quote) ++ ")").toList ++ rest) =
      some (y :: ys, rest) := by
  induction ys generalizing y with
  | nil =>
    simp only [List.map_cons, List.map_nil, String.intercalate_singleton, String.toList_append,
      toList_commaSpace, List.append_assoc, List.cons_append, List.nil_append]
    rw [readMoreItems_sep (readString_quote y _)]
    simp [readMoreItems]
  | cons z zs ih =>
    have hnext := ih z
    simp only [List.map_cons, String.intercalate_cons_cons, String.toList_append,
      toList_commaSpace, List.append_assoc, List.cons_append, List.nil_append] at hnext ⊢
    rw [readMoreItems_sep (readString_quote y _), hnext]
    rfl

theorem readArray_open {cs r : List Char} {s : String} (h : readString cs = some (s, r))
    (hr : r.head? ≠ some ')') :
    readArray ('(' :: cs) = (readMoreItems r).map fun (ss, r') => (s :: ss, r') := by
  rw [readArray.eq_def]
  split
  · rename_i heq
    simp only [List.cons.injEq, true_and] at heq
    subst heq
    simp [readString] at h
  · rename_i cs' heq
    simp only [List.cons.injEq, true_and] at heq
    subst heq
    simp only [Option.bind_eq_bind, h, Option.bind_some, hr, if_false]
    cases readMoreItems r <;> rfl
  · simp_all

/-- An array of quoted items reads back as the items. -/
theorem readArray_quoted (items : List String) (rest : List Char) :
    readArray ((array (items.map quote)).toList ++ rest) = some (items, rest) := by
  rcases items with _ | ⟨x, _ | ⟨y, ys⟩⟩
  · rfl
  · have hclose : (",)" : String).toList = [',', ')'] := rfl
    simp only [array, List.map_cons, List.map_nil, String.toList_append, hclose,
      List.append_assoc, List.cons_append, List.nil_append]
    rw [show ("(" : String).toList = ['('] from rfl, List.singleton_append,
      readArray_open (readString_quote x _) (by simp)]
    simp [readMoreItems]
  · have hmore := readMoreItems_quoted rest y ys
    simp only [array, List.map_cons, String.intercalate_cons_cons, String.toList_append,
      List.append_assoc] at hmore ⊢
    rw [show ("(" : String).toList = ['('] from rfl, List.singleton_append,
      readArray_open (readString_quote x _) (by simp [toList_commaSpace]), hmore]
    rfl

theorem readValue_of_readString {cs r : List Char} {s : String} (h : readString cs = some (s, r)) :
    readValue cs = some (.str s, r) := by
  obtain ⟨body, s', rfl, -, -⟩ := readString_eq_some h
  simp [readValue, h]

theorem readValue_of_readArray {cs r : List Char} {ss : List String}
    (h : readArray cs = some (ss, r)) : readValue cs = some (.array ss, r) := by
  unfold readValue
  split
  · simp [readArray] at h
  · simp [h]
  · unfold readArray at h
    split at h <;> simp_all

theorem readArg_named {name vs : List Char} (hne : name ≠ [])
    (halpha : ∀ c ∈ name, c.isAlpha = true) :
    readArg (name ++ ':' :: ' ' :: vs) =
      (readValue vs).map fun (v, r) => ((String.ofList name, v), r) := by
  have hcolon : Char.isAlpha ':' = false := by decide
  unfold readArg
  rw [List.takeWhile_append_of_pos halpha, List.dropWhile_append_of_pos halpha]
  simp [hcolon, hne]

/-- Code that reads as one argument, whatever code follows it. -/
def ReadsAsArg (p : String) (a : String × ArgValue) : Prop :=
  ∀ rest, readArg (p.toList ++ rest) = some (a, rest)

theorem readsAsArg_named {pre name v : String} {value : ArgValue}
    (hpre : pre.toList = name.toList ++ [':', ' ']) (hne : name.toList ≠ [])
    (halpha : name.toList.all Char.isAlpha = true)
    (hv : ∀ rest, readValue (v.toList ++ rest) = some (value, rest)) :
    ReadsAsArg (pre ++ v) (name, value) := by
  intro rest
  simp only [String.toList_append, hpre, List.append_assoc, List.cons_append, List.nil_append]
  rw [readArg_named hne (List.all_eq_true.1 halpha), hv]
  simp

theorem readArgs_last {cs : List Char} {a : String × ArgValue} (h : readArg cs = some (a, [])) :
    readArgs cs = some [a] := by
  rw [readArgs]
  split <;> simp_all

theorem readArgs_sep {cs rest : List Char} {a : String × ArgValue}
    (h : readArg cs = some (a, ',' :: ' ' :: rest)) :
    readArgs cs = (readArgs rest).map (a :: ·) := by
  rw [readArgs]
  split <;> simp_all

/-- Pieces that each read as an argument, joined by `, `, read as those arguments. -/
theorem readArgs_intercalate {ps : List String} {as : List (String × ArgValue)}
    (h : List.Forall₂ ReadsAsArg ps as) (hne : ps ≠ []) :
    readArgs (", ".intercalate ps).toList = some as := by
  induction h with
  | nil => exact absurd rfl hne
  | @cons p a ps as hp hrest ih =>
    rcases hrest with _ | @⟨p', a', ps', as', hp', hrest'⟩
    · have hlast := hp []
      rw [List.append_nil] at hlast
      simp [readArgs_last hlast]
    · rw [String.intercalate_cons_cons, String.toList_append, String.toList_append,
        toList_commaSpace, List.append_assoc, List.cons_append, List.cons_append, List.nil_append,
        readArgs_sep (hp _), ih (List.cons_ne_nil p' ps')]
      rfl

/-! ## The header -/

/-- The arguments the show rule is to pass: the title when there is one, the authors when there
are any, and the language. -/
def metadataArgs (m : Metadata) : List (String × ArgValue) :=
  (if m.title = "" then [] else [("title", .str m.title)]) ++
  (if m.authors = [] then [] else [("authors", .array m.authors)]) ++
  [("lang", .str m.lang.code)]

theorem forall₂_showArgs (m : Metadata) :
    List.Forall₂ ReadsAsArg (showArgs m) (metadataArgs m) := by
  have hstr : ∀ s : String, ∀ rest,
      readValue ((quote s).toList ++ rest) = some (.str s, rest) :=
    fun s rest => readValue_of_readString (readString_quote s rest)
  have hlang : List.Forall₂ ReadsAsArg
      ["lang: " ++ quote m.lang.code] [("lang", .str m.lang.code)] :=
    .cons (readsAsArg_named (by decide) (by decide) (by decide) (hstr _)) .nil
  have hauthors : List.Forall₂ ReadsAsArg
      (if m.authors.isEmpty then [] else ["authors: " ++ array (m.authors.map quote)])
      (if m.authors = [] then [] else [("authors", .array m.authors)]) := by
    by_cases h : m.authors = []
    · simp [h]
    · simp only [h, List.isEmpty_iff, if_false]
      exact .cons (readsAsArg_named (by decide) (by decide) (by decide)
        fun rest => readValue_of_readArray (readArray_quoted _ rest)) .nil
  have htitle : List.Forall₂ ReadsAsArg
      (if m.title.isEmpty then [] else ["title: " ++ quote m.title])
      (if m.title = "" then [] else [("title", .str m.title)]) := by
    by_cases h : m.title = ""
    · simp [h]
    · simp only [h, String.isEmpty_iff, if_false]
      exact .cons (readsAsArg_named (by decide) (by decide) (by decide) (hstr _)) .nil
  exact List.rel_append (List.rel_append htitle hauthors) hlang

theorem showArgs_ne_nil (m : Metadata) : showArgs m ≠ [] := by
  simp [showArgs]

/-- A character that is in no piece and not in the separator is not in the pieces joined. -/
theorem not_mem_intercalate {c : Char} {sep : String} (hsep : c ∉ sep.toList)
    {ps : List String} (hps : ∀ p ∈ ps, c ∉ p.toList) :
    c ∉ (sep.intercalate ps).toList := by
  induction ps with
  | nil => simp
  | cons p ps ih =>
    have hrest := ih fun q hq => hps q (List.mem_cons_of_mem p hq)
    rcases ps with _ | ⟨p', ps⟩
    · simpa using hps p
    · rw [String.intercalate_cons_cons]
      simp only [String.toList_append, List.mem_append, not_or]
      exact ⟨⟨hps p (by simp), hsep⟩, hrest⟩

theorem newline_not_mem_array (items : List String) :
    '\n' ∉ (array (items.map quote)).toList := by
  have hquoted : ∀ p ∈ items.map quote, '\n' ∉ p.toList := by
    simp only [List.mem_map]
    rintro p ⟨s, -, rfl⟩
    exact newline_not_mem_quote s
  unfold array
  split
  · rename_i x hx
    have := hquoted x (by simp [hx])
    simp [this]
  · have : '\n' ∉ (", ".intercalate (items.map quote)).toList :=
      not_mem_intercalate (by decide) hquoted
    simp only [String.toList_append, List.mem_append, not_or]
    exact ⟨⟨by decide, this⟩, by decide⟩

theorem newline_not_mem_showArgs (m : Metadata) : ∀ p ∈ showArgs m, '\n' ∉ p.toList := by
  intro p hp
  simp only [showArgs, List.mem_append, List.mem_ite_nil_left, List.mem_singleton] at hp
  rcases hp with (⟨-, rfl⟩ | ⟨-, rfl⟩) | rfl
  · simp [newline_not_mem_escapeStringChars]
  · simp [newline_not_mem_array]
  · simp [newline_not_mem_escapeStringChars]

/-- **The show rule reads back.** Whatever the title and the authors hold, the show rule is one
line, `#show: E.with(ARGS)`, and ARGS reads as the title when there is one, the authors when
there are any, and the language, in that order. -/
theorem showRule_reads_back (t : Definition) (m : Metadata) :
    ∃ args : String, showRule t m = "#show: " ++ t.entry ++ ".with(" ++ args ++ ")" ∧
      '\n' ∉ args.toList ∧ readArgs args.toList = some (metadataArgs m) :=
  ⟨", ".intercalate (showArgs m), rfl,
    not_mem_intercalate (by decide) (newline_not_mem_showArgs m),
    readArgs_intercalate (forall₂_showArgs m) (showArgs_ne_nil m)⟩

/-- How a document's header reads: two lines, `#import "P": E` and `#show: E.with(ARGS)`, each
followed by a blank line, where the string literal P reads as the template's path and ARGS as
the arguments of the metadata. -/
def HeaderReadsBack (t : Definition) (m : Metadata) (body : String) : Prop :=
  ∃ lit args : String,
    assemble t m body =
      ("#import " ++ lit ++ ": " ++ t.entry) ++ "\n\n" ++
        ("#show: " ++ t.entry ++ ".with(" ++ args ++ ")") ++ "\n\n" ++ body ++ "\n" ∧
    '\n' ∉ ("#import " ++ lit ++ ": " ++ t.entry).toList ∧
    '\n' ∉ ("#show: " ++ t.entry ++ ".with(" ++ args ++ ")").toList ∧
    readString lit.toList = some (t.path, []) ∧
    readArgs args.toList = some (metadataArgs m)

/-- **The header reads back**, for every title, every list of authors and either language, when
the template's path holds no quote and no backslash and neither the path nor the entry holds a
line feed. -/
theorem header_reads_back (t : Definition) (m : Metadata) (body : String)
    (hnl : '\n' ∉ t.path.toList) (hq : '"' ∉ t.path.toList) (hb : '\\' ∉ t.path.toList)
    (he : '\n' ∉ t.entry.toList) : HeaderReadsBack t m body := by
  obtain ⟨args, hshow, hargs, hread⟩ := showRule_reads_back t m
  refine ⟨"\"" ++ t.path ++ "\"", args, ?_, ?_, ?_, ?_, hread⟩
  · rw [assemble, ← hshow, importLine, String.ext_iff]
    simp
  · simp [hnl, he]
  · simp [he, hargs]
  · simp [readString, readStringBody_verbatim [] _ hq hb]

theorem builtIn_header_reads_back :
    '\n' ∉ (article "modern-tech").path.toList ∧ '"' ∉ (article "modern-tech").path.toList ∧
      '\\' ∉ (article "modern-tech").path.toList ∧ '\n' ∉ (article "modern-tech").entry.toList ∧
      HeaderReadsBack (article "modern-tech") ⟨"A \"title\"\nin two lines", ["Ada", "B\\C"], .en, none⟩
        "Body" :=
  ⟨by decide, by decide, by decide, by decide,
    header_reads_back _ _ _ (by decide) (by decide) (by decide) (by decide)⟩

/-- A template path with a quote ends the import line's literal early: `#import "a"b": article`
reads the path `a`. -/
theorem quoted_path_ends_import_literal :
    '\n' ∉ ("a\"b" : String).toList ∧ '\n' ∉ ("article" : String).toList ∧
      ¬ HeaderReadsBack ⟨"x", "a\"b", "article"⟩ ⟨"", [], .zh, none⟩ "" := by
  refine ⟨by decide, by decide, ?_⟩
  rintro ⟨lit, args, hasm, -, -, hlit, -⟩
  -- the literal the line holds reads `a` and stops at the quote inside the path
  have hline : readString ("\"a\"b\": article".toList) = some ("a", "b\": article".toList) := by
    decide
  have himport : importLine ⟨"x", "a\"b", "article"⟩ = "#import " ++ "\"a\"b\": article" := by
    decide
  rw [assemble, himport, String.ext_iff] at hasm
  simp only [String.toList_append, List.append_assoc] at hasm
  have hread := congrArg readString (List.append_cancel_left hasm)
  rw [readString_append hline, readString_append hlit] at hread
  simp only [Option.some.injEq, Prod.mk.injEq] at hread
  exact absurd hread.1 (by decide)

end Typeset.Typst
