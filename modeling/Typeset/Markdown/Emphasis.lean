import Typeset.Markdown.Span

/-!
Emphasis, strong emphasis and strikethrough from runs of `*`, `_` and `~`.

Runs are taken left to right as closers; each closer looks back for the nearest opener of the
same character that may pair with it. When one is found, what lies between becomes the content
of a new pair (runs inside it are left over), two markers of each side are used when both
have two or more (one otherwise), and what is left of either run stays for later pairs. A pair
is refused when one of its runs can both open and close and the sizes sum to a multiple of
three while the closer's size is not; tildes pair only in runs of two of equal size. Runs
left over are plain text, read as source text together with the data beside them.
-/

namespace Typeset.Markdown

/-- Inline content on its way to spans: a run of markers, source text, a finished span, or a
pair of runs that formed, with the markers it used of each run and its content. -/
inductive Item where
  | run (marker : Char) (size : Nat) (opens closes : Bool)
  | data (value : List Char)
  | span (s : Span)
  | pair (marker : Char) (take : Nat) (content : List Item)
  /-- A tab that starts a line inside it, with the spaces and tabs after it: one of them stays
  when text follows, the last of them or else the tab. -/
  | cut (spaces : List Char)
  deriving Repr, Inhabited

/-- A measure of items still to read: one per item and one per marker. -/
def itemWeight : List Item → Nat
  | [] => 0
  | .run _ n _ _ :: rest => n + 1 + itemWeight rest
  | .data _ :: rest => 1 + itemWeight rest
  | .span _ :: rest => 1 + itemWeight rest
  | .pair _ _ _ :: rest => 1 + itemWeight rest
  | .cut _ :: rest => 1 + itemWeight rest

/-- Whether an opener of `openSize` (which `openCloses` or not) may pair with a closer of
`closeSize` (which `closeOpens` or not), both of `marker`. -/
def mayPair (marker : Char) (openSize closeSize : Nat) (openCloses closeOpens : Bool) : Bool :=
  !((openCloses || closeOpens) && closeSize % 3 != 0 && (openSize + closeSize) % 3 == 0) &&
    (marker != '~' || (openSize == closeSize && closeSize == 2))

/-- The nearest opener in `done` (nearest first) for a closer: the items between it and the
closer (in reading order), its size and flags, and the items before it. -/
def findOpener (marker : Char) (size : Nat) (closeOpens : Bool) :
    List Item → List Item → Option (List Item × (Nat × Bool × Bool) × List Item)
  | _, [] => none
  | between, it :: rest =>
    match it with
    | .run m n o c =>
      if o && m == marker && mayPair marker n size c closeOpens then some (between, (n, o, c), rest)
      else findOpener marker size closeOpens (it :: between) rest
    | _ => findOpener marker size closeOpens (it :: between) rest

/-- How many markers a pair uses of each run. -/
def pairTake (openSize closeSize : Nat) : Nat := if openSize > 1 && closeSize > 1 then 2 else 1

theorem pairTake_pos (a b : Nat) : 0 < pairTake a b := by
  unfold pairTake; split <;> omega

/-- The span a pair makes of its content. -/
def pairSpan (marker : Char) (take : Nat) (content : List Span) : Span :=
  if marker == '~' then .delete content
  else if take == 1 then .emphasis content
  else .strong content

/-- Resolve runs: `done` holds the items read (nearest first), `rest` those still to read. The
result is in reading order, with the runs that found no partner still in it. -/
def resolveRuns (done : List Item) : List Item → List Item
  | [] => done.reverse
  | .run m n o c :: rest =>
    if c then
      match findOpener m n o [] done with
      | some (between, (n', o', c'), before) =>
        let take := pairTake n' n
        have := pairTake_pos n' n
        let node := Item.pair m take between
        let done' := node :: (if n' > take then .run m (n' - take) o' c' :: before else before)
        if n > take then resolveRuns done' (.run m (n - take) o c :: rest)
        else resolveRuns done' rest
      | none => resolveRuns (.run m n o c :: done) rest
    else resolveRuns (.run m n o c :: done) rest
  | .data cs :: rest => resolveRuns (.data cs :: done) rest
  | .span sp :: rest => resolveRuns (.span sp :: done) rest
  | .pair m k content :: rest => resolveRuns (.pair m k content :: done) rest
  | .cut ws :: rest => resolveRuns (.cut ws :: done) rest
  termination_by rest => itemWeight rest
  decreasing_by all_goals (simp only [itemWeight]; omega)

end Typeset.Markdown
