/-!
Compile requests and responses, and the errors of compiling.

A request names its main Typst text and its assets, byte contents by path, kept in ascending
path order with one entry per path; the assets carry the proof of their order. A response
carries the request's id and either the compiled PDF with the compiler's diagnostics, or an
error text with the diagnostics.
Turning a result into a response and back keeps the diagnostics and gives a failed error
whose message is the error's own text.
-/

namespace Typeset.Compile

/-- Why a compile gave no PDF. -/
inductive Error where
  /-- The compiler could not be created. -/
  | setup (message : String)
  /-- The compiler produced no artifact. -/
  | failed (message : String) (diagnostics : List String)
  /-- The worker was gone before it answered. -/
  | workerTerminated
  deriving BEq, Repr, Inhabited

namespace Error

/-- The text of an error. -/
def message : Error → String
  | .setup m => "Compiler setup failed: " ++ m
  | .failed m _ => m
  | .workerTerminated => "Compile worker terminated"

/-- The diagnostics an error carries; only a failed compile has any. -/
def diagnostics : Error → List String
  | .failed _ d => d
  | _ => []

end Error

/-- A compiled PDF and the compiler's diagnostics. -/
structure Pdf where
  bytes : List UInt8
  diagnostics : List String
  deriving BEq, Repr, Inhabited

/-- Adds an entry to entries in ascending path order; a path already present takes the new
bytes. -/
def insertAsset (path : String) (bytes : List UInt8) :
    List (String × List UInt8) → List (String × List UInt8)
  | [] => [(path, bytes)]
  | (p, b) :: rest =>
    if path = p then (path, bytes) :: rest
    else if path < p then (path, bytes) :: (p, b) :: rest
    else (p, b) :: insertAsset path bytes rest

/-- An entry added is at the path added or at a path already there. -/
theorem path_mem_insertAsset {path : String} {bytes : List UInt8} :
    ∀ {l : List (String × List UInt8)} {e : String × List UInt8}, e ∈ insertAsset path bytes l →
      e.1 = path ∨ ∃ e' ∈ l, e'.1 = e.1
  | [], e, he => by simp_all [insertAsset]
  | (p, b) :: rest, e, he => by
    unfold insertAsset at he
    split at he
    · rcases List.mem_cons.1 he with rfl | he
      · exact .inl rfl
      · exact .inr ⟨e, List.mem_cons_of_mem _ he, rfl⟩
    · split at he
      · rcases List.mem_cons.1 he with rfl | he
        · exact .inl rfl
        · exact .inr ⟨e, he, rfl⟩
      · rcases List.mem_cons.1 he with rfl | he
        · exact .inr ⟨_, List.mem_cons_self, rfl⟩
        · rcases path_mem_insertAsset he with h | ⟨e', he', h⟩
          · exact .inl h
          · exact .inr ⟨e', List.mem_cons_of_mem _ he', h⟩

/-- Adding an entry keeps the paths strictly ascending. -/
theorem ascending_insertAsset (path : String) (bytes : List UInt8) :
    ∀ {l : List (String × List UInt8)}, l.Pairwise (·.1 < ·.1) →
      (insertAsset path bytes l).Pairwise (·.1 < ·.1)
  | [], _ => List.pairwise_singleton _ _
  | (p, b) :: rest, h => by
    rw [List.pairwise_cons] at h
    unfold insertAsset
    split
    · -- the bytes are replaced in place
      rename_i heq
      subst heq
      exact List.pairwise_cons.2 h
    · split
      · -- the path goes first
        rename_i hlt
        refine List.pairwise_cons.2 ⟨fun e he => ?_, List.pairwise_cons.2 h⟩
        rcases List.mem_cons.1 he with rfl | he
        · exact hlt
        · exact String.lt_trans hlt (h.1 e he)
      · -- the path goes after `p`
        rename_i hne hlt
        have hp : p < path :=
          String.not_le.1 fun hle => hne (String.le_antisymm hle (String.not_lt.1 hlt))
        refine List.pairwise_cons.2 ⟨fun e he => ?_, ascending_insertAsset path bytes h.2⟩
        rcases path_mem_insertAsset he with he | ⟨e', he', hk⟩
        · exact he ▸ hp
        · exact hk ▸ h.1 e' he'

/-- Assets by path: byte contents in ascending path order, one entry per path. -/
structure Assets where
  entries : List (String × List UInt8)
  ascending : entries.Pairwise (·.1 < ·.1)

/-- No assets. -/
def Assets.empty : Assets := ⟨[], List.Pairwise.nil⟩

instance : BEq Assets := ⟨fun a b => a.entries == b.entries⟩

instance : Repr Assets := ⟨fun a n => reprPrec a.entries n⟩

instance : Inhabited Assets := ⟨Assets.empty⟩

/-- Adds an asset; a path already present takes the new bytes. -/
def Assets.insert (path : String) (bytes : List UInt8) (a : Assets) : Assets :=
  ⟨insertAsset path bytes a.entries, ascending_insertAsset path bytes a.ascending⟩

/-- Assets from entries in any order; of two entries with one path the later wins. -/
def Assets.ofList (entries : List (String × List UInt8)) : Assets :=
  entries.foldl (fun acc (p, b) => acc.insert p b) Assets.empty

/-- A compile request. -/
structure Request where
  id : String
  main : String
  assets : Assets := Assets.empty
  deriving BEq, Repr, Inhabited

/-- What a response says of its request. -/
inductive Outcome where
  | ok (pdf : List UInt8) (diagnostics : List String)
  | err (error : String) (diagnostics : List String)
  deriving BEq, Repr, Inhabited

/-- A response to the request with the same id. -/
structure Response where
  id : String
  result : Outcome
  deriving BEq, Repr, Inhabited

/-- The outcome that carries a result. -/
def Outcome.ofResult : Except Error Pdf → Outcome
  | .ok p => .ok p.bytes p.diagnostics
  | .error e => .err e.message e.diagnostics

/-- The result an outcome carries; an error arrives as a failed compile with its text. -/
def Outcome.toResult : Outcome → Except Error Pdf
  | .ok p d => .ok ⟨p, d⟩
  | .err e d => .error (.failed e d)

end Typeset.Compile
