import Typeset.Compile.Wire
import Typeset.Text.Properties

/-!
The compile worker, with the scripted compiler that stands in for Typst.

The worker keeps at most one compiler loaded. A request whose main text needs CJK fonts needs a
compiler created with them; a loaded compiler is reused when it has them or the request does not
need them, and otherwise a new one is created for the request's need. Every new compiler first
receives every template source, in order. A failed creation leaves no compiler loaded.

The scripted compiler logs every source (`source <path>`), asset (`asset <path> <size>`) and
compile (`compile <path> <text>`). A compiled text that starts with `fail:` gives no artifact,
and its diagnostics are the rest split at `|`, empty pieces dropped; any other text compiles to
its own bytes with the diagnostic `warning: fake`. Its factory counts creation attempts from 0
and fails those it is told to.
-/

namespace Typeset.Compile

open Text

/-- A template source that every new compiler receives. -/
structure Source where
  path : String
  text : String
  deriving BEq, Repr, Inhabited

/-- A loaded scripted compiler: whether it has CJK fonts, and its sources, newest first. -/
structure Loaded where
  cjk : Bool
  sources : List (String × String)
  deriving BEq, Repr, Inhabited

/-- The scripted factory and the logs every scripted compiler shares. -/
structure Script where
  /-- Creation attempts that fail, with their setup message. -/
  failures : List (Nat × String)
  attempts : Nat := 0
  /-- The CJK flag of every compiler created, in order. -/
  created : List Bool := []
  /-- Every call made on a compiler, in order. -/
  calls : List String := []
  deriving BEq, Repr, Inhabited

/-- The path the main text of a request is compiled from. -/
def mainPath : String := "/main.typ"

/-- The message of a compile that failed without diagnostics. -/
def noDiagnostics : String := "Typst compilation failed (no diagnostics)"

/-- The worker: its templates, its loaded compiler and the scripted world. -/
structure Worker where
  templates : List Source
  loaded : Option Loaded := none
  script : Script
  deriving BEq, Repr, Inhabited

namespace Script

/-- Logs a call. -/
def log (s : Script) (entry : String) : Script := { s with calls := s.calls ++ [entry] }

/-- Adds a source to a compiler, logging it. -/
def addSource (s : Script) (c : Loaded) (path text : String) : Script × Loaded :=
  (s.log ("source " ++ path), { c with sources := (path, text) :: c.sources })

/-- Adds an asset to a compiler, logging it. -/
def addAsset (s : Script) (path : String) (bytes : List UInt8) : Script :=
  s.log ("asset " ++ path ++ " " ++ toString bytes.length)

/-- A creation attempt for the given need: a setup error when the attempt is one that fails,
else a new compiler holding every template source. -/
def create (s : Script) (templates : List Source) (cjk : Bool) :
    Except String Loaded × Script :=
  let n := s.attempts
  let s := { s with attempts := n + 1 }
  match s.failures.lookup n with
  | some msg => (.error msg, s)
  | none =>
    let s := { s with created := s.created ++ [cjk] }
    let (s, c) := templates.foldl (fun (s, c) t => s.addSource c t.path t.text) (s, ⟨cjk, []⟩)
    (.ok c, s)

/-- What compiling a text gives: an artifact or none, and the diagnostics. -/
def compileText (text : String) : Option (List UInt8) × List String :=
  match text.toList with
  | 'f' :: 'a' :: 'i' :: 'l' :: ':' :: rest =>
    (none, ((rest.splitOn '|').filter (!·.isEmpty)).map String.ofList)
  | _ => (some text.toUTF8.toList, ["warning: fake"])

end Script

namespace Worker

/-- Creates a compiler for a need; nothing is loaded afterwards until a request puts it back. -/
def load (w : Worker) (needsCjk : Bool) : Except Error Loaded × Worker :=
  let (r, s) := w.script.create w.templates needsCjk
  match r with
  | .ok c => (.ok c, { w with loaded := none, script := s })
  | .error m => (.error (.setup m), { w with loaded := none, script := s })

/-- The compiler for a request's need, taking the loaded one out: it is reused when it fits,
and otherwise a new one is created. -/
def compilerFor (w : Worker) (needsCjk : Bool) : Except Error Loaded × Worker :=
  match w.loaded with
  | some c =>
    if c.cjk || !needsCjk then (.ok c, { w with loaded := none }) else w.load needsCjk
  | none => w.load needsCjk

/-- Runs a request: the compiler for its need gets the main text and the assets, in path order,
and compiles the main text; the compiler stays loaded. -/
def run (w : Worker) (r : Request) : Except Error Pdf × Worker :=
  match w.compilerFor (containsCjk r.main) with
  | (.error e, w) => (.error e, w)
  | (.ok c, w) =>
    let (s, c) := w.script.addSource c mainPath r.main
    let s := r.assets.entries.foldl (fun s (p, b) => s.addAsset p b) s
    let text := (c.sources.lookup mainPath).getD ""
    let s := s.log ("compile " ++ mainPath ++ " " ++ text)
    let w := { w with loaded := some c, script := s }
    match Script.compileText text with
    | (some pdf, d) => (.ok ⟨pdf, d⟩, w)
    | (none, d) => (.error (.failed (if d.isEmpty then noDiagnostics else "\n".intercalate d) d), w)

/-- Processes a request into the response for its id. -/
def process (w : Worker) (r : Request) : Response × Worker :=
  let (res, w) := w.run r
  (⟨r.id, Outcome.ofResult res⟩, w)

end Worker

end Typeset.Compile
