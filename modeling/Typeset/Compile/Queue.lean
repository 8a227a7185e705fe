import Typeset.Compile.Worker
import Typeset.Template.Basic
import Typeset.Template.Bundled

/-!
The compile queue: callers submit requests, and one worker processes them one at a time in the
order they were submitted. Each request's response goes to the handle of that request.

Since the worker takes requests strictly in order and nothing else changes its state, the queue
is the fold of the worker over the submitted requests: a request can be processed as soon as it
is submitted, and its response kept under its id until a caller waits for it. A compile step is
a submit followed at once by a wait. Dropping the queue lets the worker finish what was
submitted; handles still waiting can be waited on afterwards.
-/

namespace Typeset.Compile

/-- One step of a script that drives a queue. -/
inductive Step where
  /-- Compile a main text with assets and wait for the result. -/
  | compile (main : String) (assets : Assets)
  /-- Submit a request under a caller-chosen id. -/
  | submit (request : Request)
  /-- Wait for the result of a submitted request. -/
  | wait (id : String)
  /-- Wait for the response to a submitted request. -/
  | waitResponse (id : String)
  /-- Drop the queue. -/
  | drop
  /-- A step of an unknown kind. -/
  | unknown (name : String)
  /-- A step that could not be read; it changes nothing. -/
  | unreadable
  deriving BEq, Repr, Inhabited

/-- Why a step was refused. -/
inductive StepError where
  | noPending (id : String)
  | dropped
  | unknownStep (name : String)
  deriving BEq, Repr, Inhabited

/-- The text of a refused step. -/
def StepError.message : StepError → String
  | .noPending id => "no pending request " ++ id
  | .dropped => "queue dropped"
  | .unknownStep name => "unknown step " ++ name

/-- What a step answers. -/
inductive Answer where
  /-- A compile's result, with the logs so far. -/
  | compiled (result : Except Error Pdf) (created : List Bool) (calls : List String)
  | submitted (id : String)
  | waited (result : Except Error Pdf)
  | response (r : Response)
  /-- The queue is dropped, with the logs so far. -/
  | dropped (created : List Bool) (calls : List String)
  | refused (e : StepError)
  | unreadable
  deriving Inhabited

/-- A queue: its worker, the responses not yet waited for by id (newest first), and whether it
still takes requests. -/
structure Queue where
  worker : Worker
  pending : List (String × Response) := []
  isOpen : Bool := true
  deriving Inhabited

namespace Queue

/-- A queue whose compilers get the given template sources. -/
def create (failures : List (Nat × String)) (templates : List Source) : Queue :=
  { worker := { templates, script := { failures } } }

/-- The template sources of a registry: the bundled source of each template that has one, at
the template's path under the root. -/
def registrySources (r : Template.Registry) : List Source :=
  r.templates.filterMap fun t => (Template.bundledSource? t.id).map fun text => ⟨"/" ++ t.path, text⟩

/-- A queue whose compilers get the bundled sources of a registry's templates. -/
def withRegistry (failures : List (Nat × String)) (r : Template.Registry) : Queue :=
  create failures (registrySources r)

/-- Keeps a response under its id, in place of an older one with that id. -/
def keep (pending : List (String × Response)) (r : Response) : List (String × Response) :=
  (r.id, r) :: pending.filter (·.1 != r.id)

/-- The pending response of an id, taken out. -/
def take? (pending : List (String × Response)) (id : String) :
    Option (Response × List (String × Response)) :=
  match pending.lookup id with
  | some r => some (r, pending.filter (·.1 != id))
  | none => none

/-- Answers one step. -/
def step (q : Queue) : Step → Answer × Queue
  | .compile main assets =>
    if q.isOpen then
      let (resp, w) := q.worker.process ⟨"", main, assets⟩
      (.compiled resp.result.toResult w.script.created w.script.calls, { q with worker := w })
    else (.refused .dropped, q)
  | .submit r =>
    if q.isOpen then
      let (resp, w) := q.worker.process r
      (.submitted r.id, { q with worker := w, pending := keep q.pending resp })
    else (.refused .dropped, q)
  | .wait id =>
    match take? q.pending id with
    | some (r, rest) => (.waited r.result.toResult, { q with pending := rest })
    | none => (.refused (.noPending id), q)
  | .waitResponse id =>
    match take? q.pending id with
    | some (r, rest) => (.response r, { q with pending := rest })
    | none => (.refused (.noPending id), q)
  | .drop =>
    if q.isOpen then (.dropped q.worker.script.created q.worker.script.calls, { q with isOpen := false })
    else (.refused .dropped, q)
  | .unknown name => (.refused (.unknownStep name), q)
  | .unreadable => (.unreadable, q)

/-- Answers the steps in order. -/
def run (q : Queue) : List Step → List Answer × Queue
  | [] => ([], q)
  | s :: ss =>
    let (a, q) := q.step s
    let (as, q) := q.run ss
    (a :: as, q)

end Queue

end Typeset.Compile
