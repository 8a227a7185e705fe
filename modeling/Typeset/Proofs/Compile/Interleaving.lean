import Mathlib.Logic.Relation
import Typeset.Proofs.Compile.Lifecycle

/-!
# The queue as two threads

The compile queue runs on two threads. The caller runs a script: it sends jobs on the job
channel, blocks in a compile until that job's reply arrives, waits on its handles in any order
(also after the queue is dropped), and drops the queue, which closes the job channel and joins
the worker. The worker takes the jobs off the channel one at a time, processes each and sends
the response on the job's own reply channel; it exits once the channel is closed and empty.
`Threads.Next` lets either thread move whenever it can.

Every interleaving answers as the sequential `Queue.run` does (`interleavings_answer_as_fold`).
The worker has taken a prefix of the submitted requests, in submission order, and its state is
the fold of `Worker.process` over them; a handle listens on the reply channel of its own
request; and each answer the caller gives, with the logs it reads after a compile and a drop,
is the answer `Queue.run` gives at the same step. No run gets stuck before the caller is done,
and every run ends.
-/

namespace Typeset.Compile

/-- The steps that go through the queue, refused once it is dropped. -/
def Step.usesQueue : Step → Bool
  | .compile .. | .submit _ | .drop => true
  | _ => false

/-- Where the caller's thread stands. -/
inductive Caller where
  /-- Ready to run its next step. -/
  | ready
  /-- Blocked in a compile until a reply arrives on reply channel `channel`. -/
  | compiling (channel : Nat)
  /-- Blocked in a drop step until the worker exits. -/
  | dropping
  /-- At the end of the script, blocked dropping the queue until the worker exits. -/
  | closing
  /-- Finished. -/
  | done
  deriving DecidableEq, Repr

/-- Whether the caller has come to the end of its script. -/
def Caller.ended : Caller → Bool
  | .closing | .done => true
  | _ => false

/-- How far the caller is from done, beyond its script: a compile or a drop blocked in the
middle of its step weighs more than the caller ready for the next one, the step itself being
paid for by the script's weight. -/
def Caller.weight : Caller → Nat
  | .ready => 3
  | .compiling _ => 4
  | .dropping => 4
  | .closing => 2
  | .done => 0

/-- The two threads and the channels between them. Reply channels are named by number, in the
order they are made. `submitted` and `processed` are history: no move reads them. -/
structure Threads where
  /-- The steps the caller has yet to run. -/
  script : List Step
  /-- What the caller has answered so far. -/
  answers : List Answer
  caller : Caller
  /-- The job channel, oldest first: each job's reply channel and request. -/
  jobs : List (Nat × Request)
  /-- The reply channels that hold their response. -/
  replies : List (Nat × Response)
  /-- The caller's handles by id, each with the reply channel it listens on. -/
  handles : List (String × Nat)
  /-- How many reply channels have been made. -/
  channels : Nat
  /-- The queue still holds the job channel's sender. -/
  senderOpen : Bool
  /-- The worker thread has not exited. -/
  workerLive : Bool
  worker : Worker
  /-- Every request sent on the job channel, in order. -/
  submitted : List Request
  /-- Every request the worker has taken, in order. -/
  processed : List Request

namespace Threads

/-- Both threads about to start on a worker and a script. -/
def start (w : Worker) (script : List Step) : Threads where
  script := script
  answers := []
  caller := .ready
  jobs := []
  replies := []
  handles := []
  channels := 0
  senderOpen := true
  workerLive := true
  worker := w
  submitted := []
  processed := []

/-- One move of either thread. -/
inductive Next : Threads → Threads → Prop where
  /-- The caller sends a compile's job and blocks for its reply. -/
  | compile {s : Threads} {main : String} {assets : Assets} {rest : List Step}
      (hc : s.caller = .ready) (hs : s.script = .compile main assets :: rest)
      (ho : s.senderOpen = true) :
      Next s
        { s with
          script := rest, caller := .compiling s.channels,
          jobs := s.jobs ++ [(s.channels, ⟨"", main, assets⟩)], channels := s.channels + 1,
          submitted := s.submitted ++ [⟨"", main, assets⟩] }
  /-- The caller sends a request's job and keeps its handle, in place of one with that id. -/
  | submit {s : Threads} {r : Request} {rest : List Step}
      (hc : s.caller = .ready) (hs : s.script = .submit r :: rest) (ho : s.senderOpen = true) :
      Next s
        { s with
          script := rest, answers := s.answers ++ [.submitted r.id],
          jobs := s.jobs ++ [(s.channels, r)],
          handles := (r.id, s.channels) :: s.handles.filter (·.1 != r.id),
          channels := s.channels + 1, submitted := s.submitted ++ [r] }
  /-- A step that needs the queue, once the queue is dropped. -/
  | refuse {s : Threads} {st : Step} {rest : List Step}
      (hc : s.caller = .ready) (hs : s.script = st :: rest) (hu : st.usesQueue = true)
      (ho : s.senderOpen = false) :
      Next s { s with script := rest, answers := s.answers ++ [.refused .dropped] }
  /-- The caller waits on a handle whose reply has arrived. -/
  | wait {s : Threads} {id : String} {t : Nat} {resp : Response} {rest : List Step}
      (hc : s.caller = .ready) (hs : s.script = .wait id :: rest)
      (hh : s.handles.lookup id = some t) (hr : s.replies.lookup t = some resp) :
      Next s
        { s with
          script := rest, answers := s.answers ++ [.waited resp.result.toResult],
          handles := s.handles.filter (·.1 != id) }
  /-- The caller waits for the whole response on a handle whose reply has arrived. -/
  | waitResponse {s : Threads} {id : String} {t : Nat} {resp : Response} {rest : List Step}
      (hc : s.caller = .ready) (hs : s.script = .waitResponse id :: rest)
      (hh : s.handles.lookup id = some t) (hr : s.replies.lookup t = some resp) :
      Next s
        { s with
          script := rest, answers := s.answers ++ [.response resp],
          handles := s.handles.filter (·.1 != id) }
  /-- The caller waits on an id it holds no handle for. -/
  | noHandle {s : Threads} {st : Step} {id : String} {rest : List Step}
      (hc : s.caller = .ready) (hs : s.script = st :: rest)
      (hw : st = .wait id ∨ st = .waitResponse id) (hh : s.handles.lookup id = none) :
      Next s { s with script := rest, answers := s.answers ++ [.refused (.noPending id)] }
  /-- The caller drops the queue: the job channel closes and the caller joins the worker. -/
  | drop {s : Threads} {rest : List Step}
      (hc : s.caller = .ready) (hs : s.script = .drop :: rest) (ho : s.senderOpen = true) :
      Next s { s with script := rest, caller := .dropping, senderOpen := false }
  | unknown {s : Threads} {name : String} {rest : List Step}
      (hc : s.caller = .ready) (hs : s.script = .unknown name :: rest) :
      Next s { s with script := rest, answers := s.answers ++ [.refused (.unknownStep name)] }
  | unreadable {s : Threads} {rest : List Step}
      (hc : s.caller = .ready) (hs : s.script = .unreadable :: rest) :
      Next s { s with script := rest, answers := s.answers ++ [.unreadable] }
  /-- At the end of the script the caller drops the queue and joins the worker. -/
  | finish {s : Threads} (hc : s.caller = .ready) (hs : s.script = []) (ho : s.senderOpen = true) :
      Next s { s with caller := .closing, senderOpen := false }
  /-- At the end of a script that dropped the queue already, the caller is done. -/
  | finishDropped {s : Threads}
      (hc : s.caller = .ready) (hs : s.script = []) (ho : s.senderOpen = false) :
      Next s { s with caller := .done }
  /-- The compile's reply has arrived: the caller answers it with the logs so far. -/
  | compiled {s : Threads} {t : Nat} {resp : Response}
      (hc : s.caller = .compiling t) (hr : s.replies.lookup t = some resp) :
      Next s
        { s with
          caller := .ready,
          answers := s.answers ++
            [.compiled resp.result.toResult s.worker.script.created s.worker.script.calls] }
  /-- The worker has exited: the drop step returns with the logs. -/
  | joined {s : Threads} (hc : s.caller = .dropping) (hl : s.workerLive = false) :
      Next s
        { s with
          caller := .ready,
          answers := s.answers ++ [.dropped s.worker.script.created s.worker.script.calls] }
  /-- The worker has exited: the final drop returns. -/
  | joinedAtEnd {s : Threads} (hc : s.caller = .closing) (hl : s.workerLive = false) :
      Next s { s with caller := .done }
  /-- The worker takes the oldest job, processes it and sends the response on its reply
  channel. -/
  | work {s : Threads} {t : Nat} {r : Request} {jobs : List (Nat × Request)}
      (hl : s.workerLive = true) (hj : s.jobs = (t, r) :: jobs) :
      Next s
        { s with
          jobs := jobs, worker := (s.worker.process r).2,
          replies := (t, (s.worker.process r).1) :: s.replies, processed := s.processed ++ [r] }
  /-- The job channel is closed and empty: the worker exits. -/
  | exit {s : Threads} (hl : s.workerLive = true) (hj : s.jobs = []) (ho : s.senderOpen = false) :
      Next s { s with workerLive := false }

/-- The states some interleaving reaches from the start. -/
def Reaches (w : Worker) (script : List Step) (s : Threads) : Prop :=
  Relation.ReflTransGen Next (start w script) s

end Threads

/-! ## The sequential queue, one step at a time -/

namespace Queue

theorem run_append (q : Queue) (l l' : List Step) :
    q.run (l ++ l') = ((q.run l).1 ++ ((q.run l).2.run l').1, ((q.run l).2.run l').2) := by
  induction l generalizing q with
  | nil => rfl
  | cons st l ih => simp [run, ih]

theorem run_concat (q : Queue) (l : List Step) (st : Step) :
    q.run (l ++ [st]) = ((q.run l).1 ++ [((q.run l).2.step st).1], ((q.run l).2.step st).2) := by
  rw [run_append]
  rfl

variable {q : Queue}

theorem step_compile (h : q.isOpen = true) (main : String) (assets : Assets) :
    q.step (.compile main assets) =
      (.compiled (q.worker.process ⟨"", main, assets⟩).1.result.toResult
        (q.worker.process ⟨"", main, assets⟩).2.script.created
        (q.worker.process ⟨"", main, assets⟩).2.script.calls,
       { q with worker := (q.worker.process ⟨"", main, assets⟩).2 }) := by
  simp [step, h]

theorem step_submit (h : q.isOpen = true) (r : Request) :
    q.step (.submit r) =
      (.submitted r.id,
        { q with
          worker := (q.worker.process r).2, pending := keep q.pending (q.worker.process r).1 }) := by
  simp [step, h]

theorem step_drop (h : q.isOpen = true) :
    q.step .drop = (.dropped q.worker.script.created q.worker.script.calls, { q with isOpen := false }) := by
  simp [step, h]

theorem step_of_closed (h : q.isOpen = false) {st : Step} (hu : st.usesQueue = true) :
    q.step st = (.refused .dropped, q) := by
  cases st <;> simp_all [step, Step.usesQueue]

theorem step_wait {id : String} {r : Response} (h : q.pending.lookup id = some r) :
    q.step (.wait id) = (.waited r.result.toResult, { q with pending := q.pending.filter (·.1 != id) }) := by
  simp [step, take?, h]

theorem step_waitResponse {id : String} {r : Response} (h : q.pending.lookup id = some r) :
    q.step (.waitResponse id) = (.response r, { q with pending := q.pending.filter (·.1 != id) }) := by
  simp [step, take?, h]

theorem step_of_no_pending {id : String} (h : q.pending.lookup id = none) {st : Step}
    (hw : st = .wait id ∨ st = .waitResponse id) : q.step st = (.refused (.noPending id), q) := by
  rcases hw with rfl | rfl <;> simp [step, take?, h]

end Queue

/-! ## The fold of the worker -/

namespace Worker

@[simp] theorem length_processAll (w : Worker) (rs : List Request) :
    (w.processAll rs).1.length = rs.length := by
  induction rs generalizing w with
  | nil => rfl
  | cons r rs ih => simp [processAll, ih]

theorem processAll_concat (w : Worker) (rs : List Request) (r : Request) :
    w.processAll (rs ++ [r]) =
      ((w.processAll rs).1 ++ [((w.processAll rs).2.process r).1],
        ((w.processAll rs).2.process r).2) := by
  rw [processAll_append]
  rfl

/-- Later requests leave the responses to earlier ones as they were. -/
theorem getElem?_processAll_append (w : Worker) {rs : List Request} (rs' : List Request) {t : Nat}
    (ht : t < rs.length) : (w.processAll (rs ++ rs')).1[t]? = (w.processAll rs).1[t]? := by
  rw [processAll_append, List.getElem?_append_left (by simpa using ht)]

/-- Each response carries the id of its request. -/
theorem map_id_processAll (w : Worker) (rs : List Request) :
    (w.processAll rs).1.map Response.id = rs.map Request.id := by
  induction rs generalizing w with
  | nil => rfl
  | cons r rs ih => simp [processAll, process, ih]

theorem id_of_getElem?_processAll {w : Worker} {rs : List Request} {t : Nat} {resp : Response}
    (h : (w.processAll rs).1[t]? = some resp) : ∃ r, rs[t]? = some r ∧ resp.id = r.id := by
  have hids := congrArg (·[t]?) (map_id_processAll w rs)
  simp only [List.getElem?_map, h, Option.map_some] at hids
  obtain ⟨r, hr, hid⟩ := Option.map_eq_some_iff.1 hids.symm
  exact ⟨r, hr, hid.symm⟩

end Worker

namespace Threads

/-! ## What the handles stand for -/

/-- Under each handle's id, the response `resps` holds for the request of its reply channel. -/
def pendingOf (resps : List Response) (handles : List (String × Nat)) : List (String × Response) :=
  handles.map fun h => (h.1, resps[h.2]?.getD default)

variable {resps : List Response} {handles : List (String × Nat)}

theorem lookup_pendingOf (id : String) :
    (pendingOf resps handles).lookup id = (handles.lookup id).map fun t => resps[t]?.getD default := by
  induction handles with
  | nil => rfl
  | cons h handles ih =>
    obtain ⟨k, t⟩ := h
    simp only [pendingOf, List.map_cons, List.lookup_cons] at ih ⊢
    cases id == k <;> simp [ih]

theorem filter_pendingOf (id : String) :
    (pendingOf resps handles).filter (·.1 != id) = pendingOf resps (handles.filter (·.1 != id)) := by
  simp [pendingOf, List.filter_map, Function.comp_def]

/-- Responses added after every handle's request leave what the handles stand for alone. -/
theorem pendingOf_append (more : List Response) (h : ∀ x ∈ handles, x.2 < resps.length) :
    pendingOf (resps ++ more) handles = pendingOf resps handles := by
  refine List.map_congr_left fun x hx => ?_
  rw [List.getElem?_append_left (h x hx)]

/-! ## The worker's side: a prefix of the submitted requests, folded -/

variable (w₀ : Worker)

/-- What the worker's side keeps, against the fold of the starting worker `w₀`. -/
structure Books (s : Threads) : Prop where
  /-- The worker has taken a prefix of the submitted requests; the rest wait on the channel. -/
  history : s.processed ++ s.jobs.map Prod.snd = s.submitted
  /-- The worker is the fold over the requests it has taken. -/
  worker : s.worker = (w₀.processAll s.processed).2
  /-- The waiting jobs reply on the channels numbered on from the taken ones. -/
  queued : s.jobs.map Prod.fst = List.range' s.processed.length s.jobs.length
  /-- Reply channel `t` holds the response to the `t`-th request once it is taken. -/
  replies : ∀ t, s.replies.lookup t = (w₀.processAll s.processed).1[t]?
  /-- Reply channel `t` is made for the `t`-th request. -/
  channels : s.channels = s.submitted.length
  /-- Each handle listens on the reply channel of a request with its id. -/
  handles : ∀ id t, (id, t) ∈ s.handles → ∃ r, s.submitted[t]? = some r ∧ r.id = id

variable {w₀}
variable {s s' : Threads}

theorem books_start (script : List Step) : Books w₀ (start w₀ script) where
  history := rfl
  worker := rfl
  queued := rfl
  replies _ := rfl
  channels := rfl
  handles _ _ h := nomatch h

/-- A move that leaves the worker's side alone and only forgets handles keeps the books. -/
theorem Books.frame (h : Books w₀ s) (hj : s'.jobs = s.jobs) (hp : s'.processed = s.processed)
    (hs : s'.submitted = s.submitted) (hr : s'.replies = s.replies) (hw : s'.worker = s.worker)
    (hc : s'.channels = s.channels) (hh : ∀ x ∈ s'.handles, x ∈ s.handles) : Books w₀ s' where
  history := by rw [hj, hp, hs]; exact h.history
  worker := by rw [hw, hp]; exact h.worker
  queued := by rw [hj, hp]; exact h.queued
  replies := by rw [hr, hp]; exact h.replies
  channels := by rw [hc, hs]; exact h.channels
  handles id t ht := hs ▸ h.handles id t (hh _ ht)

theorem Books.length_submitted (h : Books w₀ s) :
    s.submitted.length = s.processed.length + s.jobs.length := by
  rw [← h.history, List.length_append, List.length_map]

theorem Books.lt_of_handle (h : Books w₀ s) {id : String} {t : Nat} (ht : (id, t) ∈ s.handles) :
    t < s.submitted.length := by
  obtain ⟨r, hr, -⟩ := h.handles id t ht
  exact (List.getElem?_eq_some_iff.1 hr).1

/-- Sending a job on a new reply channel, with at most a handle for it, keeps the books. -/
theorem Books.send {r : Request} (h : Books w₀ s) (hj : s'.jobs = s.jobs ++ [(s.channels, r)])
    (hp : s'.processed = s.processed) (hs : s'.submitted = s.submitted ++ [r])
    (hr : s'.replies = s.replies) (hw : s'.worker = s.worker) (hc : s'.channels = s.channels + 1)
    (hh : ∀ id t, (id, t) ∈ s'.handles → (id, t) ∈ s.handles ∨ id = r.id ∧ t = s.channels) :
    Books w₀ s' where
  history := by rw [hj, hp, hs, List.map_append, ← List.append_assoc, h.history]; rfl
  worker := by rw [hw, hp]; exact h.worker
  queued := by
    have hlen := h.length_submitted
    rw [hj, hp, List.map_append, h.queued, List.length_append, List.length_singleton,
      List.range'_concat, h.channels, hlen]
    simp
  replies := by rw [hr, hp]; exact h.replies
  channels := by rw [hc, hs, h.channels, List.length_append, List.length_singleton]
  handles id t ht := by
    rw [hs]
    rcases hh id t ht with hold | ⟨rfl, rfl⟩
    · obtain ⟨r', hr', hid⟩ := h.handles id t hold
      exact ⟨r', by rw [List.getElem?_append_left (List.getElem?_eq_some_iff.1 hr').1, hr'], hid⟩
    · exact ⟨r, by rw [h.channels, List.getElem?_concat_length], rfl⟩

/-- The worker taking the oldest job and replying on its channel keeps the books. -/
theorem Books.work {t : Nat} {r : Request} {jobs : List (Nat × Request)} (h : Books w₀ s)
    (hj : s.jobs = (t, r) :: jobs) (hj' : s'.jobs = jobs) (hp : s'.processed = s.processed ++ [r])
    (hs : s'.submitted = s.submitted) (hr : s'.replies = (t, (s.worker.process r).1) :: s.replies)
    (hw : s'.worker = (s.worker.process r).2) (hc : s'.channels = s.channels)
    (hh : s'.handles = s.handles) : Books w₀ s' := by
  -- the oldest job replies on the channel numbered by how many jobs went before it
  have hq := h.queued
  rw [hj, List.map_cons, List.length_cons, List.range'_succ] at hq
  obtain ⟨rfl, hrest⟩ := List.cons.inj hq
  have hfold := Worker.processAll_concat w₀ s.processed r
  rw [← h.worker] at hfold
  refine ⟨?_, ?_, ?_, ?_, ?_, ?_⟩
  · rw [hj', hp, hs, ← h.history, hj, List.map_cons, List.append_assoc]; rfl
  · rw [hw, hp, hfold]
  · rw [hj', hp, List.length_append, List.length_singleton, hrest]
  · intro t'
    rw [hr, hp, hfold, List.lookup_cons]
    by_cases he : t' = s.processed.length
    · subst he
      simp
    · have hne : (t' == s.processed.length) = false := by simpa using he
      simp only [hne]
      rw [h.replies t']
      -- the new response sits at index `processed.length`, past every earlier one
      rcases Nat.lt_or_gt_of_ne he with hlt | hgt
      · rw [List.getElem?_append_left (by simpa using hlt)]
      · rw [List.getElem?_eq_none (by simp; omega), List.getElem?_eq_none (by simp; omega)]
  · rw [hc, hs]; exact h.channels
  · rw [hh, hs]; exact h.handles

theorem Books.next (h : Books w₀ s) (hn : Next s s') : Books w₀ s' := by
  cases hn with
  | compile => exact h.send rfl rfl rfl rfl rfl rfl fun _ _ ht => .inl ht
  | submit =>
    refine h.send rfl rfl rfl rfl rfl rfl fun id t ht => ?_
    rcases List.mem_cons.1 ht with he | ht
    · exact .inr (Prod.mk.inj he)
    · exact .inl (List.mem_filter.1 ht).1
  | wait | waitResponse =>
    exact h.frame rfl rfl rfl rfl rfl rfl fun _ hx => (List.mem_filter.1 hx).1
  | work _ hj => exact h.work hj rfl rfl rfl rfl rfl rfl rfl
  | _ => exact h.frame rfl rfl rfl rfl rfl rfl fun _ hx => hx

theorem Books.lt_of_reply (h : Books w₀ s) {t : Nat} {resp : Response}
    (hr : s.replies.lookup t = some resp) : t < s.processed.length := by
  rw [h.replies] at hr
  simpa using (List.getElem?_eq_some_iff.1 hr).1

/-- A reply holds the fold's response to its request. -/
theorem Books.fold_of_reply (h : Books w₀ s) {t : Nat} {resp : Response}
    (hr : s.replies.lookup t = some resp) : (w₀.processAll s.submitted).1[t]? = some resp := by
  rw [← h.history, Worker.getElem?_processAll_append _ _ (h.lt_of_reply hr), ← h.replies, hr]

theorem Books.processed_eq (h : Books w₀ s) (hj : s.jobs = []) : s.processed = s.submitted := by
  rw [← h.history, hj, List.map_nil, List.append_nil]

/-! ## The caller's side -/

/-- What each place of the caller guarantees about the queue and the worker. -/
def Stage (s : Threads) : Caller → Prop
  | .ready => s.senderOpen = false → s.workerLive = false
  | .compiling t => t + 1 = s.submitted.length ∧ s.senderOpen = true
  | .dropping => s.senderOpen = false
  | .closing => s.senderOpen = false ∧ s.script = []
  | .done => s.workerLive = false ∧ s.script = []

/-- The worker exits only once the job channel is closed and empty, and the caller stands where
its stage allows. -/
structure Control (s : Threads) : Prop where
  exited : s.workerLive = false → s.jobs = [] ∧ s.senderOpen = false
  stage : Stage s s.caller

theorem control_start (script : List Step) : Control (start w₀ script) where
  exited h := nomatch h
  stage h := nomatch h

theorem Control.stage_of (h : Control s) {c : Caller} (hc : s.caller = c) : Stage s c := by
  rw [← hc]
  exact h.stage

theorem stage_of_eq {c : Caller} (hc : s.caller = c) (h : Stage s c) : Stage s s.caller := by
  rw [hc]
  exact h

theorem Control.next (hb : Books w₀ s) (h : Control s) (hn : Next s s') : Control s' := by
  cases hn with
  | compile hc hs ho =>
    refine ⟨fun hl => by simp [(h.exited hl).2] at ho, ?_⟩
    simp [Stage, hb.channels, ho]
  | submit hc hs ho =>
    exact ⟨fun hl => by simp [(h.exited hl).2] at ho, stage_of_eq hc fun hf => by simp [ho] at hf⟩
  | refuse hc | wait hc | waitResponse hc | noHandle hc | unknown hc | unreadable hc =>
    exact ⟨h.exited, stage_of_eq hc (h.stage_of hc)⟩
  | drop hc hs ho => exact ⟨fun hl => ⟨(h.exited hl).1, rfl⟩, rfl⟩
  | finish hc hs ho => exact ⟨fun hl => ⟨(h.exited hl).1, rfl⟩, rfl, hs⟩
  | finishDropped hc hs ho => exact ⟨h.exited, h.stage_of hc ho, hs⟩
  | compiled hc hr => exact ⟨h.exited, fun hf => by simp [(h.stage_of hc).2] at hf⟩
  | joined hc hl => exact ⟨h.exited, fun _ => hl⟩
  | joinedAtEnd hc hl => exact ⟨h.exited, hl, (h.stage_of hc).2⟩
  | work hl hj => exact ⟨fun hl' => by simp [hl] at hl', h.stage⟩
  | exit hl hj ho =>
    refine ⟨fun _ => ⟨hj, ho⟩, ?_⟩
    -- the worker's exit only touches the stages that speak of it
    have hst := h.stage
    cases hc : s.caller with
    | ready => exact fun _ => rfl
    | done => rw [hc] at hst; simp [Stage, hl] at hst
    | _ => rw [hc] at hst; exact hst

/-! ## The caller answers as the sequential queue -/

/-- The answer the caller owes while it is blocked, which it gives when it resumes. -/
def owed (w₀ : Worker) (s : Threads) : List Answer :=
  match s.caller with
  | .compiling t =>
    [.compiled ((w₀.processAll s.submitted).1[t]?.getD default).result.toResult
      (w₀.processAll s.submitted).2.script.created (w₀.processAll s.submitted).2.script.calls]
  | .dropping =>
    [.dropped (w₀.processAll s.submitted).2.script.created
      (w₀.processAll s.submitted).2.script.calls]
  | _ => []

/-- The sequential queue's answers `as` and state `q` match the threads: the same answers once
the caller gives what it owes, the worker of the fold over the submitted requests, under each
handle's id the response to its request, and, until the script ends, whether the queue is open. -/
structure Matches (w₀ : Worker) (s : Threads) (as : List Answer) (q : Queue) : Prop where
  answers : as = s.answers ++ owed w₀ s
  worker : q.worker = (w₀.processAll s.submitted).2
  pending : q.pending = pendingOf (w₀.processAll s.submitted).1 s.handles
  isOpen : s.caller.ended = false → q.isOpen = s.senderOpen

/-- The caller has run a prefix `taken` of the script, and the sequential queue's run of that
prefix matches the threads. -/
def Synced (w₀ : Worker) (script : List Step) (s : Threads) : Prop :=
  ∃ taken, script = taken ++ s.script ∧
    Matches w₀ s (Queue.run { worker := w₀ } taken).1 (Queue.run { worker := w₀ } taken).2

theorem synced_start (script : List Step) : Synced w₀ script (start w₀ script) :=
  ⟨[], rfl, rfl, rfl, rfl, fun _ => rfl⟩

theorem owed_of_ready (hc : s.caller = .ready) : owed w₀ s = [] := by
  simp [owed, hc]

/-- A move of the caller that runs the script's next step `st`, as the sequential queue does. -/
theorem Synced.step {script : List Step} {st : Step} {rest : List Step} (h : Synced w₀ script s)
    (hs : s.script = st :: rest) (hs' : s'.script = rest)
    (hm : ∀ as q, Matches w₀ s as q → Matches w₀ s' (as ++ [(q.step st).1]) (q.step st).2) :
    Synced w₀ script s' := by
  obtain ⟨taken, htaken, hmatch⟩ := h
  refine ⟨taken ++ [st], ?_, ?_⟩
  · rw [htaken, hs, hs', List.append_assoc, List.singleton_append]
  · rw [Queue.run_concat]
    exact hm _ _ hmatch

theorem Synced.stay {script : List Step} (h : Synced w₀ script s) (hs' : s'.script = s.script)
    (hm : ∀ as q, Matches w₀ s as q → Matches w₀ s' as q) : Synced w₀ script s' := by
  obtain ⟨taken, htaken, hmatch⟩ := h
  exact ⟨taken, hs' ▸ htaken, hm _ _ hmatch⟩

section Matches

variable {as : List Answer} {q : Queue}

theorem Matches.isOpen_of_ready (hm : Matches w₀ s as q) (hc : s.caller = .ready) :
    q.isOpen = s.senderOpen :=
  hm.isOpen (by simp [hc, Caller.ended])

/-- A step the sequential queue answers with `a` and nothing else. -/
theorem Matches.answer (hm : Matches w₀ s as q) (hc : s.caller = .ready) (a : Answer)
    (hans : s'.answers = s.answers ++ [a]) (hc' : s'.caller = .ready)
    (hsub : s'.submitted = s.submitted) (hh : s'.handles = s.handles)
    (ho : s'.senderOpen = s.senderOpen) : Matches w₀ s' (as ++ [a]) q where
  answers := by simp [hm.answers, owed_of_ready hc, owed_of_ready hc', hans]
  worker := by rw [hsub]; exact hm.worker
  pending := by rw [hsub, hh]; exact hm.pending
  isOpen _ := by rw [ho]; exact hm.isOpen_of_ready hc

/-- Sending a compile's job: the caller owes the compile's answer. -/
theorem Matches.compile {main : String} {assets : Assets} (hb : Books w₀ s)
    (hm : Matches w₀ s as q) (hc : s.caller = .ready) (ho : s.senderOpen = true)
    (hans : s'.answers = s.answers) (hc' : s'.caller = .compiling s.channels)
    (hsub : s'.submitted = s.submitted ++ [⟨"", main, assets⟩]) (hh : s'.handles = s.handles)
    (ho' : s'.senderOpen = s.senderOpen) :
    Matches w₀ s' (as ++ [(q.step (.compile main assets)).1]) (q.step (.compile main assets)).2 := by
  have hfold := Worker.processAll_concat w₀ s.submitted ⟨"", main, assets⟩
  have hlen : s.channels = (w₀.processAll s.submitted).1.length := by simp [hb.channels]
  rw [Queue.step_compile ((hm.isOpen_of_ready hc).trans ho)]
  refine ⟨?_, ?_, ?_, fun _ => ?_⟩
  · rw [hm.answers, owed_of_ready hc, List.append_nil]
    simp [owed, hans, hc', hsub, hfold, hlen, hm.worker]
  · simp [hsub, hfold, hm.worker]
  · rw [hsub, hh, hfold, pendingOf_append _ fun x hx => by simpa using hb.lt_of_handle hx]
    exact hm.pending
  · rw [ho']
    exact hm.isOpen_of_ready hc

/-- Sending a request's job: its handle stands for its response. -/
theorem Matches.submit {r : Request} (hb : Books w₀ s) (hm : Matches w₀ s as q)
    (hc : s.caller = .ready) (ho : s.senderOpen = true)
    (hans : s'.answers = s.answers ++ [.submitted r.id]) (hc' : s'.caller = .ready)
    (hsub : s'.submitted = s.submitted ++ [r])
    (hh : s'.handles = (r.id, s.channels) :: s.handles.filter (·.1 != r.id))
    (ho' : s'.senderOpen = s.senderOpen) :
    Matches w₀ s' (as ++ [(q.step (.submit r)).1]) (q.step (.submit r)).2 := by
  have hfold := Worker.processAll_concat w₀ s.submitted r
  have hlen : s.channels = (w₀.processAll s.submitted).1.length := by simp [hb.channels]
  have hkept : ∀ x ∈ s.handles.filter (·.1 != r.id), x.2 < (w₀.processAll s.submitted).1.length :=
    fun x hx => by simpa using hb.lt_of_handle (List.mem_filter.1 hx).1
  rw [Queue.step_submit ((hm.isOpen_of_ready hc).trans ho)]
  refine ⟨?_, ?_, ?_, fun _ => ?_⟩
  · simp [hm.answers, owed_of_ready hc, owed_of_ready hc', hans]
  · simp [hsub, hfold, hm.worker]
  · -- the new handle stands for the new response; the others, for older requests, are kept
    rw [hsub, hh, hfold, Queue.keep, hm.pending, hm.worker, filter_pendingOf]
    simp only [pendingOf, List.map_cons] at hkept ⊢
    rw [← pendingOf, ← pendingOf, pendingOf_append _ hkept, hlen, List.getElem?_concat_length]
    rfl
  · rw [ho']
    exact hm.isOpen_of_ready hc

/-- A handle whose reply has arrived stands for that reply in the sequential queue. -/
theorem Matches.lookup (hb : Books w₀ s) (hm : Matches w₀ s as q) {id : String} {t : Nat}
    {resp : Response} (hh : s.handles.lookup id = some t) (hr : s.replies.lookup t = some resp) :
    q.pending.lookup id = some resp := by
  rw [hm.pending, lookup_pendingOf, hh, Option.map_some, hb.fold_of_reply hr]
  rfl

/-- Waiting on a handle takes its response out, as the sequential queue does. -/
theorem Matches.take (hm : Matches w₀ s as q) (hc : s.caller = .ready) {id : String} (a : Answer)
    (hans : s'.answers = s.answers ++ [a]) (hc' : s'.caller = .ready)
    (hsub : s'.submitted = s.submitted) (hh : s'.handles = s.handles.filter (·.1 != id))
    (ho : s'.senderOpen = s.senderOpen) :
    Matches w₀ s' (as ++ [a]) { q with pending := q.pending.filter (·.1 != id) } where
  answers := by simp [hm.answers, owed_of_ready hc, owed_of_ready hc', hans]
  worker := by rw [hsub]; exact hm.worker
  pending := by rw [hsub, hh, ← filter_pendingOf, ← hm.pending]
  isOpen _ := by rw [ho]; exact hm.isOpen_of_ready hc

/-- Dropping the queue: the caller owes the drop's answer. -/
theorem Matches.drop (hm : Matches w₀ s as q) (hc : s.caller = .ready) (ho : s.senderOpen = true)
    (hans : s'.answers = s.answers) (hc' : s'.caller = .dropping)
    (hsub : s'.submitted = s.submitted) (hh : s'.handles = s.handles)
    (ho' : s'.senderOpen = false) : Matches w₀ s' (as ++ [(q.step .drop).1]) (q.step .drop).2 := by
  rw [Queue.step_drop ((hm.isOpen_of_ready hc).trans ho)]
  refine ⟨?_, ?_, ?_, fun _ => ho'.symm⟩
  · rw [hm.answers, owed_of_ready hc, List.append_nil]
    simp [owed, hans, hc', hsub, hm.worker]
  · rw [hsub]; exact hm.worker
  · rw [hsub, hh]; exact hm.pending

end Matches

theorem Books.worker_of_drained (hb : Books w₀ s) (hj : s.jobs = []) :
    s.worker = (w₀.processAll s.submitted).2 := by
  rw [hb.worker, hb.processed_eq hj]

theorem Synced.next {script : List Step} (hb : Books w₀ s) (hctl : Control s)
    (h : Synced w₀ script s) (hn : Next s s') : Synced w₀ script s' := by
  cases hn with
  | compile hc hs ho => exact h.step hs rfl fun _ _ hm => hm.compile hb hc ho rfl rfl rfl rfl rfl
  | submit hc hs ho => exact h.step hs rfl fun _ _ hm => hm.submit hb hc ho rfl hc rfl rfl rfl
  | refuse hc hs hu ho =>
    refine h.step hs rfl fun _ q hm => ?_
    rw [Queue.step_of_closed ((hm.isOpen_of_ready hc).trans ho) hu]
    exact hm.answer hc _ rfl hc rfl rfl rfl
  | wait hc hs hh hr =>
    refine h.step hs rfl fun _ q hm => ?_
    rw [Queue.step_wait (hm.lookup hb hh hr)]
    exact hm.take hc _ rfl hc rfl rfl rfl
  | waitResponse hc hs hh hr =>
    refine h.step hs rfl fun _ q hm => ?_
    rw [Queue.step_waitResponse (hm.lookup hb hh hr)]
    exact hm.take hc _ rfl hc rfl rfl rfl
  | noHandle hc hs hw hh =>
    refine h.step hs rfl fun _ q hm => ?_
    rw [Queue.step_of_no_pending (by rw [hm.pending, lookup_pendingOf, hh]; rfl) hw]
    exact hm.answer hc _ rfl hc rfl rfl rfl
  | drop hc hs ho => exact h.step hs rfl fun _ _ hm => hm.drop hc ho rfl rfl rfl rfl rfl
  | unknown hc hs | unreadable hc hs => exact h.step hs rfl fun _ _ hm => hm.answer hc _ rfl hc rfl rfl rfl
  | finish hc | finishDropped hc =>
    exact h.stay rfl fun _ _ hm =>
      ⟨by rw [hm.answers, owed_of_ready hc]; rfl, hm.worker, hm.pending, fun hend => nomatch hend⟩
  | compiled hc hr =>
    -- the compile's job was the last one sent, and its reply is in: no job waits
    have hj : s.jobs = [] := by
      have hlen := hb.length_submitted
      have hlt := hb.lt_of_reply hr
      have hst := (hctl.stage_of hc).1
      exact List.eq_nil_of_length_eq_zero (by omega)
    refine h.stay rfl fun _ _ hm =>
      ⟨?_, hm.worker, hm.pending, fun _ => hm.isOpen (by simp [hc, Caller.ended])⟩
    simp [hm.answers, owed, hc, hb.fold_of_reply hr, hb.worker_of_drained hj]
  | joined hc hl =>
    have hj := (hctl.exited hl).1
    exact h.stay rfl fun _ _ hm => ⟨by simp [hm.answers, owed, hc, hb.worker_of_drained hj],
      hm.worker, hm.pending, fun _ => hm.isOpen (by simp [hc, Caller.ended])⟩
  | joinedAtEnd hc hl =>
    exact h.stay rfl fun _ _ hm =>
      ⟨by simp [hm.answers, owed, hc], hm.worker, hm.pending, fun hend => nomatch hend⟩
  | work | exit => exact h.stay rfl fun _ _ hm => ⟨hm.answers, hm.worker, hm.pending, hm.isOpen⟩

/-! ## Every reachable state -/

/-- The invariant of every state an interleaving reaches. -/
structure Inv (w₀ : Worker) (script : List Step) (s : Threads) : Prop where
  books : Books w₀ s
  control : Control s
  synced : Synced w₀ script s

theorem Inv.next {script : List Step} (h : Inv w₀ script s) (hn : Next s s') : Inv w₀ script s' :=
  ⟨h.books.next hn, h.control.next h.books hn, h.synced.next h.books h.control hn⟩

theorem Reaches.inv {script : List Step} (h : Reaches w₀ script s) : Inv w₀ script s := by
  induction h with
  | refl => exact ⟨books_start script, control_start script, synced_start script⟩
  | tail _ hn ih => exact ih.next hn

/-- What the caller has answered is how the sequential queue's answers begin. -/
theorem Synced.answers_prefix {script : List Step} (h : Synced w₀ script s) :
    s.answers <+: (Queue.run { worker := w₀ } script).1 := by
  obtain ⟨taken, rfl, hm⟩ := h
  exact ⟨owed w₀ s ++ _, by rw [Queue.run_append, hm.answers, List.append_assoc]⟩

/-- A finished run has answered every step as the sequential queue, and its worker has taken
every submitted request and holds the sequential queue's logs. -/
theorem Inv.finished {script : List Step} (h : Inv w₀ script s) (hd : s.caller = .done) :
    s.answers = (Queue.run { worker := w₀ } script).1 ∧ s.processed = s.submitted ∧
      s.worker.script = (Queue.run { worker := w₀ } script).2.worker.script := by
  -- the worker has exited, so no job waits, and the caller has taken the whole script
  obtain ⟨hl, hs⟩ := h.control.stage_of hd
  have hj := (h.control.exited hl).1
  obtain ⟨taken, htaken, hm⟩ := h.synced
  rw [hs, List.append_nil] at htaken
  subst htaken
  refine ⟨?_, h.books.processed_eq hj, ?_⟩
  · simp [hm.answers, owed, hd]
  · rw [hm.worker, h.books.worker_of_drained hj]

theorem mem_of_lookup {handles : List (String × Nat)} {id : String} {t : Nat}
    (h : handles.lookup id = some t) : (id, t) ∈ handles := by
  obtain ⟨l₁, l₂, rfl, -⟩ := List.lookup_eq_some_iff.1 h
  simp

/-- The worker can move while a submitted request waits for it. -/
theorem Inv.work_of_lt {script : List Step} (h : Inv w₀ script s)
    (hlt : s.processed.length < s.submitted.length) : ∃ s', Next s s' := by
  have hne : s.jobs ≠ [] := fun hnil => by
    have hlen := h.books.length_submitted
    simp [hnil] at hlen
    omega
  obtain ⟨⟨t, r⟩, jobs, hj⟩ := List.exists_cons_of_ne_nil hne
  cases hl : s.workerLive
  · simp [(h.control.exited hl).1] at hj
  · exact ⟨_, .work hl hj⟩

/-- The reply to the `t`-th request is in, or the worker can move. -/
theorem Inv.reply_or_work {script : List Step} (h : Inv w₀ script s) {t : Nat}
    (ht : t < s.submitted.length) :
    (∃ resp, s.replies.lookup t = some resp) ∨ ∃ s', Next s s' := by
  by_cases hp : t < s.processed.length
  · rw [h.books.replies t]
    exact .inl (Option.isSome_iff_exists.1 (by simpa using hp))
  · exact .inr (h.work_of_lt (by omega))

/-- A blocked drop ends: the worker drains the closed channel, exits, and is joined. -/
theorem join_or_drain (ho : s.senderOpen = false)
    (hjoin : s.workerLive = false → ∃ s', Next s s') : ∃ s', Next s s' := by
  cases hl : s.workerLive
  · exact hjoin hl
  · cases hj : s.jobs with
    | nil => exact ⟨_, .exit hl hj ho⟩
    | cons job jobs => exact ⟨_, .work hl hj⟩

/-- A waiting step finds no handle, finds its reply in, or lets the worker move. -/
theorem Inv.wait_moves {script : List Step} (h : Inv w₀ script s) {id : String}
    (hnone : s.handles.lookup id = none → ∃ s', Next s s')
    (hsome : ∀ t resp, s.handles.lookup id = some t → s.replies.lookup t = some resp →
      ∃ s', Next s s') : ∃ s', Next s s' := by
  cases hh : s.handles.lookup id with
  | none => exact hnone hh
  | some t =>
    rcases h.reply_or_work (h.books.lt_of_handle (mem_of_lookup hh)) with ⟨resp, hr⟩ | hw
    · exact hsome t resp hh hr
    · exact hw

/-- The caller at a step that needs the queue moves, whether the queue is there or not. -/
theorem ready_moves {st : Step} {rest : List Step} (hc : s.caller = .ready)
    (hs : s.script = st :: rest) (hu : st.usesQueue = true)
    (hopen : s.senderOpen = true → ∃ s', Next s s') : ∃ s', Next s s' := by
  cases ho : s.senderOpen
  · exact ⟨_, .refuse hc hs hu ho⟩
  · exact hopen ho

/-- No interleaving gets stuck: until the caller is done, one of the threads can move. -/
theorem Inv.progress {script : List Step} (h : Inv w₀ script s) (hd : s.caller ≠ .done) :
    ∃ s', Next s s' := by
  cases hc : s.caller with
  | ready =>
    cases hs : s.script with
    | nil =>
      cases ho : s.senderOpen
      · exact ⟨_, .finishDropped hc hs ho⟩
      · exact ⟨_, .finish hc hs ho⟩
    | cons st rest =>
      cases st with
      | compile => exact ready_moves hc hs rfl fun ho => ⟨_, .compile hc hs ho⟩
      | submit => exact ready_moves hc hs rfl fun ho => ⟨_, .submit hc hs ho⟩
      | drop => exact ready_moves hc hs rfl fun ho => ⟨_, .drop hc hs ho⟩
      | wait id =>
        exact h.wait_moves (fun hh => ⟨_, .noHandle hc hs (.inl rfl) hh⟩)
          fun _ _ hh hr => ⟨_, .wait hc hs hh hr⟩
      | waitResponse id =>
        exact h.wait_moves (fun hh => ⟨_, .noHandle hc hs (.inr rfl) hh⟩)
          fun _ _ hh hr => ⟨_, .waitResponse hc hs hh hr⟩
      | unknown => exact ⟨_, .unknown hc hs⟩
      | unreadable => exact ⟨_, .unreadable hc hs⟩
  | compiling t =>
    -- the compile's own job is the last one sent
    have hst := (h.control.stage_of hc).1
    rcases h.reply_or_work (t := t) (by omega) with ⟨resp, hr⟩ | hw
    · exact ⟨_, .compiled hc hr⟩
    · exact hw
  | dropping => exact join_or_drain (h.control.stage_of hc) fun hl => ⟨_, .joined hc hl⟩
  | closing => exact join_or_drain (h.control.stage_of hc).1 fun hl => ⟨_, .joinedAtEnd hc hl⟩
  | done => exact absurd hc hd

/-! ## Every run ends -/

/-- A measure every move lowers. -/
def weight (s : Threads) : Nat :=
  5 * s.script.length + s.caller.weight + s.jobs.length + s.workerLive.toNat + s.senderOpen.toNat

theorem weight_lt (hn : Next s s') : s'.weight < s.weight := by
  cases hn <;> simp_all [weight, Caller.weight] <;> omega

/-- No interleaving runs forever. -/
theorem wellFounded_next : WellFounded fun s' s => Next s s' :=
  Subrelation.wf weight_lt (measure weight).wf

end Threads

/-- **Every interleaving of the caller and the worker answers as the sequential queue.** In each
state that some interleaving reaches from a worker `w₀` and a script: what the caller has
answered is how `Queue.run`'s answers begin; the worker has taken a prefix of the submitted
requests, in submission order and each once, and is the fold of `Worker.process` over them;
each handle listens on the reply channel of a request with its id, and a reply holds the fold's
response to its own request; once the caller is done it has given exactly `Queue.run`'s answers,
and the worker has taken every request and holds `Queue.run`'s logs; until then one of the
threads can move. And no run goes on forever. -/
theorem interleavings_answer_as_fold (w₀ : Worker) (script : List Step) :
    (∀ s, Threads.Reaches w₀ script s →
      s.answers <+: (Queue.run { worker := w₀ } script).1 ∧
      s.processed ++ s.jobs.map Prod.snd = s.submitted ∧
      s.worker = (w₀.processAll s.processed).2 ∧
      (∀ id t, (id, t) ∈ s.handles → ∃ r, s.submitted[t]? = some r ∧ r.id = id) ∧
      (∀ t resp, s.replies.lookup t = some resp →
        (w₀.processAll s.submitted).1[t]? = some resp ∧
          ∃ r, s.submitted[t]? = some r ∧ resp.id = r.id) ∧
      (s.caller = .done →
        s.answers = (Queue.run { worker := w₀ } script).1 ∧ s.processed = s.submitted ∧
          s.worker.script = (Queue.run { worker := w₀ } script).2.worker.script) ∧
      (s.caller ≠ .done → ∃ s', Threads.Next s s')) ∧
    WellFounded fun s' s => Threads.Next s s' := by
  refine ⟨fun s hs => ?_, Threads.wellFounded_next⟩
  have h := hs.inv
  have hfold : ∀ t resp, s.replies.lookup t = some resp →
      (w₀.processAll s.submitted).1[t]? = some resp :=
    fun _ _ hr => h.books.fold_of_reply hr
  exact ⟨h.synced.answers_prefix, h.books.history, h.books.worker, h.books.handles,
    fun t resp hr => ⟨hfold t resp hr, Worker.id_of_getElem?_processAll (hfold t resp hr)⟩,
    h.finished, h.progress⟩

end Typeset.Compile
