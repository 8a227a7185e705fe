import Typeset.Compile.Queue

/-!
The life of the worker's compiler over a sequence of requests.

For one request the worker does one of three things (`Worker.Serves`): it reuses the loaded
compiler, when it has CJK fonts or the request needs none; it creates a compiler for the
request's need, which gets every template source in order before the request's main text; or
the creation fails and nothing is loaded. A created compiler is asked for exactly when none is
loaded or the loaded one lacks fonts the request needs (`Worker.process_serves`).

Over a sequence the compiler only moves up: once a CJK compiler is created it stays loaded and no
creation is attempted again (`Worker.CjkKept`), and when no creation fails the compilers created
are none, one, or a Latin one followed by a CJK one (`Worker.CreatedShape`). The result about
whole sequences is `compiler_lifecycle`.
-/

namespace Typeset.Compile

open Text

/-- The calls a new compiler's template sources make, in order. -/
def templateLog (templates : List Source) : List String :=
  templates.map fun t => "source " ++ t.path

/-- The sources a new compiler holds before a request's main text, newest first. -/
def templateSources (templates : List Source) : List (String × String) :=
  (templates.map fun t => (t.path, t.text)).reverse

/-- The log entry of an asset. -/
def assetLog (entry : String × List UInt8) : String :=
  "asset " ++ entry.1 ++ " " ++ toString entry.2.length

/-- The calls a request makes on the compiler it runs on: its main text, its assets in path
order, and the compile of its main text. -/
def requestLog (r : Request) : List String :=
  ("source " ++ mainPath) :: r.assets.entries.map assetLog ++
    ["compile " ++ mainPath ++ " " ++ r.main]

/-! ## One request -/

namespace Script

/-- Adding every template source in order logs each and puts them onto the compiler's
sources. -/
theorem foldl_addSource (templates : List Source) (sc : Script × Loaded) :
    templates.foldl (fun (s, c) t => s.addSource c t.path t.text) sc =
      ({ sc.1 with calls := sc.1.calls ++ templateLog templates },
        { sc.2 with sources := templateSources templates ++ sc.2.sources }) := by
  induction templates generalizing sc with
  | nil => simp [templateLog, templateSources]
  | cons t ts ih =>
    rw [List.foldl_cons, ih]
    simp [addSource, log, templateLog, templateSources]

/-- Adding assets logs one entry for each, in order. -/
theorem foldl_addAsset (entries : List (String × List UInt8)) (s : Script) :
    entries.foldl (fun s (p, b) => s.addAsset p b) s =
      { s with calls := s.calls ++ entries.map assetLog } := by
  induction entries generalizing s with
  | nil => simp
  | cons e es ih =>
    rw [List.foldl_cons, ih]
    simp [addAsset, log, assetLog]

theorem create_of_failure {s : Script} {templates : List Source} {cjk : Bool} {msg : String}
    (h : s.failures.lookup s.attempts = some msg) :
    s.create templates cjk = (.error msg, { s with attempts := s.attempts + 1 }) := by
  simp [create, h]

theorem create_of_success {s : Script} {templates : List Source} {cjk : Bool}
    (h : s.failures.lookup s.attempts = none) :
    s.create templates cjk = (.ok ⟨cjk, templateSources templates⟩, { s with
      attempts := s.attempts + 1
      created := s.created ++ [cjk]
      calls := s.calls ++ templateLog templates }) := by
  simp [create, h, foldl_addSource]

end Script

namespace Worker

/-- Whether a request with this need gets a new compiler: none is loaded, or the loaded one lacks
the CJK fonts the request needs. -/
def needsCreation (w : Worker) (needsCjk : Bool) : Bool :=
  match w.loaded with
  | some c => !c.cjk && needsCjk
  | none => true

/-- The worker folded over requests in order: the responses, and the worker after them. -/
def processAll (w : Worker) : List Request → List Response × Worker
  | [] => ([], w)
  | r :: rs =>
    let (resp, w₁) := w.process r
    let (resps, w₂) := w₁.processAll rs
    (resp :: resps, w₂)

/-- What the worker does for one request: the three ways a request can go. -/
inductive Serves (w : Worker) (r : Request) : Worker → Prop where
  /-- The loaded compiler fits the request and runs it. -/
  | reuse (c : Loaded) (hl : w.loaded = some c) (hfit : containsCjk r.main = true → c.cjk = true) :
      Serves w r { w with
        loaded := some { c with sources := (mainPath, r.main) :: c.sources }
        script := { w.script with calls := w.script.calls ++ requestLog r } }
  /-- A compiler is created for the request's need; it gets the templates, then runs the
  request. -/
  | create (hneed : w.needsCreation (containsCjk r.main) = true)
      (hok : w.script.failures.lookup w.script.attempts = none) :
      Serves w r { w with
        loaded := some ⟨containsCjk r.main, (mainPath, r.main) :: templateSources w.templates⟩
        script := { w.script with
          attempts := w.script.attempts + 1
          created := w.script.created ++ [containsCjk r.main]
          calls := w.script.calls ++ templateLog w.templates ++ requestLog r } }
  /-- The creation fails: nothing is loaded and nothing is logged. -/
  | setupFails (hneed : w.needsCreation (containsCjk r.main) = true) (msg : String)
      (hfail : w.script.failures.lookup w.script.attempts = some msg) :
      Serves w r { w with
        loaded := none
        script := { w.script with attempts := w.script.attempts + 1 } }

variable {w : Worker} {r : Request} {need : Bool}

theorem needsCreation_eq_false_iff :
    w.needsCreation need = false ↔ ∃ c, w.loaded = some c ∧ (need = true → c.cjk = true) := by
  unfold needsCreation
  cases w.loaded with
  | none => simp
  | some c => cases c.cjk <;> cases need <;> simp

theorem load_of_failure {msg : String} (h : w.script.failures.lookup w.script.attempts = some msg) :
    w.load need = (.error (.setup msg),
      { w with loaded := none, script := { w.script with attempts := w.script.attempts + 1 } }) := by
  simp [load, Script.create_of_failure h]

theorem load_of_success (h : w.script.failures.lookup w.script.attempts = none) :
    w.load need = (.ok ⟨need, templateSources w.templates⟩, { w with
      loaded := none
      script := { w.script with
        attempts := w.script.attempts + 1
        created := w.script.created ++ [need]
        calls := w.script.calls ++ templateLog w.templates } }) := by
  simp [load, Script.create_of_success h]

theorem compilerFor_of_fit {c : Loaded} (hl : w.loaded = some c) (hfit : need = true → c.cjk = true) :
    w.compilerFor need = (.ok c, { w with loaded := none }) := by
  have : (c.cjk || !need) = true := by cases need <;> simp_all
  simp [compilerFor, hl, this]

theorem compilerFor_of_needsCreation (h : w.needsCreation need = true) :
    w.compilerFor need = w.load need := by
  unfold compilerFor
  unfold needsCreation at h
  cases hl : w.loaded with
  | none => rfl
  | some c =>
    rw [hl] at h
    have : (c.cjk || !need) = false := by cases hc : c.cjk <;> cases need <;> simp_all
    simp [this]

/-- A request run on a compiler: its main text, its assets and the compile are logged, and the
compiler stays loaded with the main text added. -/
theorem run_of_compilerFor {c : Loaded} {w₁ : Worker}
    (h : w.compilerFor (containsCjk r.main) = (.ok c, w₁)) :
    (w.run r).2 = { w₁ with
      loaded := some { c with sources := (mainPath, r.main) :: c.sources }
      script := { w₁.script with calls := w₁.script.calls ++ requestLog r } } := by
  simp only [run, h, Script.addSource, Script.log, Script.foldl_addAsset, List.lookup_cons_self,
    Option.getD_some]
  split <;> simp [requestLog, List.append_assoc]

theorem run_of_setup_failure {e : Error} {w₁ : Worker}
    (h : w.compilerFor (containsCjk r.main) = (.error e, w₁)) : w.run r = (.error e, w₁) := by
  simp only [run, h]

/-- **One request.** The worker reuses a loaded compiler that fits the request, and otherwise
creates one for the request's need; a creation that fails leaves nothing loaded. -/
theorem process_serves (w : Worker) (r : Request) : Serves w r (w.process r).2 := by
  cases hneed : w.needsCreation (containsCjk r.main)
  · obtain ⟨c, hl, hfit⟩ := needsCreation_eq_false_iff.1 hneed
    have hrun := run_of_compilerFor (compilerFor_of_fit hl hfit)
    simp only [process, hrun]
    exact .reuse c hl hfit
  · cases hf : w.script.failures.lookup w.script.attempts with
    | none =>
      have hrun := run_of_compilerFor
        ((compilerFor_of_needsCreation hneed).trans (load_of_success hf))
      simp only [process, hrun]
      exact .create hneed hf
    | some msg =>
      have hrun := run_of_setup_failure
        ((compilerFor_of_needsCreation hneed).trans (load_of_failure hf))
      simp only [process, hrun]
      exact .setupFails hneed msg hf

/-! ## Over a sequence -/

theorem processAll_append (w : Worker) (rs rs' : List Request) :
    w.processAll (rs ++ rs') =
      ((w.processAll rs).1 ++ ((w.processAll rs).2.processAll rs').1,
        ((w.processAll rs).2.processAll rs').2) := by
  induction rs generalizing w with
  | nil => rfl
  | cons r rs ih => simp [processAll, ih]

/-- What every request keeps, the whole sequence keeps. -/
theorem processAll_of_step {P : Worker → Prop} (hstep : ∀ w r, P w → P (w.process r).2) :
    ∀ (rs : List Request) {w : Worker}, P w → P (w.processAll rs).2
  | [], _, h => h
  | r :: rs, w, h => processAll_of_step hstep rs (hstep w r h)

theorem needsCreation_of_cjk {c : Loaded} (hl : w.loaded = some c) (hc : c.cjk = true) :
    w.needsCreation need = false :=
  needsCreation_eq_false_iff.2 ⟨c, hl, fun _ => hc⟩

variable {w' : Worker}

theorem Serves.failures_eq (h : Serves w r w') : w'.script.failures = w.script.failures := by
  cases h <;> rfl

theorem Serves.created_prefix (h : Serves w r w') : w.script.created <+: w'.script.created := by
  cases h with
  | reuse | setupFails => exact List.prefix_refl _
  | create => exact List.prefix_append _ _

/-- A created CJK compiler stays loaded. -/
def CjkKept (w : Worker) : Prop :=
  true ∈ w.script.created → ∃ c, w.loaded = some c ∧ c.cjk = true

theorem Serves.cjkKept (h : Serves w r w') (hk : w.CjkKept) : w'.CjkKept := by
  intro ht
  cases h with
  | reuse c hl _ =>
    obtain ⟨c', hl', hc'⟩ := hk ht
    rw [hl] at hl'
    cases hl'
    exact ⟨_, rfl, hc'⟩
  | create hneed _ =>
    -- a CJK compiler loaded before would have been reused
    have hnot : true ∉ w.script.created := fun ht' => by
      obtain ⟨c, hl, hc⟩ := hk ht'
      rw [needsCreation_of_cjk hl hc] at hneed
      cases hneed
    have hneed : containsCjk r.main = true := by simp_all
    exact ⟨_, rfl, hneed⟩
  | setupFails hneed _ _ =>
    obtain ⟨c, hl, hc⟩ := hk ht
    rw [needsCreation_of_cjk hl hc] at hneed
    cases hneed

/-- A worker with a CJK compiler loaded attempts no creation. -/
theorem Serves.attempts_of_cjk (h : Serves w r w') (hk : w.CjkKept)
    (ht : true ∈ w.script.created) : w'.script.attempts = w.script.attempts := by
  obtain ⟨c, hl, hc⟩ := hk ht
  cases h with
  | reuse => rfl
  | create hneed _ | setupFails hneed _ _ =>
    rw [needsCreation_of_cjk hl hc] at hneed
    cases hneed

/-- Once a CJK compiler is created, no request attempts a creation again. -/
theorem attempts_processAll_of_cjk :
    ∀ (rs : List Request) {w : Worker}, w.CjkKept → true ∈ w.script.created →
      (w.processAll rs).2.script.attempts = w.script.attempts
  | [], _, _, _ => rfl
  | r :: rs, w, hk, ht => by
    have hs := process_serves w r
    have ht' : true ∈ (w.process r).2.script.created := hs.created_prefix.subset ht
    rw [processAll, attempts_processAll_of_cjk rs (hs.cjkKept hk) ht', hs.attempts_of_cjk hk ht]

/-- No creation has failed so far. -/
def NoSetupFailure (w : Worker) : Prop :=
  ∀ n < w.script.attempts, w.script.failures.lookup n = none

/-- While no creation fails, the compilers created are none, one, or a Latin one followed by a
CJK one, and the last one created is loaded. -/
def CreatedShape (w : Worker) : Prop :=
  w.NoSetupFailure →
    (w.script.created = [] ∧ w.loaded = none) ∨
    (∃ c, w.loaded = some c ∧ w.script.created = [c.cjk]) ∨
    (∃ c, w.loaded = some c ∧ c.cjk = true ∧ w.script.created = [false, true])

theorem Serves.createdShape (h : Serves w r w') (hs : w.CreatedShape) : w'.CreatedShape := by
  intro hn
  cases h with
  | reuse c hl _ =>
    rcases hs hn with ⟨-, hl'⟩ | ⟨c', hl', hc'⟩ | ⟨c', hl', hcjk, hc'⟩ <;> rw [hl] at hl'
    · cases hl'
    · cases hl'
      exact .inr (.inl ⟨_, rfl, hc'⟩)
    · cases hl'
      exact .inr (.inr ⟨_, rfl, hcjk, hc'⟩)
  | create hneed _ =>
    -- the attempts before this one did not fail either
    have hn' : w.NoSetupFailure := fun n hlt => hn n (by simp only; omega)
    rcases hs hn' with ⟨hc, -⟩ | ⟨c, hl, hc⟩ | ⟨c, hl, hcjk, -⟩
    · exact .inr (.inl ⟨_, rfl, by simp [hc]⟩)
    · -- a Latin compiler is replaced by a CJK one
      simp only [needsCreation, hl, Bool.and_eq_true, Bool.not_eq_true'] at hneed
      exact .inr (.inr ⟨_, rfl, hneed.2, by simp [hc, hneed.1, hneed.2]⟩)
    · rw [needsCreation_of_cjk hl hcjk] at hneed
      cases hneed
  | setupFails _ msg hfail =>
    have := hn w.script.attempts (by simp)
    simp_all

end Worker

/-- The template sources a queue built from a registry gives every new compiler: the bundled
source of each of the registry's templates that has one, at `/` and the template's path. -/
theorem templateLog_registrySources (reg : Template.Registry) :
    templateLog (Queue.registrySources reg) =
      (reg.templates.filter fun t => (Template.bundledSource? t.id).isSome).map
        fun t => "source /" ++ t.path := by
  simp only [templateLog, Queue.registrySources]
  induction reg.templates with
  | nil => rfl
  | cons t ts ih =>
    have hslash : ∀ p : String, "source " ++ ("/" ++ p) = "source /" ++ p := fun p => by
      rw [← String.append_assoc]
      rfl
    cases h : Template.bundledSource? t.id <;> simp [h, ih, hslash]

/-- **The compiler's life over a sequence of requests.** For every sequence of requests, every
set of failing creation attempts and every list of template sources: each request is served in
one of the three ways of `Worker.Serves` (reused when the loaded compiler fits, created for the
request's need with every template source first, or failed at setup), from the worker the
requests before it left; once a CJK compiler has been created, no creation is attempted again;
and when no creation fails, the compilers created are `[]`, `[false]`, `[true]` or
`[false, true]`. A queue built from a registry gives its compilers the bundled sources of the
registry's templates, at `/` and the template's path. -/
theorem compiler_lifecycle (failures : List (Nat × String)) (templates : List Source)
    (rs : List Request) :
    let w₀ := (Queue.create failures templates).worker
    (∀ pre r post, rs = pre ++ r :: post →
      Worker.Serves (w₀.processAll pre).2 r ((w₀.processAll pre).2.process r).2) ∧
    (∀ pre post, rs = pre ++ post → true ∈ (w₀.processAll pre).2.script.created →
      (w₀.processAll rs).2.script.attempts = (w₀.processAll pre).2.script.attempts) ∧
    ((∀ n < (w₀.processAll rs).2.script.attempts, failures.lookup n = none) →
      (w₀.processAll rs).2.script.created ∈ [[], [false], [true], [false, true]]) ∧
    (∀ reg : Template.Registry,
      templateLog (Queue.withRegistry failures reg).worker.templates =
        (reg.templates.filter fun t => (Template.bundledSource? t.id).isSome).map
          fun t => "source /" ++ t.path) := by
  intro w₀
  refine ⟨fun pre r post _ => Worker.process_serves _ r, ?_, ?_, templateLog_registrySources⟩
  · rintro pre post rfl ht
    have hk : (w₀.processAll pre).2.CjkKept :=
      Worker.processAll_of_step (fun w r h => (Worker.process_serves w r).cjkKept h) pre
        (fun h => by simp [w₀, Queue.create] at h)
    rw [Worker.processAll_append]
    exact Worker.attempts_processAll_of_cjk post hk ht
  · intro hn
    have hf : (w₀.processAll rs).2.script.failures = failures :=
      Worker.processAll_of_step (P := fun w => w.script.failures = failures)
        (fun w r h => (Worker.process_serves w r).failures_eq.trans h) rs rfl
    have hn : (w₀.processAll rs).2.NoSetupFailure := fun n hlt => hf ▸ hn n hlt
    have hs : (w₀.processAll rs).2.CreatedShape :=
      Worker.processAll_of_step (fun w r h => (Worker.process_serves w r).createdShape h) rs
        (fun _ => .inl ⟨rfl, rfl⟩)
    rcases hs hn with ⟨hc, -⟩ | ⟨c, -, hc⟩ | ⟨c, -, -, hc⟩ <;> rw [hc]
    · simp
    · cases c.cjk <;> simp
    · simp

end Typeset.Compile
