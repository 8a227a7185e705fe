import Typeset.Proofs.Compile.Lifecycle

/-!
What the worker answers when a compile goes wrong, and what it keeps.

A request fails in one of two places. The creation of a compiler it attempts can fail
(`Worker.setupFailure?`): the answer is the setup error's text with no diagnostics, and nothing
is left loaded, not even a Latin compiler that the request wanted replaced by a CJK one, so the
next request attempts a creation again. Or the compile gives no artifact: the answer is the
diagnostics joined by line feeds, or a fixed text when there are none, with the diagnostics
themselves, and the compiler stays loaded for the requests it fits. A response read back gives a
failed compile with exactly the message and diagnostics it carries (`Outcome.toResult`).
-/

namespace Typeset.Compile

open Text

/-- The answer a compile on a loaded compiler gives: the PDF and the diagnostics, or with no
artifact, the diagnostics joined by line feeds (a fixed text when there are none) and the
diagnostics themselves. -/
def compiledOutcome (text : String) : Outcome :=
  match Script.compileText text with
  | (some pdf, d) => .ok pdf d
  | (none, d) => .err (if d = [] then noDiagnostics else "\n".intercalate d) d

namespace Worker

/-- The setup error of the creation that a request with this need attempts, if it attempts one
and that one fails. -/
def setupFailure? (w : Worker) (needsCjk : Bool) : Option String :=
  if w.needsCreation needsCjk then w.script.failures.lookup w.script.attempts else none

variable {w : Worker} {r : Request}

/-- A request whose creation fails answers the setup error and leaves nothing loaded. -/
theorem process_of_setupFailure {msg : String}
    (h : w.setupFailure? (containsCjk r.main) = some msg) :
    w.process r = (⟨r.id, .err ("Compiler setup failed: " ++ msg) []⟩,
      { w with loaded := none, script := { w.script with attempts := w.script.attempts + 1 } }) := by
  unfold setupFailure? at h
  split at h
  · rename_i hneed
    rw [process, run_of_setup_failure ((compilerFor_of_needsCreation hneed).trans
      (load_of_failure h))]
    rfl
  · cases h

/-- A request run on a compiler answers the outcome of its compile. -/
theorem process_fst_of_compilerFor {c : Loaded} {w₁ : Worker}
    (h : w.compilerFor (containsCjk r.main) = (.ok c, w₁)) :
    (w.process r).1 = ⟨r.id, compiledOutcome r.main⟩ := by
  simp only [process, run, h, Script.addSource, List.lookup_cons_self, Option.getD_some]
  unfold compiledOutcome
  rcases Script.compileText r.main with ⟨_ | pdf, d⟩
  · -- the empty test on the diagnostics decides alike either way it is spelled
    cases d <;> rfl
  · rfl

theorem compilerFor_of_no_setupFailure {need : Bool} (h : w.setupFailure? need = none) :
    ∃ c w₁, w.compilerFor need = (.ok c, w₁) := by
  unfold setupFailure? at h
  cases hneed : w.needsCreation need
  · obtain ⟨c, hl, hfit⟩ := needsCreation_eq_false_iff.1 hneed
    exact ⟨c, _, compilerFor_of_fit hl hfit⟩
  · rw [hneed, if_pos rfl] at h
    exact ⟨_, _, (compilerFor_of_needsCreation hneed).trans (load_of_success h)⟩

/-- A request whose creation does not fail answers the outcome of its compile. -/
theorem process_fst_of_no_setupFailure (h : w.setupFailure? (containsCjk r.main) = none) :
    (w.process r).1 = ⟨r.id, compiledOutcome r.main⟩ := by
  obtain ⟨c, w₁, hc⟩ := compilerFor_of_no_setupFailure h
  exact process_fst_of_compilerFor hc

/-- A request whose creation does not fail leaves loaded the compiler it ran on: one that fits
it, and the one loaded before when that one fit. -/
theorem loaded_of_no_setupFailure (h : w.setupFailure? (containsCjk r.main) = none) :
    ∃ c, (w.process r).2.loaded = some c ∧ (containsCjk r.main = true → c.cjk = true) ∧
      ∀ c₀, w.loaded = some c₀ → (containsCjk r.main = true → c₀.cjk = true) → c.cjk = c₀.cjk := by
  have hs := process_serves w r
  generalize (w.process r).2 = w' at hs ⊢
  cases hs with
  | reuse c hl hfit =>
    refine ⟨_, rfl, hfit, fun c₀ hl₀ _ => ?_⟩
    rw [hl] at hl₀
    cases hl₀
    rfl
  | create hneed _ =>
    refine ⟨_, rfl, id, fun c₀ hl₀ hfit₀ => ?_⟩
    rw [(needsCreation_eq_false_iff.2 ⟨c₀, hl₀, hfit₀⟩)] at hneed
    cases hneed
  | setupFails hneed msg hfail =>
    simp [setupFailure?, hneed, hfail] at h

/-- A request that needs a new compiler attempts one creation. -/
theorem attempts_process_of_needsCreation (h : w.needsCreation (containsCjk r.main) = true) :
    (w.process r).2.script.attempts = w.script.attempts + 1 := by
  have hs := process_serves w r
  generalize (w.process r).2 = w' at hs ⊢
  cases hs with
  | reuse c hl hfit =>
    rw [needsCreation_eq_false_iff.2 ⟨c, hl, hfit⟩] at h
    cases h
  | create | setupFails => rfl

/-- A request that the loaded compiler fits attempts no creation. -/
theorem attempts_process_of_fit {c : Loaded} (hl : w.loaded = some c)
    (hfit : containsCjk r.main = true → c.cjk = true) :
    (w.process r).2.script.attempts = w.script.attempts := by
  have hs := process_serves w r
  generalize (w.process r).2 = w' at hs ⊢
  cases hs with
  | reuse => rfl
  | create hneed _ | setupFails hneed _ _ =>
    rw [needsCreation_eq_false_iff.2 ⟨c, hl, hfit⟩] at hneed
    cases hneed

end Worker

/-- The outcome of a compile is an error exactly when it gives no artifact: the diagnostics
joined by line feeds, or the fixed text when there are none, with the diagnostics as they came;
otherwise it is the PDF with the diagnostics. -/
theorem compiledOutcome_eq_err_iff {text e : String} {d : List String} :
    compiledOutcome text = .err e d ↔
      Script.compileText text = (none, d) ∧ e = if d = [] then noDiagnostics else "\n".intercalate d := by
  unfold compiledOutcome
  rcases Script.compileText text with ⟨_ | pdf, d'⟩
  · simp only [Outcome.err.injEq, Prod.mk.injEq, true_and]
    constructor
    · rintro ⟨rfl, rfl⟩
      exact ⟨rfl, rfl⟩
    · rintro ⟨rfl, rfl⟩
      exact ⟨rfl, rfl⟩
  · simp

theorem compiledOutcome_eq_ok_iff {text : String} {pdf : List UInt8} {d : List String} :
    compiledOutcome text = .ok pdf d ↔ Script.compileText text = (some pdf, d) := by
  unfold compiledOutcome
  rcases Script.compileText text with ⟨_ | pdf', d'⟩ <;> simp

/-- **How a request fails, and what the worker keeps.** For every worker state (any compiler
loaded, any number of creation attempts made, any attempts that fail) and every request: the
response is an error exactly when the creation the request attempts fails or its compile gives
no artifact; the error is the setup error's text with no diagnostics, or the compile's
diagnostics joined by line feeds (a fixed text when there are none) with the diagnostics as they
came; read back, an error response gives exactly a failed compile with its text and diagnostics,
and a successful one its PDF and diagnostics. After a failed creation nothing is loaded, even a
Latin compiler loaded before, and the next request attempts a creation again; after a failed
compile the compiler it ran on stays loaded, and a next request it fits attempts none. -/
theorem process_reports_failures (w : Worker) (r : Request) :
    let resp := (w.process r).1
    let w' := (w.process r).2
    let setup := w.setupFailure? (containsCjk r.main)
    resp.id = r.id ∧
    ((∃ e d, resp.result = .err e d) ↔ setup.isSome ∨ (Script.compileText r.main).1 = none) ∧
    (∀ e d, resp.result = .err e d →
      (∃ msg, setup = some msg ∧ e = "Compiler setup failed: " ++ msg ∧ d = []) ∨
      (setup = none ∧ Script.compileText r.main = (none, d) ∧
        e = if d = [] then noDiagnostics else "\n".intercalate d)) ∧
    (∀ pdf d, resp.result = .ok pdf d → setup = none ∧ Script.compileText r.main = (some pdf, d)) ∧
    (∀ e d, resp.result = .err e d → resp.result.toResult = .error (.failed e d)) ∧
    (∀ pdf d, resp.result = .ok pdf d → resp.result.toResult = .ok ⟨pdf, d⟩) ∧
    (setup.isSome →
      w'.loaded = none ∧ ∀ r' : Request, (w'.process r').2.script.attempts = w'.script.attempts + 1) ∧
    (setup = none → (Script.compileText r.main).1 = none →
      ∃ c, w'.loaded = some c ∧ (containsCjk r.main = true → c.cjk = true) ∧
        (∀ c₀, w.loaded = some c₀ → (containsCjk r.main = true → c₀.cjk = true) → c.cjk = c₀.cjk) ∧
        ∀ r' : Request, (containsCjk r'.main = true → c.cjk = true) →
          (w'.process r').2.script.attempts = w'.script.attempts) := by
  intro resp w' setup
  -- reading a response back is the same whatever it answers
  have hback : (∀ e d, resp.result = .err e d → resp.result.toResult = .error (.failed e d)) ∧
      (∀ pdf d, resp.result = .ok pdf d → resp.result.toResult = .ok ⟨pdf, d⟩) :=
    ⟨fun e d h => by rw [h]; rfl, fun pdf d h => by rw [h]; rfl⟩
  cases hsetup : setup with
  | some msg =>
    -- the creation fails: the setup error, and nothing loaded
    have hproc := Worker.process_of_setupFailure hsetup
    have hresp : resp = ⟨r.id, .err ("Compiler setup failed: " ++ msg) []⟩ := by
      simp only [resp, hproc]
    have hw' : w'.loaded = none := by simp only [w', hproc]
    refine ⟨by rw [hresp], ?_, fun e d h => ?_, fun pdf d h => ?_, hback.1, hback.2,
      fun _ => ⟨hw', fun r' => ?_⟩, fun h => by cases h⟩
    · simp [hresp]
    · rw [hresp] at h
      simp only [Outcome.err.injEq] at h
      exact .inl ⟨msg, rfl, h.1.symm, h.2.symm⟩
    · rw [hresp] at h
      cases h
    · exact Worker.attempts_process_of_needsCreation (by simp [Worker.needsCreation, hw'])
  | none =>
    -- the compile runs on a compiler that stays loaded
    have hresp : resp = ⟨r.id, compiledOutcome r.main⟩ :=
      Worker.process_fst_of_no_setupFailure hsetup
    refine ⟨by rw [hresp], ?_, fun e d h => ?_, fun pdf d h => ?_, hback.1, hback.2,
      fun h => absurd h (by simp), fun _ hnone => ?_⟩
    · simp only [hresp, Option.isSome_none, Bool.false_eq_true, false_or]
      constructor
      · rintro ⟨e, d, h⟩
        rw [(compiledOutcome_eq_err_iff.1 h).1]
      · intro h
        rcases hct : Script.compileText r.main with ⟨_ | pdf, d⟩
        · exact ⟨_, d, compiledOutcome_eq_err_iff.2 ⟨hct, rfl⟩⟩
        · rw [hct] at h
          cases h
    · rw [hresp] at h
      exact .inr ⟨rfl, compiledOutcome_eq_err_iff.1 h⟩
    · rw [hresp] at h
      exact ⟨rfl, compiledOutcome_eq_ok_iff.1 h⟩
    · obtain ⟨c, hl, hfit, hsame⟩ := Worker.loaded_of_no_setupFailure hsetup
      exact ⟨c, hl, hfit, hsame, fun r' hfit' => Worker.attempts_process_of_fit hl hfit'⟩

end Typeset.Compile
