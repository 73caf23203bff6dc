import RedditKafka.Stream.WorkerEffects
import RedditKafka.Stream.WorkerFootprint

/-!
# Transient failures and the stream loop

The loop and the breaker composed. The breaker answers a call that comes too
early with a plain `RuntimeError`, which the loop's own classification takes
for an unhandled error, so the loop outlives transient failures exactly as long
as it never asks an open breaker before its backoff is over.
-/
namespace RedditKafka
open Async

/-- Every failure the breaker records is one that the stream is meant to outlive. -/
def onlyTransient : WorkerEff → Bool
  | .breakerRecordFailure e => decide e.Transient
  | _ => true

/-- The loop asks a breaker that is not open, or whose backoff is over. -/
def breakerReady : WorkerEff → World → Bool
  | .breakerAdmit, s => decide (s.breaker.Admits s.clock)
  | _, _ => true

/-- The runs of the loop under study. -/
def readyRuns (c : WorkerEff) (s : World) : Prop := onlyTransient c = true ∧ breakerReady c s = true

/-- A session is only ever begun behind a breaker that is closed or half open. -/
def probePledge : WorkerEff → World → Prop
  | .subreddit, s => s.breaker.state ≠ .opened
  | _, _ => True

def WorkerEff.beginsSession : WorkerEff → Bool
  | .subreddit => true
  | _ => false

theorem CircuitBreaker.enter_state {b b' : CircuitBreaker} {now later : ℚ}
    (h : b.enter now later = .ok b') : b'.state ≠ .opened := by
  unfold enter at h
  split at h
  · split at h <;> cases h
    simp
  · rename_i closed
    cases h
    simp [closed]
  · rename_i half
    cases h
    simp [half]

namespace StreamWorker

/-! ## Only the start of a session asks for the subreddit -/

abbrev InSession {α : Type} (p : Coroutine α) : Prop := p.Uses (·.beginsSession = false)

theorem inSession_await {β : Type} {c : WorkerEff} {f : c.Answer → Coroutine β}
    (h : c.beginsSession = false) (rest : ∀ a, InSession (f a)) : InSession (await c >>= f) :=
  (await_uses h).bind rest

theorem inSession_eachComment (w : StreamWorker) (checkpoint : Checkpoint) :
    InSession (w.eachComment checkpoint) :=
  (w.eachComment_uses checkpoint).mono fun c used => by
    cases c <;> first | rfl | cases used

variable {o : Outside} {s : World}

abbrev Endures (o : Outside) {α : Type} (p : Coroutine α) (Q : Except PyExc α → World → Prop)
    (s : World) : Prop :=
  WorkerSafe o none (fun _ => True) readyRuns probePledge p Q s

theorem endures_inSession {α : Type} {p : Coroutine α} (uses : InSession p) :
    Endures o p (fun _ _ => True) s := by
  refine Safe.solo_uses uses (fun _ => True) (fun _ _ _ _ _ => trivial) trivial
    (fun c s₁ begins _ _ => ?_) fun _ _ _ _ _ _ _ _ _ _ => ⟨trivial, trivial⟩
  cases c <;> trivial

theorem fetchAndProcessComments_endures (w : StreamWorker) (h : s.breaker.state ≠ .opened) :
    Endures o w.fetchAndProcessComments (fun _ _ => True) s := by
  refine safe_inert rfl (fun s => s.breaker.state ≠ .opened)
    (settled_of_still fun s s' still h => still.breaker ▸ h) h (fun _ h => h) (fun _ s₁ _ => ?_)
    fun _ _ _ => trivial
  refine endures_inSession (inSession_await rfl fun checkpoint => ?_)
  refine exceptException_uses (inSession_await rfl fun _ =>
    (w.inSession_eachComment checkpoint).forever) fun e => ?_
  exact (handleFetchException_uses e).mono fun c ⟨status, same⟩ => by cases same; rfl

/-! ## The loop -/

theorem handleError_endures (recorder : o.recorderFails = false) {e : PyExc}
    (transient : e.Transient) :
    Endures o (handleError e) (fun r _ => ∀ e', r = .error e' → e'.isException = false) s := by
  refine Safe.solo_await (fun _ => True) (fun _ _ _ _ _ => trivial) trivial (fun _ _ _ => trivial)
    fun s₁ choice r s₂ _ _ _ answered => ⟨trivial, ?_⟩
  obtain ⟨-, rfl | fails⟩ := Outside.answer_recordError answered
  · simp only [Prog.andThen, transient.not_abandoned, Bool.false_eq_true, if_false]
    by_cases limited : RecoveryStrategy.shouldRetryWithBackoff e = true
    · simp only [if_pos limited]
      refine Safe.solo_perform (fun _ => True) (fun _ _ _ _ _ => trivial) trivial
        (fun _ _ _ => trivial) fun s₃ choice r s₄ _ _ _ answered => ⟨trivial, ?_⟩
      obtain ⟨-, rfl | ⟨e', rfl, cancelled⟩⟩ := Outside.answer_sleep answered
      · exact fun e' same => by cases same
      · exact fun e'' same => by cases same; exact cancelled
    · simp only [if_neg limited, if_pos (transient.recovers.resolve_left limited)]
      exact fun e' same => by cases same
  · simp [recorder] at fails

/-- The call of a session through the breaker raises transient errors only. -/
theorem call_endures (w : StreamWorker) :
    Endures o (CircuitBreaker.call w.fetchAndProcessComments)
      (fun r _ => ∀ e, r = .error e → e.isException = true → e.Transient) s := by
  refine Safe.solo_await (fun _ => True) (fun _ _ _ _ _ => trivial) trivial (fun _ _ _ => trivial)
    fun s₁ choice r s₂ _ _ allowed answered => ⟨trivial, ?_⟩
  obtain ⟨later, ⟨b, admitted, rfl, rfl⟩ | ⟨e, refused, rfl, rfl⟩⟩ :=
    Outside.answer_breakerAdmit answered
  · refine Safe.exceptException trivial (P := fun _ _ => True) ?_
      (fun _ _ _ _ e same => by cases same)
      (fun e _ _ cancelled _ e' same exception => by cases same; simp [cancelled] at exception)
      fun e s₃ _ _ _ => ?_
    · refine Safe.bind trivial (w.fetchAndProcessComments_endures
        (CircuitBreaker.enter_state admitted)) (fun _ s₄ _ _ => ?_) fun _ _ _ _ => trivial
      exact endures_inSession (inSession_await rfl fun _ => trivial)
    · refine safe_own rfl (fun _ => True) (fun _ _ _ _ _ => trivial) trivial (fun _ _ => trivial)
        fun s₄ _ s₅ _ _ allowed _ => ⟨trivial, ?_⟩
      exact fun e' same _ => by cases same; simpa [onlyTransient] using allowed.1
  · -- the refusal is the case that the condition on these runs leaves out
    exact absurd (by simpa [breakerReady] using allowed.2) (CircuitBreaker.enter_error refused)

theorem eachSession_endures (w : StreamWorker) (recorder : o.recorderFails = false) :
    Endures o (eachSession w.fetchAndProcessComments)
      (fun r _ => ∀ e, r = .error e → e.isException = false) s := by
  refine safe_own rfl (fun _ => True) (fun _ _ _ _ _ => trivial) trivial (fun _ _ => trivial)
    fun s₁ _ _ _ _ _ given => ⟨trivial, ?_⟩
  cases given
  split
  · exact fun e same => by cases same
  refine Safe.bind (P := fun r _ => ∀ e, r = .error e → e.isException = false) trivial ?_
    (fun _ _ _ _ e same => by cases same) fun e _ _ failed e' same => failed e' (by cases same; rfl)
  refine Safe.exceptException trivial (w.call_endures) (fun _ _ _ _ e same => by cases same)
    (fun e _ _ cancelled _ e' same => by cases same; exact cancelled)
    fun e s₂ _ exception transient => handleError_endures recorder (transient e rfl exception)

theorem streamLoop_endures (w : StreamWorker) (recorder : o.recorderFails = false) :
    Endures o w.streamLoop (fun r _ => ∀ e, r = .error e → e.isException = false) s := by
  refine Safe.solo_forever (fun _ => True) (fun _ _ _ _ _ => trivial) trivial fun s₁ _ _ => ?_
  refine (w.eachSession_endures recorder).mono trivial fun r s₂ _ after => ?_
  rcases r with e | _ | _
  · exact fun e' same => after e' (by cases same; rfl)
  · trivial
  · exact fun e same => by cases same

end StreamWorker

/-- In every run in which the breaker records transient failures only and is asked only
when it admits a call, nothing but a cancellation ends the loop by an exception, and each
session begins behind a closed or half open breaker. -/
theorem streamLoop_outlives_transient_failures (w : StreamWorker) (o : Outside)
    (recorder : o.recorderFails = false) (s₀ : World)
    {c : Config WorkerEff WorkerEff.Answer PyExc World Unit}
    (reached : (workerMachine o none).ReachesUnder
      (fun _ e s => onlyTransient e = true ∧ breakerReady e s = true)
      (workerConfig w.streamLoop s₀) c) :
    (∀ e, c.threads () = some (.raise e) → e.isException = false) ∧
      (c.Awaits () .subreddit → c.state.breaker.state ≠ .opened) := by
  have orderly := WorkerSafe.orderly (fun _ _ _ _ _ => id) (fun _ _ _ _ _ => trivial)
    (fun _ same => by cases same) trivial (w.streamLoop_endures recorder) reached
  exact ⟨fun e raised => orderly.ended (r := .error e) raised e rfl, fun waits => orderly.pledged waits⟩

/-- A Reddit request that fails, and what the loop does about it. -/
def requestFailure : PyExc := ⟨"RequestException", [.requestException, .exception], "timeout"⟩

def failedTurn : List (Action Unit Choice Event) :=
  [.unroll (), .call () .done, .call () (.later 0), .call () (.raised requestFailure),
    .call () .done, .call () .done]

def quietRecorder : Outside := { recorderFails := false }

theorem streamLoop_survives_one_failure :
    ∃ c, (workerMachine quietRecorder none).ReachesUnder
        (fun _ e s => onlyTransient e = true ∧ breakerReady e s = true)
        (workerConfig newsWorker.streamLoop {}) c ∧
      c.Awaits () .subreddit ∧ c.state.breaker.failureCount = 1 ∧ c.state.breaker.state ≠ .opened := by
  have run : ((workerMachine quietRecorder none).execUnder
      (fun _ e s => onlyTransient e && breakerReady e s)
      (failedTurn ++ [.unroll (), .call () .done, .call () (.later 0)])
      (workerConfig newsWorker.streamLoop {})).map
        (fun c => (c.awaited (), c.state.breaker.failureCount)) = some (some .subreddit, 1) := by rfl
  obtain ⟨c, reached, seen⟩ := Machine.ReachesUnder.of_execUnder_map run
  obtain ⟨waits, count⟩ := Prod.mk.inj seen
  have reached := reached.mono fun t e s both => Bool.and_eq_true_iff.mp both
  have waits := Config.awaits_iff.mpr waits
  exact ⟨c, reached, waits, count,
    (streamLoop_outlives_transient_failures newsWorker quietRecorder rfl {} reached).2 waits⟩

/-- Five failed requests in a row open the breaker, and its refusal of the sixth session
ends the loop. -/
theorem streamLoop_ended_by_open_breaker :
    ¬ ∀ (w : StreamWorker) (o : Outside) (s₀ : World)
      (c : Config WorkerEff WorkerEff.Answer PyExc World Unit), o.recorderFails = false →
      (workerMachine o none).ReachesUnder (fun _ e _ => onlyTransient e = true)
        (workerConfig w.streamLoop s₀) c →
      ∀ e, c.threads () = some (.raise e) → e.isException = false := by
  intro claim
  have run : ((workerMachine quietRecorder none).execUnder (fun _ e _ => onlyTransient e)
      (failedTurn ++ failedTurn ++ failedTurn ++ failedTurn ++ failedTurn ++
        [.unroll (), .call () .done, .call () (.later 0), .call () .done])
      (workerConfig newsWorker.streamLoop {})).map (·.outcome ()) =
        some (some (.error (.runtimeError "Circuit breaker OPEN. Retry in 120s"))) := by
    decide +kernel
  obtain ⟨c, reached, ended⟩ := Machine.ReachesUnder.of_execUnder_map run
  have failed := claim newsWorker quietRecorder {} c rfl reached _ (Config.threads_of_outcome ended)
  exact absurd failed (by decide)

end RedditKafka
