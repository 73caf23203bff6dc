import Mathlib.Data.List.Infix
import Mathlib.Data.NNRat.Defs
import Mathlib.Data.Rat.Cast.Defs
import Mathlib.Tactic.Linarith
import RedditKafka.Async.Halting
import RedditKafka.Async.Triples
import RedditKafka.Stream.ErrorHandler

/-!
# The retry loop of the migrations

`_run_with_retry` and `_is_retryable_migration_error` of `src/migrations.py`. The
operation and the clock belong to the environment; seconds are exact.
-/
namespace RedditKafka.Migrations.Retry
open Async

def maxMigrationWaitSeconds : ℚ := 600

def migrationRetryDelaySeconds : ℚ := 10

/-- `str.lower`: two letters outside ASCII have an ASCII letter in their lower case, and what the
others become is in none of the tokens. -/
def lower (message : String) : List Char :=
  message.toList.flatMap fun c =>
    if c.toNat = 0x212a then ['k']
    else if c.toNat = 0x130 then ['i', Char.ofNat 0x307]
    else [c.toLower]

def retryableTypes : List ExcClass :=
  [.connectionError, .timeoutError, .osError, .operationalError, .dbapiError]

def retryableMessages : List String :=
  ["could not connect", "connection refused", "connection timed out",
    "server closed the connection", "too many connections", "the database system is starting up"]

def isRetryableMigrationError (error : PyExc) : Bool :=
  error.isInstance retryableTypes ||
    retryableMessages.any fun token => decide (token.toList <:+: lower error.message)

example : isRetryableMigrationError (.runtimeError "FATAL: Too many connections") = true := by
  decide +kernel

example : isRetryableMigrationError (.runtimeError "Engine not initialized") = false := by
  decide +kernel

def setupTimeout : PyExc :=
  ⟨"TimeoutError", [.timeoutError, .osError, .exception],
    "Migration database setup did not succeed within 600 seconds"⟩

inductive RetryEff where
  | operation
  | closeDb
  | monotonic
  | sleep (seconds : ℚ)

abbrev RetryEff.Answer : RetryEff → Type
  | .monotonic => ℚ
  | _ => Unit

abbrev Retrying (α : Type) : Type 1 := Prog RetryEff RetryEff.Answer PyExc α

abbrev ask (c : RetryEff) : Retrying c.Answer := Prog.perform c

/-- The `except Exception` branch: `none` leads to the next attempt. -/
def handleFailure (deadline : ℚ) (error : PyExc) : Retrying (Option Unit) := do
  ask .closeDb
  if isRetryableMigrationError error then do
    let now ← ask .monotonic
    let remainingSeconds := deadline - now
    if remainingSeconds ≤ 0 then Prog.raise setupTimeout
    else do
      ask (.sleep (min migrationRetryDelaySeconds remainingSeconds))
      pure none
  else Prog.raise error

def attemptOnce (deadline : ℚ) : Retrying (Option Unit) :=
  (do ask .operation; pure (some ())).rescue fun error =>
    if error.isException then handleFailure deadline error else Prog.raise error

def runWithRetry : Retrying Unit := do
  let started ← ask .monotonic
  (attemptOnce (started + maxMigrationWaitSeconds)).forever

/-! ## The clock and the record of a run -/

inductive RetryEvent where
  | attempted (outcome : Except PyExc Unit)
  | read (time : ℚ)
  | slept (requestedAt seconds : ℚ)

/-- The time, and what has happened. -/
structure Clock where
  now : ℚ
  log : List RetryEvent := []

/-- What the environment settles for one effect: the time it takes, and how the operation ends. -/
structure Moment where
  elapsed : ℚ≥0
  outcome : Except PyExc Unit

def Clock.pass (w : Clock) (elapsed : ℚ) (event : RetryEvent) : Clock where
  now := w.now + elapsed
  log := w.log ++ [event]

/-- A sleep is over after its seconds at the earliest. `close_db` succeeds. -/
def answer : (c : RetryEff) → Moment → Clock → Option (Except PyExc c.Answer × Clock)
  | .operation, m, w => some (m.outcome, w.pass m.elapsed (.attempted m.outcome))
  | .closeDb, m, w => some (.ok (), { w with now := w.now + m.elapsed })
  | .monotonic, m, w =>
      some (.ok (w.now + m.elapsed), w.pass m.elapsed (.read (w.now + m.elapsed)))
  | .sleep seconds, m, w =>
      some (.ok (), w.pass (seconds + m.elapsed) (.slept w.now seconds))

/-- The outcomes of the operation, in order. -/
def attempts (log : List RetryEvent) : List (Except PyExc Unit) :=
  log.filterMap fun
    | .attempted outcome => some outcome
    | _ => none

@[simp] theorem attempts_append (log more : List RetryEvent) :
    attempts (log ++ more) = attempts log ++ attempts more :=
  List.filterMap_append ..

theorem answered (c : RetryEff) (w : Clock) :
    ∃ m r w', answer c m w = some (r, w') := by
  cases c <;> exact ⟨⟨0, .ok ()⟩, _, _, rfl⟩

/-! ## One attempt -/

/-- The failures behind which the loop goes on, if there is time left. -/
def retries (error : PyExc) : Bool := error.isException && isRetryableMigrationError error

theorem timeout_retried {error : PyExc} (exception : error.isException = true)
    (timeout : error.isInstance [.timeoutError] = true) : retries error = true := by
  simp only [PyExc.isInstance, List.any_cons, List.any_nil, Bool.or_false,
    List.contains_iff_mem] at timeout
  simp [retries, exception, isRetryableMigrationError, PyExc.isInstance, retryableTypes, timeout]

variable {deadline : ℚ} {w w' : Clock} {trace : List (RetryEff × Moment)}

/-- What one turn of the loop can come to. -/
inductive Attempted (deadline : ℚ) (w w' : Clock) : Except PyExc (Option Unit) → Prop
  | succeeded : w'.log = w.log ++ [.attempted (.ok ())] → Attempted deadline w w' (.ok (some ()))
  | refused {error : PyExc} : retries error = false →
      w'.log = w.log ++ [.attempted (.error error)] → Attempted deadline w w' (.error error)
  | timedOut {error : PyExc} {time : ℚ} : retries error = true → deadline ≤ time →
      w'.log = w.log ++ [.attempted (.error error), .read time] →
      Attempted deadline w w' (.error setupTimeout)
  | waited {error : PyExc} {time : ℚ} : retries error = true → w.now ≤ time → time < deadline →
      w'.log = w.log ++ [.attempted (.error error), .read time,
        .slept time (min migrationRetryDelaySeconds (deadline - time))] →
      time + min migrationRetryDelaySeconds (deadline - time) ≤ w'.now →
      Attempted deadline w w' (.ok none)

theorem operation_inv {r : Except PyExc (Option Unit)}
    (ran : Runs answer (do ask .operation; pure (some ())) w trace r w') :
    ∃ m : Moment, w' = w.pass m.elapsed (.attempted m.outcome) ∧
      r = m.outcome.map fun _ => some () := by
  rcases ran.bind_inv with ⟨e, rfl, failed⟩ | ⟨before, after, a, w₁, rfl, done, rest⟩
  · obtain ⟨m, rfl, given⟩ := failed.perform_inv
    obtain ⟨same, rfl⟩ := Prod.mk.inj (Option.some.inj given)
    exact ⟨m, rfl, by rw [same]; rfl⟩
  · obtain ⟨m, rfl, given⟩ := done.perform_inv
    obtain ⟨same, rfl⟩ := Prod.mk.inj (Option.some.inj given)
    obtain ⟨-, rfl, rfl⟩ := rest.ret_inv
    exact ⟨m, rfl, by rw [same]; rfl⟩

/-- Behind a failed operation: the loop ends with the error, at the deadline, or waits. -/
inductive Handled (deadline : ℚ) (error : PyExc) (w w' : Clock) :
    Except PyExc (Option Unit) → Prop
  | refused : isRetryableMigrationError error = false → w'.log = w.log →
      Handled deadline error w w' (.error error)
  | timedOut {time : ℚ} : isRetryableMigrationError error = true → deadline ≤ time →
      w'.log = w.log ++ [.read time] → Handled deadline error w w' (.error setupTimeout)
  | waited {time : ℚ} : isRetryableMigrationError error = true → w.now ≤ time → time < deadline →
      w'.log = w.log ++
        [.read time, .slept time (min migrationRetryDelaySeconds (deadline - time))] →
      time + min migrationRetryDelaySeconds (deadline - time) ≤ w'.now →
      Handled deadline error w w' (.ok none)

theorem handleFailure_inv {error : PyExc} {r : Except PyExc (Option Unit)}
    (ran : Runs answer (handleFailure deadline error) w trace r w') :
    Handled deadline error w w' r := by
  rcases ran.bind_inv with ⟨e, -, failed⟩ | ⟨_, _, _, _, -, closed, rest⟩
  · obtain ⟨m, -, given⟩ := failed.perform_inv
    cases given
  obtain ⟨m, -, given⟩ := closed.perform_inv
  cases given
  split at rest
  · rename_i retryable
    rcases rest.bind_inv with ⟨e, -, failed⟩ | ⟨_, _, _, _, -, looked, rest⟩
    · obtain ⟨m', -, given⟩ := failed.perform_inv
      cases given
    obtain ⟨m', -, given⟩ := looked.perform_inv
    cases given
    have clock : w.now ≤ w.now + m.elapsed + m'.elapsed := by
      have := m.elapsed.coe_nonneg
      have := m'.elapsed.coe_nonneg
      linarith
    dsimp only at rest
    split at rest
    · rename_i gone
      obtain ⟨-, rfl, rfl⟩ := rest.raise_inv
      exact .timedOut retryable (by linarith) rfl
    · rename_i left
      rcases rest.bind_inv with ⟨e, -, failed⟩ | ⟨_, _, _, _, -, slept, rest⟩
      · obtain ⟨m'', -, given⟩ := failed.perform_inv
        cases given
      obtain ⟨m'', -, given⟩ := slept.perform_inv
      cases given
      obtain ⟨-, rfl, rfl⟩ := rest.ret_inv
      refine .waited retryable clock (by linarith) (by simp [Clock.pass]) ?_
      have := m''.elapsed.coe_nonneg
      simp only [Clock.pass]
      linarith
  · rename_i other
    obtain ⟨-, rfl, rfl⟩ := rest.raise_inv
    exact .refused (by simpa using other) rfl

/-- The turn as a whole. -/
theorem attemptOnce_inv {r : Except PyExc (Option Unit)}
    (ran : Runs answer (attemptOnce deadline) w trace r w') : Attempted deadline w w' r := by
  rcases ran.rescue_inv with ⟨a, rfl, done⟩ | ⟨error, before, after, w₁, -, failed, goes⟩
  · obtain ⟨m, rfl, same⟩ := operation_inv done
    cases ended : m.outcome with
    | ok u =>
        rw [ended] at same
        cases same
        exact .succeeded rfl
    | error e =>
        rw [ended] at same
        cases same
  · obtain ⟨m, rfl, same⟩ := operation_inv failed
    have ended : m.outcome = .error error := by
      cases ended : m.outcome with
      | ok u => rw [ended] at same; cases same
      | error e => rw [ended] at same; cases same; rfl
    rw [ended] at goes
    split at goes
    · rename_i caught
      have clock : w.now ≤ w.now + m.elapsed := by
        have := m.elapsed.coe_nonneg
        linarith
      cases handleFailure_inv goes with
      | refused other log => exact .refused (by simp [retries, other]) log
      | timedOut retryable late log =>
          have retried : retries error = true := by simp [retries, caught, retryable]
          exact .timedOut retried late (by simp [log, Clock.pass])
      | waited retryable began early log slept =>
          have retried : retries error = true := by simp [retries, caught, retryable]
          exact .waited retried (clock.trans began) early (by simp [log, Clock.pass]) slept
    · rename_i outside
      obtain ⟨-, rfl, rfl⟩ := goes.raise_inv
      exact .refused (by simp [retries, outside]) rfl

/-! ## The loop -/

/-- No sleep reached past the deadline when it was requested. -/
def InTime (deadline : ℚ) (log : List RetryEvent) : Prop :=
  ∀ requestedAt seconds, .slept requestedAt seconds ∈ log → requestedAt + seconds ≤ deadline

/-- At the head of the loop. An attempt and the sleep behind it take ten seconds, or they reach the
deadline; so every ten seconds of the window leave room for one attempt. -/
structure Waiting (deadline : ℚ) (w : Clock) : Prop where
  few : (attempts w.log).length ≤ 60
  late : min deadline (deadline - maxMigrationWaitSeconds +
    migrationRetryDelaySeconds * (attempts w.log).length) ≤ w.now
  failed : ∀ outcome ∈ attempts w.log, ∃ e, outcome = .error e ∧ retries e = true
  inTime : InTime deadline w.log

/-- How the last attempt decides the outcome. -/
inductive Decides (deadline : ℚ) (log : List RetryEvent) (last out : Except PyExc Unit) : Prop
  | itself : last = out → (∀ e, out = .error e → retries e = false) → Decides deadline log last out
  | timedOut {before : List RetryEvent} {e : PyExc} {time : ℚ} : last = .error e →
      retries e = true → out = .error setupTimeout → deadline ≤ time →
      log = before ++ [.attempted last, .read time] → Decides deadline log last out

structure Ended (deadline : ℚ) (out : Except PyExc Unit) (w : Clock) : Prop where
  inTime : InTime deadline w.log
  decided : ∃ earlier last, attempts w.log = earlier ++ [last] ∧ earlier.length ≤ 60 ∧
    (∀ outcome ∈ earlier, ∃ e, outcome = .error e ∧ retries e = true) ∧
    Decides deadline w.log last out

theorem InTime.append {log more : List RetryEvent} (h : InTime deadline log)
    (rest : InTime deadline more) : InTime deadline (log ++ more) := by
  intro requestedAt seconds member
  rcases List.mem_append.mp member with old | new
  · exact h _ _ old
  · exact rest _ _ new

/-- Another turn only begins before the deadline, so the sixtieth failure was the last to wait. -/
theorem Waiting.waited {e : PyExc} {time : ℚ} (h : Waiting deadline w) (retried : retries e = true)
    (began : w.now ≤ time) (early : time < deadline)
    (log : w'.log = w.log ++ [.attempted (.error e), .read time,
      .slept time (min migrationRetryDelaySeconds (deadline - time))])
    (slept : time + min migrationRetryDelaySeconds (deadline - time) ≤ w'.now) :
    Waiting deadline w' := by
  have counted : attempts w'.log = attempts w.log ++ [.error e] := by
    rw [log, attempts_append]
    rfl
  have before : deadline - maxMigrationWaitSeconds +
      migrationRetryDelaySeconds * (attempts w.log).length ≤ time := by
    rcases min_le_iff.mp (h.late.trans began) with past | turn
    · exact absurd past (not_le.mpr early)
    · exact turn
  refine ⟨?_, ?_, fun outcome member => ?_, ?_⟩
  · have room : ((attempts w.log).length : ℚ) < 60 := by
      simp only [maxMigrationWaitSeconds, migrationRetryDelaySeconds] at before
      linarith
    have room' : (attempts w.log).length < 60 := by exact_mod_cast room
    simp only [counted, List.length_append, List.length_singleton]
    omega
  · refine le_trans ?_ slept
    simp only [counted, List.length_append, List.length_singleton, Nat.cast_add, Nat.cast_one]
    rcases min_choice migrationRetryDelaySeconds (deadline - time) with short | long
    · rw [short]
      exact (min_le_right _ _).trans (by linarith)
    · rw [long]
      exact (min_le_left _ _).trans (by linarith)
  · rw [counted, List.mem_append, List.mem_singleton] at member
    rcases member with old | rfl
    · exact h.failed _ old
    · exact ⟨e, rfl, retried⟩
  · rw [log]
    refine h.inTime.append fun requestedAt seconds member => ?_
    simp only [List.mem_cons, RetryEvent.slept.injEq, reduceCtorEq, false_or, List.not_mem_nil,
      or_false] at member
    obtain ⟨rfl, rfl⟩ := member
    linarith [min_le_right migrationRetryDelaySeconds (deadline - requestedAt)]

/-- The last turn. -/
theorem Waiting.ended {last out : Except PyExc Unit} {more : List RetryEvent}
    (h : Waiting deadline w) (log : w'.log = w.log ++ more) (counted : attempts more = [last])
    (quiet : InTime deadline more) (decides : Decides deadline w'.log last out) :
    Ended deadline out w' where
  inTime := log ▸ h.inTime.append quiet
  decided := ⟨attempts w.log, last, by rw [log, attempts_append, counted], h.few, h.failed, decides⟩

theorem attemptOnce_turn : Triple answer (fun _ _ => True) (Waiting deadline)
    (attemptOnce deadline) (Triple.Turned (Waiting deadline) (Ended deadline)) := by
  intro w trace r w' waiting ran _
  cases attemptOnce_inv ran with
  | succeeded log =>
      exact waiting.ended log rfl (by simp [InTime]) (.itself rfl nofun)
  | refused other log =>
      refine waiting.ended log rfl (by simp [InTime]) (.itself rfl fun e same => ?_)
      cases same
      exact other
  | timedOut retried late log =>
      exact waiting.ended log rfl (by simp [InTime]) (.timedOut rfl retried rfl late log)
  | waited retried began early log slept => exact waiting.waited retried began early log slept

theorem attemptOnce_straight : (attemptOnce deadline).Straight fun _ => True := by
  refine .rescue (.bind (.perform trivial) fun _ => trivial) fun error => ?_
  split
  · refine .bind (.perform trivial) fun _ => ?_
    split
    · refine .bind (.perform trivial) fun now => ?_
      dsimp only
      split
      · trivial
      · exact .bind (.perform trivial) fun _ => trivial
    · trivial
  · trivial

theorem attempts_grow {r : Except PyExc (Option Unit)}
    (ran : Runs answer (attemptOnce deadline) w trace r w') :
    (attempts w'.log).length = (attempts w.log).length + 1 := by
  cases attemptOnce_inv ran <;> simp [*, attempts]

theorem attempting_halts (waiting : Waiting deadline w) :
    Halts answer (attemptOnce deadline).forever w := by
  refine Halts.forever (Waiting deadline) (fun w => 60 - (attempts w.log).length)
    (fun _ _ => .of_straight attemptOnce_straight) (fun w trace w' waiting ran => ?_) waiting
  have next : Waiting deadline w' := attemptOnce_turn w trace _ w' waiting ran fun _ _ => trivial
  have few := next.few
  have grown := attempts_grow ran
  exact ⟨next, by omega⟩

/-- The first reading of the clock, which sets the deadline. -/
theorem Waiting.first (time : ℚ) :
    Waiting (time + maxMigrationWaitSeconds) { now := time, log := [.read time] } where
  few := Nat.zero_le _
  late := (min_le_right _ _).trans (by simp [attempts])
  failed := nofun
  inTime := by simp [InTime]

theorem runWithRetry_halts (start : ℚ) : Halts answer runWithRetry { now := start } := by
  refine (Halts.of_straight (.perform (H := fun _ => True) trivial)).bindE fun trace r w ran => ?_
  obtain ⟨m, rfl, given⟩ := ran.perform_inv
  cases given
  exact attempting_halts (Waiting.first _)

/-- A run reads the clock, and what it does from there ends as `Ended` says. -/
theorem runWithRetry_ended {start : ℚ} {out : Except PyExc Unit}
    (ran : Runs answer runWithRetry { now := start } trace out w) :
    ∃ first, w.log.head? = some (.read first) ∧
      Ended (first + maxMigrationWaitSeconds) out w := by
  rcases ran.bind_inv with ⟨e, -, failed⟩ | ⟨before, after, a, w₁, -, looked, rest⟩
  · obtain ⟨m, -, given⟩ := failed.perform_inv
    cases given
  obtain ⟨m, -, given⟩ := looked.perform_inv
  cases given
  refine ⟨start + m.elapsed, ?_, ?_⟩
  · refine rest.keeps (H := fun _ => True)
      (fun w => w.log.head? = some (.read (start + m.elapsed))) (fun c choice r s s' _ head given => ?_)
      (.any _) rfl
    cases c <;> cases given <;> simp [Clock.pass, head]
  · exact Triple.forever attemptOnce_turn _ _ _ _ (Waiting.first _) rest fun _ _ => trivial

/-! ## The retry loop as a whole -/

end RedditKafka.Migrations.Retry
