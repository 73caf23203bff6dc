import Mathlib.Algebra.Order.Ring.Rat
import RedditKafka.Stream.ErrorHandler

/-!
# The circuit breaker

`src/stream/circuit_breaker.py`. Each section that holds the breaker's lock has
no await inside, so it is one function of the breaker and of the clock readings
it makes. Clock readings are seconds since the epoch.
-/
namespace RedditKafka

inductive CircuitState where
  | closed
  | opened
  | halfOpen
  deriving DecidableEq, Repr

structure CircuitBreaker where
  failureThreshold : ℤ := 5
  recoveryTimeout : ℤ := 60
  successThreshold : ℤ := 2
  backoffMultiplier : ℚ := 2
  maxBackoff : ℤ := 3600
  state : CircuitState := .closed
  failureCount : ℤ := 0
  successCount : ℤ := 0
  lastFailureTime : Option ℚ := none
  backoffSeconds : ℤ := recoveryTimeout
  deriving DecidableEq

/-- Python's `int()` on a number. -/
def truncate (q : ℚ) : ℤ := if 0 ≤ q then q.floor else q.ceil

namespace CircuitBreaker

def shouldAttemptReset (b : CircuitBreaker) (now : ℚ) : Bool :=
  match b.lastFailureTime with
  | none => true
  | some failed => decide ((b.backoffSeconds : ℚ) ≤ now - failed)

def timeUntilRetry (b : CircuitBreaker) (now : ℚ) : ℤ :=
  match b.lastFailureTime with
  | none => 0
  | some failed => max 0 (truncate (b.backoffSeconds - (now - failed)))

/-- The locked section at the start of `call`. `later` is the clock reading in the message. -/
def enter (b : CircuitBreaker) (now later : ℚ) : Except PyExc CircuitBreaker :=
  match b.state with
  | .opened =>
      if b.shouldAttemptReset now then
        .ok { b with state := .halfOpen, successCount := 0 }
      else
        .error (.runtimeError s!"Circuit breaker OPEN. Retry in {b.timeUntilRetry later}s")
  | .closed | .halfOpen => .ok b

def recordSuccess (b : CircuitBreaker) : CircuitBreaker :=
  let b := { b with failureCount := 0 }
  match b.state with
  | .halfOpen =>
      let b := { b with successCount := b.successCount + 1 }
      if b.successThreshold ≤ b.successCount then
        { b with state := .closed, backoffSeconds := b.recoveryTimeout }
      else b
  | .closed | .opened => b

/-- The backoff that an opening sets: multiplied, at least the suggestion, capped. -/
def nextBackoff (b : CircuitBreaker) (suggested : ℤ) : ℤ :=
  truncate (min (max (b.backoffSeconds * b.backoffMultiplier) suggested) b.maxBackoff)

def recordFailure (b : CircuitBreaker) (exc : PyExc) (now : ℚ) : CircuitBreaker :=
  let b := { b with
    failureCount := b.failureCount + 1, lastFailureTime := some now, successCount := 0 }
  let suggested := ErrorHandler.getBackoffDuration exc
  match b.state with
  | .halfOpen => { b with backoffSeconds := b.nextBackoff suggested, state := .opened }
  | .closed | .opened =>
      if b.failureThreshold ≤ b.failureCount then
        { b with backoffSeconds := b.nextBackoff suggested, state := .opened }
      else b

def isOpen (b : CircuitBreaker) : Bool := b.state = .opened

def reset (b : CircuitBreaker) : CircuitBreaker :=
  { b with
    state := .closed, failureCount := 0, successCount := 0
    backoffSeconds := b.recoveryTimeout, lastFailureTime := none }

/-- The breaker lets a call through: it is not open, or the backoff is over. -/
def Admits (b : CircuitBreaker) (now : ℚ) : Prop :=
  b.state = .opened → b.shouldAttemptReset now = true

instance (b : CircuitBreaker) (now : ℚ) : Decidable (b.Admits now) :=
  inferInstanceAs (Decidable (_ → _))

theorem enter_error {b : CircuitBreaker} {now later : ℚ} {e : PyExc}
    (h : b.enter now later = .error e) : ¬ b.Admits now := by
  unfold enter at h
  intro admits
  split at h
  · rename_i isOpen
    rw [if_pos (admits isOpen)] at h
    cases h
  · cases h
  · cases h

/-- A refusal is a plain `RuntimeError`: neither fatal, nor retryable, nor a rate limit. -/
theorem enter_refusal {b : CircuitBreaker} {now : ℚ} (later : ℚ) (h : ¬ b.Admits now) :
    b.enter now later =
      .error (.runtimeError s!"Circuit breaker OPEN. Retry in {b.timeUntilRetry later}s") := by
  simp only [Admits, Classical.not_imp, Bool.not_eq_true] at h
  simp [enter, h.1, h.2]

end CircuitBreaker
end RedditKafka
