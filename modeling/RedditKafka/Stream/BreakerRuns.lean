import Mathlib.Tactic.Linarith
import Mathlib.Tactic.NormNum
import Mathlib.Algebra.Order.Ring.Cast
import RedditKafka.Async.Machine
import RedditKafka.Stream.Worker

/-!
# One breaker under overlapping calls

Any number of calls of one breaker, with `record_success` and `reset` in
between. The wrapped coroutine of a call runs outside the lock, so its outcome
is recorded in whatever state the other calls have left the breaker in.
-/
namespace RedditKafka
open Async

namespace CircuitBreaker

/-- `__init__`. -/
def create (failureThreshold recoveryTimeout successThreshold : ℤ) (backoffMultiplier : ℚ)
    (maxBackoff : ℤ) : CircuitBreaker :=
  { failureThreshold, recoveryTimeout, successThreshold, backoffMultiplier, maxBackoff }

/-- The arguments that a breaker is meant for. -/
structure Configured (b : CircuitBreaker) : Prop where
  failureThreshold : 1 ≤ b.failureThreshold
  successThreshold : 1 ≤ b.successThreshold
  recoveryTimeout : 0 ≤ b.recoveryTimeout
  maxBackoff : b.recoveryTimeout ≤ b.maxBackoff
  backoffMultiplier : 1 ≤ b.backoffMultiplier

/-- The attributes that nothing changes. -/
def arguments (b : CircuitBreaker) : ℤ × ℤ × ℤ × ℚ × ℤ :=
  (b.failureThreshold, b.recoveryTimeout, b.successThreshold, b.backoffMultiplier, b.maxBackoff)

/-- What holds between any two steps. -/
structure Invariant (b : CircuitBreaker) : Prop where
  closed : b.state = .closed → b.failureCount < b.failureThreshold
  halfOpen : b.state = .halfOpen → b.successCount < b.successThreshold
  opened : b.state = .opened → b.lastFailureTime ≠ none
  lower : b.recoveryTimeout ≤ b.backoffSeconds
  upper : b.backoffSeconds ≤ b.maxBackoff

/-- A failure that is recorded now leaves an open breaker's backoff as it is: the failures since
the last success stay below the threshold, the backoff is at its cap, or neither the multiplier
nor the suggestion raises it. -/
def outlasts (b : CircuitBreaker) (exc : PyExc) : Bool :=
  decide (b.failureCount + 1 < b.failureThreshold) || decide (b.maxBackoff ≤ b.backoffSeconds) ||
    decide ((ErrorHandler.getBackoffDuration exc : ℤ) ≤ b.backoffSeconds) &&
      decide (b.backoffSeconds * b.backoffMultiplier < b.backoffSeconds + 1)

end CircuitBreaker

/-- The breaker, and after it what the development records about its run. -/
structure Watched where
  breaker : CircuitBreaker
  /-- The states before and behind each step that raised the backoff. -/
  raises : List (CircuitState × CircuitState) := []
  /-- How often the breaker has opened. -/
  trips : Nat := 0

def Watched.move (s : Watched) (b : CircuitBreaker) : Watched where
  breaker := b
  raises :=
    if s.breaker.backoffSeconds < b.backoffSeconds then
      s.raises ++ [(s.breaker.state, b.state)]
    else s.raises
  trips := if s.breaker.state ≠ .opened ∧ b.state = .opened then s.trips + 1 else s.trips

/-- The environment's part of one answer: clock readings, or what an effect of a wrapped
coroutine comes to. -/
inductive BreakerTurn where
  | reading (now later : ℚ)
  | outcome (c : WorkerEff) (r : Except PyExc c.Answer)

inductive BreakerEvent where
  | call
  | recordSuccess
  | reset
  deriving DecidableEq, Repr

namespace Watched

def answer : (c : WorkerEff) → BreakerTurn → Watched → Option (Except PyExc c.Answer × Watched)
  | .breakerAdmit, .reading now later, s =>
      match s.breaker.enter now later with
      | .ok b => some (.ok (), s.move b)
      | .error e => some (.error e, s)
  | .breakerRecordSuccess, .reading _ _, s => some (.ok (), s.move s.breaker.recordSuccess)
  | .breakerRecordFailure exc, .reading now _, s =>
      some (.ok (), s.move (s.breaker.recordFailure exc now))
  | .breakerAdmit, _, _ | .breakerRecordSuccess, _, _ | .breakerRecordFailure _, _, _ => none
  | c, .outcome c' r, s => if h : c' = c then some (h ▸ r, s) else none
  | _, _, _ => none

def tick (event : BreakerEvent) (s : Watched) : Option Watched :=
  match event with
  | .call => none
  | .recordSuccess => some (s.move s.breaker.recordSuccess)
  | .reset => some (s.move s.breaker.reset)

end Watched

/-- Call `n` wraps the `n`-th coroutine, which may record successes of its own. -/
def breakerMachine (factories : Nat → Coroutine Unit) :
    Machine WorkerEff WorkerEff.Answer PyExc Watched Nat BreakerTurn BreakerEvent where
  answer _ := Watched.answer
  start n event s := if event = .call then some (CircuitBreaker.call (factories n), s) else none
  finish _ _ s := s
  tick := Watched.tick

abbrev BreakerConfig : Type 1 := Config WorkerEff WorkerEff.Answer PyExc Watched Nat

/-- A breaker that no call has entered yet. -/
def breakerConfig (b : CircuitBreaker) : BreakerConfig := Config.initial { breaker := b }

/-! ## What one step leaves behind -/

namespace CircuitBreaker

variable {b b' : CircuitBreaker} {exc : PyExc} {now : ℚ}

theorem le_truncate {q : ℚ} {n : ℤ} (positive : 0 ≤ q) : n ≤ truncate q ↔ (n : ℚ) ≤ q := by
  rw [truncate, if_pos positive, Rat.le_floor_iff]

theorem truncate_lt {q : ℚ} {n : ℤ} (positive : 0 ≤ q) : truncate q < n ↔ q < n := by
  rw [truncate, if_pos positive, Rat.floor_lt_iff]

section backoff

variable (configured : b.Configured) (holds : b.Invariant)
include configured holds

theorem backoff_nonneg : 0 ≤ b.backoffSeconds := configured.recoveryTimeout.trans holds.lower

theorem backoff_le_multiplied : (b.backoffSeconds : ℚ) ≤ b.backoffSeconds * b.backoffMultiplier := by
  have nonneg : (0 : ℚ) ≤ b.backoffSeconds := by exact_mod_cast backoff_nonneg configured holds
  exact le_mul_of_one_le_right nonneg configured.backoffMultiplier

/-- The number that the next backoff is cut from. -/
theorem backoff_le_capped (suggested : ℤ) : (b.backoffSeconds : ℚ) ≤
    min (max (b.backoffSeconds * b.backoffMultiplier) suggested) b.maxBackoff := by
  apply le_min
  · exact (backoff_le_multiplied configured holds).trans (le_max_left _ _)
  · exact_mod_cast holds.upper

theorem capped_nonneg (suggested : ℤ) : (0 : ℚ) ≤
    min (max (b.backoffSeconds * b.backoffMultiplier) suggested) b.maxBackoff := by
  apply le_trans _ (backoff_le_capped configured holds suggested)
  exact_mod_cast backoff_nonneg configured holds

theorem le_nextBackoff (suggested : ℤ) : b.backoffSeconds ≤ b.nextBackoff suggested := by
  rw [nextBackoff, le_truncate (capped_nonneg configured holds suggested)]
  exact backoff_le_capped configured holds suggested

theorem nextBackoff_le (suggested : ℤ) : b.nextBackoff suggested ≤ b.maxBackoff := by
  rw [← Int.lt_add_one_iff, nextBackoff, truncate_lt (capped_nonneg configured holds suggested)]
  apply lt_of_le_of_lt (min_le_right _ _)
  push_cast
  linarith

/-- When the next backoff is no longer than the one in force. -/
theorem nextBackoff_le_iff (suggested : ℤ) : b.nextBackoff suggested ≤ b.backoffSeconds ↔
    b.maxBackoff ≤ b.backoffSeconds ∨ suggested ≤ b.backoffSeconds ∧
      b.backoffSeconds * b.backoffMultiplier < b.backoffSeconds + 1 := by
  rw [← Int.lt_add_one_iff, nextBackoff, truncate_lt (capped_nonneg configured holds suggested),
    min_lt_iff, max_lt_iff, ← Int.lt_add_one_iff (a := b.maxBackoff), ← Int.lt_add_one_iff (a := suggested)]
  push_cast
  constructor
  · rintro (⟨multiplied, lower⟩ | capped)
    · exact .inr ⟨by exact_mod_cast lower, multiplied⟩
    · exact .inl (by exact_mod_cast capped)
  · rintro (capped | ⟨lower, multiplied⟩)
    · exact .inr (by exact_mod_cast capped)
    · exact .inl ⟨multiplied, by exact_mod_cast lower⟩

end backoff

/-- A recorded failure opens the breaker with the next backoff, or is counted only. -/
theorem recordFailure_cases (b : CircuitBreaker) (exc : PyExc) (now : ℚ) :
    (b.recordFailure exc now).lastFailureTime = some now ∧
      (b.recordFailure exc now).arguments = b.arguments ∧
      ((b.state = .halfOpen ∨ b.failureThreshold ≤ b.failureCount + 1) ∧
          (b.recordFailure exc now).state = .opened ∧
          (b.recordFailure exc now).backoffSeconds =
            b.nextBackoff (ErrorHandler.getBackoffDuration exc) ∨
        b.failureCount + 1 < b.failureThreshold ∧ (b.recordFailure exc now).state = b.state ∧
          b.state ≠ .halfOpen ∧ (b.recordFailure exc now).failureCount = b.failureCount + 1 ∧
          (b.recordFailure exc now).backoffSeconds = b.backoffSeconds) := by
  unfold recordFailure
  cases b.state with
  | halfOpen => exact ⟨rfl, rfl, .inl ⟨.inl rfl, rfl, rfl⟩⟩
  | closed | opened =>
      simp only
      split
      · rename_i reached
        exact ⟨rfl, rfl, .inl ⟨.inr reached, rfl, rfl⟩⟩
      · rename_i below
        exact ⟨rfl, rfl, .inr ⟨by omega, rfl, nofun, rfl, rfl⟩⟩

/-- A recorded success closes a half-open breaker at the threshold, or leaves it as it is. -/
theorem recordSuccess_cases (b : CircuitBreaker) :
    b.recordSuccess.failureCount = 0 ∧ b.recordSuccess.arguments = b.arguments ∧
      b.recordSuccess.lastFailureTime = b.lastFailureTime ∧
      (b.state = .halfOpen ∧ b.recordSuccess.state = .closed ∧
          b.recordSuccess.backoffSeconds = b.recoveryTimeout ∨
        (b.state = .halfOpen → b.recordSuccess.successCount < b.successThreshold) ∧
          b.recordSuccess.state = b.state ∧ b.recordSuccess.backoffSeconds = b.backoffSeconds) := by
  unfold recordSuccess
  cases b.state with
  | closed | opened => exact ⟨rfl, rfl, rfl, .inr ⟨nofun, rfl, rfl⟩⟩
  | halfOpen =>
      simp only
      split
      · exact ⟨rfl, rfl, rfl, .inl ⟨trivial, rfl, rfl⟩⟩
      · rename_i below
        exact ⟨rfl, rfl, rfl, .inr ⟨fun _ => not_le.mp below, rfl, rfl⟩⟩

/-- A call enters a breaker that is not open, or one whose backoff is over. -/
theorem enter_cases {later : ℚ} (entered : b.enter now later = .ok b') :
    b.state ≠ .opened ∧ b' = b ∨ b.state = .opened ∧ b.shouldAttemptReset now = true ∧
      b' = { b with state := .halfOpen, successCount := 0 } := by
  unfold enter at entered
  split at entered
  · rename_i isOpen
    split at entered
    · rename_i elapsed
      cases entered
      exact .inr ⟨isOpen, elapsed, rfl⟩
    · cases entered
  · rename_i isClosed
    cases entered
    exact .inl ⟨by simp [isClosed], rfl⟩
  · rename_i isHalf
    cases entered
    exact .inl ⟨by simp [isHalf], rfl⟩

/-- The next attempt waits for the whole backoff since the last failure. -/
theorem shouldAttemptReset_over {failed : ℚ} (last : b.lastFailureTime = some failed)
    (attempt : b.shouldAttemptReset now = true) : (b.backoffSeconds : ℚ) ≤ now - failed := by
  simpa [shouldAttemptReset, last] using attempt

theorem Configured.of_arguments (h : b.Configured) (same : b'.arguments = b.arguments) :
    b'.Configured := by
  simp only [arguments, Prod.mk.injEq] at same
  obtain ⟨failures, timeout, successes, multiplier, cap⟩ := same
  constructor
  · exact failures ▸ h.failureThreshold
  · exact successes ▸ h.successThreshold
  · exact timeout ▸ h.recoveryTimeout
  · rw [timeout, cap]
    exact h.maxBackoff
  · exact multiplier ▸ h.backoffMultiplier

section steps

variable (configured : b.Configured) (holds : b.Invariant)
include configured holds

theorem recordSuccess_invariant : b.recordSuccess.Invariant := by
  obtain ⟨count, same, last, outcome⟩ := recordSuccess_cases b
  simp only [CircuitBreaker.arguments, Prod.mk.injEq] at same
  obtain ⟨failures, timeout, successes, -, cap⟩ := same
  have positive := configured.failureThreshold
  rcases outcome with ⟨-, closed, backoff⟩ | ⟨below, kept, backoff⟩
  · refine ⟨fun _ => ?_, fun half => ?_, fun isOpen => ?_, ?_, ?_⟩
    · omega
    · cases closed.symm.trans half
    · cases closed.symm.trans isOpen
    · rw [backoff, timeout]
    · rw [backoff, cap]
      exact configured.maxBackoff
  · refine ⟨fun _ => ?_, fun half => ?_, fun isOpen => ?_, ?_, ?_⟩
    · omega
    · rw [successes]
      exact below (kept.symm.trans half)
    · rw [last]
      exact holds.opened (kept.symm.trans isOpen)
    · rw [backoff, timeout]
      exact holds.lower
    · rw [backoff, cap]
      exact holds.upper

theorem recordFailure_invariant (exc : PyExc) (now : ℚ) : (b.recordFailure exc now).Invariant := by
  obtain ⟨last, same, outcome⟩ := recordFailure_cases b exc now
  simp only [CircuitBreaker.arguments, Prod.mk.injEq] at same
  obtain ⟨failures, timeout, -, -, cap⟩ := same
  have reached : (b.recordFailure exc now).lastFailureTime ≠ none := by simp [last]
  rcases outcome with ⟨-, opened, backoff⟩ | ⟨below, kept, whole, count, backoff⟩
  · refine ⟨fun closed => ?_, fun half => ?_, fun _ => reached, ?_, ?_⟩
    · cases opened.symm.trans closed
    · cases opened.symm.trans half
    · rw [backoff, timeout]
      exact holds.lower.trans (le_nextBackoff configured holds _)
    · rw [backoff, cap]
      exact nextBackoff_le configured holds _
  · refine ⟨fun _ => ?_, fun half => ?_, fun _ => reached, ?_, ?_⟩
    · omega
    · exact (whole (kept.symm.trans half)).elim
    · rw [backoff, timeout]
      exact holds.lower
    · rw [backoff, cap]
      exact holds.upper

theorem enter_invariant {later : ℚ} (entered : b.enter now later = .ok b') : b'.Invariant := by
  obtain ⟨-, rfl⟩ | ⟨-, -, rfl⟩ := enter_cases entered
  · exact holds
  · exact ⟨nofun, fun _ => configured.successThreshold, nofun, holds.lower, holds.upper⟩

/-- What a failure that is recorded by an open breaker does to the backoff. -/
theorem raised_iff_of_opened (isOpen : b.state = .opened) (exc : PyExc) (now : ℚ) :
    b.backoffSeconds < (b.recordFailure exc now).backoffSeconds ↔ b.outlasts exc = false := by
  have next := nextBackoff_le_iff configured holds (ErrorHandler.getBackoffDuration exc)
  have exact_ : b.outlasts exc = true ↔ b.failureCount + 1 < b.failureThreshold ∨
      b.nextBackoff (ErrorHandler.getBackoffDuration exc) ≤ b.backoffSeconds := by
    simp [outlasts, next, or_assoc]
  rw [← Bool.not_eq_true, exact_, not_or, not_lt, not_le]
  obtain ⟨-, -, ⟨half | reached, -, same⟩ | ⟨below, -, -, -, same⟩⟩ := recordFailure_cases b exc now
  · cases isOpen.symm.trans half
  · rw [same]
    exact (and_iff_right reached).symm
  · rw [same]
    exact iff_of_false (lt_irrefl _) fun reached => absurd reached.1 (not_le.mpr below)

end steps

theorem reset_invariant (configured : b.Configured) : b.reset.Invariant :=
  ⟨fun _ => configured.failureThreshold, nofun, nofun, le_rfl, configured.maxBackoff⟩

theorem create_invariant {failureThreshold recoveryTimeout successThreshold maxBackoff : ℤ}
    {backoffMultiplier : ℚ} (configured : (create failureThreshold recoveryTimeout successThreshold
      backoffMultiplier maxBackoff).Configured) :
    (create failureThreshold recoveryTimeout successThreshold backoffMultiplier
      maxBackoff).Invariant :=
  ⟨fun _ => configured.failureThreshold, nofun, nofun, le_rfl, configured.maxBackoff⟩

end CircuitBreaker

/-! ## Runs -/

open CircuitBreaker

variable {factories : Nat → Coroutine Unit} {a : Action Nat BreakerTurn BreakerEvent}
  {c c₀ d : BreakerConfig}

/-- What one step of any thread, or from outside, does to the breaker. -/
inductive BreakerMove (a : Action Nat BreakerTurn BreakerEvent) (c d : BreakerConfig) : Prop
  | same : d.state = c.state → BreakerMove a c d
  | enter (n : Nat) (now later : ℚ) (b : CircuitBreaker) : c.Awaits n .breakerAdmit →
      c.state.breaker.enter now later = .ok b → d.state = c.state.move b → BreakerMove a c d
  | success : d.state = c.state.move c.state.breaker.recordSuccess → BreakerMove a c d
  | failure (n : Nat) (exc : PyExc) (now : ℚ) : c.Awaits n (.breakerRecordFailure exc) →
      (∃ turn, a = .call n turn) → d.state = c.state.move (c.state.breaker.recordFailure exc now) →
      BreakerMove a c d
  | reset : a = .tick .reset → d.state = c.state.move c.state.breaker.reset → BreakerMove a c d

theorem Watched.answer_cases {e : WorkerEff} {turn : BreakerTurn} {s s' : Watched}
    {r : Except PyExc e.Answer} (answered : Watched.answer e turn s = some (r, s')) :
    s' = s ∨ (∃ now later b, e = .breakerAdmit ∧ s.breaker.enter now later = .ok b ∧ s' = s.move b) ∨
      s' = s.move s.breaker.recordSuccess ∨
      ∃ exc now, e = .breakerRecordFailure exc ∧ s' = s.move (s.breaker.recordFailure exc now) := by
  cases turn with
  | reading now later =>
      cases e with
      | breakerAdmit =>
          simp only [Watched.answer] at answered
          split at answered <;> cases answered
          · exact .inr (.inl ⟨now, later, _, rfl, ‹_›, rfl⟩)
          · exact .inl rfl
      | breakerRecordSuccess =>
          cases answered
          exact .inr (.inr (.inl rfl))
      | breakerRecordFailure exc =>
          cases answered
          exact .inr (.inr (.inr ⟨exc, now, rfl, rfl⟩))
      | _ => cases answered
  | outcome c' r' =>
      cases e with
      | breakerAdmit | breakerRecordSuccess | breakerRecordFailure => cases answered
      | _ =>
          simp only [Watched.answer] at answered
          split at answered <;> cases answered
          exact .inl rfl

theorem breaker_move (moved : (breakerMachine factories).next a c = some d) :
    BreakerMove a c d := by
  cases a with
  | call n turn =>
      obtain ⟨e, k, r, s, waits, answered, rfl⟩ := Machine.next_call moved
      rcases Watched.answer_cases answered with same | ⟨now, later, b, rfl, entered, same⟩ | same |
          ⟨exc, now, rfl, same⟩
      · exact .same same
      · exact .enter n now later b ⟨k, waits⟩ entered same
      · exact .success same
      · exact .failure n exc now ⟨k, waits⟩ ⟨turn, rfl⟩ same
  | unroll n =>
      obtain ⟨β, body, k, -, rfl⟩ := Machine.next_unroll moved
      exact .same rfl
  | finish n =>
      obtain ⟨r, -, rfl⟩ := Machine.next_finish moved
      exact .same rfl
  | start n event =>
      obtain ⟨p, s, -, started, rfl⟩ := Machine.next_start moved
      simp only [breakerMachine] at started
      split at started
      · cases started
        exact .same rfl
      · cases started
  | tick event =>
      obtain ⟨s, ticked, rfl⟩ := Machine.next_tick moved
      cases event with
      | call => cases ticked
      | recordSuccess =>
          cases ticked
          exact .success rfl
      | reset =>
          cases ticked
          exact .reset rfl rfl

theorem BreakerMove.arguments (move : BreakerMove a c d) :
    d.state.breaker.arguments = c.state.breaker.arguments := by
  cases move with
  | same same => rw [same]
  | enter n now later b _ entered same =>
      rw [same]
      obtain ⟨-, rfl⟩ | ⟨-, -, rfl⟩ := enter_cases entered <;> rfl
  | success same =>
      rw [same]
      exact (recordSuccess_cases _).2.1
  | failure n exc now _ _ same =>
      rw [same]
      exact (recordFailure_cases _ exc now).2.1
  | reset _ same =>
      rw [same]
      rfl

theorem BreakerMove.invariant (move : BreakerMove a c d)
    (configured : c.state.breaker.Configured) (holds : c.state.breaker.Invariant) : d.state.breaker.Invariant := by
  cases move with
  | same same =>
      rw [same]
      exact holds
  | enter n now later b _ entered same =>
      rw [same]
      exact enter_invariant configured holds entered
  | success same =>
      rw [same]
      exact recordSuccess_invariant configured holds
  | failure n exc now _ _ same =>
      rw [same]
      exact recordFailure_invariant configured holds exc now
  | reset _ same =>
      rw [same]
      exact reset_invariant configured

/-- The backoff only shrinks where the breaker recovers or is reset. -/
theorem BreakerMove.shrinks (move : BreakerMove a c d)
    (configured : c.state.breaker.Configured) (holds : c.state.breaker.Invariant)
    (shrunk : d.state.breaker.backoffSeconds < c.state.breaker.backoffSeconds) :
    c.state.breaker.state = .halfOpen ∧ d.state.breaker.state = .closed ∨ a = .tick .reset := by
  cases move with
  | same same =>
      rw [same] at shrunk
      exact absurd shrunk (lt_irrefl _)
  | enter n now later b _ entered same =>
      rw [same] at shrunk
      obtain ⟨-, rfl⟩ | ⟨-, -, rfl⟩ := enter_cases entered <;> exact absurd shrunk (lt_irrefl _)
  | success same =>
      rw [same] at shrunk ⊢
      obtain ⟨-, -, -, ⟨half, closed, -⟩ | ⟨-, -, kept⟩⟩ := recordSuccess_cases c.state.breaker
      · exact .inl ⟨half, closed⟩
      · exact absurd shrunk (not_lt.mpr kept.ge)
  | failure n exc now _ _ same =>
      rw [same] at shrunk
      obtain ⟨-, -, ⟨-, -, next⟩ | ⟨-, -, -, -, kept⟩⟩ :=
        recordFailure_cases c.state.breaker exc now
      · exact absurd shrunk (not_lt.mpr (next ▸ le_nextBackoff configured holds _))
      · exact absurd shrunk (not_lt.mpr kept.ge)
  | reset asked _ => exact .inr asked

/-- Only a recorded failure raises the backoff, and it leaves the breaker open. -/
theorem BreakerMove.raised (move : BreakerMove a c d) (holds : c.state.breaker.Invariant)
    (raised : c.state.breaker.backoffSeconds < d.state.breaker.backoffSeconds) :
    d.state.breaker.state = .opened ∧ ∃ n exc now turn, c.Awaits n (.breakerRecordFailure exc) ∧
      a = .call n turn ∧ d.state = c.state.move (c.state.breaker.recordFailure exc now) := by
  have lower := holds.lower
  cases move with
  | same same =>
      rw [same] at raised
      exact absurd raised (lt_irrefl _)
  | enter n now later b _ entered same =>
      rw [same] at raised
      obtain ⟨-, rfl⟩ | ⟨-, -, rfl⟩ := enter_cases entered <;> exact absurd raised (lt_irrefl _)
  | success same =>
      rw [same] at raised
      obtain ⟨-, -, -, ⟨-, -, timeout⟩ | ⟨-, -, kept⟩⟩ := recordSuccess_cases c.state.breaker
      · exact absurd raised (not_lt.mpr (timeout ▸ lower))
      · exact absurd raised (not_lt.mpr kept.le)
  | failure n exc now waits called same =>
      obtain ⟨turn, called⟩ := called
      refine ⟨?_, n, exc, now, turn, waits, called, same⟩
      rw [same] at raised ⊢
      obtain ⟨-, -, ⟨-, opened, -⟩ | ⟨-, -, -, -, kept⟩⟩ :=
        recordFailure_cases c.state.breaker exc now
      · exact opened
      · exact absurd raised (not_lt.mpr kept.le)
  | reset _ same =>
      rw [same] at raised
      exact absurd raised (not_lt.mpr lower)

section runs

variable {failureThreshold recoveryTimeout successThreshold maxBackoff : ℤ} {backoffMultiplier : ℚ}

theorem breaker_reaches {ok : Nat → WorkerEff → Watched → Prop} {b₀ : CircuitBreaker}
    (configured : b₀.Configured) (holds : b₀.Invariant)
    (h : (breakerMachine factories).ReachesUnder ok (breakerConfig b₀) c) :
    c.state.breaker.arguments = b₀.arguments ∧ c.state.breaker.Configured ∧
      c.state.breaker.Invariant := by
  induction h with
  | refl => exact ⟨rfl, configured, holds⟩
  | step _ _ moved ih =>
      obtain ⟨same, configured, holds⟩ := ih
      have move := breaker_move moved
      have kept := move.arguments
      exact ⟨kept.trans same, configured.of_arguments kept, move.invariant configured holds⟩

/-- In every state of every run the breaker's counters, its last failure and its backoff agree with
its state; the backoff only shrinks where the breaker recovers or is reset; and a call that finds
the breaker open is let through to its coroutine only when the backoff is over. -/
theorem breaker_invariants (factories : Nat → Coroutine Unit) (configured :
      (create failureThreshold recoveryTimeout successThreshold backoffMultiplier maxBackoff).Configured)
    (c : BreakerConfig) (h : (breakerMachine factories).Reaches (breakerConfig
      (create failureThreshold recoveryTimeout successThreshold backoffMultiplier maxBackoff)) c) :
    c.state.breaker.arguments =
        (failureThreshold, recoveryTimeout, successThreshold, backoffMultiplier, maxBackoff) ∧
      c.state.breaker.Invariant ∧
      (∀ a d, (breakerMachine factories).next a c = some d →
        d.state.breaker.backoffSeconds < c.state.breaker.backoffSeconds →
        c.state.breaker.state = .halfOpen ∧ d.state.breaker.state = .closed ∨ a = .tick .reset) ∧
      ∀ n now later s, c.Awaits n .breakerAdmit → c.state.breaker.state = .opened →
        (breakerMachine factories).answer n .breakerAdmit (.reading now later) c.state =
          some (.ok (), s) →
        ∃ failed, c.state.breaker.lastFailureTime = some failed ∧
          (c.state.breaker.backoffSeconds : ℚ) ≤ now - failed := by
  obtain ⟨same, configured, holds⟩ := breaker_reaches configured (create_invariant configured) h
  refine ⟨same, holds, fun a d moved shrunk => (breaker_move moved).shrinks configured holds shrunk, ?_⟩
  intro n now later s _ isOpen answered
  obtain ⟨failed, last⟩ := Option.ne_none_iff_exists'.mp (holds.opened isOpen)
  refine ⟨failed, last, ?_⟩
  simp only [breakerMachine, Watched.answer] at answered
  split at answered
  · rename_i b entered
    obtain ⟨closed, -⟩ | ⟨-, attempt, -⟩ := enter_cases entered
    · exact absurd isOpen closed
    · exact shouldAttemptReset_over last attempt
  · cases answered

/-- Failures that an open breaker records do not raise its backoff. -/
def calmWhileOpen (_ : Nat) (e : WorkerEff) (s : Watched) : Bool :=
  match e with
  | .breakerRecordFailure exc => !s.breaker.isOpen || s.breaker.outlasts exc
  | _ => true

/-- Every raise belongs to an opening of its own. -/
structure Watched.Stepwise (s : Watched) : Prop where
  trips : ∀ raise ∈ s.raises, raise.1 ≠ .opened ∧ raise.2 = .opened
  once : s.raises.length ≤ s.trips

theorem Watched.Stepwise.move {s : Watched} (h : s.Stepwise) {b : CircuitBreaker}
    (raised : s.breaker.backoffSeconds < b.backoffSeconds →
      s.breaker.state ≠ .opened ∧ b.state = .opened) : (s.move b).Stepwise := by
  have counted : s.trips ≤ (s.move b).trips := by
    simp only [Watched.move]
    split <;> omega
  by_cases higher : s.breaker.backoffSeconds < b.backoffSeconds
  · obtain ⟨before, behind⟩ := raised higher
    have raises : (s.move b).raises = s.raises ++ [(s.breaker.state, b.state)] := if_pos higher
    have trips : (s.move b).trips = s.trips + 1 := if_pos ⟨before, behind⟩
    constructor
    · intro raise there
      rw [raises, List.mem_append, List.mem_singleton] at there
      rcases there with there | rfl
      · exact h.trips raise there
      · exact ⟨before, behind⟩
    · rw [raises, trips, List.length_append]
      exact Nat.succ_le_succ h.once
  · have raises : (s.move b).raises = s.raises := if_neg higher
    constructor
    · rw [raises]
      exact h.trips
    · rw [raises]
      exact h.once.trans counted

theorem BreakerMove.stepwise (move : BreakerMove a c d) (configured : c.state.breaker.Configured)
    (holds : c.state.breaker.Invariant) (h : c.state.Stepwise)
    (calm : Machine.Allows (fun n e s => calmWhileOpen n e s = true) a c) : d.state.Stepwise := by
  have raised (raised : c.state.breaker.backoffSeconds < d.state.breaker.backoffSeconds) :
      c.state.breaker.state ≠ .opened ∧ d.state.breaker.state = .opened := by
    obtain ⟨opened, n, exc, now, turn, waits, rfl, same⟩ := move.raised holds raised
    refine ⟨fun isOpen => ?_, opened⟩
    have allowed := calm n turn _ rfl waits
    rw [same] at raised
    have grows := (raised_iff_of_opened configured holds isOpen exc now).mp raised
    simp [calmWhileOpen, CircuitBreaker.isOpen, isOpen, grows] at allowed
  cases move with
  | same same => exact same ▸ h
  | enter n now later b _ _ same =>
      rw [same] at raised ⊢
      exact h.move raised
  | success same =>
      rw [same] at raised ⊢
      exact h.move raised
  | failure n exc now _ _ same =>
      rw [same] at raised ⊢
      exact h.move raised
  | reset _ same =>
      rw [same] at raised ⊢
      exact h.move raised

/-- In every run in which the failures that an open breaker records leave its backoff alone, each
raise of the backoff is part of an opening, at most one for each; and these failures are exactly
those that `outlasts` names. -/
theorem backoff_raised_by_openings (factories : Nat → Coroutine Unit) (configured :
      (create failureThreshold recoveryTimeout successThreshold backoffMultiplier maxBackoff).Configured) :
    (∀ c, (breakerMachine factories).ReachesUnder (fun n e s => calmWhileOpen n e s = true)
        (breakerConfig (create failureThreshold recoveryTimeout successThreshold backoffMultiplier
          maxBackoff)) c → c.state.Stepwise) ∧
      ∀ c, (breakerMachine factories).Reaches (breakerConfig (create failureThreshold
          recoveryTimeout successThreshold backoffMultiplier maxBackoff)) c →
        c.state.breaker.state = .opened →
        ∀ exc now, c.state.breaker.backoffSeconds <
            (c.state.breaker.recordFailure exc now).backoffSeconds ↔
          c.state.breaker.outlasts exc = false := by
  constructor
  · intro c h
    induction h with
    | refl => exact ⟨nofun, le_rfl⟩
    | step reached calm moved ih =>
        obtain ⟨-, configured, holds⟩ :=
          breaker_reaches configured (create_invariant configured) reached
        exact (breaker_move moved).stepwise configured holds ih calm
  · intro c h isOpen exc now
    obtain ⟨-, configured, holds⟩ := breaker_reaches configured (create_invariant configured) h
    exact raised_iff_of_opened configured holds isOpen exc now

end runs

/-! ## Concrete runs -/

/-- A breaker that the first failure opens. -/
def touchyBreaker : CircuitBreaker := create 1 60 2 2 3600

theorem touchyBreaker_configured : touchyBreaker.Configured := by
  constructor <;> decide

/-- Each of its calls makes one request. -/
def requests (_ : Nat) : Coroutine Unit := await .subreddit

def timedOut : PyExc := ⟨"RequestException", [.requestException, .exception], "timeout"⟩

/-- The call enters the breaker. -/
def entered (n : Nat) (now : ℚ) : List (Action Nat BreakerTurn BreakerEvent) :=
  [.start n .call, .call n (.reading now now)]

/-- Its request fails, and the failure is recorded. -/
def failedAt (n : Nat) (now : ℚ) : List (Action Nat BreakerTurn BreakerEvent) :=
  [.call n (.outcome .subreddit (.error timedOut)), .call n (.reading now now), .finish n]

/-- The first call fails; the second one comes when the backoff is over. -/
theorem open_breaker_admits_later : ∃ c, (breakerMachine requests).Reaches
      (breakerConfig touchyBreaker) c ∧ c.state.breaker.state = .opened ∧ c.state.breaker.Invariant ∧
      ∃ failed, c.state.breaker.lastFailureTime = some failed ∧
        (c.state.breaker.backoffSeconds : ℚ) ≤ 130 - failed := by
  have run : ((breakerMachine requests).exec (entered 0 0 ++ failedAt 0 10 ++ [.start 1 .call])
      (breakerConfig touchyBreaker)).map (fun c => (c.state.breaker.state, c.awaited 1,
        (Watched.answer .breakerAdmit (.reading 130 130) c.state).map fun answer => answer.1.isOk)) =
      some (.opened, some .breakerAdmit, some true) := by decide +kernel
  obtain ⟨c, reached, seen⟩ := Machine.Reaches.of_exec_map run
  simp only [Prod.mk.injEq, Option.map_eq_some_iff] at seen
  obtain ⟨isOpen, waits, ⟨r, s⟩, answered, ok⟩ := seen
  obtain ⟨-, holds, -, late⟩ := breaker_invariants requests touchyBreaker_configured c reached
  refine ⟨c, reached, isOpen, holds, late 1 130 130 s (Config.awaits_iff.mpr waits) isOpen ?_⟩
  cases r with
  | ok => exact answered
  | error e => cases ok

/-- One failed call: the breaker has opened once, and its backoff was raised with that. -/
theorem single_failure_stepwise : ∃ c, (breakerMachine requests).Reaches
      (breakerConfig touchyBreaker) c ∧ c.state.raises = [(.closed, .opened)] ∧ c.state.Stepwise := by
  have run : ((breakerMachine requests).execUnder calmWhileOpen (entered 0 0 ++ failedAt 0 10)
      (breakerConfig touchyBreaker)).map (fun c => c.state.raises) = some [(.closed, .opened)] := by
    decide +kernel
  obtain ⟨c, reached, raises⟩ := Machine.ReachesUnder.of_execUnder_map run
  exact ⟨c, reached.mono fun _ _ _ _ => trivial, raises,
    (backoff_raised_by_openings requests touchyBreaker_configured).1 c reached⟩

/-- Two calls are in flight when the first of them opens the breaker; the failure of the second
one raises the backoff again. -/
theorem second_failure_raises : ∃ c, (breakerMachine requests).Reaches
      (breakerConfig touchyBreaker) c ∧ c.state.breaker.backoffSeconds = 240 ∧ ¬ c.state.Stepwise := by
  have run : ((breakerMachine requests).exec
      (entered 0 0 ++ entered 1 0 ++ failedAt 0 10 ++ failedAt 1 11)
      (breakerConfig touchyBreaker)).map (fun c => (c.state.breaker.backoffSeconds, c.state.raises)) =
      some (240, [(.closed, .opened), (.opened, .opened)]) := by decide +kernel
  obtain ⟨c, reached, seen⟩ := Machine.Reaches.of_exec_map run
  obtain ⟨backoff, raises⟩ := Prod.mk.inj seen
  refine ⟨c, reached, backoff, fun stepwise => ?_⟩
  exact (stepwise.trips (.opened, .opened) (by simp [raises])).1 rfl

end RedditKafka
