import RedditKafka.Async.Solo
import RedditKafka.Stream.Worker

/-!
# One stream and its worker

The state that the stream coroutine of a worker reads and writes: its own
attributes, the stored checkpoint, the comments of the subreddit in posting
order, the messages handed to the Kafka client and their delivery reports.
Every external call may also raise any exception, before or after its effect.
-/
namespace RedditKafka
open Async

structure World where
  commentsSinceCheckpoint : Nat := 0
  deliveryErrors : List String := []
  stopEvent : Bool := false
  breaker : CircuitBreaker := {}
  clock : ℚ := 0
  /-- The hash `stream:checkpoint:{stream_id}`. -/
  checkpoint : Checkpoint := {}
  /-- Comments posted so far; a comment is known by its position. -/
  posted : Nat := 0
  /-- The oldest position that a listing still retains. -/
  retained : Nat := 0
  /-- The next position of the running listing. -/
  feed : Nat := 0
  /-- Comments given to the worker, with the checkpoint read by their session. -/
  given : List (Comment × Checkpoint) := []
  sessionCheckpoint : Checkpoint := {}
  /-- Messages accepted by `produce` and not reported yet, by the index of their comment. -/
  queued : List Nat := []
  reports : List (Nat × Option String) := []
  /-- Comments for which `record_error` was called as `CommentProcessingError`. -/
  recorded : List Nat := []
  /-- Positions accepted by `produce`, oldest first. -/
  published : List Nat := []
  /-- Positions `published` holds when a session reads its checkpoint. -/
  publishedBefore : List Nat := []
  /-- `posted` when the first session was opened. -/
  firstOpened : Option Nat := none
  workers : Nat := 0

/-- What is known about the software outside the repository. -/
structure Outside where
  /-- The comment may be the next one of the running listing. -/
  yields : World → Comment → Bool := fun _ _ => true
  /-- `serialize` may succeed, or fail, on the comment given last. -/
  serializes : World → Bool → Bool := fun _ _ => true
  /-- `flush` may return this number of messages. -/
  flushReturns : World → Nat → Bool := fun s n => n = s.queued.length
  /-- A write of this id to the checkpoint hash may fail and have no effect. -/
  losesCheckpoint : World → String → Bool := fun _ _ => true
  /-- `record_error` may raise. -/
  recorderFails : Bool := true

/-- The environment's part of one answer. -/
inductive Choice where
  | done
  | raised (e : PyExc)
  | raisedAfter (e : PyExc)
  | comment (c : Option Comment)
  | exhausted
  | text (t : String)
  | payload (p : Option ByteArray)
  | count (n : Nat)
  | later (q : ℚ)
  | flag (b : Bool)
  | children (cs : List Child)

/-- What happens by itself while the worker waits. -/
inductive Event where
  | begin
  | report (message : Nat) (error : Option String)
  | stop
  | post
  | retain (position : Nat)
  | clock (q : ℚ)
  deriving DecidableEq

namespace World

/-- The index of the comment given last. -/
def current (s : World) : Nat := s.given.length - 1

def readCheckpoint (s : World) : World :=
  { s with sessionCheckpoint := s.checkpoint, publishedBefore := s.published }

/-- The position at which a listing opened now starts. -/
def start (s : World) (skipExisting : Bool) : Nat :=
  if skipExisting then s.posted else min s.retained s.posted

def openComments (s : World) (skipExisting : Bool) : World :=
  { s with feed := s.start skipExisting, firstOpened := some (s.firstOpened.getD s.posted) }

def give (s : World) (c : Comment) : World :=
  { s with given := s.given ++ [(c, s.sessionCheckpoint)], feed := s.feed + 1 }

def produce (s : World) : World :=
  { s with queued := s.queued ++ [s.current], published := s.published ++ [s.feed - 1] }

def setCheckpoint (s : World) (lastCommentId lastProcessedAt updatedAt : String) : World :=
  { s with checkpoint := ⟨some lastCommentId, some lastProcessedAt, some updatedAt⟩ }

def recordError (s : World) (errorType : String) : World :=
  if errorType = "CommentProcessingError" then { s with recorded := s.recorded ++ [s.current] }
  else s

def report (s : World) (message : Nat) (error : Option String) : World :=
  { s with
    queued := s.queued.erase message
    reports := s.reports ++ [(message, error)]
    deliveryErrors := StreamWorker.onDelivery s.deliveryErrors error }

/-- Nothing of what is recorded about a run has happened yet. -/
def newHistory (s : World) : World :=
  { s with
    given := [], queued := [], reports := [], recorded := [], published := []
    publishedBefore := [], firstOpened := none }

/-- The attributes that `__init__` sets. -/
def begin (s : World) : World :=
  { s with
    commentsSinceCheckpoint := 0, deliveryErrors := [], stopEvent := false, breaker := {}
    workers := s.workers + 1 }

end World

/-- Calls that leave the process, or the event loop, and may raise. -/
def WorkerEff.external : WorkerEff → Bool
  | .subreddit | .getCheckpoint | .openComments _ | .nextComment | .produce _ _ _ | .poll | .flush
  | .updateStatus _ | .refreshLock _ | .heartbeat | .releaseLock | .waitFirst => true
  | _ => false

/-- Software outside the service does not raise the worker's `KafkaDeliveryError`. -/
def PyExc.foreign (e : PyExc) : Bool := !e.isInstance [.kafkaDeliveryError]

namespace Outside

variable (o : Outside)

/-- A successful answer. -/
def answers : (c : WorkerEff) → Choice → World → Option (c.Answer × World)
  | .getCheckpoint, .done, s => some (s.checkpoint, s.readCheckpoint)
  | .openComments skipExisting, .done, s => some ((), s.openComments skipExisting)
  | .nextComment, .comment none, s => some (.item none, s)
  | .nextComment, .comment (some c), s => if o.yields s c then some (.item c, s.give c) else none
  | .nextComment, .exhausted, s => some (.exhausted, s)
  | .nowIso, .text t, s => some (t, s)
  | .serialize _, .payload p, s => if o.serializes s p.isSome then some (p, s) else none
  | .produce _ _ _, .done, s => some ((), s.produce)
  | .flush, .count n, s => if o.flushReturns s n then some (n, s) else none
  | .setCheckpoint id time, .text t, s => some ((), s.setCheckpoint id time t)
  | .recordError errorType _ _, .done, s => some ((), s.recordError errorType)
  | .breakerRecordSuccess, .done, s => some ((), { s with breaker := s.breaker.recordSuccess })
  | .breakerRecordFailure e, .done, s =>
      some ((), { s with breaker := s.breaker.recordFailure e s.clock })
  | .commentsSinceCheckpoint, .done, s => some (s.commentsSinceCheckpoint, s)
  | .setCommentsSinceCheckpoint n, .done, s => some ((), { s with commentsSinceCheckpoint := n })
  | .takeDeliveryErrors, .done, s => some (s.deliveryErrors, { s with deliveryErrors := [] })
  | .stopIsSet, .done, s => some (s.stopEvent, s)
  | .setStop, .done, s => some ((), { s with stopEvent := true })
  | .refreshLock _, .flag b, s => some (b, s)
  | .waitFirst, .children cs, s => some (cs, s)
  | .subreddit, .done, s => some ((), s)
  | .sleep _, .done, s => some ((), s)
  | .poll, .done, s => some ((), s)
  | .updateStatus _, .done, s => some ((), s)
  | .heartbeat, .done, s => some ((), s)
  | .releaseLock, .done, s => some ((), s)
  | _, _, _ => none

/-- An exception instead of an answer; a timer can only be cancelled. -/
def raises : WorkerEff → Choice → World → Option (PyExc × World)
  | .sleep _, .raised e, s => if e.isException then none else some (e, s)
  | .serialize _, .raised e, s => if o.serializes s false && e.foreign then some (e, s) else none
  | .setCheckpoint id _, .raised e, s =>
      if e.isException && !o.losesCheckpoint s id then none else some (e, s)
  | .setCheckpoint id time, .raisedAfter e, s => some (e, s.setCheckpoint id time time)
  | .recordError errorType _ _, .raised e, s =>
      if o.recorderFails then some (e, s.recordError errorType) else none
  | c, .raised e, s => if c.external && e.foreign then some (e, s) else none
  | _, _, _ => none

def answer : (c : WorkerEff) → Choice → World → Option (Except PyExc c.Answer × World)
  | .breakerAdmit, .later q, s =>
      match s.breaker.enter s.clock q with
      | .ok b => some (.ok (), { s with breaker := b })
      | .error e => some (.error e, s)
  | c, choice, s =>
      match o.answers c choice s with
      | some (a, s') => some (.ok a, s')
      | none => (o.raises c choice s).map fun r => (.error r.1, r.2)

end Outside

def World.tick : Event → World → Option World
  | .begin, _ => none
  | .report message error, s => if message ∈ s.queued then some (s.report message error) else none
  | .stop, s => some { s with stopEvent := true }
  | .post, s => some { s with posted := s.posted + 1 }
  | .retain position, s => some { s with retained := position }
  | .clock q, s => some { s with clock := q }

/-- The stream coroutine of one worker. `restart` is what the next worker of the
stream runs once this one has ended; `none` when only one worker is studied. -/
def workerMachine (o : Outside) (restart : Option (Coroutine Unit)) :
    Machine WorkerEff WorkerEff.Answer PyExc World Unit Choice Event where
  answer _ := o.answer
  start _ request s :=
    if request = .begin then restart.map fun program => (program, s.begin) else none
  finish _ _ s := s
  tick := World.tick

/-- A worker that has just been started, as the first one of its history. -/
def workerConfig (program : Coroutine Unit) (s : World) :
    Config WorkerEff WorkerEff.Answer PyExc World Unit :=
  ⟨s.newHistory.begin, fun _ => some program⟩

/-- The worker of the concrete runs in this development. -/
def newsWorker : StreamWorker where
  subreddit := "news"
  instanceId := "i"
  streamId := "s"
  kafkaTopic := "reddit-comments"
  lockToken := "i:u"

/-! ## What one effect can do -/

/-- Effects that leave the state as it is, whatever their answer. -/
def WorkerEff.inert : WorkerEff → Bool
  | .subreddit | .sleep _ | .nowIso | .serialize _ | .poll | .flush | .updateStatus _
  | .commentsSinceCheckpoint | .stopIsSet | .refreshLock _ | .heartbeat | .releaseLock
  | .waitFirst => true
  | _ => false

namespace Outside

variable {o : Outside} {s s' : World} {choice : Choice}

/-- Apart from the breaker's refusal, an effect is answered or raises. -/
theorem answer_cases {c : WorkerEff} {r : Except PyExc c.Answer} (hc : c ≠ .breakerAdmit)
    (h : o.answer c choice s = some (r, s')) :
    (∃ a, r = .ok a ∧ o.answers c choice s = some (a, s')) ∨
      ∃ e, r = .error e ∧ o.raises c choice s = some (e, s') := by
  unfold answer at h
  split at h
  · exact absurd rfl hc
  · split at h
    · rename_i a s₂ given
      cases h
      exact .inl ⟨a, rfl, given⟩
    · simp only [Option.map_eq_some_iff] at h
      obtain ⟨⟨e, s₂⟩, raised, same⟩ := h
      cases same
      exact .inr ⟨e, rfl, raised⟩

theorem answers_inert {c : WorkerEff} {a : c.Answer} (hc : c.inert = true)
    (h : o.answers c choice s = some (a, s')) : s' = s := by
  unfold answers at h
  split at h <;> first | cases h; done | skip
  all_goals first
    | (cases h; rfl)
    | (split at h <;> cases h; rfl)
    | (simp only [WorkerEff.inert, Bool.false_eq_true] at hc)

theorem raises_inert {c : WorkerEff} {e : PyExc} (hc : c.inert = true)
    (h : o.raises c choice s = some (e, s')) :
    s' = s ∧ (e.isException = true → e.foreign = true) := by
  unfold raises at h
  split at h
  · split at h <;> cases h
    rename_i cancelled
    exact ⟨rfl, fun exception => absurd exception cancelled⟩
  · split at h <;> cases h
    rename_i possible
    exact ⟨rfl, fun _ => by simp_all⟩
  · simp only [WorkerEff.inert, Bool.false_eq_true] at hc
  · simp only [WorkerEff.inert, Bool.false_eq_true] at hc
  · simp only [WorkerEff.inert, Bool.false_eq_true] at hc
  · split at h <;> cases h
    rename_i possible
    exact ⟨rfl, fun _ => by simp_all⟩
  · cases h

/-- An inert effect leaves the state alone, and what it raises is not the worker's own. -/
theorem answer_inert {c : WorkerEff} {r : Except PyExc c.Answer} (hc : c.inert = true)
    (h : o.answer c choice s = some (r, s')) :
    s' = s ∧ ∀ e, r = .error e → e.isException = true → e.foreign = true := by
  rcases answer_cases (by rintro rfl; cases hc) h with ⟨a, rfl, given⟩ | ⟨e, rfl, raised⟩
  · exact ⟨answers_inert hc given, fun e same => by cases same⟩
  · obtain ⟨same, own⟩ := raises_inert hc raised
    exact ⟨same, fun e' equal => by cases equal; exact own⟩

end Outside
end RedditKafka
