import RedditKafka.Async.Program
import RedditKafka.Stream.CircuitBreaker

/-!
# The stream worker

`src/stream/worker.py`, with `CircuitBreaker.call` around it. The programs are
the coroutines of the class; their effects are what a coroutine awaits or asks
of another object, and the attributes that callbacks or other tasks touch too.
-/
namespace RedditKafka
open Async

-- Payloads are compared by core's instance, whatever else is imported.
attribute [instance (2000)] ByteArray.instDecidableEq

/-- The fields of a Reddit comment that the worker reads. -/
structure Comment where
  id : String
  author : Option String
  body : String
  deriving DecidableEq, Repr

/-- The dictionary of `StreamRegistry.get_checkpoint`. -/
structure Checkpoint where
  lastCommentId : Option String := none
  lastProcessedAt : Option String := none
  updatedAt : Option String := none
  deriving DecidableEq, Repr

structure RedditCommentMessage where
  subreddit : String
  authorId : String
  text : String
  timestamp : String
  deriving DecidableEq, Repr

namespace RedditCommentMessage

/-- A text field check of the model: no empty value, and a longest length. -/
def checkLength (value empty : String) (longest : Option (Nat × String)) : List String :=
  if value.length = 0 then [empty]
  else
    match longest with
    | some (bound, long) => if bound < value.length then [long] else []
    | none => []

def validateSubreddit (value : String) : List String :=
  checkLength value "Subreddit cannot be empty"
    (some (255, "Subreddit name too long (max 255 characters)"))

def validateAuthorId (value : String) : List String :=
  checkLength value "Author ID cannot be empty"
    (some (255, "Author ID too long (max 255 characters)"))

def validateText (value : String) : List String :=
  checkLength value "String should have at least 1 character" none

/-- Construction of the message. The timestamp comes from `isoformat()` with a
`Z` appended, which its validator accepts. -/
def build (m : RedditCommentMessage) : Except PyExc RedditCommentMessage :=
  match validateSubreddit m.subreddit ++ validateAuthorId m.authorId ++ validateText m.text with
  | [] => .ok m
  | errors => .error ⟨"ValidationError", [.valueError, .exception], "\n".intercalate errors⟩

theorem build_ok {m : RedditCommentMessage}
    (valid : validateSubreddit m.subreddit ++ validateAuthorId m.authorId ++ validateText m.text = []) :
    m.build = .ok m := by
  unfold build
  rw [valid]

end RedditCommentMessage

/-- The two tasks of `run`. -/
inductive Child where
  | stream
  | lock
  deriving DecidableEq, Repr

inductive WorkerEff where
  | subreddit
  | getCheckpoint
  | openComments (skipExisting : Bool)
  | nextComment
  | sleep (seconds : Nat)
  | nowIso
  | serialize (message : RedditCommentMessage)
  | produce (topic : String) (payload : ByteArray) (key : String)
  | poll
  | flush
  | setCheckpoint (lastCommentId lastProcessedAt : String)
  | recordError (errorType errorMessage : String) (isRecoverable : Bool)
  | updateStatus (status : String)
  | breakerAdmit
  | breakerRecordSuccess
  | breakerRecordFailure (exc : PyExc)
  | commentsSinceCheckpoint
  | setCommentsSinceCheckpoint (n : Nat)
  | takeDeliveryErrors
  | stopIsSet
  | setStop
  | refreshLock (ttl : Nat)
  | heartbeat
  | releaseLock
  | createTask (child : Child)
  | waitFirst
  | taskDone (child : Child)
  | cancelTask (child : Child)
  | awaitTask (child : Child)
  | gather
  deriving DecidableEq

/-- What the iteration over comments yields; `None` is yielded on idle polls. -/
inductive Yielded where
  | item (comment : Option Comment)
  | exhausted
  deriving DecidableEq, Repr

abbrev WorkerEff.Answer : WorkerEff → Type
  | .getCheckpoint => Checkpoint
  | .nextComment => Yielded
  | .nowIso => String
  | .serialize _ => Option ByteArray
  | .flush => Nat
  | .commentsSinceCheckpoint => Nat
  | .takeDeliveryErrors => List String
  | .stopIsSet => Bool
  | .refreshLock _ => Bool
  | .waitFirst => List Child
  | .taskDone _ => Bool
  | _ => Unit

/-- A coroutine of the worker. -/
abbrev Coroutine (α : Type) : Type 1 := Prog WorkerEff WorkerEff.Answer PyExc α

abbrev await (c : WorkerEff) : Coroutine c.Answer := Prog.perform c

/-- `except Exception`: a cancellation passes through. -/
def exceptException {E : Type} {A : E → Type} {α : Type} (p : Prog E A PyExc α)
    (handler : PyExc → Prog E A PyExc α) : Prog E A PyExc α :=
  p.rescue fun e => if e.isException then handler e else .raise e

theorem exceptException_uses {E : Type} {A : E → Type} {α : Type} {H : E → Prop}
    {p : Prog E A PyExc α} {handler : PyExc → Prog E A PyExc α} (hp : p.Uses H)
    (hh : ∀ e, (handler e).Uses H) : (exceptException p handler).Uses H :=
  hp.rescue fun e => by
    split
    · exact hh e
    · trivial

/-- `CircuitBreaker.call`. -/
def CircuitBreaker.call {α : Type} (coroFactory : Coroutine α) : Coroutine α := do
  await .breakerAdmit
  exceptException
    (do
      let result ← coroFactory
      await .breakerRecordSuccess
      return result)
    fun e => do
      await (.breakerRecordFailure e)
      Prog.raise e

/-- The attributes that `__init__` sets and nothing changes afterwards. -/
structure StreamWorker where
  subreddit : String
  instanceId : String
  streamId : String
  kafkaTopic : String
  lockToken : String
  checkpointInterval : Nat := 100
  lockRefreshInterval : Nat := 30
  lockTtl : Nat := 60
  lockRefreshTimeout : Nat := 10

/-- A Python string used as a condition. -/
def truthy (s : Option String) : Bool :=
  match s with
  | none => false
  | some text => text ≠ ""

namespace StreamWorker

variable (w : StreamWorker)

/-- `_on_delivery`: what one delivery report does to `_delivery_errors`. -/
def onDelivery (deliveryErrors : List String) (error : Option String) : List String :=
  match error with
  | none => deliveryErrors
  | some message => deliveryErrors ++ [message]

def flushDeliveryBatch : Coroutine Unit := do
  let remainingMessages ← exceptException (await .flush) fun e =>
    Prog.raise (.kafkaDeliveryError s!"Kafka flush failed: {e.message}")
  let deliveryErrors ← await .takeDeliveryErrors
  if remainingMessages ≠ 0 then
    Prog.raise (.kafkaDeliveryError s!"Kafka flush left {remainingMessages} message(s) queued")
  else
    match deliveryErrors with
    | [] => pure ()
    | first :: _ =>
        Prog.raise (.kafkaDeliveryError
          s!"Kafka failed to deliver {deliveryErrors.length} message(s): {first}")

def saveCheckpointForCommentId (commentId : String) : Coroutine Unit :=
  exceptException
    (do
      let now ← await .nowIso
      await (.setCheckpoint commentId now))
    fun _ => pure ()

def saveCheckpoint : Coroutine Unit := do
  let checkpoint ← await .getCheckpoint
  match checkpoint.lastCommentId with
  | some lastCommentId =>
      if lastCommentId ≠ "" then saveCheckpointForCommentId lastCommentId else pure ()
  | none => pure ()

/-- The comment is the one that the session's checkpoint names. -/
def alreadyProcessed (comment : Comment) (checkpoint : Checkpoint) : Bool :=
  truthy checkpoint.lastCommentId && checkpoint.lastCommentId = some comment.id

def messageOf (comment : Comment) (now : String) : RedditCommentMessage where
  subreddit := w.subreddit
  authorId := comment.author.getD "[deleted]"
  text := comment.body
  timestamp := now ++ "Z"

/-- The body of the `try` in `_process_comment`, up to a produced message. -/
def publish (comment : Comment) : Coroutine Unit := do
  let now ← await .nowIso
  let message ← Prog.ofExcept (w.messageOf comment now).build
  let serialized ← await (.serialize message)
  match serialized with
  | none => Prog.raise (.valueError "Serializer returned no payload")
  | some payload =>
      exceptException
        (do
          await (.produce w.kafkaTopic payload w.subreddit)
          await .poll)
        fun e => Prog.raise (.kafkaDeliveryError s!"Kafka rejected comment {comment.id}: {e.message}")

/-- The rest of that `try`: the checkpoint moves every `checkpoint_interval` comments. -/
def countComment (comment : Comment) : Coroutine Unit := do
  let n ← await .commentsSinceCheckpoint
  await (.setCommentsSinceCheckpoint (n + 1))
  if w.checkpointInterval ≤ n + 1 then
    flushDeliveryBatch
    saveCheckpointForCommentId comment.id
    await (.setCommentsSinceCheckpoint 0)
  else pure ()

def processComment (comment : Comment) (checkpoint : Checkpoint) : Coroutine Unit :=
  if alreadyProcessed comment checkpoint then pure ()
  else
    exceptException
      (do
        w.publish comment
        w.countComment comment)
      fun e =>
        if e.isInstance [.kafkaDeliveryError] then Prog.raise e
        else await (.recordError "CommentProcessingError" e.message true)

def handleFetchException (error : PyExc) : Coroutine Unit := do
  if error.isInstance [.tooManyRequests] then pure ()
  else if error.isInstance [.notFound, .forbidden] then await (.updateStatus "error")
  else pure ()
  Prog.raise error

/-- The body of `async for comment in subreddit.stream.comments(...)`. -/
def eachComment (checkpoint : Checkpoint) : Coroutine (Option Unit) := do
  match ← await .nextComment with
  | .exhausted => return some ()
  | .item comment =>
      if ← await .stopIsSet then return some ()
      await (.sleep 0)
      match comment with
      | none => return none
      | some comment =>
          await .breakerRecordSuccess
          w.processComment comment checkpoint
          return none

def fetchAndProcessComments : Coroutine Unit := do
  await .subreddit
  let checkpoint ← await .getCheckpoint
  let skipExisting := checkpoint.lastCommentId.isNone
  exceptException
    (do
      await (.openComments skipExisting)
      Prog.forever (w.eachComment checkpoint))
    handleFetchException

def handleError (error : PyExc) : Coroutine Unit := do
  await (.recordError error.name error.message (ErrorHandler.isRetryable error))
  if RecoveryStrategy.shouldAbandonStream error then
    await (.updateStatus "error")
    Prog.raise error
  else if RecoveryStrategy.shouldRetryWithBackoff error then
    await (.sleep (ErrorHandler.getBackoffDuration error))
  else if RecoveryStrategy.shouldRetryImmediately error then pure ()
  else Prog.raise error

/-- The body of `while True` in `_stream_loop`, for any session coroutine. -/
def eachSession (fetch : Coroutine Unit) : Coroutine (Option Unit) := do
  if ← await .stopIsSet then return some ()
  exceptException (CircuitBreaker.call fetch) handleError
  return none

def streamLoop : Coroutine Unit := Prog.forever (eachSession w.fetchAndProcessComments)

def recordLockLoss : Coroutine Unit := await .setStop

def lockRefreshLoop : Coroutine Unit :=
  Prog.forever do
    await (.sleep w.lockRefreshInterval)
    let success ← exceptException (await (.refreshLock w.lockTtl)) fun _ => do
      recordLockLoss
      Prog.raise (.lockLostError s!"Could not verify lock ownership for {w.subreddit}")
    if success then
      exceptException (await .heartbeat) fun _ => pure ()
      return none
    else
      recordLockLoss
      Prog.raise (.lockLostError s!"Lock ownership lost for {w.subreddit}")

/-- The inner `try` of `run`; the value is `shutdown_event`, the result its outcome. -/
def superviseTasks : Coroutine (Bool × Except PyExc Unit) := do
  match ← Prog.attempt (await .waitFirst) with
  | .error e => return (e.isInstance [.cancelledError], .error e)
  | .ok done =>
      if .lock ∈ done then
        match ← Prog.attempt (await (.awaitTask .lock)) with
        | .error e => return (true, .error e)
        | .ok () =>
            let lost := s!"Lock refresher stopped unexpectedly for {w.subreddit}"
            return (true, .error (.lockLostError lost))
      else
        let outcome ← Prog.attempt (await (.awaitTask .stream))
        match outcome with
        | .error e => return (e.isInstance [.cancelledError], .error e)
        | .ok () => return (false, .ok ())

def cancelIfRunning (child : Child) : Coroutine Unit := do
  if ← await (.taskDone child) then pure () else await (.cancelTask child)

/-- The inner `finally` of `run`. -/
def reapTasks : Coroutine Unit := do
  cancelIfRunning .stream
  cancelIfRunning .lock
  await .gather

/-- The outer `finally` of `run`. -/
def shutDown (shutdownEvent : Bool) : Coroutine Unit := do
  if shutdownEvent then exceptException saveCheckpoint fun _ => pure () else pure ()
  exceptException (await .releaseLock) fun _ => pure ()

def run : Coroutine Unit := do
  await (.createTask .stream)
  await (.createTask .lock)
  let (shutdownEvent, outcome) ← w.superviseTasks
  let outcome ← Prog.attempt (Prog.ensure (Prog.ofExcept outcome) reapTasks)
  Prog.ensure (Prog.ofExcept outcome) (shutDown shutdownEvent)

/-- `run` as one coroutine, for the studies of the stream alone: the loop until it ends or
is cancelled, then the outer `finally` with either value of its flag. -/
def lifetime : Coroutine Unit := do
  let outcome ← Prog.attempt w.streamLoop
  match ← Prog.attempt (await .waitFirst) with
  | .ok done => Prog.ensure (Prog.ofExcept outcome) (shutDown (.lock ∈ done))
  | .error e => Prog.ensure (Prog.raise e) (shutDown true)

end StreamWorker
end RedditKafka
