import RedditKafka.Registry.StreamRegistry

/-!
# The stream manager

`src/stream/manager.py`, the runner and the stop endpoint of `src/app.py`, and
the worker linked against the registry and the lock manager. The manager has a
lock manager, as the application gives it one.
-/
namespace RedditKafka
open Async Redis StreamRegistry DistributedLockManager

abbrev task (c : TaskEff) : Program c.Answer := Prog.perform (Effect.task c)

/-- `with suppress(asyncio.CancelledError)`. -/
def suppressCancelled (p : Program Unit) : Program Unit :=
  p.rescue fun e => if e.isInstance [.cancelledError] then pure () else Prog.raise e

/-! ## The worker's effects -/

def Child.role : Child → Role
  | .stream => .stream
  | .lock => .lock

def Role.child : Role → Option Child
  | .stream => some .stream
  | .lock => some .lock
  | _ => none

namespace StreamWorker

/-- What the worker asks of the registry, the lock manager and asyncio. Everything else it
awaits stays its own. -/
def serve (w : StreamWorker) : (c : WorkerEff) → Program c.Answer
  | .nowIso => nowIso
  | .getCheckpoint => getCheckpoint w.streamId
  | .setCheckpoint lastCommentId lastProcessedAt =>
      StreamRegistry.setCheckpoint w.streamId (some lastCommentId) (some lastProcessedAt)
  | .updateStatus status => updateStatus w.streamId status none
  | .refreshLock ttl => DistributedLockManager.refreshLock w.subreddit w.lockToken ttl
  | .heartbeat => ignoring (StreamRegistry.heartbeat w.streamId w.instanceId)
  | .releaseLock => ignoring (DistributedLockManager.releaseLock w.subreddit w.lockToken)
  | .createTask .stream => task (.create (.stream w))
  | .createTask .lock => task (.create (.lock w))
  | .waitFirst => do
      let done ← task (.waitFirst [.stream, .lock])
      return done.filterMap Role.child
  | .taskDone child => task (.isDone child.role)
  | .cancelTask child => task (.cancel child.role)
  | .awaitTask child => task (.awaitTask child.role)
  | .gather => task (.gather [.stream, .lock])
  | c => Prog.perform (Effect.worker c)

/-- A coroutine of the worker inside the service. -/
def served (w : StreamWorker) {α : Type} (p : Coroutine α) : Program α := p.link w.serve

theorem served_bind (w : StreamWorker) {α β : Type} (p : Coroutine α) (f : α → Coroutine β) :
    w.served (p >>= f) = w.served p >>= fun a => w.served (f a) :=
  Prog.link_bind _ _ _

theorem served_await (w : StreamWorker) (c : WorkerEff) : w.served (await c) = w.serve c :=
  Prog.link_perform _ _

theorem served_exceptException (w : StreamWorker) {α : Type} (p : Coroutine α)
    (handler : PyExc → Coroutine α) :
    w.served (exceptException p handler) =
      exceptException (w.served p) fun e => w.served (handler e) := by
  rw [exceptException, served, Prog.link_rescue, exceptException]
  congr 1
  funext e
  split <;> rfl

end StreamWorker

namespace StreamManager

/-- The runner that the application injects, behind `_invoke_runner`. -/
def invokeRunner (kafkaTopic instanceId subreddit : String) (lockToken : Option String) :
    Program Unit :=
  match lockToken with
  | none => Prog.raise (.runtimeError s!"No lock token supplied for subreddit {subreddit}")
  | some lockToken => do
      match ← getStreamBySubreddit subreddit with
      | none => Prog.raise (.runtimeError s!"Stream not found for subreddit {subreddit}")
      | some streamMeta =>
          match streamMeta.get "id" with
          | none => Prog.raise (.keyError "id")
          | some streamId => do
              let w : StreamWorker := { subreddit, instanceId, streamId, kafkaTopic, lockToken }
              Prog.perform (Effect.getSerializer kafkaTopic)
              w.served w.run

def waitForStopRequest (streamId : String) : Program Unit :=
  Prog.forever do
    if ← isStopRequested streamId then return some ()
    else
      Prog.perform Effect.sleep
      return none

/-- The body of the `try` in `_run`. A watcher that returns always returns `True`. -/
def superviseRunner (streamId : String) : Program Unit := do
  let done ← task (.waitFirst [.runner, .watcher])
  if .watcher ∈ done then
    task (.result .watcher)
    task (.cancel .runner)
    suppressCancelled (task (.awaitTask .runner))
  else task (.awaitTask .runner)
  updateStatus streamId "stopped" none

/-- The `except` clauses of `_run`. -/
def handleRunError (streamId : String) (e : PyExc) : Program Unit :=
  if e.isInstance [.cancelledError] then do
    task (.cancel .runner)
    suppressCancelled (task (.awaitTask .runner))
    updateStatus streamId "stopped" none
    Prog.raise e
  else if e.isInstance [.streamNotFoundError] then updateStatus streamId "error" none
  else if e.isException then updateStatus streamId "error" none
  else Prog.raise e

def stopRunner : Program Unit := do
  if ← task (.isDone .runner) then return ()
  else
    task (.cancel .runner)
    suppressCancelled (task (.awaitTask .runner))

/-- The `finally` of `_run`. -/
def closeRun (instanceId streamId : String) : Program Unit := do
  stopRunner
  task (.cancel .watcher)
  suppressCancelled (task (.awaitTask .watcher))
  task (.forgetLocal instanceId streamId)

def run (instanceId streamId subreddit : String) (lockToken : Option String) : Program Unit := do
  task (.create (.runner instanceId subreddit lockToken))
  task (.create (.watcher streamId))
  Prog.ensure ((superviseRunner streamId).rescue (handleRunError streamId))
    (closeRun instanceId streamId)

/-- The end of `start_stream`, once the lease is held. -/
def launch (instanceId streamId subreddit lockToken : String) : Program Unit := do
  if ← task (.createLocal instanceId streamId (.run instanceId streamId subreddit (some lockToken)))
  then updateStatus streamId "active" (some instanceId)
  else return ()

def startStream (instanceId subreddit config : String) : Program Hash := do
  let metadata ← createStream subreddit config (some instanceId)
  match ← acquireLock subreddit instanceId 60 with
  | none =>
      let _ ← deleteStream ((metadata.get "id").getD "") none none false
      Prog.raise (.runtimeError s!"Cannot acquire lock for subreddit {subreddit}")
  | some lockToken =>
      launch instanceId ((metadata.get "id").getD "") subreddit lockToken
      return metadata

def stopStream (instanceId streamId : String) : Program Unit := do
  requestStop streamId
  match ← task (.cancelLocal instanceId streamId) with
  | none => return ()
  | some started => suppressCancelled (task (.awaitLocal started))

/-- The stop endpoint of the application. -/
def stopEndpoint (instanceId streamId : String) : Program Unit := do
  let metadata ← getStream streamId
  if DeadStreamCleanup.isDeadStream metadata then return ()
  else stopStream instanceId streamId

end StreamManager

/-- The coroutine of a task. -/
def Task.program (kafkaTopic : String) : Task → Program Unit
  | .run instanceId streamId subreddit lockToken =>
      StreamManager.run instanceId streamId subreddit lockToken
  | .runner instanceId subreddit lockToken =>
      StreamManager.invokeRunner kafkaTopic instanceId subreddit lockToken
  | .watcher streamId => StreamManager.waitForStopRequest streamId
  | .stream w => w.served w.streamLoop
  | .lock w => w.served w.lockRefreshLoop

end RedditKafka
