import RedditKafka.Registry.Commands

/-!
# The stream registry and the leases

`src/repositories/stream_registry.py` and `src/stream/lock.py`, and the sweep of
`src/tasks/dead_stream_cleanup.py`. The effects are shared with the manager: one
Redis command, one Postgres statement, a fresh name, or a step of asyncio.
-/
namespace RedditKafka
open Async Redis

/-- The role of a task among the tasks of one started stream. -/
inductive Role where
  | run
  | runner
  | watcher
  | stream
  | lock
  deriving DecidableEq, Repr

/-- The coroutine that a task has been created for. -/
inductive Task where
  | run (instanceId streamId subreddit : String) (lockToken : Option String)
  | runner (instanceId subreddit : String) (lockToken : Option String)
  | watcher (streamId : String)
  | stream (worker : StreamWorker)
  | lock (worker : StreamWorker)

def Task.role : Task → Role
  | .run _ _ _ _ => .run
  | .runner _ _ _ => .runner
  | .watcher _ => .watcher
  | .stream _ => .stream
  | .lock _ => .lock

/-- Steps of the event loop. Roles are those of the stream that the task belongs to. -/
inductive TaskEff where
  | create (task : Task)
  /-- The section under the manager's lock in `start_stream`: is the task new? -/
  | createLocal (instanceId streamId : String) (task : Task)
  | waitFirst (roles : List Role)
  | awaitTask (role : Role)
  /-- `Task.result` of a task that is done. -/
  | result (role : Role)
  | gather (roles : List Role)
  | isDone (role : Role)
  | cancel (role : Role)
  /-- The section under the manager's lock in `stop_stream`: the cancelled stream, if local. -/
  | cancelLocal (instanceId streamId : String)
  | awaitLocal (started : Nat)
  /-- The section under the manager's lock in `_run`. -/
  | forgetLocal (instanceId streamId : String)

abbrev TaskEff.Answer : TaskEff → Type
  | .createLocal _ _ _ => Bool
  | .waitFirst _ => List Role
  | .isDone _ => Bool
  | .cancelLocal _ _ => Option Nat
  | _ => Unit

inductive Effect where
  | redis (c : RedisCmd)
  /-- A statement against Postgres, with its commit. -/
  | persist
  | nowIso
  | uuid4
  /-- `f"{instance_id}:{uuid.uuid4()}"`. -/
  | ownerToken (instanceId : String)
  | sleep
  | task (c : TaskEff)
  /-- `get_serializer`, in the construction of a worker. -/
  | getSerializer (topicName : String)
  /-- Everything of a worker that only its own tasks read and write. -/
  | worker (c : WorkerEff)
  /-- The result of an operation reaches its caller. -/
  | reply (result : Bool)

abbrev Effect.Answer : Effect → Type
  | .redis c => c.Reply
  | .nowIso | .uuid4 | .ownerToken _ => String
  | .task c => c.Answer
  | .worker c => c.Answer
  | _ => Unit

/-- A coroutine of the service. -/
abbrev Program (α : Type) : Type 1 := Prog Effect Effect.Answer PyExc α

abbrev redis (c : RedisCmd) : Program c.Reply := Prog.perform (Effect.redis c)

def nowIso : Program String := Prog.perform Effect.nowIso

/-- Writes to Postgres are logged when they fail, and nothing else. -/
def persist : Program Unit := exceptException (Prog.perform Effect.persist) fun _ => pure ()

/-- A call whose result nobody looks at. -/
def ignoring {α : Type} (p : Program α) : Program Unit := do
  let _ ← p
  return ()

namespace StreamRegistry

def streamExists (subreddit existing : String) : PyExc :=
  .streamExistsError s!"stream already exists for subreddit={subreddit} (id={existing})"

/-- The mapping that `create_stream` writes and returns. -/
def newMeta (streamId subreddit config instanceId createdAt updatedAt : String) : Hash :=
  [("id", streamId), ("subreddit", subreddit), ("status", "starting"),
    ("instance_id", instanceId), ("config", config), ("created_at", createdAt),
    ("updated_at", updatedAt)]

/-- A value of a hash, where an empty or missing one counts as `None`. -/
def orNone (value : Option String) : Option String := if truthy value then value else none

/-- The set of an instance, for the calls that name one. -/
def indexInstance (instanceId : Option String) (streamId : String) : Program Unit :=
  match orNone instanceId with
  | none => pure ()
  | some instanceId => redis (.sadd (instanceKey instanceId) streamId)

/-- The end of `create_stream`, for the creator that holds the claim. -/
def register (streamId subreddit config : String) (instanceId : Option String) : Program Hash := do
  let createdAt ← nowIso
  let updatedAt ← nowIso
  redis (.hset (metaKey streamId)
    (newMeta streamId subreddit config (instanceId.getD "") createdAt updatedAt))
  redis (.sadd allKey streamId)
  indexInstance instanceId streamId
  persist
  return newMeta streamId subreddit config (instanceId.getD "") createdAt updatedAt

/-- The middle of `create_stream`: the claim on the subreddit. -/
def claim (streamId subreddit config : String) (instanceId : Option String) : Program Hash := do
  if ← redis (.setNx (subredditKey subreddit) streamId none) then
    register streamId subreddit config instanceId
  else
    let existing ← redis (.get (subredditKey subreddit))
    Prog.raise (streamExists subreddit (existing.getD "None"))

/-- The id that the subreddit keeps across restarts. -/
def resolveIdentity (subreddit candidateId : String) : Program (Option String) := do
  if ← redis (.setNx (identityKey subreddit) candidateId none) then return some candidateId
  else redis (.get (identityKey subreddit))

def createStream (subreddit config : String) (instanceId : Option String) : Program Hash := do
  let existing ← redis (.get (subredditKey subreddit))
  match orNone existing with
  | some existing =>
      let _ ← redis (.setNx (identityKey subreddit) existing none)
      Prog.raise (streamExists subreddit existing)
  | none =>
      let candidateId ← Prog.perform Effect.uuid4
      let streamId ← resolveIdentity subreddit candidateId
      match orNone streamId with
      | some streamId => claim streamId subreddit config instanceId
      | none => Prog.raise (.runtimeError s!"Unable to resolve stream identity for {subreddit}")

/-- The `config` field stays JSON text here. -/
def getStream (streamId : String) : Program Hash := do
  let data ← redis (.hgetall (metaKey streamId))
  if data = [] then Prog.raise (.streamNotFoundError streamId) else return data

def getStreamBySubreddit (subreddit : String) : Program (Option Hash) := do
  let sid ← redis (.get (subredditKey subreddit))
  match orNone sid with
  | some sid =>
      let data ← getStream sid
      return some data
  | none => return none

/-- Listed ids without metadata leave the list. -/
def dropStale (staleStreamIds : List String) : Program Unit :=
  if staleStreamIds = [] then pure () else redis (.srem allKey staleStreamIds)

def listStreams : Program (List Hash) := do
  let streamIds ← redis (.smembers allKey)
  if streamIds = [] then return []
  else
    let rows ← redis (.hgetallEach (streamIds.map metaKey))
    dropStale (((streamIds.zip rows).filter fun row => row.2 = []).map Prod.fst)
    return rows.filter fun data => data ≠ []

/-- The mapping that `update_status` writes. -/
def statusMapping (status updatedAt : String) (instanceId : Option String) : List (String × String) :=
  [("status", status), ("updated_at", updatedAt)] ++
    (instanceId.map fun instanceId => ("instance_id", instanceId)).toList

def updateStatus (streamId status : String) (instanceId : Option String) : Program Unit := do
  let updatedAt ← nowIso
  redis (.hset (metaKey streamId) (statusMapping status updatedAt instanceId))
  match instanceId with
  | none => pure ()
  | some instanceId => redis (.sadd (instanceKey instanceId) streamId)
  persist

def heartbeat (streamId instanceId : String) : Program Bool := do
  let now ← nowIso
  redis (.eval (.heartbeatIfActive (metaKey streamId) (instanceKey instanceId) instanceId now streamId))

def requestStop (streamId : String) : Program Unit := do
  let data ← getStream streamId
  let now ← nowIso
  redis (.set (stopRequestKey streamId) now)
  updateStatus streamId "stopping" (orNone (data.get "instance_id"))

def isStopRequested (streamId : String) : Program Bool :=
  redis (.keyExists (stopRequestKey streamId))

/-- Once deleted, a stream leaves the set of the instance that the metadata named. -/
def dropInstance (deleted : Bool) (instanceId : Option String) (streamId : String) : Program Unit :=
  match deleted, orNone instanceId with
  | true, some instanceId => redis (.srem (instanceKey instanceId) [streamId])
  | _, _ => pure ()

def deleteStream (streamId : String) (expectedStatus expectedUpdatedAt : Option String)
    (purgeCheckpoint : Bool) : Program Bool := do
  let data ← redis (.hgetall (metaKey streamId))
  match orNone (data.get "subreddit") with
  | none => return false
  | some subreddit =>
      let deleted ← redis (.eval (.deleteStreamIfUnchanged (metaKey streamId)
        (checkpointKey streamId) (stopRequestKey streamId) (subredditKey subreddit) allKey
        (identityKey subreddit) streamId (expectedStatus.getD "") (expectedUpdatedAt.getD "")
        (if purgeCheckpoint then "1" else "0")))
      dropInstance deleted (data.get "instance_id") streamId
      return deleted

def setCheckpoint (streamId : String) (lastCommentId lastProcessedAt : Option String) :
    Program Unit :=
  match (lastCommentId.map fun v => ("last_comment_id", v)).toList ++
      (lastProcessedAt.map fun v => ("last_processed_at", v)).toList with
  | [] => pure ()
  | mapping => do
      let now ← nowIso
      redis (.hset (checkpointKey streamId) (mapping ++ [("updated_at", now)]))

def getCheckpoint (streamId : String) : Program Checkpoint := do
  let data ← redis (.hgetall (checkpointKey streamId))
  return ⟨data.get "last_comment_id", data.get "last_processed_at", data.get "updated_at"⟩

end StreamRegistry

namespace DistributedLockManager

def acquireLock (subreddit instanceId : String) (ttl : Int) : Program (Option String) := do
  let ownerToken ← Prog.perform (Effect.ownerToken instanceId)
  if ← redis (.setNx (lockKey subreddit) ownerToken (some ttl)) then return some ownerToken
  else
    let _ ← redis (.get (lockKey subreddit))
    return none

def refreshLock (subreddit ownerToken : String) (ttl : Int) : Program Bool :=
  redis (.eval (.refreshIfOwner (lockKey subreddit) ownerToken ttl))

def releaseLock (subreddit ownerToken : String) : Program Bool :=
  redis (.eval (.deleteIfOwner (lockKey subreddit) ownerToken))

def isLocked (subreddit : String) : Program Bool := redis (.keyExists (lockKey subreddit))

def getLockHolder (subreddit : String) : Program (Option String) := do
  let holder ← redis (.get (lockKey subreddit))
  return StreamRegistry.orNone holder

end DistributedLockManager

namespace DeadStreamCleanup
open StreamRegistry

def deadStatuses : List String := ["stopped", "error", "inactive"]

def isDeadStream (stream : Hash) : Bool := deadStatuses.contains ((stream.get "status").getD "")

/-- One turn of the loop over the listed streams. -/
def retire (stream : Hash) : Program Unit :=
  match isDeadStream stream, orNone (stream.get "id") with
  | true, some streamId =>
      exceptException
        (do
          let _ ← deleteStream streamId (orNone (stream.get "status"))
            (orNone (stream.get "updated_at")) false
          return ())
        fun _ => pure ()
  | _, _ => pure ()

def cleanup : Program Unit :=
  exceptException
    (do
      let streams ← listStreams
      Prog.forEach retire streams)
    fun _ => pure ()

end DeadStreamCleanup
end RedditKafka
