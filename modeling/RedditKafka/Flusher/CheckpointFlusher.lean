import RedditKafka.Async.Extension
import RedditKafka.Manager.Service

/-!
# The checkpoint flusher

`src/tasks/checkpoint_flusher.py` and the flusher's part of the shutdown in
`src/app.py`, beside the operations of the registry that write checkpoints,
metadata and indexes. `fromIsoformat` stands for `datetime.fromisoformat`, with
the time zone dropped; a naive datetime is known by a text.
-/
namespace RedditKafka
open Async Redis StreamRegistry

/-- A row of `stream_checkpoints`, without its keys and `updated_at`. -/
structure CheckpointRow where
  lastCommentId : Option String
  lastProcessedAt : Option String
  deriving DecidableEq, Repr

/-- What a flusher does apart from Redis commands. -/
inductive FlushEff where
  /-- The `INSERT .. ON CONFLICT DO UPDATE` for all rows, with its commit. -/
  | upsert (checkpoints : List (String × CheckpointRow))
  | isRunning (instanceId : String)
  | setRunning (instanceId : String) (running : Bool)
  /-- `wait_for` the loop task. Its timeout cancels the task, and is caught. -/
  | awaitLoop (instanceId : String)
  deriving DecidableEq

abbrev FlushEff.Answer : FlushEff → Type
  | .isRunning _ => Bool
  | _ => Unit

abbrev FlushAnswer : Extended Effect FlushEff → Type := Extended.Answer Effect.Answer FlushEff.Answer

abbrev FlushProgram (α : Type) : Type 1 := Prog (Extended Effect FlushEff) FlushAnswer PyExc α

/-- A coroutine of the service among the flushers. -/
abbrev beside {α : Type} (p : Program α) : FlushProgram α := p.lift FlushEff.Answer

namespace CheckpointFlusher

abbrev redis (c : RedisCmd) : FlushProgram c.Reply :=
  Prog.perform (A := FlushAnswer) (.inner (.redis c))

abbrev flusher (c : FlushEff) : FlushProgram c.Answer := Prog.perform (A := FlushAnswer) (.outer c)

/-- `last_processed_at_str.rstrip("Z")`, parsed. -/
def parseTime (fromIsoformat : String → Option String) (text : String) : Option String :=
  fromIsoformat (String.ofList (text.toList.reverse.dropWhile (· = 'Z')).reverse)

/-- `None` when the time cannot be parsed. -/
def parseCheckpointData (fromIsoformat : String → Option String) (checkpointData : Hash) :
    Option CheckpointRow :=
  match orNone (checkpointData.get "last_processed_at") with
  | none => some ⟨checkpointData.get "last_comment_id", none⟩
  | some text => (parseTime fromIsoformat text).map fun time =>
      ⟨checkpointData.get "last_comment_id", some time⟩

/-- The keys that the pipeline reads: two for each stream. -/
def pipelineKeys (streamIds : List String) : List String :=
  streamIds.flatMap fun streamId => [metaKey streamId, checkpointKey streamId]

/-- `results[index * 2]` and `results[index * 2 + 1]`, by index. -/
def pairs : List Hash → List (Hash × Hash)
  | streamMeta :: checkpointData :: rest => (streamMeta, checkpointData) :: pairs rest
  | _ => []

/-- The index entry of another instance's stream, or of one without metadata. -/
def isStale (instanceId : String) (streamMeta : Hash) : Bool :=
  streamMeta = [] || streamMeta.get "instance_id" ≠ some instanceId

def staleStreamIds (instanceId : String) (entries : List (String × Hash × Hash)) : List String :=
  (entries.filter fun entry => isStale instanceId entry.2.1).map Prod.fst

/-- The row that one entry gives, if any. -/
def rowOf (fromIsoformat : String → Option String) (instanceId : String) (streamMeta checkpointData : Hash) :
    Option CheckpointRow :=
  if isStale instanceId streamMeta then none
  else if checkpointData = [] then none
  else parseCheckpointData fromIsoformat checkpointData

def checkpointsToUpsert (fromIsoformat : String → Option String) (instanceId : String)
    (entries : List (String × Hash × Hash)) : List (String × CheckpointRow) :=
  entries.filterMap fun entry =>
    (rowOf fromIsoformat instanceId entry.2.1 entry.2.2).map fun row => (entry.1, row)

def dropStale (instanceId : String) (staleStreamIds : List String) : FlushProgram Unit :=
  if staleStreamIds = [] then pure () else redis (.srem (instanceKey instanceId) staleStreamIds)

def upsertCheckpoints (checkpoints : List (String × CheckpointRow)) : FlushProgram Unit :=
  if checkpoints = [] then pure () else flusher (.upsert checkpoints)

/-- The body of the `try` in `flush`. -/
def flushBatch (fromIsoformat : String → Option String) (instanceId : String) : FlushProgram Unit := do
  let streamIds ← redis (.smembers (instanceKey instanceId))
  if streamIds = [] then return ()
  else
    let results ← redis (.hgetallEach (pipelineKeys streamIds))
    let entries := streamIds.zip (pairs results)
    dropStale instanceId (staleStreamIds instanceId entries)
    upsertCheckpoints (checkpointsToUpsert fromIsoformat instanceId entries)

def flush (fromIsoformat : String → Option String) (instanceId : String) : FlushProgram Unit :=
  exceptException (flushBatch fromIsoformat instanceId) fun _ => pure ()

/-- `_flush_loop`. -/
def flushLoop (fromIsoformat : String → Option String) (instanceId : String) : FlushProgram Unit :=
  Prog.forever do
    if ← flusher (.isRunning instanceId) then
      match ← Prog.attempt (do
        Prog.perform (A := FlushAnswer) (.inner .sleep)
        flush fromIsoformat instanceId) with
      | .ok () => return none
      | .error e =>
          if e.isInstance [.cancelledError] then return some ()
          else if e.isException then return none
          else Prog.raise e
    else return some ()

def stop (instanceId : String) : FlushProgram Unit := do
  flusher (.setRunning instanceId false)
  flusher (.awaitLoop instanceId)

/-- The end of the lifespan, once the workers of the instance are stopped. -/
def shutdown (fromIsoformat : String → Option String) (instanceId : String) : FlushProgram Unit := do
  exceptException (flush fromIsoformat instanceId) fun _ => pure ()
  stop instanceId

end CheckpointFlusher

/-! ## The machine -/

inductive Job where
  | create (number : Nat)
  | save (streamId : String) (number : Nat)
  | status (number : Nat)
  | sweep (number : Nat)
  | delete (number : Nat)
  | flush (instanceId : String) (number : Nat)
  | loop (instanceId : String)
  | shutdown (instanceId : String)
  deriving DecidableEq, Repr

/-- The instance whose flusher a job belongs to. -/
def Job.flusher : Job → Option String
  | .flush instanceId _ | .loop instanceId | .shutdown instanceId => some instanceId
  | _ => none

/-- Both stores and the flushers, and after them what the development records about a run. -/
structure Flushing where
  redis : Store := {}
  /-- `stream_checkpoints`, by stream id. -/
  rows : String → Option CheckpointRow := fun _ => none
  /-- `_running` of the flusher of an instance. -/
  running : String → Bool := fun _ => false
  /-- The loop task of an instance is not done. -/
  looping : String → Bool := fun _ => false
  /-- The values that Redis has held as the checkpoint of a stream, oldest first. -/
  history : String → List Hash := fun _ => []
  /-- The position of the value that a row was made from. -/
  source : String → Option Nat := fun _ => none
  /-- The positions of the values that a flush has read and is to upsert. -/
  due : Job → String → Option Nat := fun _ _ => none
  /-- The number of reads by flushes. -/
  reads : Nat := 0
  /-- The read that a flush made last. -/
  readAt : Job → Nat := fun _ => 0
  /-- The read whose value is in a row. -/
  wroteAt : String → Nat := fun _ => 0
  /-- The stream id and the instance of metadata whose id is not in the index yet. -/
  pending : Nat → Option (String × String) := fun _ => none
  /-- An id left an index, or did not get into it, while its metadata named the instance. -/
  lost : String → Bool := fun _ => false
  /-- The shutdown flush of an instance has begun. -/
  closing : String → Bool := fun _ => false
  /-- After that, a stream of the instance got a checkpoint, or the instance got a stream. -/
  late : String → Bool := fun _ => false
  /-- A step of the shutdown of an instance failed. -/
  failed : String → Bool := fun _ => false
  /-- The shutdown of an instance has come to its end. -/
  completed : String → Bool := fun _ => false

namespace Flushing

/-- The instance that the metadata of a stream names. -/
def ownerOf (s : Flushing) (streamId : String) : Option String :=
  s.redis.hget (metaKey streamId) "instance_id"

/-- What a row of the stream would be made of now, for the flusher of an instance. -/
def rowFor (fromIsoformat : String → Option String) (instanceId streamId : String) (s : Flushing) :
    Option CheckpointRow :=
  CheckpointFlusher.rowOf fromIsoformat instanceId (s.redis.hashes (metaKey streamId))
    (s.redis.hashes (checkpointKey streamId))

/-- The record of a checkpoint that was written. -/
def noteCheckpoint (streamId : String) (mapping : List (String × String)) (s : Flushing) : Flushing :=
  { s with
    history := Function.update s.history streamId (s.history streamId ++
      [(s.redis.hashes (checkpointKey streamId)).setFields mapping])
    late := fun instanceId =>
      s.late instanceId || (s.ownerOf streamId = some instanceId && s.closing instanceId) }

/-- The record of the metadata of a new registration. -/
def noteMetadata (number : Nat) (streamId instanceId : String) (s : Flushing) : Flushing :=
  { s with
    pending := Function.update s.pending number (some (streamId, instanceId))
    late := Function.update s.late instanceId (s.late instanceId || s.closing instanceId) }

/-- The record of an id that came into an index. -/
def noteIndexed (number : Nat) (key member : String) (s : Flushing) : Flushing :=
  match s.pending number with
  | some (streamId, instanceId) =>
      if key = instanceKey instanceId ∧ member = streamId then
        { s with
          pending := Function.update s.pending number none
          late := Function.update s.late instanceId (s.late instanceId || s.closing instanceId) }
      else s
  | none => s

/-- The record of ids that were taken out of an index. -/
def noteUnlisted (key : String) (members : List String) (s : Flushing) : Flushing :=
  { s with
    lost := fun instanceId => s.lost instanceId ||
      (key = instanceKey instanceId && members.any fun streamId => s.ownerOf streamId = some instanceId) }

/-- The record of a read by a flush. -/
def noteRead (fromIsoformat : String → Option String) (t : Job) (instanceId : String)
    (keys : List String) (s : Flushing) : Flushing :=
  { s with
    reads := s.reads + 1
    readAt := Function.update s.readAt t (s.reads + 1)
    due := Function.update s.due t fun streamId =>
      if metaKey streamId ∈ keys ∧ (s.rowFor fromIsoformat instanceId streamId).isSome then
        some ((s.history streamId).length - 1)
      else none }

def note (fromIsoformat : String → Option String) (t : Job) (c : RedisCmd) (s : Flushing) : Flushing :=
  match t, c with
  | .save streamId _, .hset _ mapping => s.noteCheckpoint streamId mapping
  | .create number, .hset _ mapping =>
      s.noteMetadata number ((mapping.lookup "id").getD "") ((mapping.lookup "instance_id").getD "")
  | .create number, .sadd key member => s.noteIndexed number key member
  | .shutdown instanceId, .smembers _ =>
      { s with closing := Function.update s.closing instanceId true }
  | .flush instanceId _, .hgetallEach keys | .loop instanceId, .hgetallEach keys
  | .shutdown instanceId, .hgetallEach keys => s.noteRead fromIsoformat t instanceId keys
  | _, .srem key members => s.noteUnlisted key members
  | _, _ => s

def execute (fromIsoformat : String → Option String) (t : Job) (c : RedisCmd) (s : Flushing) :
    Flushing :=
  { s.note fromIsoformat t c with redis := (c.run s.redis).2 }

/-- The statement has been committed. -/
def upsert (t : Job) (checkpoints : List (String × CheckpointRow)) (s : Flushing) : Flushing :=
  { s with
    rows := checkpoints.foldl (fun rows entry => Function.update rows entry.1 (some entry.2)) s.rows
    source := fun streamId =>
      if streamId ∈ checkpoints.map Prod.fst then s.due t streamId else s.source streamId
    wroteAt := fun streamId =>
      if streamId ∈ checkpoints.map Prod.fst then s.readAt t else s.wroteAt streamId
    due := Function.update s.due t fun _ => none }

/-- The record of an await that raised. -/
def fail (t : Job) (s : Flushing) : Flushing :=
  match t with
  | .shutdown instanceId => { s with failed := Function.update s.failed instanceId true }
  | .create number =>
      match s.pending number with
      | some (_, instanceId) => { s with
          pending := Function.update s.pending number none
          lost := Function.update s.lost instanceId true }
      | none => s
  | _ => s

/-- With `faulty`, anything may fail, and any await may be cancelled. -/
def answer (faulty : Bool) (fromIsoformat : String → Option String) (t : Job) :
    (c : Extended Effect FlushEff) → Turn → Flushing → Option (Except PyExc (FlushAnswer c) × Flushing)
  | .inner (.redis c), .answered, s => some ((c.run s.redis).1, s.execute fromIsoformat t c)
  | .inner (.redis c), .raisedAfter e, s =>
      if faulty then some (.error e, (s.execute fromIsoformat t c).fail t) else none
  | .inner .nowIso, .named text, s =>
      if (CheckpointFlusher.parseTime fromIsoformat text).isSome then some (.ok text, s) else none
  | .inner .uuid4, .named id, s => some (.ok id, s)
  | .inner .persist, .answered, s => some (.ok (), s)
  | .inner .sleep, .answered, s => some (.ok (), s)
  | .outer (.upsert checkpoints), .answered, s => some (.ok (), s.upsert t checkpoints)
  | .outer (.upsert checkpoints), .raisedAfter e, s =>
      if faulty then some (.error e, (s.upsert t checkpoints).fail t) else none
  | .outer (.isRunning instanceId), .answered, s => some (.ok (s.running instanceId), s)
  | .outer (.setRunning instanceId running), .answered, s =>
      some (.ok (), { s with running := Function.update s.running instanceId running })
  | .outer (.awaitLoop instanceId), .answered, s =>
      if s.looping instanceId then none else some (.ok (), s)
  | .inner (.redis _), .raised e, s | .inner .persist, .raised e, s | .inner .sleep, .raised e, s
  | .outer (.upsert _), .raised e, s | .outer (.awaitLoop _), .raised e, s =>
      if faulty then some (.error e, s.fail t) else none
  | _, _, _ => none

end Flushing

inductive FlushEvent where
  | createStream (instanceId subreddit config : String)
  | save (w : StreamWorker) (commentId : String)
  | updateStatus (streamId status : String)
  | cleanup
  | delete (streamId : String)
  | flush
  | startLoop
  | shutdown
  | elapse (milliseconds : Nat)

namespace Flushing

def start (fromIsoformat : String → Option String) : Job → FlushEvent → Flushing →
    Option (FlushProgram Unit × Flushing)
  | .create _, .createStream instanceId subreddit config, s =>
      if instanceId = "" then none
      else some (beside (ignoring (createStream subreddit config (some instanceId))), s)
  | .save streamId _, .save w commentId, s =>
      if w.streamId = streamId then
        some (beside (w.served (StreamWorker.saveCheckpointForCommentId commentId)), s)
      else none
  | .status _, .updateStatus streamId status, s =>
      some (beside (updateStatus streamId status none), s)
  | .sweep _, .cleanup, s => some (beside DeadStreamCleanup.cleanup, s)
  | .delete _, .delete streamId, s =>
      some (beside (ignoring (deleteStream streamId none none false)), s)
  | .flush instanceId _, .flush, s => some (CheckpointFlusher.flush fromIsoformat instanceId, s)
  | .loop instanceId, .startLoop, s =>
      if s.running instanceId then none
      else some (CheckpointFlusher.flushLoop fromIsoformat instanceId, { s with
        running := Function.update s.running instanceId true
        looping := Function.update s.looping instanceId true })
  | .shutdown instanceId, .shutdown, s => some (CheckpointFlusher.shutdown fromIsoformat instanceId, s)
  | _, _, _ => none

def finish (t : Job) (r : Except PyExc Unit) (s : Flushing) : Flushing :=
  match t, r with
  | .loop instanceId, _ => { s with looping := Function.update s.looping instanceId false }
  | .shutdown instanceId, .ok _ =>
      { s with completed := Function.update s.completed instanceId true }
  | _, _ => s

def tick (event : FlushEvent) (s : Flushing) : Option Flushing :=
  match event with
  | .elapse n => some { s with redis := s.redis.elapse n }
  | _ => none

end Flushing

/-- The service writes times that `fromIsoformat` can parse. -/
def flushMachine (faulty : Bool) (fromIsoformat : String → Option String) :
    Machine (Extended Effect FlushEff) FlushAnswer PyExc Flushing Job Turn FlushEvent where
  answer := Flushing.answer faulty fromIsoformat
  start := Flushing.start fromIsoformat
  finish := Flushing.finish
  tick := Flushing.tick

abbrev FlushConfig : Type 1 := Config (Extended Effect FlushEff) FlushAnswer PyExc Flushing Job

def flushConfig : FlushConfig := Config.initial {}

end RedditKafka
