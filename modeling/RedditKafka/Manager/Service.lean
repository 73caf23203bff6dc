import RedditKafka.Async.Safety
import RedditKafka.Manager.StreamManager

/-!
# The running service

Any number of calls of `start_stream`, stop requests and cleanup sweeps on any
instances, and the tasks that they create, interleaved between single Redis
commands. A started stream is known by the number of its `start_stream` call.
-/
namespace RedditKafka
open Async Redis

inductive Thread where
  | start (call : Nat)
  | task (call : Nat) (role : Role)
  | stop (request : Nat)
  | sweep (number : Nat)
  deriving DecidableEq, Repr

inductive TaskState where
  | absent
  | created (task : Task)
  | alive (task : Task)
  | done (outcome : Except PyExc Unit)

def TaskState.isDone : TaskState → Bool
  | .done _ => true
  | _ => false

/-- The shared state, and after it what the development records about a run. -/
structure Service where
  redis : Store := {}
  tasks : Nat → Role → TaskState := fun _ _ => .absent
  /-- `_tasks` of an instance: the call whose task is kept under a stream id. -/
  locals : String → String → Option Nat := fun _ _ => none
  tokens : String → Bool := fun _ => false
  /-- The subreddit for which a stream id was generated. -/
  owner : String → Option String := fun _ => none
  /-- The instance and the subreddit of a `start_stream` call. -/
  calls : Nat → Option (String × String) := fun _ => none
  /-- The stream id of a stop request. -/
  requests : Nat → Option String := fun _ => none
  /-- The call that has claimed its subreddit and not written its metadata yet. -/
  claimant : String → Option Nat := fun _ => none
  /-- The call that wrote the stored metadata of a stream id. -/
  registered : String → Option Nat := fun _ => none
  /-- The stream id under which a call wrote its metadata. -/
  home : Nat → Option String := fun _ => none
  /-- A terminal status, or a deletion, was written by the call or its tasks. -/
  retired : Nat → Bool := fun _ => false
  /-- The worker of the call wrote its error status. -/
  failed : Nat → Bool := fun _ => false
  /-- The registration that a stop request read. -/
  seen : Nat → Option Nat := fun _ => none
  /-- The registration that the writer of the stop key of a stream id had read. -/
  stopper : String → Option Nat := fun _ => none
  /-- The status values of a registration, oldest first, by the key of its metadata. -/
  history : String → Option (List String) := fun _ => none

/-- The environment's part of one answer. -/
inductive Turn where
  | answered
  | named (text : String)
  | raised (e : PyExc)
  | raisedAfter (e : PyExc)
  | worker (c : WorkerEff) (r : Except PyExc c.Answer)

namespace Service

def setTask (s : Service) (call : Nat) (role : Role) (state : TaskState) : Service :=
  { s with tasks := Function.update s.tasks call (Function.update (s.tasks call) role state) }

/-- The record of a status value written to stored metadata. -/
def noteStatus (t : Thread) (key status : String) (s : Service) : Service :=
  let s := { s with
    history := Function.update s.history key ((s.history key).map fun values => values ++ [status]) }
  match t with
  | .task call role => { s with
      retired := Function.update s.retired call true
      failed := Function.update s.failed call (s.failed call || role = .stream) }
  | _ => s

/-- The record of the metadata of a new registration. -/
def noteMetadata (t : Thread) (key streamId status : String) (s : Service) : Service :=
  let s := { s with history := Function.update s.history key (some [status]) }
  match t with
  | .start call => { s with
      claimant := Function.update s.claimant streamId none
      registered := Function.update s.registered streamId (some call)
      home := Function.update s.home call (some streamId) }
  | _ => s

/-- The record of a deletion that took place. -/
def noteDelete (t : Thread) (key streamId : String) (s : Service) : Service :=
  let s := { s with
    registered := Function.update s.registered streamId none
    stopper := Function.update s.stopper streamId none
    history := Function.update s.history key none }
  match t with
  | .start call => { s with retired := Function.update s.retired call true }
  | _ => s

def noteClaim (t : Thread) (key streamId : String) (s : Service) : Service :=
  match t with
  | .start call =>
      if (s.calls call).map (fun c => subredditKey c.2) = some key then
        { s with claimant := Function.update s.claimant streamId (some call) }
      else s
  | _ => s

/-- What is recorded about one executed command, in the state before it. -/
def note (t : Thread) (c : RedisCmd) (s : Service) : Service :=
  match c with
  | .setNx key value none => if (s.redis.get key).isSome then s else s.noteClaim t key value
  | .set _ _ =>
      match t with
      | .stop request =>
          { s with
            stopper := Function.update s.stopper ((s.requests request).getD "") (s.seen request) }
      | _ => s
  | .hgetall _ =>
      match t with
      | .stop request =>
          { s with
            seen := Function.update s.seen request (s.registered ((s.requests request).getD "")) }
      | _ => s
  | .hset key mapping =>
      match mapping.lookup "status", mapping.lookup "id" with
      | some status, some streamId => s.noteMetadata t key streamId status
      | some status, none => s.noteStatus t key status
      | none, _ => s
  | .eval (.deleteStreamIfUnchanged key checkpoint stop subreddit all identity streamId status time
      purge) =>
      if (Script.run (.deleteStreamIfUnchanged key checkpoint stop subreddit all identity streamId
        status time purge) s.redis).1 then s.noteDelete t key streamId else s
  | _ => s

def execute (t : Thread) (c : RedisCmd) (s : Service) : Service :=
  { s.note t c with redis := (c.run s.redis).2 }

/-- One step of asyncio for a thread of the call. A cancelled await of a task ends with it, and
the wait for the manager's lock can be cancelled. -/
def taskAnswer (call : Nat) : (c : TaskEff) → Turn → Service →
    Option (Except PyExc c.Answer × Service)
  | .create task, .answered, s =>
      match s.tasks call task.role with
      | .absent => some (.ok (), s.setTask call task.role (.created task))
      | _ => none
  | .createLocal instanceId streamId task, .answered, s =>
      match s.locals instanceId streamId, s.tasks call task.role with
      | some _, _ => some (.ok false, s)
      | none, .absent =>
          some (.ok true, { s.setTask call task.role (.created task) with
            locals := Function.update s.locals instanceId
              (Function.update (s.locals instanceId) streamId (some call)) })
      | none, _ => none
  | .createLocal _ _ _, .raised e, s => if e.isException then none else some (.error e, s)
  | .waitFirst roles, .answered, s =>
      match roles.filter fun role => (s.tasks call role).isDone with
      | [] => none
      | done => some (.ok done, s)
  | .waitFirst _, .raised e, s => if e.isException then none else some (.error e, s)
  | .awaitTask role, .answered, s =>
      match s.tasks call role with
      | .done r => some (r, s)
      | _ => none
  | .awaitTask role, .raised e, s =>
      if (s.tasks call role).isDone && !e.isException then some (.error e, s) else none
  | .result role, .answered, s =>
      match s.tasks call role with
      | .done r => some (r, s)
      | _ => none
  | .gather roles, .answered, s =>
      if roles.all fun role => (s.tasks call role).isDone then some (.ok (), s) else none
  | .gather roles, .raised e, s =>
      if (roles.all fun role => (s.tasks call role).isDone) && !e.isException then
        some (.error e, s)
      else none
  | .isDone role, .answered, s => some (.ok (s.tasks call role).isDone, s)
  | .cancel _, .answered, s => some (.ok (), s)
  | .cancelLocal instanceId streamId, .answered, s => some (.ok (s.locals instanceId streamId), s)
  | .cancelLocal _ _, .raised e, s => if e.isException then none else some (.error e, s)
  | .awaitLocal started, .answered, s =>
      match s.tasks started .run with
      | .done r => some (r, s)
      | _ => none
  | .awaitLocal started, .raised e, s =>
      if (s.tasks started .run).isDone && !e.isException then some (.error e, s) else none
  | .forgetLocal instanceId streamId, .answered, s =>
      some (.ok (), { s with
        locals := Function.update s.locals instanceId
          (Function.update (s.locals instanceId) streamId none) })
  | .forgetLocal _ _, .raised e, s => if e.isException then none else some (.error e, s)
  | _, _, _ => none

end Service

namespace Thread

/-- The `start_stream` call that a thread belongs to. -/
def call : Thread → Option Nat
  | .start call => some call
  | .task call _ => some call
  | _ => none

end Thread

/-- With `faulty`, Redis and Postgres may fail; any await may be cancelled. -/
def mayRaise (faulty : Bool) (e : PyExc) : Bool := faulty || !e.isException

namespace Service

def answer (faulty : Bool) (t : Thread) : (c : Effect) → Turn → Service →
    Option (Except PyExc c.Answer × Service)
  | .redis c, .answered, s => some ((c.run s.redis).1, s.execute t c)
  | .redis _, .raised e, s => if mayRaise faulty e then some (.error e, s) else none
  | .redis c, .raisedAfter e, s =>
      if mayRaise faulty e then some (.error e, s.execute t c) else none
  | .persist, .answered, s => some (.ok (), s)
  | .persist, .raised e, s => if mayRaise faulty e then some (.error e, s) else none
  | .nowIso, .named text, s => some (.ok text, s)
  | .uuid4, .named id, s =>
      match t, s.owner id with
      | .start call, none =>
          if id = "" then none
          else some (.ok id, { s with
            owner := Function.update s.owner id (some (((s.calls call).map Prod.snd).getD "")) })
      | _, _ => none
  | .ownerToken instanceId, .named text, s =>
      let token := instanceId ++ ":" ++ text
      if s.tokens token then none
      else some (.ok token, { s with tokens := Function.update s.tokens token true })
  | .sleep, .answered, s => some (.ok (), s)
  | .sleep, .raised e, s => if e.isException then none else some (.error e, s)
  | .getSerializer _, .answered, s => some (.ok (), s)
  | .getSerializer _, .raised e, s => if e.isException then some (.error e, s) else none
  | .task c, turn, s => s.taskAnswer (t.call.getD 0) c turn
  | .worker c, .worker c' r, s => if h : c' = c then some (h ▸ r, s) else none
  | _, _, _ => none

end Service

inductive ServiceEvent where
  | startStream (instanceId subreddit config : String)
  | stopEndpoint (instanceId streamId : String)
  | stopStream (instanceId streamId : String)
  | requestStop (streamId : String)
  | cleanup
  | begin
  /-- A task is cancelled before its coroutine has run at all. -/
  | cancelledEarly (call : Nat) (role : Role)
  | elapse (milliseconds : Nat)

namespace Service

def beginRequest (request : Nat) (streamId : String) (p : Program Unit) (s : Service) :
    Option (Program Unit × Service) :=
  match s.requests request with
  | none => some (p, { s with requests := Function.update s.requests request (some streamId) })
  | some _ => none

def start (kafkaTopic : String) : Thread → ServiceEvent → Service → Option (Program Unit × Service)
  | .start call, .startStream instanceId subreddit config, s =>
      match s.calls call with
      | none => some (ignoring (StreamManager.startStream instanceId subreddit config),
          { s with calls := Function.update s.calls call (some (instanceId, subreddit)) })
      | some _ => none
  | .stop request, .stopEndpoint instanceId streamId, s =>
      s.beginRequest request streamId (StreamManager.stopEndpoint instanceId streamId)
  | .stop request, .stopStream instanceId streamId, s =>
      s.beginRequest request streamId (StreamManager.stopStream instanceId streamId)
  | .stop request, .requestStop streamId, s =>
      s.beginRequest request streamId (StreamRegistry.requestStop streamId)
  | .sweep _, .cleanup, s => some (DeadStreamCleanup.cleanup, s)
  | .task call role, .begin, s =>
      match s.tasks call role with
      | .created task => some (task.program kafkaTopic, s.setTask call role (.alive task))
      | _ => none
  | _, _, _ => none

def finish (t : Thread) (r : Except PyExc Unit) (s : Service) : Service :=
  match t with
  | .task call role => s.setTask call role (.done r)
  | _ => s

def tick (event : ServiceEvent) (s : Service) : Option Service :=
  match event with
  | .elapse n => some { s with redis := s.redis.elapse n }
  | .cancelledEarly call role =>
      match s.tasks call role with
      | .created _ => some (s.setTask call role (.done (.error .cancelledError)))
      | _ => none
  | _ => none

end Service

def serviceMachine (faulty : Bool) (kafkaTopic : String) :
    Machine Effect Effect.Answer PyExc Service Thread Turn ServiceEvent where
  answer := Service.answer faulty
  start := Service.start kafkaTopic
  finish := Service.finish
  tick := Service.tick

end RedditKafka
