import RedditKafka.Async.Machine
import RedditKafka.Stream.Worker

/-!
# The lifespan of the application

`lifespan` of `src/app.py` with what it calls in `src/db.py` and
`src/redis_client.py`, and the two periodic tasks that it starts and stops. One
process runs any number of lifespans, one after the other, and its module-level
names outlive each of them.
-/
namespace RedditKafka
open Async

/-- The module-level names that hold one client each: `_reddit_client`, `_kafka_producer`,
`_redis` and `_engine`. -/
inductive Client where
  | reddit
  | producer
  | redis
  | engine
  deriving DecidableEq, Repr

/-- The tasks of `DeadStreamCleanup` and `CheckpointFlusher`. -/
inductive Periodic where
  | cleanup
  | flusher
  deriving DecidableEq, Repr

/-- What `app.state` and the runner hold while the application serves. -/
structure Clients where
  redis : Nat
  reddit : Nat
  runnerReddit : Nat
  runnerProducer : Nat
  deriving DecidableEq, Repr

/-- Clients are numbered in the order of their construction. -/
inductive AppEff where
  | settings
  | construct (client : Client)
  | read (client : Client)
  | assign (client : Client) (value : Option Nat)
  | bindSessions (engine : Nat)
  | ping (redis : Nat)
  | isRunning (task : Periodic)
  | setRunning (task : Periodic) (running : Bool)
  | hasTask (task : Periodic)
  | createTask (task : Periodic) (redis : Nat)
  /-- `asyncio.wait_for(self._task, timeout=5)`. -/
  | waitFor (task : Periodic)
  | cancelTask (task : Periodic)
  | sleep
  /-- One `cleanup()` or `flush()`. -/
  | pass (task : Periodic) (redis : Nat)
  /-- The `yield`. -/
  | serve (clients : Clients)
  | stopAll
  /-- The call that ends a client: `close` of Reddit and Redis, `flush` of the producer,
  `dispose` of the engine. -/
  | close (client : Client) (value : Nat)
  | disconnect (redis : Nat)
  deriving DecidableEq, Repr

abbrev AppEff.Answer : AppEff → Type
  | .construct _ => Nat
  | .read _ => Option Nat
  | .isRunning _ | .hasTask _ => Bool
  | _ => Unit

abbrev AppProgram (α : Type) : Type 1 := Prog AppEff AppEff.Answer PyExc α

namespace App

abbrev await (c : AppEff) : AppProgram c.Answer := Prog.perform c

/-- A getter that constructs the client on its first call. -/
def getClient (client : Client) : AppProgram Nat := do
  match ← await (.read client) with
  | some value => return value
  | none =>
      let value ← await (.construct client)
      await (.assign client (some value))
      return value

def getRedditClient : AppProgram Nat := getClient .reddit

def getKafkaProducer : AppProgram Nat := getClient .producer

def getRedis : AppProgram Nat := getClient .redis

def initDb : AppProgram Unit := do
  let engine ← await (.construct .engine)
  await (.assign .engine (some engine))
  await (.bindSessions engine)

/-- A name is emptied only when it still holds the client that was ended. -/
def release (client : Client) (value : Nat) : AppProgram Unit := do
  if (← await (.read client)) = some value then await (.assign client none) else pure ()

/-- `_flush_kafka_producer`; how many messages were left is only logged. -/
def flushKafkaProducer : AppProgram Unit := do
  match ← await (.read .producer) with
  | none => return ()
  | some producer =>
      Prog.ensure (exceptException (await (.close .producer producer)) fun _ => pure ())
        (release .producer producer)

def closeRedis : AppProgram Unit := do
  match ← await (.read .redis) with
  | none => return ()
  | some redis =>
      exceptException
        (do
          await (.close .redis redis)
          await (.disconnect redis))
        fun _ => pure ()
      await (.assign .redis none)

def closeDb : AppProgram Unit := do
  match ← await (.read .engine) with
  | none => return ()
  | some engine =>
      await (.close .engine engine)
      await (.assign .engine none)

/-- `start` of either task. -/
def startPeriodic (task : Periodic) (redis : Nat) : AppProgram Unit := do
  if ← await (.isRunning task) then return ()
  await (.setRunning task true)
  await (.createTask task redis)

/-- `stop` of either task. -/
def stopPeriodic (task : Periodic) : AppProgram Unit := do
  await (.setRunning task false)
  if ← await (.hasTask task) then
    (await (.waitFor task)).rescue fun e =>
      if e.isInstance [.timeoutError] then await (.cancelTask task) else Prog.raise e
  else return ()

/-- `_cleanup_loop` and `_flush_loop`. -/
def periodicLoop (task : Periodic) (redis : Nat) : AppProgram Unit :=
  Prog.forever do
    if ← await (.isRunning task) then
      match ← Prog.attempt (do
        await .sleep
        await (.pass task redis)) with
      | .ok () => return none
      | .error e =>
          if e.isInstance [.cancelledError] then return some ()
          else if e.isException then return none
          else Prog.raise e
    else return some ()

abbrev startFlusher (redis : Nat) : AppProgram Unit := startPeriodic .flusher redis

abbrev stopFlusher : AppProgram Unit := stopPeriodic .flusher

abbrev startCleanup (redis : Nat) : AppProgram Unit := startPeriodic .cleanup redis

abbrev stopCleanup : AppProgram Unit := stopPeriodic .cleanup

/-- `_create_runner`: the clients that its closure keeps. -/
def createRunner : AppProgram (Nat × Nat) := do
  let reddit ← getRedditClient
  let producer ← getKafkaProducer
  return (reddit, producer)

/-- `lifespan` in front of its `yield`. -/
def startUp : AppProgram Clients := do
  await .settings
  initDb
  let redis ← getRedis
  await (.ping redis)
  let reddit ← getRedditClient
  let runner ← createRunner
  match ← await (.read .engine) with
  | none => Prog.raise (.runtimeError "Engine not initialized after init_db")
  | some _ =>
      startFlusher redis
      startCleanup redis
      return ⟨redis, reddit, runner.1, runner.2⟩

/-- `lifespan` behind its `yield`. All of `app.state` has been set by then. -/
def shutDown (clients : Clients) : AppProgram Unit := do
  stopCleanup
  await .stopAll
  flushKafkaProducer
  exceptException (await (.pass .flusher clients.redis)) fun _ => pure ()
  stopFlusher
  Prog.ensure (await (.close .reddit clients.reddit)) (release .reddit clients.reddit)
  closeRedis
  closeDb

def lifespan : AppProgram Unit := do
  let clients ← startUp
  await (.serve clients)
  shutDown clients

end App

/-! ## The process -/

inductive AppThread where
  | lifespan
  /-- A periodic task of the lifespan with this number. -/
  | loop (lifespan : Nat) (task : Periodic)
  deriving DecidableEq, Repr

structure Process where
  /-- The module-level names. -/
  name : Client → Option Nat := fun _ => none
  /-- The engine behind `_async_session_maker`. -/
  sessions : Option Nat := none
  constructed : Client → Nat := fun _ => 0
  /-- The clients for which the call that ends them was made. -/
  closed : List (Client × Nat) := []
  /-- How many lifespans have begun. -/
  lifespans : Nat := 0
  running : Nat → Periodic → Bool := fun _ _ => false
  /-- The Redis client of a task that was created. -/
  task : Nat → Periodic → Option Nat := fun _ _ => none
  /-- The task was created and is not done. -/
  looping : Nat → Periodic → Bool := fun _ _ => false
  /-- A lifespan has ended with an exception. -/
  failed : Bool := false
  /-- A lifespan has begun after one that ended with an exception. -/
  stale : Bool := false
  /-- A cancellation came through `close_redis`. -/
  cut : Bool := false

namespace Process

def construct (client : Client) (s : Process) : Process :=
  { s with constructed := Function.update s.constructed client (s.constructed client + 1) }

def assign (client : Client) (value : Option Nat) (s : Process) : Process :=
  { s with name := Function.update s.name client value }

def setRunning (n : Nat) (task : Periodic) (running : Bool) (s : Process) : Process :=
  { s with running := Function.update s.running n (Function.update (s.running n) task running) }

def createTask (n : Nat) (task : Periodic) (redis : Nat) (s : Process) : Process :=
  { s with
    task := Function.update s.task n (Function.update (s.task n) task (some redis))
    looping := Function.update s.looping n (Function.update (s.looping n) task true) }

def close (client : Client) (value : Nat) (s : Process) : Process :=
  { s with closed := (client, value) :: s.closed }

/-- An exception left the block of `close_redis`. -/
def interrupt (e : PyExc) (s : Process) : Process := { s with cut := s.cut || !e.isException }

/-- The lifespan whose objects a thread uses. -/
def number (t : AppThread) (s : Process) : Nat :=
  match t with
  | .lifespan => s.lifespans
  | .loop n _ => n

/-- A value, when nothing is raised. -/
def answers (t : AppThread) : (c : AppEff) → Process → Option (c.Answer × Process)
  | .settings, s | .ping _, s | .sleep, s | .pass _ _, s | .serve _, s | .stopAll, s
  | .cancelTask _, s | .disconnect _, s => some ((), s)
  | .construct client, s => some (s.constructed client, s.construct client)
  | .read client, s => some (s.name client, s)
  | .assign client value, s => some ((), s.assign client value)
  | .bindSessions engine, s => some ((), { s with sessions := some engine })
  | .isRunning task, s => some (s.running (s.number t) task, s)
  | .setRunning task running, s => some ((), s.setRunning (s.number t) task running)
  | .hasTask task, s => some ((s.task (s.number t) task).isSome, s)
  | .createTask task redis, s => some ((), s.createTask (s.number t) task redis)
  | .waitFor task, s => if s.looping (s.number t) task then none else some ((), s)
  | .close client value, s => some ((), s.close client value)

/-- Constructors and awaits may raise anything. `wait_for` is over only when the task is. -/
def raises (t : AppThread) (e : PyExc) : AppEff → Process → Option Process
  | .settings, s | .construct _, s | .ping _, s | .sleep, s | .pass _ _, s | .serve _, s
  | .stopAll, s => some s
  | .waitFor task, s => if s.looping (s.number t) task then none else some s
  | .close .redis value, s => some ((s.close .redis value).interrupt e)
  | .close client value, s => some (s.close client value)
  | .disconnect _, s => some (s.interrupt e)
  | .read _, _ | .assign _ _, _ | .bindSessions _, _ | .isRunning _, _ | .setRunning _ _, _
  | .hasTask _, _ | .createTask _ _, _ | .cancelTask _, _ => none

def answer (t : AppThread) (c : AppEff) (choice : Option PyExc) (s : Process) :
    Option (Except PyExc c.Answer × Process) :=
  match choice with
  | none => (s.answers t c).map fun a => (.ok a.1, a.2)
  | some e => (s.raises t e c).map fun s' => (.error e, s')

end Process

inductive AppEvent where
  | begin
  /-- The task was cancelled before its first step. -/
  | cancelled
  deriving DecidableEq, Repr

namespace Process

def start : AppThread → AppEvent → Process → Option (AppProgram Unit × Process)
  | .lifespan, .begin, s =>
      some (App.lifespan, { s with lifespans := s.lifespans + 1, stale := s.stale || s.failed })
  | .loop n task, .begin, s =>
      if s.looping n task then (s.task n task).map fun redis => (App.periodicLoop task redis, s)
      else none
  | .loop n task, .cancelled, s =>
      if s.looping n task then some (Prog.raise .cancelledError, s) else none
  | .lifespan, .cancelled, _ => none

def finish : AppThread → Except PyExc Unit → Process → Process
  | .lifespan, .ok _, s => s
  | .lifespan, .error _, s => { s with failed := true }
  | .loop n task, _, s =>
      { s with looping := Function.update s.looping n (Function.update (s.looping n) task false) }

end Process

/-- Lifespans one after the other, and their periodic tasks beside them. -/
def processMachine :
    Machine AppEff AppEff.Answer PyExc Process AppThread (Option PyExc) AppEvent where
  answer := Process.answer
  start := Process.start
  finish := Process.finish
  tick _ _ := none

abbrev ProcessAction : Type := Action AppThread (Option PyExc) AppEvent

abbrev ProcessConfig : Type 1 := Config AppEff AppEff.Answer PyExc Process AppThread

def processConfig : ProcessConfig := Config.initial {}

end RedditKafka
