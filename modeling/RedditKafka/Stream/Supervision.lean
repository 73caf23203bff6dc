import RedditKafka.Async.Cooperative
import RedditKafka.Stream.WorkerFootprint

/-!
# `run` and its two tasks

`StreamWorker.run`, the stream task and the lock refresher on one event loop:
they interleave where they suspend, and nowhere else. What Reddit, Kafka, Redis
and Postgres answer is left open.
-/
namespace RedditKafka
open Async

/-- `run` itself, or one of the tasks that it creates. -/
inductive Actor where
  | run
  | child (child : Child)
  deriving DecidableEq

/-- An `asyncio` task. -/
inductive ChildTask where
  | absent
  | created
  | running
  | done (outcome : Except PyExc Unit)

def ChildTask.isDone : ChildTask → Bool
  | .done _ => true
  | _ => false

/-- The stop event and the tasks, and after them what the development records about a run. -/
structure Supervision where
  stopEvent : Bool := false
  tasks : Child → ChildTask := fun _ => .absent
  /-- `_record_lock_loss` was executed while the stream task was not finished. -/
  lostEarly : Bool := false
  /-- An await of `run` has ended with a cancellation of `run` itself. -/
  cancelled : Bool := false
  outcome : Option (Except PyExc Unit) := none

/-- What the environment would answer to each effect. -/
abbrev Replies : Type := (c : WorkerEff) → Except PyExc c.Answer

namespace Supervision

def setTask (s : Supervision) (child : Child) (task : ChildTask) : Supervision :=
  { s with tasks := Function.update s.tasks child task }

def loseLock (s : Supervision) : Supervision :=
  { s with stopEvent := true, lostEarly := s.lostEarly || !(s.tasks .stream).isDone }

def cancel (s : Supervision) : Supervision := { s with cancelled := true }

/-- The set `done` of `asyncio.wait`: the tasks that are finished when it returns. -/
def finished (s : Supervision) : List Child :=
  [.stream, .lock].filter fun child => (s.tasks child).isDone

/-- A cancellation of `run` while it waits for its tasks. -/
def interrupt {α : Type} (s : Supervision) : Except PyExc α → Option (Except PyExc α × Supervision)
  | .error e => if e.isException then none else some (.error e, s.cancel)
  | .ok _ => none

/-- Whether an answer cancels `run`. -/
def noteCancel {α : Type} (s : Supervision) (actor : Actor) : Except PyExc α → Supervision
  | .error e => if actor = .run ∧ e.isException = false then s.cancel else s
  | .ok _ => s

/-- A cancelled task is answered an exception at one of its awaits, as it may be without: what the
effects outside the event loop are answered is open. -/
def answer (actor : Actor) (c : WorkerEff) (reply : Replies) (s : Supervision) :
    Option (Except PyExc c.Answer × Supervision) :=
  match c with
  | .stopIsSet => some (.ok s.stopEvent, s)
  | .setStop => some (.ok (), s.loseLock)
  | .createTask child => some (.ok (), s.setTask child .created)
  | .taskDone child => some (.ok (s.tasks child).isDone, s)
  | .cancelTask _ => some (.ok (), s)
  | .awaitTask child =>
      match s.tasks child with
      | .done outcome => some (outcome, s)
      | _ => s.interrupt (reply (.awaitTask child))
  | .waitFirst =>
      if s.finished ≠ [] ∧ (reply .waitFirst).isOk then some (.ok s.finished, s)
      else s.interrupt (reply .waitFirst)
  | .gather =>
      if s.finished = [.stream, .lock] ∧ (reply .gather).isOk then some (.ok (), s)
      else s.interrupt (reply .gather)
  | c => some (reply c, s.noteCancel actor (reply c))

end Supervision

/-- Plain calls of the source; every other effect is awaited, and may suspend. -/
def WorkerEff.awaits : WorkerEff → Bool
  | .openComments _ | .nowIso | .serialize _ | .produce _ _ _ | .poll | .commentsSinceCheckpoint
  | .setCommentsSinceCheckpoint _ | .takeDeliveryErrors | .stopIsSet | .setStop | .createTask _
  | .taskDone _ | .cancelTask _ => false
  | _ => true

/-- A created task begins with its loop; one that was cancelled before its first step ends. -/
def StreamWorker.childProgram (w : StreamWorker) (cancelledBefore : Bool) : Child → Coroutine Unit
  | .stream => if cancelledBefore then Prog.raise .cancelledError else w.streamLoop
  | .lock => if cancelledBefore then Prog.raise .cancelledError else w.lockRefreshLoop

/-- `run` and its tasks, with any interleaving of their effects. -/
def supervisionMachine (w : StreamWorker) :
    Machine WorkerEff WorkerEff.Answer PyExc Supervision Actor Replies Bool where
  answer := Supervision.answer
  start
    | .child child, cancelledBefore, s =>
        match s.tasks child with
        | .created => some (w.childProgram cancelledBefore child, s.setTask child .running)
        | _ => none
    | .run, _, _ => none
  finish
    | .run, outcome, s => { s with outcome := some outcome }
    | .child child, outcome, s => s.setTask child (.done outcome)
  tick _ _ := none

/-- The same with interleaving at the awaits only. -/
abbrev eventLoop (w : StreamWorker) := (supervisionMachine w).cooperative WorkerEff.awaits

/-- `run` has just been entered. -/
def runEntered (w : StreamWorker) :
    Config (Paced WorkerEff) (Paced.Answer WorkerEff.Answer) PyExc (Controlled Supervision Actor)
      Actor where
  state := ⟨some .run, {}⟩
  threads
    | .run => some (w.run.paced WorkerEff.awaits)
    | .child _ => none

end RedditKafka
