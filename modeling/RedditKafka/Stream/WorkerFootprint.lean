import RedditKafka.Async.Sequential
import RedditKafka.Stream.Worker

/-!
# The effects of the worker's coroutines

What each of the three tasks of a worker can await at all.
-/
namespace RedditKafka
open Async

/-- The effects behind a produced comment: the batch and its checkpoint. -/
def WorkerEff.ofBatch : WorkerEff → Prop
  | .commentsSinceCheckpoint | .setCommentsSinceCheckpoint _ | .flush | .takeDeliveryErrors
  | .nowIso | .setCheckpoint _ _ => True
  | _ => False

/-- The effects of one turn over the comments. -/
def WorkerEff.ofComment : WorkerEff → Prop
  | .nextComment | .stopIsSet | .sleep _ | .breakerRecordSuccess | .serialize _ | .produce _ _ _
  | .poll | .recordError _ _ _ => True
  | c => c.ofBatch

/-- The effects of the stream task; the only status it writes is `error`. -/
def WorkerEff.ofStream : WorkerEff → Prop
  | .updateStatus status => status = "error"
  | .refreshLock _ | .heartbeat | .releaseLock | .createTask _ | .waitFirst | .taskDone _
  | .cancelTask _ | .awaitTask _ | .gather => False
  | _ => True

theorem WorkerEff.ofComment_of_batch {c : WorkerEff} (h : c.ofBatch) : c.ofComment := by
  cases c <;> trivial

theorem WorkerEff.ofStream_of_comment {c : WorkerEff} (h : c.ofComment) : c.ofStream := by
  cases c <;> trivial

/-- The effects of the lock refresher. -/
def WorkerEff.ofLock : WorkerEff → Prop
  | .sleep _ | .refreshLock _ | .setStop | .heartbeat => True
  | _ => False

/-- The effects of `run`, apart from the tasks that it creates. -/
def WorkerEff.ofRun : WorkerEff → Prop
  | .waitFirst | .taskDone _ | .cancelTask _ | .awaitTask _ | .gather | .getCheckpoint | .nowIso
  | .setCheckpoint _ _ | .releaseLock => True
  | _ => False

theorem await_uses {H : WorkerEff → Prop} {c : WorkerEff} (h : H c) : (await c).Uses H :=
  Prog.Uses.perform h

theorem await_straight {H : WorkerEff → Prop} {c : WorkerEff} (h : H c) : (await c).Straight H :=
  Prog.Straight.perform h

theorem exceptException_straight {E : Type} {A : E → Type} {α : Type} {H : E → Prop}
    {p : Prog E A PyExc α} {handler : PyExc → Prog E A PyExc α} (hp : p.Straight H)
    (hh : ∀ e, (handler e).Straight H) : (exceptException p handler).Straight H :=
  hp.rescue fun e => by
    split
    · exact hh e
    · trivial

namespace StreamWorker

variable (w : StreamWorker)

theorem flushDeliveryBatch_straight : flushDeliveryBatch.Straight WorkerEff.ofBatch := by
  refine (exceptException_straight (await_straight (by trivial)) fun _ => by trivial).bind fun _ =>
    (await_straight (by trivial)).bind fun errors => ?_
  split
  · trivial
  · cases errors <;> trivial

theorem saveCheckpointForCommentId_straight {H : WorkerEff → Prop} (now : H .nowIso)
    (write : ∀ id time, H (.setCheckpoint id time)) (commentId : String) :
    (saveCheckpointForCommentId commentId).Straight H :=
  exceptException_straight ((await_straight now).bind fun _ => await_straight (write _ _))
    fun _ => by trivial

theorem countComment_straight (comment : Comment) :
    (w.countComment comment).Straight WorkerEff.ofBatch := by
  refine (await_straight (by trivial)).bind fun n => (await_straight (by trivial)).bind fun _ => ?_
  split
  · exact flushDeliveryBatch_straight.bind fun _ =>
      (saveCheckpointForCommentId_straight trivial (fun _ _ => by trivial) _).bind fun _ =>
        await_straight (by trivial)
  · trivial

theorem publish_straight (comment : Comment) :
    (w.publish comment).Straight WorkerEff.ofComment := by
  refine (await_straight (by trivial)).bind fun now => ?_
  cases (w.messageOf comment now).build with
  | error e => trivial
  | ok message =>
      refine (await_straight (c := .serialize message) (by trivial)).bind fun serialized => ?_
      cases serialized with
      | none => trivial
      | some payload =>
          exact exceptException_straight ((await_straight (by trivial)).bind fun _ =>
            await_straight (by trivial)) fun _ => by trivial

theorem processComment_straight (comment : Comment) (checkpoint : Checkpoint) :
    (w.processComment comment checkpoint).Straight WorkerEff.ofComment := by
  unfold processComment
  split
  · trivial
  · refine exceptException_straight ((w.publish_straight comment).bind fun _ =>
      (w.countComment_straight comment).mono fun _ => WorkerEff.ofComment_of_batch) fun e => ?_
    split
    · trivial
    · exact await_straight (by trivial)

theorem eachComment_straight (checkpoint : Checkpoint) :
    (w.eachComment checkpoint).Straight WorkerEff.ofComment := by
  refine (await_straight (by trivial)).bind fun yielded => ?_
  cases yielded with
  | exhausted => trivial
  | item comment =>
      refine (await_straight (by trivial)).bind fun stopped => ?_
      split
      · trivial
      refine (await_straight (by trivial)).bind fun _ => ?_
      cases comment with
      | none => trivial
      | some comment =>
          exact (await_straight (by trivial)).bind fun _ =>
            (w.processComment_straight comment checkpoint).bind fun _ => by trivial

theorem countComment_uses (comment : Comment) :
    (w.countComment comment).Uses WorkerEff.ofBatch :=
  (w.countComment_straight comment).uses

theorem eachComment_uses (checkpoint : Checkpoint) :
    (w.eachComment checkpoint).Uses WorkerEff.ofComment :=
  (w.eachComment_straight checkpoint).uses

/-- The only status that a stream writes is `error`. -/
theorem handleFetchException_straight {H : WorkerEff → Prop} (status : H (.updateStatus "error"))
    (e : PyExc) : (handleFetchException e).Straight H := by
  unfold handleFetchException
  split
  · trivial
  split
  · exact (await_straight status).bind fun _ => by trivial
  · trivial

theorem handleError_straight {H : WorkerEff → Prop}
    (record : ∀ type message recoverable, H (.recordError type message recoverable))
    (status : H (.updateStatus "error")) (sleep : ∀ seconds, H (.sleep seconds)) (e : PyExc) :
    (handleError e).Straight H := by
  refine (await_straight (record _ _ _)).bind fun _ => ?_
  split
  · exact (await_straight status).bind fun _ => by trivial
  split
  · exact await_straight (sleep _)
  split <;> trivial

theorem handleFetchException_ofStream (e : PyExc) :
    (handleFetchException e).Uses WorkerEff.ofStream :=
  (handleFetchException_straight (by rfl) e).uses

theorem handleError_ofStream (e : PyExc) : (handleError e).Uses WorkerEff.ofStream :=
  (handleError_straight (fun _ _ _ => trivial) (by rfl) (fun _ => trivial) e).uses

theorem fetchAndProcessComments_uses :
    w.fetchAndProcessComments.Uses WorkerEff.ofStream :=
  (await_uses (by trivial)).bind fun _ => (await_uses (by trivial)).bind fun checkpoint =>
    exceptException_uses
      ((await_uses (by trivial)).bind fun _ =>
        ((w.eachComment_uses checkpoint).mono fun _ => WorkerEff.ofStream_of_comment).forever)
      handleFetchException_ofStream

theorem streamLoop_uses : w.streamLoop.Uses WorkerEff.ofStream := by
  refine Prog.Uses.forever ((await_uses (by trivial)).bind fun stopped => ?_)
  split
  · trivial
  refine (exceptException_uses ?_ handleError_ofStream).bind fun _ => by trivial
  exact (await_uses (by trivial)).bind fun _ =>
    exceptException_uses
      (w.fetchAndProcessComments_uses.bind fun _ => (await_uses (by trivial)).bind fun _ => by trivial)
      fun _ => (await_uses (by trivial)).bind fun _ => by trivial

theorem lockRefreshLoop_uses : w.lockRefreshLoop.Uses WorkerEff.ofLock := by
  refine Prog.Uses.forever ((await_uses (by trivial)).bind fun _ => ?_)
  refine (exceptException_uses (await_uses (by trivial)) fun _ =>
    (await_uses (by trivial)).bind fun _ => by trivial).bind fun success => ?_
  split
  · exact (exceptException_uses (await_uses (by trivial)) fun _ => by trivial).bind fun _ => by trivial
  · exact (await_uses (by trivial)).bind fun _ => by trivial

theorem superviseTasks_straight {H : WorkerEff → Prop} (wait : H .waitFirst)
    (each : ∀ child, H (.awaitTask child)) : w.superviseTasks.Straight H := by
  refine ((await_straight wait).bindE fun _ => by trivial).bind fun outcome => ?_
  cases outcome with
  | error e => trivial
  | ok done =>
      dsimp only
      split
      · refine ((await_straight (each _)).bindE fun _ => by trivial).bind fun outcome => ?_
        cases outcome <;> trivial
      · refine ((await_straight (each _)).bindE fun _ => by trivial).bind fun outcome => ?_
        cases outcome <;> trivial

/-- Its outcome is a value in any case. -/
theorem superviseTasks_ends : w.superviseTasks.Ends fun r => ∃ a, r = .ok a := by
  refine (Prog.Ends.attempt _).bindE fun r ended => ?_
  obtain ⟨waited, rfl⟩ := ended
  cases waited with
  | error e => exact ⟨_, rfl⟩
  | ok done =>
      simp only [Prog.andThen]
      split
      · refine (Prog.Ends.attempt _).bindE fun r ended => ?_
        obtain ⟨outcome, rfl⟩ := ended
        cases outcome <;> exact ⟨_, rfl⟩
      · refine (Prog.Ends.attempt _).bindE fun r ended => ?_
        obtain ⟨outcome, rfl⟩ := ended
        cases outcome <;> exact ⟨_, rfl⟩

theorem saveCheckpoint_straight {H : WorkerEff → Prop} (read : H .getCheckpoint) (now : H .nowIso)
    (write : ∀ id time, H (.setCheckpoint id time)) : saveCheckpoint.Straight H := by
  refine (await_straight read).bind fun checkpoint => ?_
  cases checkpoint.lastCommentId with
  | none => trivial
  | some id =>
      dsimp only
      split
      · exact saveCheckpointForCommentId_straight now write id
      · trivial

theorem releaseLock_straight :
    (exceptException (await .releaseLock) fun _ => pure ()).Straight WorkerEff.ofRun :=
  exceptException_straight (await_straight (by trivial)) fun _ => by trivial

theorem shutDown_straight (shutdownEvent : Bool) :
    (shutDown shutdownEvent).Straight WorkerEff.ofRun := by
  cases shutdownEvent with
  | false => exact releaseLock_straight
  | true =>
      have save : saveCheckpoint.Straight WorkerEff.ofRun :=
        saveCheckpoint_straight trivial trivial fun _ _ => trivial
      exact (exceptException_straight save fun _ => by trivial).bind fun _ => releaseLock_straight

theorem superviseTasks_uses : w.superviseTasks.Uses WorkerEff.ofRun :=
  (w.superviseTasks_straight trivial fun _ => trivial).uses

theorem shutDown_uses (shutdownEvent : Bool) : (shutDown shutdownEvent).Uses WorkerEff.ofRun :=
  (shutDown_straight shutdownEvent).uses

end StreamWorker
end RedditKafka
