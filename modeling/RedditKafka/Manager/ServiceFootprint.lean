import RedditKafka.Manager.Service
import RedditKafka.Registry.Footprint
import RedditKafka.Stream.WorkerFootprint

/-!
# What each thread of the service can do

The Redis commands of every thread, by the statuses it may write to which stream
id, and what an answered effect does to the state.
-/
namespace RedditKafka
open Async Redis StreamRegistry StreamManager

/-- The commands of the lock manager that can change a lease. -/
inductive LeaseCommand : RedisCmd → Prop
  | acquire (subreddit token : String) (ttl : Int) :
      LeaseCommand (.setNx (lockKey subreddit) token (some ttl))
  | refresh (subreddit token : String) (ttl : Int) :
      LeaseCommand (.eval (.refreshIfOwner (lockKey subreddit) token ttl))
  | release (subreddit token : String) : LeaseCommand (.eval (.deleteIfOwner (lockKey subreddit) token))

def ServiceEffect (may : String → Permission → Prop) : Effect → Prop
  | .redis c => RegistryCommand may c ∨ LeaseCommand c
  | .reply _ => False
  | _ => True

/-- The commands for a lease that is held. -/
inductive HolderCommand : RedisCmd → Prop
  | refresh (subreddit token : String) (ttl : Int) :
      HolderCommand (.eval (.refreshIfOwner (lockKey subreddit) token ttl))
  | release (subreddit token : String) :
      HolderCommand (.eval (.deleteIfOwner (lockKey subreddit) token))

/-- The effects that neither acquire a lease, nor create a task, nor build a worker. -/
def PlainEffect (may : String → Permission → Prop) : Effect → Prop
  | .redis c => RegistryCommand may c ∨ HolderCommand c
  | .task (.create _) | .task (.createLocal _ _ _) | .ownerToken _ | .getSerializer _
  | .reply _ => False
  | _ => True

section footprints

variable {may : String → Permission → Prop}

theorem RegistryEffect.service {e : Effect} (h : RegistryEffect may e) : ServiceEffect may e := by
  cases e with
  | redis => exact .inl h
  | reply => cases h
  | _ => trivial

theorem ServiceEffect.mono {may' : String → Permission → Prop} {e : Effect} (h : ServiceEffect may e)
    (imp : ∀ id permission, may id permission → may' id permission) : ServiceEffect may' e := by
  cases e with
  | redis c => exact h.imp (fun h => h.mono imp) id
  | _ => exact h

theorem RegistryEffect.plain {e : Effect} (h : RegistryEffect may e) : PlainEffect may e := by
  cases e with
  | redis => exact .inl h
  | persist | nowIso | uuid4 => trivial
  | _ => cases h

theorem HolderCommand.lease {c : RedisCmd} (h : HolderCommand c) : LeaseCommand c := by
  cases h with
  | refresh => exact .refresh _ _ _
  | release => exact .release _ _

theorem PlainEffect.service {e : Effect} (h : PlainEffect may e) : ServiceEffect may e := by
  cases e with
  | redis => exact h.imp_right HolderCommand.lease
  | reply => cases h
  | _ => trivial

theorem holder_uses {c : RedisCmd} (h : HolderCommand c) : (redis c).Uses (PlainEffect may) :=
  Prog.Uses.perform (.inr h)

theorem task_uses {H : Effect → Prop} {c : TaskEff} (h : H (.task c)) : (task c).Uses H :=
  Prog.Uses.perform h

theorem ignoring_uses {α : Type} {H : Effect → Prop} {p : Program α} (h : p.Uses H) :
    (ignoring p).Uses H :=
  h.bind fun _ => trivial

theorem suppressCancelled_uses {H : Effect → Prop} {p : Program Unit} (h : p.Uses H) :
    (suppressCancelled p).Uses H :=
  h.rescue fun e => by split <;> trivial

/-! ## The worker's tasks -/

namespace StreamWorker

variable {w : StreamWorker}

theorem serve_ofStream (error : may w.streamId (.write "error")) (c : WorkerEff) (h : c.ofStream) :
    (w.serve c).Uses (PlainEffect may) := by
  cases c with
  | nowIso => exact nowIso_uses.mono fun _ => RegistryEffect.plain
  | getCheckpoint => exact (getCheckpoint_uses _).mono fun _ => RegistryEffect.plain
  | setCheckpoint id time =>
      exact (setCheckpoint_uses w.streamId (some id) (some time)).mono fun _ => RegistryEffect.plain
  | updateStatus status =>
      cases h
      exact (updateStatus_uses error _).mono fun _ => RegistryEffect.plain
  | refreshLock | heartbeat | releaseLock | createTask | waitFirst | taskDone | cancelTask
  | awaitTask | gather => cases h
  | _ => exact Prog.Uses.perform trivial

theorem serve_ofLock (c : WorkerEff) (h : c.ofLock) : (w.serve c).Uses (PlainEffect may) := by
  cases c with
  | refreshLock ttl => exact holder_uses (.refresh _ _ _)
  | heartbeat => exact ignoring_uses ((heartbeat_uses _ _).mono fun _ => RegistryEffect.plain)
  | sleep | setStop => exact Prog.Uses.perform trivial
  | _ => cases h

theorem serve_ofRun (c : WorkerEff) (h : c.ofRun) : (w.serve c).Uses (PlainEffect may) := by
  cases c with
  | nowIso => exact nowIso_uses.mono fun _ => RegistryEffect.plain
  | getCheckpoint => exact (getCheckpoint_uses _).mono fun _ => RegistryEffect.plain
  | setCheckpoint id time =>
      exact (setCheckpoint_uses w.streamId (some id) (some time)).mono fun _ => RegistryEffect.plain
  | releaseLock => exact ignoring_uses (holder_uses (.release _ _))
  | waitFirst => exact (task_uses (by trivial)).bind fun _ => trivial
  | taskDone | cancelTask | awaitTask | gather => exact task_uses (by trivial)
  | _ => cases h

theorem serve_createTask (child : Child) :
    (w.serve (.createTask child)).Uses (ServiceEffect may) := by
  cases child <;> exact task_uses (by trivial)

theorem streamLoop_served (error : may w.streamId (.write "error")) :
    (w.served w.streamLoop).Uses (PlainEffect may) :=
  Prog.Uses.link (serve_ofStream error) w.streamLoop_uses

theorem lockRefreshLoop_served : (w.served w.lockRefreshLoop).Uses (PlainEffect may) :=
  Prog.Uses.link serve_ofLock w.lockRefreshLoop_uses

theorem reapTasks_uses : reapTasks.Uses WorkerEff.ofRun := by
  have reap (child : Child) : (cancelIfRunning child).Uses WorkerEff.ofRun := by
    refine (await_uses (by trivial)).bind fun finished => ?_
    split
    · trivial
    · exact await_uses (by trivial)
  exact (reap .stream).bind fun _ => (reap .lock).bind fun _ => await_uses (by trivial)

theorem run_served : (w.served w.run).Uses (ServiceEffect may) := by
  have impl : ∀ c, c.ofRun ∨ (∃ child, c = .createTask child) →
      (w.serve c).Uses (ServiceEffect may) := by
    rintro c (run | ⟨child, rfl⟩)
    · exact (serve_ofRun c run).mono fun _ => PlainEffect.service
    · exact serve_createTask child
  refine Prog.Uses.link impl ((await_uses (.inr ⟨_, rfl⟩)).bind fun _ =>
    (await_uses (.inr ⟨_, rfl⟩)).bind fun _ =>
      (w.superviseTasks_uses.mono fun _ => .inl).bind fun supervised => ?_)
  refine ((Prog.Uses.ensure (Prog.Uses.ofExcept _)
    (reapTasks_uses.mono fun _ => .inl)).bindE fun _ => by trivial).bind fun outcome => ?_
  exact Prog.Uses.ensure (Prog.Uses.ofExcept _) ((shutDown_uses _).mono fun _ => .inl)

end StreamWorker

/-! ## The manager's coroutines -/

theorem isStopRequested_uses (streamId : String) :
    (isStopRequested streamId).Uses (PlainEffect may) :=
  (redis_uses (.keyExists _)).mono fun _ => RegistryEffect.plain

theorem status_uses {streamId status : String} (written : may streamId (.write status))
    (instanceId : Option String) :
    (updateStatus streamId status instanceId).Uses (PlainEffect may) :=
  (updateStatus_uses written instanceId).mono fun _ => RegistryEffect.plain

namespace StreamManager

theorem invokeRunner_uses (kafkaTopic instanceId subreddit : String) (lockToken : Option String) :
    (invokeRunner kafkaTopic instanceId subreddit lockToken).Uses (ServiceEffect may) := by
  cases lockToken with
  | none => trivial
  | some lockToken =>
      refine ((getStreamBySubreddit_uses _).mono fun _ => RegistryEffect.service).bind
        fun streamMeta => ?_
      cases streamMeta with
      | none => trivial
      | some data =>
          dsimp only
          split
          · trivial
          · exact (Prog.Uses.perform trivial).bind fun _ => StreamWorker.run_served

theorem waitForStopRequest_uses (streamId : String) :
    (waitForStopRequest streamId).Uses (PlainEffect may) := by
  refine Prog.Uses.forever ((isStopRequested_uses _).bind fun requested => ?_)
  split
  · trivial
  · exact (Prog.Uses.perform trivial).bind fun _ => trivial

theorem superviseRunner_uses {streamId : String} (stopped : may streamId (.write "stopped")) :
    (superviseRunner streamId).Uses (PlainEffect may) := by
  refine (task_uses (by trivial)).bind fun done => ?_
  split
  · exact (task_uses (by trivial)).bind fun _ => (task_uses (by trivial)).bind fun _ =>
      (suppressCancelled_uses (task_uses (by trivial))).bind fun _ => status_uses stopped _
  · exact (task_uses (by trivial)).bind fun _ => status_uses stopped _

theorem handleRunError_uses {streamId : String} (stopped : may streamId (.write "stopped"))
    (error : may streamId (.write "error")) (e : PyExc) :
    (handleRunError streamId e).Uses (PlainEffect may) := by
  unfold handleRunError
  split
  · exact (task_uses (by trivial)).bind fun _ => (suppressCancelled_uses (task_uses (by trivial))).bind fun _ =>
      (status_uses stopped _).bind fun _ => trivial
  split
  · exact status_uses error _
  split
  · exact status_uses error _
  · trivial

theorem stopRunner_uses : stopRunner.Uses (PlainEffect may) := by
  refine (task_uses (by trivial)).bind fun done => ?_
  split
  · trivial
  · exact (task_uses (by trivial)).bind fun _ => suppressCancelled_uses (task_uses (by trivial))

theorem closeRun_uses (instanceId streamId : String) :
    (closeRun instanceId streamId).Uses (PlainEffect may) :=
  stopRunner_uses.bind fun _ => (task_uses (by trivial)).bind fun _ =>
    (suppressCancelled_uses (task_uses (by trivial))).bind fun _ => task_uses (by trivial)

theorem run_uses (instanceId : String) {streamId : String} (subreddit : String)
    (lockToken : Option String) (stopped : may streamId (.write "stopped")) (error : may streamId (.write "error")) :
    (run instanceId streamId subreddit lockToken).Uses (ServiceEffect may) :=
  (task_uses (by trivial)).bind fun _ => (task_uses (by trivial)).bind fun _ =>
    (Prog.Uses.ensure ((superviseRunner_uses stopped).rescue (handleRunError_uses stopped error))
      (closeRun_uses instanceId streamId)).mono fun _ => PlainEffect.service

theorem launch_uses (instanceId : String) {streamId : String} (subreddit lockToken : String)
    (active : may streamId (.write "active")) :
    (launch instanceId streamId subreddit lockToken).Uses (ServiceEffect may) := by
  refine (task_uses (by trivial)).bind fun created => ?_
  split
  · exact (status_uses active _).mono fun _ => PlainEffect.service
  · trivial

theorem acquireLock_uses (subreddit instanceId : String) (ttl : Int) :
    (DistributedLockManager.acquireLock subreddit instanceId ttl).Uses (ServiceEffect may) := by
  refine (Prog.Uses.perform trivial).bind fun _ =>
    (Prog.Uses.perform (.inr (.acquire _ _ _))).bind fun acquired => ?_
  split
  · trivial
  · exact ((redis_uses (.get _)).mono fun _ => RegistryEffect.service).bind fun _ => trivial

theorem startStream_uses (creates : ∀ id, may id .create)
    (active : ∀ id, may id (.write "active")) (deletes : ∀ id, may id .delete)
    (instanceId subreddit config : String) :
    (startStream instanceId subreddit config).Uses (ServiceEffect may) := by
  refine ((createStream_uses creates _ _ _).mono fun _ => RegistryEffect.service).bind
    fun metadata => (acquireLock_uses _ _ _).bind fun token => ?_
  cases token with
  | none =>
      exact ((deleteStream_uses (.inr (deletes _)) _ _).mono fun _ => RegistryEffect.service).bind
        fun _ => trivial
  | some token => exact (launch_uses _ _ _ (active _)).bind fun _ => trivial

theorem requestStop_plain {streamId : String} (stops : may streamId .requestStop)
    (written : may streamId (.write "stopping")) :
    (requestStop streamId).Uses (PlainEffect may) :=
  (requestStop_uses stops written).mono fun _ => RegistryEffect.plain

theorem stopStream_uses (instanceId : String) {streamId : String}
    (stops : may streamId .requestStop) (written : may streamId (.write "stopping")) :
    (stopStream instanceId streamId).Uses (PlainEffect may) := by
  refine (requestStop_plain stops written).bind fun _ => (task_uses (by trivial)).bind fun started => ?_
  cases started with
  | none => trivial
  | some started => exact suppressCancelled_uses (task_uses (by trivial))

theorem stopEndpoint_uses (instanceId : String) {streamId : String}
    (stops : may streamId .requestStop) (written : may streamId (.write "stopping")) :
    (stopEndpoint instanceId streamId).Uses (PlainEffect may) := by
  refine ((getStream_uses _).mono fun _ => RegistryEffect.plain).bind fun metadata => ?_
  split
  · trivial
  · exact stopStream_uses instanceId stops written

end StreamManager

/-- The coroutine of a task writes a terminal status, if any. -/
theorem Task.program_uses (kafkaTopic : String) (task : Task) :
    (task.program kafkaTopic).Uses
      (ServiceEffect fun _ permission => permission = .write "stopped" ∨ permission = .write "error") := by
  cases task with
  | run => exact run_uses _ _ _ (.inl rfl) (.inr rfl)
  | runner => exact invokeRunner_uses _ _ _ _
  | watcher => exact (waitForStopRequest_uses _).mono fun _ => PlainEffect.service
  | stream w =>
      exact (StreamWorker.streamLoop_served (.inr rfl)).mono fun _ => PlainEffect.service
  | lock w => exact StreamWorker.lockRefreshLoop_served.mono fun _ => PlainEffect.service

end footprints

/-- What a thread may do to the registration of a stream id. -/
def Thread.may (t : Thread) (s : Service) (streamId : String) (permission : Permission) : Prop :=
  match t with
  | .start _ => permission = .create ∨ permission = .write "active" ∨ permission = .delete
  | .task _ _ => permission = .write "stopped" ∨ permission = .write "error"
  | .stop request => s.requests request = some streamId ∧
      (permission = .requestStop ∨ permission = .write "stopping")
  | .sweep _ => False

theorem Service.start_uses {kafkaTopic : String} {t : Thread} {event : ServiceEvent}
    {s s' : Service} {p : Program Unit} (started : Service.start kafkaTopic t event s = some (p, s')) :
    p.Uses (ServiceEffect (t.may s')) := by
  have stop (request : Nat) (streamId : String) (q : Program Unit)
      (hq : ∀ may : String → Permission → Prop, may streamId .requestStop →
        may streamId (.write "stopping") → q.Uses (PlainEffect may))
      (begun : s.beginRequest request streamId q = some (p, s')) :
      p.Uses (ServiceEffect ((Thread.stop request).may s')) := by
    unfold Service.beginRequest at begun
    split at begun
    · cases begun
      exact (hq _ ⟨by simp, .inl rfl⟩ ⟨by simp, .inr rfl⟩).mono fun _ => PlainEffect.service
    · cases begun
  unfold Service.start at started
  split at started
  · split at started
    · cases started
      exact ignoring_uses (startStream_uses (fun _ => .inl rfl) (fun _ => .inr (.inl rfl))
        (fun _ => .inr (.inr rfl)) _ _ _)
    · cases started
  · exact stop _ _ _ (fun _ => stopEndpoint_uses _) started
  · exact stop _ _ _ (fun _ => stopStream_uses _) started
  · exact stop _ _ _ (fun _ => requestStop_plain) started
  · cases started
    exact DeadStreamCleanup.cleanup_uses.mono fun _ => RegistryEffect.service
  · split at started
    · cases started
      exact Task.program_uses _ _
    · cases started
  · cases started

end RedditKafka
