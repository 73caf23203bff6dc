import RedditKafka.Manager.Creators

/-!
# Live workers

While a worker is in its stream task and has not written its error status, its
registration is in force: in the runs without a failure of Redis or Postgres in
which no status is written to the registration of another call.
-/
namespace RedditKafka
open Async Redis StreamRegistry StreamManager DistributedLockManager

/-- The stream task of the worker of the call exists and is not done. -/
def Service.Streams (s : Service) (call : Nat) (w : StreamWorker) : Prop :=
  (s.tasks call .stream).task = some (.stream w)

/-- The stored registration is that of the worker, under a status that no sweep deletes. -/
structure Registers (r : Store) (w : StreamWorker) : Prop where
  ownId : r.hget (metaKey w.streamId) "id" = some w.streamId
  named : r.hget (metaKey w.streamId) "subreddit" = some w.subreddit
  instanceId : r.hget (metaKey w.streamId) "instance_id" = some w.instanceId
  status : ∃ status, r.hget (metaKey w.streamId) "status" = some status ∧
    status ∉ DeadStreamCleanup.deadStatuses
  claim : r.get (subredditKey w.subreddit) = some w.streamId

theorem TaskState.task_of_done {state : TaskState} (done : state.isDone = true) : state.task = none := by
  cases state <;> first | rfl | cases done

theorem Service.Onward.done {s s' : Service} (onward : s.Onward s') {call : Nat} {role : Role}
    (done : (s.tasks call role).isDone = true) : (s'.tasks call role).isDone = true := by
  cases is : s.tasks call role with
  | done r => rw [onward.outcome call role r is]; rfl
  | absent | created | alive => simp [is, TaskState.isDone] at done

section programs

variable {kafkaTopic : String} {t : Thread} {s s' : Service} {call : Nat} {role : Role} {α : Type}
  {streamId subreddit instanceId : String}

/-! ## Requests and sweeps -/

namespace RegistrationSafe

theorem forget {p : Program α} {Q : Except PyExc α → Service → Prop} (hs : registrationDiscipline.inv s)
    (h : RegistrationSafe kafkaTopic t p Q s) : RegistrationSafe kafkaTopic t p (fun _ _ => True) s :=
  h.mono hs fun _ _ _ _ => trivial

/-- The task of a thread is alive until the thread ends. -/
theorem alive {p : Program α} {Q : Except PyExc α → Service → Prop} {task : Task}
    (h : RegistrationSafe kafkaTopic (.task call role) p Q s) (alive : s.tasks call role = .alive task) :
    RegistrationSafe kafkaTopic (.task call role) p
      (fun r s => Q r s ∧ s.tasks call role = .alive task) s := by
  refine h.also (fun a b kept _ is => kept.2.1 task is) (fun c turn s r s' answered is => ?_) alive
  rcases Service.answer_tasks (unfailing_answer answered).2 call role with same | ⟨none, -⟩
  · rw [same, is]
  · cases none.symm.trans is

end RegistrationSafe

theorem cleanup_live (hs : registrationDiscipline.inv s) {number : Nat} :
    RegistrationSafe kafkaTopic (.sweep number) DeadStreamCleanup.cleanup (fun _ _ => True) s := by
  have free (a b : Service) (_ : registrationDiscipline.keeps (.sweep number) a b) (_ : True) : True :=
    trivial
  refine Safe.rescue hs (P := fun _ _ => True) (Safe.bind hs (RegistrationSafe.silent
    (registry_calm listStreams_anonymous listStreams_uses) (fun _ => True) trivial free)
    (fun streams s hs _ => ?_) fun _ _ _ _ => trivial) (fun _ _ _ _ => trivial)
    fun e s _ _ => by split <;> trivial
  induction streams generalizing s with
  | nil => trivial
  | cons stream streams ih =>
      refine Safe.bind hs (P := fun _ _ => True) ?_ (fun _ s hs _ => ih s hs) fun _ _ _ _ => trivial
      unfold DeadStreamCleanup.retire
      split
      · rename_i dead _
        refine Safe.rescue hs (P := fun _ _ => True) (Safe.bind hs (deleteStream_live (fun _ => True)
          free trivial (fun _ _ _ => .inl (DeadStreamCleanup.isDeadStream_status dead))
          fun _ _ _ same => by cases same) (fun _ _ _ _ => trivial) fun _ _ _ _ => trivial)
          (fun _ _ _ _ => trivial) fun e s _ _ => by split <;> trivial
      · trivial

/-- What a stop request writes is no terminal status. -/
theorem stop_live {request : Nat} {p : Program Unit} (anonymous : p.Uses Effect.anonymous)
    (uses : p.Uses (PlainEffect fun _ permission => permission.calm (· = "stopping"))) :
    RegistrationSafe kafkaTopic (.stop request) p (fun _ _ => True) s := by
  refine RegistrationSafe.calm (calm_uses anonymous uses) (fun _ => True) trivial
    (fun _ _ _ _ => trivial) ?_
  rintro s - status rfl
  simp [Thread.writes, DeadStreamCleanup.deadStatuses]

/-! ## `_run` -/

/-- After the await of a task, however it ends, the task is done. -/
theorem awaitTask_live {own : Role} : RegistrationSafe kafkaTopic (.task call own)
    (task (.awaitTask role)) (fun _ s => (s.tasks call role).isDone = true) s := by
  intro s₁ moved hs₁
  refine ⟨trivial, fun mild turn r s₂ answered => ?_⟩
  obtain ⟨hs₂, keeps⟩ := silent_answer hs₁ (.plain (by trivial) (by trivial)) mild answered
  have answered := (unfailing_answer answered).2
  have done : (s₂.tasks call role).isDone = true := by
    cases turn with
    | answered =>
        simp only [Service.answer, Service.taskAnswer, Thread.call, Option.getD_some] at answered
        split at answered <;> cases answered
        rename_i is
        rw [is]
        rfl
    | raised e =>
        simp only [Service.answer, Service.taskAnswer, Thread.call, Option.getD_some,
          Option.ite_none_right_eq_some, Bool.and_eq_true] at answered
        obtain ⟨⟨done, -⟩, same⟩ := answered
        cases same
        exact done
    | named | raisedAfter | worker => cases answered
  refine ⟨hs₂, fun u _ => keeps u, ?_⟩
  cases r <;> exact done

theorem suppressAwait_live {own : Role} (hs : registrationDiscipline.inv s) :
    RegistrationSafe kafkaTopic (.task call own) (suppressCancelled (task (.awaitTask role)))
      (fun _ s => (s.tasks call role).isDone = true) s :=
  Safe.rescue hs awaitTask_live (fun _ _ _ done => done) fun e s _ done => by
    split <;> exact done

/-- `_run` writes a status only behind the end of its runner. -/
theorem runStatus_live {status : String} {written : Option String}
    (done : (s.tasks call .runner).isDone = true) :
    RegistrationSafe kafkaTopic (.task call .run) (updateStatus streamId status written)
      (fun _ s => (s.tasks call .runner).isDone = true) s :=
  have uses : (updateStatus streamId status written).Uses (CalmEffect fun _ => True) :=
    registry_calm (updateStatus_anonymous _ _ _) (updateStatus_uses (by trivial) _)
  RegistrationSafe.calm uses (fun s => (s.tasks call .runner).isDone = true) done
    (fun _ _ kept done => kept.1.done done) fun _ done _ _ => done

/-- What `superviseRunner` raises is a cancellation, or the runner is done. -/
def SuperviseLeft (call : Nat) (r : Except PyExc Unit) (s : Service) : Prop :=
  ∀ e, r = .error e → e.isInstance [.cancelledError] = true ∨ (s.tasks call .runner).isDone = true

theorem superviseRunner_live : RegistrationSafe kafkaTopic (.task call .run)
    (superviseRunner streamId) (SuperviseLeft call) s := by
  refine RegistrationSafe.calmly (.plain (by trivial) (by trivial)) fun s₁ turn r s₂ _ hs₁ kept hs₂ answered => ?_
  obtain ⟨proper, answered⟩ := unfailing_answer answered
  have stopped {r : Except PyExc Unit} {s : Service} (done : (s.tasks call .runner).isDone = true) :
      SuperviseLeft call r s := fun _ _ => .inr done
  rcases r with e | done
  · rintro e' ⟨⟩
    cases turn with
    | raised e =>
        simp only [Service.answer, Service.taskAnswer] at answered
        split at answered <;> cases answered
        rename_i cancelled
        exact .inl (cancelled_of_proper proper (by simpa [mayRaise] using cancelled))
    | answered =>
        simp only [Service.answer, Service.taskAnswer] at answered
        split at answered <;> cases answered
    | named | raisedAfter | worker => cases answered
  simp only [Prog.andThen]
  split
  · refine RegistrationSafe.calmly (.plain (by trivial) (by trivial)) fun s₃ turn r s₄ _ hs₃ _ hs₄ answered => ?_
    obtain ⟨-, answered⟩ := unfailing_answer answered
    rcases r with e | _
    · -- the watcher raises nothing but a cancellation
      rintro e' ⟨⟩
      cases turn with
      | answered =>
          simp only [Service.answer, Service.taskAnswer, Thread.call, Option.getD_some] at answered
          split at answered
          · rename_i r is
            cases answered
            exact .inl (hs₃.2.watcher call _ is)
          · cases answered
      | raised | named | raisedAfter | worker => cases answered
    refine RegistrationSafe.calmly (.plain (by trivial) (by trivial)) fun s₅ turn r s₆ _ hs₅ _ hs₆ answered => ?_
    obtain ⟨-, answered⟩ := unfailing_answer answered
    rcases r with e | _
    · cases turn <;> cases answered
    · exact Safe.bind hs₆ (suppressAwait_live hs₆) (fun _ s hs done => (runStatus_live done).mono hs
        fun _ _ _ done => stopped done) fun _ _ _ done => stopped done
  · exact Safe.bind hs₂ awaitTask_live (fun _ s hs done => (runStatus_live done).mono hs
      fun _ _ _ done => stopped done) fun _ _ _ done => stopped done

theorem handleRunError_live {e : PyExc} (hs : registrationDiscipline.inv s)
    (cause : e.isInstance [.cancelledError] = true ∨ (s.tasks call .runner).isDone = true) :
    RegistrationSafe kafkaTopic (.task call .run) (handleRunError streamId e) (fun _ _ => True) s := by
  unfold handleRunError
  split
  · refine RegistrationSafe.calmly (.plain (by trivial) (by trivial)) fun s₁ turn r s₂ _ _ _ hs₂ answered => ?_
    obtain ⟨-, answered⟩ := unfailing_answer answered
    rcases r with e' | _
    · cases turn <;> cases answered
    · exact Safe.bind hs₂ (suppressAwait_live hs₂) (fun _ s hs done => Safe.bind hs (runStatus_live done)
        (fun _ _ _ _ => trivial) fun _ _ _ _ => trivial) fun _ _ _ _ => trivial
  · rename_i other
    have done := cause.resolve_left other
    split
    · exact (runStatus_live done).forget hs
    split
    · exact (runStatus_live done).forget hs
    · trivial

theorem closeRun_calm (instanceId streamId : String) :
    (closeRun instanceId streamId).Uses (CalmEffect fun _ => False) := by
  have await (role : Role) : (suppressCancelled (task (.awaitTask role))).Uses
      (CalmEffect fun _ => False) :=
    suppressCancelled_uses (task_uses (.plain (by trivial) (by trivial)))
  have cancel (role : Role) : (task (.cancel role)).Uses (CalmEffect fun _ => False) :=
    task_uses (.plain (by trivial) (by trivial))
  refine Prog.Uses.bind ((task_uses (.plain (by trivial) (by trivial))).bind fun done => ?_) fun _ =>
    (cancel _).bind fun _ => (await _).bind fun _ => task_uses (.plain (by trivial) (by trivial))
  split
  · trivial
  · exact (cancel _).bind fun _ => await _

/-- The call has registered its stream, and its run exists. -/
structure Launched (call : Nat) (instanceId subreddit : String) (s : Service) : Prop where
  known : s.calls call = some (instanceId, subreddit)
  home : s.home call ≠ none
  begun : s.tasks call .run ≠ .absent

theorem Launched.stays (h : Launched call instanceId subreddit s) (onward : s.Onward s') :
    Launched call instanceId subreddit s' := by
  obtain ⟨id, is⟩ := Option.ne_none_iff_exists'.mp h.home
  exact ⟨onward.calls _ _ h.known, by simp [onward.home _ _ is], onward.tasks _ _ h.begun⟩

/-- An effect of a task that creates another one, in front of the rest of a program. -/
theorem create_live {own : Role} {new : Task} {f : Unit → Program α}
    {Q : Except PyExc α → Service → Prop} (other : new.role ≠ .run)
    (place : ∀ s', registrationDiscipline.keeps (.task call own) s s' → registrationDiscipline.inv s' →
      new.about s' call ∧ (new.role = .runner → s'.tasks call .run ≠ .absent) ∧
        (new.role = .stream → own = .runner ∧ ∃ task, s'.tasks call .runner = .alive task))
    (rest : ∀ s₁, registrationDiscipline.keeps (.task call own) s s₁ →
      registrationDiscipline.inv (s₁.setTask call new.role (.created new)) →
      s₁.tasks call new.role = .absent →
        RegistrationSafe kafkaTopic (.task call own) (f ()) Q (s₁.setTask call new.role (.created new))) :
    RegistrationSafe kafkaTopic (.task call own)
      (Prog.perform (Effect.task (.create new)) >>= f) Q s := by
  refine RegistrationSafe.await fun s₁ turn r s₂ moved hs₁ _ answered => ?_
  obtain ⟨about, runner, stream⟩ := place s₁ moved hs₁
  obtain ⟨hs₂, others, rfl, free, rfl⟩ := Service.create_step hs₁ about other runner stream
    (unfailing_answer answered).2
  exact ⟨hs₂, others, rest s₁ moved hs₂ free⟩

theorem run_live {lockToken : Option String} (launched : Launched call instanceId subreddit s) :
    RegistrationSafe kafkaTopic (.task call .run) (run instanceId streamId subreddit lockToken)
      (fun _ _ => True) s := by
  refine create_live (by simp [Task.role]) (fun s₁ moved _ => ?_) fun s₁ moved hs₂ _ => ?_
  · obtain ⟨known, home, begun⟩ := launched.stays moved.1
    exact ⟨⟨known, home⟩, fun _ => begun, fun is => by cases is⟩
  refine create_live (by simp [Task.role])
    (fun _ _ _ => ⟨trivial, by simp [Task.role], by simp [Task.role]⟩) fun s₃ _ hs₄ _ => ?_
  refine Safe.bindE hs₄ (P := fun _ _ => True) (Safe.rescue hs₄ superviseRunner_live
    (fun _ _ _ _ => trivial) fun e s hs cause => handleRunError_live hs (cause e rfl)) fun r s hs _ => ?_
  refine Safe.bindE hs (P := fun _ _ => True) (RegistrationSafe.silent (closeRun_calm _ _) (fun _ => True)
    trivial fun _ _ _ _ => trivial) fun r' s hs _ => ?_
  cases r' <;> cases r <;> trivial

/-! ## The runner and its worker -/

/-- The runner of the call is at work, and its worker has no stream task yet. -/
structure Hired (call : Nat) (instanceId subreddit streamId : String) (s : Service) : Prop where
  known : s.calls call = some (instanceId, subreddit)
  home : s.home call = some streamId
  alive : ∃ task, s.tasks call .runner = .alive task
  idle : s.tasks call .stream = .absent

namespace Hired

theorem stays (h : Hired call instanceId subreddit streamId s)
    (moved : registrationDiscipline.keeps (.task call .runner) s s') :
    Hired call instanceId subreddit streamId s' := by
  obtain ⟨onward, alive, idle⟩ := moved
  obtain ⟨task, is⟩ := h.alive
  exact ⟨onward.calls _ _ h.known, onward.home _ _ h.home, ⟨task, alive task is⟩, idle rfl h.idle⟩

/-- Until its worker fails, the registration of the call is in force. -/
theorem registration (h : Hired call instanceId subreddit streamId s)
    (hs : registrationDiscipline.inv s) : Registration s streamId call instanceId subreddit := by
  obtain ⟨task, alive⟩ := h.alive
  have kept : s.retired call = false := Bool.eq_false_iff.mpr fun retired => by
    rcases hs.2.retired call retired with failed | done | none
    · exact hs.2.failed call failed h.idle
    · simp [alive, TaskState.isDone] at done
    · cases alive.symm.trans (hs.2.orphan call none)
  obtain ⟨_, _, registration⟩ := hs.1.registered _ _ (hs.1.stays _ _ h.home kept)
  cases h.known.symm.trans registration.known
  exact registration

theorem unstaffed (h : Hired call instanceId subreddit streamId s) :
    (s.tasks call .stream).task = none := by
  rw [h.idle]
  rfl

end Hired

/-- A step of asyncio that cannot be cancelled returns. -/
theorem step_live {own : Role} {c : TaskEff} (calm : CalmEffect (fun _ => False) (.task c))
    (returns : ∀ turn (s s' : Service) e, s.taskAnswer call c turn ≠ some (.error e, s')) :
    RegistrationSafe kafkaTopic (.task call own) (task c) (fun r _ => ∃ a, r = .ok a) s := by
  intro s₁ moved hs₁
  refine ⟨trivial, fun mild turn r s₂ answered => ?_⟩
  obtain ⟨hs₂, keeps⟩ := silent_answer hs₁ calm mild answered
  refine ⟨hs₂, fun u _ => keeps u, ?_⟩
  cases r with
  | ok a => exact ⟨a, rfl⟩
  | error e => exact (returns turn s₁ s₂ e (unfailing_answer answered).2).elim

theorem cancelIfRunning_live {w : StreamWorker} {child : Child} {own : Role}
    (hs : registrationDiscipline.inv s) : RegistrationSafe kafkaTopic (.task call own)
      (w.served (StreamWorker.cancelIfRunning child)) (fun r _ => ∃ a, r = .ok a) s := by
  rw [StreamWorker.cancelIfRunning, StreamWorker.served_bind, StreamWorker.served_await]
  refine Safe.bind hs (step_live (.plain (by trivial) (by trivial)) fun turn s s' e answered => by
    cases turn <;> cases answered) (fun done s₁ _ _ => ?_) fun e _ _ returned => by simp at returned
  cases done with
  | true => exact ⟨(), rfl⟩
  | false =>
      rw [if_neg (by simp), StreamWorker.served_await]
      exact step_live (.plain (by trivial) (by trivial)) fun turn s s' e answered => by
        cases turn <;> cases answered

/-- After the gathering of the tasks, however it ends, the stream task is done. -/
theorem reapTasks_live {w : StreamWorker} (hs : registrationDiscipline.inv s) :
    RegistrationSafe kafkaTopic (.task call .runner) (w.served StreamWorker.reapTasks)
      (fun _ s => (s.tasks call .stream).isDone = true) s := by
  rw [StreamWorker.reapTasks, StreamWorker.served_bind]
  refine Safe.bind hs (cancelIfRunning_live hs) (fun _ s₁ hs₁ _ => ?_) fun e _ _ returned => by
    simp at returned
  rw [StreamWorker.served_bind]
  refine Safe.bind hs₁ (cancelIfRunning_live hs₁) (fun _ s₂ hs₂ _ => ?_) fun e _ _ returned => by
    simp at returned
  rw [StreamWorker.served_await]
  intro s₃ moved hs₃
  refine ⟨trivial, fun mild turn r s₄ answered => ?_⟩
  obtain ⟨hs₄, keeps⟩ := silent_answer hs₃ (.plain (by trivial) (by trivial)) mild answered
  have answered := (unfailing_answer answered).2
  have done : (s₄.tasks call .stream).isDone = true := by
    cases turn with
    | answered | raised =>
        simp only [Service.answer, Service.taskAnswer, Thread.call, Option.getD_some, List.all_cons,
          Option.ite_none_right_eq_some, Bool.and_eq_true] at answered
        obtain ⟨both, same⟩ := answered
        cases same
        simp_all
    | named | raisedAfter | worker => cases answered
  refine ⟨hs₄, fun u _ => keeps u, ?_⟩
  cases r <;> exact done

/-- The tasks of a worker are those of the registration of its call, and are done at the end. -/
theorem worker_run_live {w : StreamWorker} (hired : Hired call w.instanceId w.subreddit w.streamId s) :
    RegistrationSafe kafkaTopic (.task call .runner) (w.served w.run)
      (fun _ s => (s.tasks call .stream).task = none) s := by
  rw [StreamWorker.run, StreamWorker.served_bind, StreamWorker.served_await]
  refine create_live (by simp [Task.role]) (fun s₁ moved _ => ?_) fun s₁ _ hs₂ _ => ?_
  · obtain ⟨known, home, alive, -⟩ := hired.stays moved
    exact ⟨⟨known, home⟩, by simp [Task.role], fun _ => ⟨rfl, alive⟩⟩
  rw [StreamWorker.served_bind, StreamWorker.served_await]
  refine create_live (by simp [Task.role])
    (fun _ _ _ => ⟨trivial, by simp [Task.role], by simp [Task.role]⟩) fun s₃ _ hs₄ _ => ?_
  have silent {γ : Type} {p : Coroutine γ} (uses : p.Uses WorkerEff.ofRun) :
      (w.served p).Uses (CalmEffect fun _ => False) :=
    calm_uses (served_anonymous w p) (Prog.Uses.link StreamWorker.serve_ofRun uses)
  rw [StreamWorker.served_bind]
  refine Safe.bind hs₄ ((RegistrationSafe.silent (silent w.superviseTasks_uses) (fun _ => True) trivial
    fun _ _ _ _ => trivial).ends (Prog.Ends.link w.serve w.superviseTasks_ends))
    (fun supervised s hs _ => ?_) fun e _ _ returned => by simp at returned
  obtain ⟨shutdownEvent, outcome⟩ := supervised
  rw [StreamWorker.served_bind, StreamWorker.served, Prog.link_attempt, Prog.link_ensure, Prog.link_ofExcept]
  refine Safe.bind hs (P := fun r s => (∃ a, r = .ok a) ∧ (s.tasks call .stream).isDone = true)
    (Safe.attempt (Safe.bindE hs (P := fun _ _ => True) (by cases outcome <;> trivial)
      fun r s hs _ => Safe.bindE hs (reapTasks_live hs) fun r' s _ done => ?_))
    (fun outcome s hs done => ?_) fun e _ _ returned => by simp at returned
  · cases r' with
    | ok _ => cases r <;> exact ⟨⟨_, rfl⟩, done⟩
    | error e => exact ⟨⟨_, rfl⟩, done⟩
  · rw [StreamWorker.served, Prog.link_ensure, Prog.link_ofExcept]
    refine Safe.bindE hs (P := fun _ s => (s.tasks call .stream).isDone = true)
      (by cases outcome <;> exact done.2) fun r s hs done => Safe.bindE hs (RegistrationSafe.silent
        (silent (StreamWorker.shutDown_uses shutdownEvent))
        (fun s => (s.tasks call .stream).isDone = true) done fun _ _ kept done => kept.1.done done)
        fun r' s _ done => ?_
    cases r' with
    | ok _ => cases r <;> exact TaskState.task_of_done done
    | error e => exact TaskState.task_of_done done

/-- The look-up of the runner finds the registration of its own call. -/
theorem getStreamBySubreddit_live (hired : Hired call instanceId subreddit streamId s) :
    RegistrationSafe kafkaTopic (.task call .runner) (getStreamBySubreddit subreddit)
      (fun r s => Hired call instanceId subreddit streamId s ∧ ∀ data id, r = .ok (some data) →
        data.get "id" = some id → id = streamId) s := by
  refine .read (.plain (by trivial) (by exact .inl (.get _))) (fun s₁ s₂ moved hs₁ kept hs₂ => ?_)
    fun e s' moved => ⟨hired.stays moved, fun _ _ same => by cases same⟩
  have hired₁ := hired.stays moved
  have hired₂ := hired₁.stays kept
  simp only [RedisCmd.run, Prog.andThen, (hired₁.registration hs₁).claim]
  split
  · rename_i sid usable
    obtain ⟨same, -⟩ := orNone_eq_some.mp usable
    cases same
    refine Safe.bind hs₂ (P := fun r s => Hired call instanceId subreddit streamId s ∧
      ∀ data id, r = .ok data → data.get "id" = some id → id = streamId) ?_
      (fun data s _ found => ⟨found.1, fun data' id same named => found.2 data' id (by cases same; rfl) named⟩)
      fun e s _ found => ⟨found.1, fun _ _ same => by cases same⟩
    refine RegistrationSafe.read (.plain (by trivial) (by exact .inl (.hgetall _)))
      (fun s₃ s₄ moved₃ hs₃ kept₃ hs₄ => ?_)
      fun e s' moved => ⟨hired₂.stays moved, fun _ _ same => by cases same⟩
    have hired₃ := hired₂.stays moved₃
    have ownId := (hired₃.registration hs₃).ownId
    simp only [RedisCmd.run, Prog.andThen]
    split
    · exact ⟨hired₃.stays kept₃, fun _ _ same => by cases same⟩
    · refine ⟨hired₃.stays kept₃, fun data id same named => ?_⟩
      cases same
      exact Option.some.inj (named.symm.trans ownId)
  · exact ⟨hired₂, fun _ _ same => by cases same⟩

theorem invokeRunner_live {lockToken : Option String} (hs : registrationDiscipline.inv s)
    (hired : Hired call instanceId subreddit streamId s) :
    RegistrationSafe kafkaTopic (.task call .runner)
      (invokeRunner kafkaTopic instanceId subreddit lockToken)
      (fun _ s => (s.tasks call .stream).task = none) s := by
  cases lockToken with
  | none => exact hired.unstaffed
  | some token =>
      refine Safe.bind hs (getStreamBySubreddit_live hired) (fun found s₁ hs₁ after => ?_)
        fun _ _ _ after => after.1.unstaffed
      obtain ⟨hired₁, own⟩ := after
      split
      · exact hired₁.unstaffed
      rename_i data
      split
      · exact hired₁.unstaffed
      rename_i id named
      cases own data id rfl named
      refine RegistrationSafe.calmly (.of_outside (by trivial) (by trivial) fun _ same => by cases same)
        fun s₂ turn r s₃ moved _ kept hs₃ _ => ?_
      have hired₃ := (hired₁.stays moved).stays kept
      cases r with
      | ok _ => exact worker_run_live hired₃
      | error e => exact hired₃.unstaffed

/-! ## The other tasks -/

/-- What the watcher raises is a cancellation. -/
theorem waitForStopRequest_live : RegistrationSafe kafkaTopic (.task call .watcher)
    (waitForStopRequest streamId)
      (fun r _ => ∀ e, r = .error e → e.isInstance [.cancelledError] = true) s := by
  refine Safe.forever (fun _ => True) trivial (fun _ _ _ _ _ => trivial) fun s₁ _ _ => ?_
  refine RegistrationSafe.calmly (.plain (by trivial) (by exact .inl (.keyExists _)))
    fun s₂ turn r s₃ _ _ _ hs₃ answered => ?_
  rcases unfailing_redis answered with ⟨rfl, -⟩ | ⟨⟨e, rfl, cancelled⟩, -⟩
  · simp only [RedisCmd.run, Prog.andThen]
    split
    · exact fun _ same => by cases same
    · refine RegistrationSafe.calmly (.plain (by trivial) (by trivial))
        fun s₄ turn r s₅ _ _ _ _ answered => ?_
      obtain ⟨proper, answered⟩ := unfailing_answer answered
      cases r with
      | ok _ => trivial
      | error e =>
          rintro e' ⟨⟩
          cases turn with
          | raised e =>
              simp only [Service.answer] at answered
              obtain ⟨cancelled, same⟩ := Option.ite_none_left_eq_some.mp answered
              cases same
              exact cancelled_of_proper proper (by simpa [mayRaise] using cancelled)
          | answered | named | raisedAfter | worker => cases answered
  · rintro e' ⟨⟩
    exact cancelled

/-- A stream task writes its error status, and no other. -/
theorem streamLoop_live {w : StreamWorker} (hs : registrationDiscipline.inv s)
    (begun : s.tasks call .stream ≠ .absent) :
    RegistrationSafe kafkaTopic (.task call .stream) (w.served w.streamLoop) (fun _ _ => True) s :=
  have uses : (w.served w.streamLoop).Uses (CalmEffect (· = "error")) :=
    calm_uses (served_anonymous w _) (StreamWorker.streamLoop_served rfl)
  (RegistrationSafe.calm (t := .task call .stream) uses (fun s => s.tasks call .stream ≠ .absent) begun
    (fun _ _ kept begun => kept.1.tasks _ _ begun) fun _ there _ _ => there).forget hs

theorem lockRefreshLoop_live {w : StreamWorker} :
    RegistrationSafe kafkaTopic (.task call .lock) (w.served w.lockRefreshLoop) (fun _ _ => True) s :=
  RegistrationSafe.silent (calm_uses (served_anonymous w _) StreamWorker.lockRefreshLoop_served)
    (fun _ => True) trivial fun _ _ _ _ => trivial

end programs

/-! ## Whole runs -/

/-- What the task of a call leaves behind. -/
def registrationLeft (call : Nat) : Role → Except PyExc Unit → Service → Prop
  | .runner, _, s => (s.tasks call .stream).task = none
  | .watcher, r, _ => ∀ e, r = .error e → e.isInstance [.cancelledError] = true
  | _, _, _ => True

def registrationPost : Thread → Except PyExc Unit → Service → Prop
  | .task call role, r, s => registrationLeft call role r s ∧ ∃ task, s.tasks call role = .alive task
  | _, _, _ => True

section runs

variable {kafkaTopic : String} {t : Thread} {s s' : Service} {call : Nat} {role : Role}

theorem registrationPost_stable {r : Except PyExc Unit} (kept : registrationDiscipline.keeps t s s')
    (left : registrationPost t r s) : registrationPost t r s' := by
  unfold registrationPost at *
  split
  · rename_i call role
    obtain ⟨left, task, alive⟩ := left
    obtain ⟨onward, own, idle⟩ := kept
    refine ⟨?_, task, own task alive⟩
    unfold registrationLeft at *
    split
    · cases is : s.tasks call .stream with
      | absent => rw [idle rfl is]; rfl
      | done r => rw [onward.outcome _ _ _ is]; rfl
      | created | alive => simp [is, TaskState.task] at left
    · exact left
    · trivial
  · trivial

/-- A task that begins is safe until its end. -/
theorem begin_live {task : Task} (hs : registrationDiscipline.inv s)
    (created : s.tasks call role = .created task) :
    let s' := s.setTask call role (.alive task)
    (registrationDiscipline.inv s' ∧ ∀ u, registrationDiscipline.keeps u s s') ∧
      RegistrationSafe kafkaTopic (.task call role) (task.program kafkaTopic)
        (registrationPost (.task call role)) s' := by
  intro s'
  have advanced : s.Advanced call role (.alive task) :=
    ⟨⟨task, by rw [created]; rfl⟩, .inl ⟨task, created, rfl⟩, fun _ done => (by cases done),
      fun _ _ done => (by cases done)⟩
  obtain ⟨hs', keeps⟩ := Service.advanced_step hs advanced
  refine ⟨⟨hs', fun u => keeps u (.inr fun _ alive => by cases created.symm.trans alive)⟩, ?_⟩
  have alive : s'.tasks call role = .alive task := by simp [s', Service.setTask_tasks]
  obtain ⟨named, about⟩ := hs'.2.about call role task (by rw [alive]; rfl)
  refine (RegistrationSafe.alive (Q := registrationLeft call role) ?_ alive).mono hs'
    fun _ _ _ left => ⟨left.1, task, left.2⟩
  subst named
  cases task with
  | run instanceId streamId subreddit lockToken =>
      exact run_live ⟨about.1, fun none => (by cases about.2.symm.trans none),
        fun none => (by cases alive.symm.trans none)⟩
  | runner instanceId subreddit lockToken =>
      obtain ⟨streamId, home⟩ := Option.ne_none_iff_exists'.mp about.2
      refine invokeRunner_live hs' ⟨about.1, home, ⟨_, alive⟩, ?_⟩
      rcases hs.2.early call with none | ⟨task, begun⟩ | done
      · rw [Service.setTask_tasks, if_neg (by simp [Task.role]), none]
      · cases created.symm.trans begun
      · have created : s.tasks call .runner = _ := created
        simp [created, TaskState.isDone] at done
  | watcher streamId => exact waitForStopRequest_live
  | stream w => exact streamLoop_live hs' fun none => by cases alive.symm.trans none
  | lock w => exact lockRefreshLoop_live

theorem start_live {event : ServiceEvent} {p : Program Unit} (hs : registrationDiscipline.inv s)
    (started : Service.start kafkaTopic t event s = some (p, s')) :
    (registrationDiscipline.inv s' ∧ ∀ u, registrationDiscipline.keeps u s s') ∧
      RegistrationSafe kafkaTopic t p (registrationPost t) s' := by
  have stop (request : Nat) (streamId : String) (q : Program Unit) (anonymous : q.Uses Effect.anonymous)
      (uses : q.Uses (PlainEffect fun _ permission => permission.calm (· = "stopping")))
      (begun : s.beginRequest request streamId q = some (p, s')) :
      (registrationDiscipline.inv s' ∧ ∀ u, registrationDiscipline.keeps u s s') ∧
        RegistrationSafe kafkaTopic (.stop request) p (registrationPost (.stop request)) s' := by
    unfold Service.beginRequest at begun
    split at begun <;> cases begun
    have alike : s.Alike { s with requests := Function.update s.requests request (some streamId) } :=
      ⟨.refl _, fun _ _ h => h, rfl, rfl, rfl, rfl, rfl, rfl, rfl, rfl⟩
    exact ⟨⟨⟨alike.upheld hs.1, alike.staffed hs.2⟩, alike.keeps⟩, stop_live anonymous uses⟩
  unfold Service.start at started
  split at started
  · rename_i call instanceId subreddit config
    split at started <;> cases started
    rename_i new
    have older : ∀ other x, s.calls other = some x →
        Function.update s.calls call (some (instanceId, subreddit)) other = some x := by
      intro other x known
      have ne : other ≠ call := by
        rintro rfl
        cases new.symm.trans known
      exact (Function.update_of_ne ne _ _).trans known
    have moved := Service.older_step hs (fun _ _ h => h) older
    obtain ⟨home, idle, kept⟩ := hs.2.unused call new
    exact ⟨moved, Safe.bind moved.1 (startStream_live moved.1 ⟨by simp, home, idle, kept⟩)
      (fun _ _ _ _ => trivial) fun _ _ _ _ => trivial⟩
  · exact stop _ _ _ (stopEndpoint_anonymous _ _) (stopEndpoint_uses _ trivial rfl) started
  · exact stop _ _ _ (stopStream_anonymous _ _) (stopStream_uses _ trivial rfl) started
  · exact stop _ _ _ (requestStop_anonymous _) (requestStop_plain trivial rfl) started
  · cases started
    exact ⟨⟨hs, fun u => registrationDiscipline.keeps_refl u _⟩, cleanup_live hs⟩
  · split at started <;> cases started
    exact begin_live hs ‹_›
  · cases started

/-- A task that is done has left what its role promises. -/
theorem done_live {r : Except PyExc Unit} (hs : registrationDiscipline.inv s)
    (pending : ∃ task, (s.tasks call role).task = some task) (left : registrationLeft call role r s) :
    registrationDiscipline.inv (s.setTask call role (.done r)) ∧
      ∀ u, u ≠ .task call role ∨ (∀ task, s.tasks call role ≠ .alive task) →
        registrationDiscipline.keeps u s (s.setTask call role (.done r)) := by
  refine Service.advanced_step hs ⟨pending, .inr ⟨r, rfl⟩, fun isRunner _ => ?_, fun isWatcher e same => ?_⟩
  · subst isRunner
    exact left
  · subst isWatcher
    cases same
    exact left e rfl

theorem registration_sound :
    Sound (unfailingMachine kafkaTopic) registrationDiscipline registrationPost where
  post_stable _ _ _ _ kept _ left := registrationPost_stable kept left
  start t event s p s' hs started := by
    obtain ⟨⟨hs', keeps⟩, safe⟩ := start_live hs started
    exact ⟨hs', fun u _ => keeps u, safe⟩
  finish t r s hs left := by
    cases t with
    | task call role =>
        obtain ⟨left, task, alive⟩ := left
        obtain ⟨hs', keeps⟩ := done_live hs ⟨task, by rw [alive]; rfl⟩ left
        exact ⟨hs', fun u other => keeps u (.inl other)⟩
    | start | stop | sweep => exact ⟨hs, fun u _ => registrationDiscipline.keeps_refl u _⟩
  tick event s s' hs ticked := by
    change Service.tick event s = some s' at ticked
    cases event with
    | elapse n =>
        cases ticked
        have alike : s.Alike { s with redis := s.redis.elapse n } :=
          .of_aside hs.1 ⟨⟨n, rfl⟩, rfl, rfl, rfl, rfl, rfl, rfl, rfl, rfl, fun _ _ h => h⟩ rfl rfl rfl
        exact ⟨⟨alike.upheld hs.1, alike.staffed hs.2⟩, alike.keeps⟩
    | cancelledEarly call role =>
        simp only [Service.tick] at ticked
        split at ticked <;> cases ticked
        rename_i task created
        obtain ⟨hs', keeps⟩ := done_live (r := .error .cancelledError) hs ⟨task, by rw [created]; rfl⟩ (by
          unfold registrationLeft
          split
          · rcases hs.2.early call with none | ⟨task, begun⟩ | done
            · rw [none]; rfl
            · cases created.symm.trans begun
            · simp [created, TaskState.isDone] at done
          · rintro e ⟨⟩
            decide
          · trivial)
        exact ⟨hs', fun u => keeps u (.inr fun _ alive => by cases created.symm.trans alive)⟩
    | _ => cases ticked

theorem registration_initial : registrationDiscipline.inv {} where
  left := ⟨nofun, nofun, nofun, fun _ there => (there rfl).elim, nofun, nofun, nofun, nofun⟩
  right := ⟨nofun, fun _ _ => rfl, fun _ => .inl rfl, nofun, nofun, nofun, nofun,
    fun _ _ => ⟨rfl, rfl, rfl⟩⟩

end runs

/-- The registration of a worker that is in its stream task and has not failed. -/
theorem live_registration {kafkaTopic : String} {c : ServiceConfig}
    (reached : (unfailingMachine kafkaTopic).ReachesUnder (fun t e s => s.stray t e = false)
      (Config.initial {}) c) {call : Nat} {w : StreamWorker} (streams : c.state.Streams call w)
    (working : c.state.failed call = false) :
    c.state.retired call = false ∧ c.state.registered w.streamId = some call ∧
      Registration c.state w.streamId call w.instanceId w.subreddit := by
  have hs := (registration_sound.reaches (Orderly.initial registration_initial) reached).inv
  obtain ⟨runner, alive⟩ := hs.2.under call _ streams
  obtain ⟨-, known, home⟩ := hs.2.about call .stream _ streams
  have kept : c.state.retired call = false := Bool.eq_false_iff.mpr fun retired => by
    rcases hs.2.retired call retired with failed | done | none
    · simp [working] at failed
    · simp [alive, TaskState.isDone] at done
    · cases alive.symm.trans (hs.2.orphan call none)
  have registered := hs.1.stays _ _ home kept
  obtain ⟨_, _, registration⟩ := hs.1.registered _ _ registered
  cases known.symm.trans registration.known
  exact ⟨kept, registered, registration⟩

/-- In every such run, a worker whose stream task exists and has not written its error status is
registered under its own id, with its claim. -/
theorem live_worker_registered {kafkaTopic : String} {c : ServiceConfig}
    (reached : (unfailingMachine kafkaTopic).ReachesUnder (fun t e s => s.stray t e = false)
      (Config.initial {}) c) {call : Nat} {w : StreamWorker} (streams : c.state.Streams call w)
    (working : c.state.failed call = false) : Registers c.state.redis w := by
  obtain ⟨kept, -, registration⟩ := live_registration reached streams working
  obtain ⟨status, stored, dead⟩ := registration.status
  exact ⟨registration.ownId, registration.named, registration.instanceId,
    ⟨status, stored, fun is => Bool.eq_false_iff.mp kept (dead is)⟩, registration.claim⟩

/-- In every such run, no subreddit has two such workers, on whatever instances. -/
theorem live_workers_apart {kafkaTopic : String} {c : ServiceConfig}
    (reached : (unfailingMachine kafkaTopic).ReachesUnder (fun t e s => s.stray t e = false)
      (Config.initial {}) c) {call call' : Nat} {w w' : StreamWorker}
    (streams : c.state.Streams call w) (working : c.state.failed call = false)
    (streams' : c.state.Streams call' w') (working' : c.state.failed call' = false)
    (other : call ≠ call') : w.subreddit ≠ w'.subreddit ∧ w.streamId ≠ w'.streamId := by
  obtain ⟨-, registered, registration⟩ := live_registration reached streams working
  obtain ⟨-, registered', registration'⟩ := live_registration reached streams' working'
  have ids : w.streamId ≠ w'.streamId := by
    intro same
    rw [same, registered'] at registered
    exact other (Option.some.inj registered).symm
  refine ⟨fun same => ids ?_, ids⟩
  -- both of them hold the claim on the subreddit
  have claim := registration.claim
  rw [same, registration'.claim] at claim
  exact (Option.some.inj claim).symm

/-- A `start_stream` call that goes through, and its tasks up to the start of the stream. -/
def streaming (call : Nat) (instanceId subreddit streamId token : String) :
    List (Action Thread Turn ServiceEvent) :=
  .start (.start call) (.startStream instanceId subreddit "config") ::
    (Thread.start call).turns ([.answered, .named streamId, .answered, .answered, .named "now",
      .named "now", .answered, .answered, .answered, .answered, .named token, .answered, .answered,
      .named "now", .answered, .answered, .answered]) ++
    [.finish (.start call), .start (.task call .run) .begin] ++
    (Thread.task call .run).turns [.answered, .answered] ++ .start (.task call .runner) .begin ::
    (Thread.task call .runner).turns [.answered, .answered, .answered, .answered] ++
    [.start (.task call .stream) .begin]

theorem started_worker_registered : ∃ c w,
    (unfailingMachine "topic").ReachesUnder (fun t e s => s.stray t e = false) (Config.initial {}) c ∧
      c.state.Streams 0 w ∧ w.streamId = "s" ∧ Registers c.state.redis w := by
  have run : ((unfailingMachine "topic").execUnder (fun t e s => !s.stray t e)
      (streaming 0 "i" "news" "s" "u") (Config.initial {})).map
      (fun c => ((c.state.tasks 0 .stream).task, c.state.failed 0)) =
        some (some (.stream ⟨"news", "i", "s", "topic", "i:u", 100, 30, 60, 10⟩), false) := rfl
  obtain ⟨c, reached, seen⟩ := Machine.ReachesUnder.of_execUnder_map run
  obtain ⟨streams, working⟩ := Prod.mk.inj seen
  have reached := reached.mono fun t e s mild => by simpa using mild
  exact ⟨c, _, reached, streams, rfl, live_worker_registered reached streams working⟩

/-- Two instances, with one stream each. -/
theorem two_workers_apart : ∃ c w w',
    (unfailingMachine "topic").ReachesUnder (fun t e s => s.stray t e = false) (Config.initial {}) c ∧
      c.state.Streams 0 w ∧ c.state.Streams 1 w' ∧
      w.subreddit ≠ w'.subreddit ∧ w.streamId ≠ w'.streamId := by
  have run : ((unfailingMachine "topic").execUnder (fun t e s => !s.stray t e)
      (streaming 0 "i" "news" "s" "u" ++ streaming 1 "j" "world" "s'" "u'") (Config.initial {})).map
      (fun c => (((c.state.tasks 0 .stream).task, c.state.failed 0),
        ((c.state.tasks 1 .stream).task, c.state.failed 1))) =
        some ((some (.stream ⟨"news", "i", "s", "topic", "i:u", 100, 30, 60, 10⟩), false),
          (some (.stream ⟨"world", "j", "s'", "topic", "j:u'", 100, 30, 60, 10⟩), false)) := rfl
  obtain ⟨c, reached, seen⟩ := Machine.ReachesUnder.of_execUnder_map run
  obtain ⟨⟨streams, working⟩, streams', working'⟩ := by simpa only [Prod.mk.injEq] using seen
  have reached := reached.mono fun t e s mild => by simpa using mild
  exact ⟨c, _, _, reached, streams, streams',
    live_workers_apart reached streams working streams' working' (by decide)⟩

end RedditKafka
