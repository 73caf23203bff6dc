import RedditKafka.Manager.Registrations

/-!
# The tasks behind a registration

A worker's stream task runs under its runner, and both are about the stream that
their call has registered. A call is retired once its worker has failed, its
runner is done, or it has created no task at all.
-/
namespace RedditKafka
open Async Redis StreamRegistry StreamManager

/-- The task, while it is not done. -/
def TaskState.task : TaskState → Option Task
  | .created task | .alive task => some task
  | _ => none

/-- The task is about the stream that its call has registered. -/
def Task.about (s : Service) (call : Nat) : Task → Prop
  | .run instanceId streamId subreddit _ =>
      s.calls call = some (instanceId, subreddit) ∧ s.home call = some streamId
  | .runner instanceId subreddit _ =>
      s.calls call = some (instanceId, subreddit) ∧ s.home call ≠ none
  | .stream w => s.calls call = some (w.instanceId, w.subreddit) ∧ s.home call = some w.streamId
  | _ => True

namespace Service

structure Staffed (s : Service) : Prop where
  about : ∀ call role task, (s.tasks call role).task = some task → task.role = role ∧ task.about s call
  orphan : ∀ call, s.tasks call .run = .absent → s.tasks call .runner = .absent
  early : ∀ call, s.tasks call .stream = .absent ∨ (∃ task, s.tasks call .runner = .alive task) ∨
    (s.tasks call .runner).isDone = true
  under : ∀ call task, (s.tasks call .stream).task = some task →
    ∃ task', s.tasks call .runner = .alive task'
  watcher : ∀ call e, s.tasks call .watcher = .done (.error e) → e.isInstance [.cancelledError] = true
  failed : ∀ call, s.failed call = true → s.tasks call .stream ≠ .absent
  retired : ∀ call, s.retired call = true → s.failed call = true ∨
    (s.tasks call .runner).isDone = true ∨ s.tasks call .run = .absent
  unused : ∀ call, s.calls call = none →
    s.home call = none ∧ s.tasks call .run = .absent ∧ s.retired call = false

/-- What no step undoes. -/
structure Onward (s s' : Service) : Prop where
  owner : ∀ streamId subreddit, s.owner streamId = some subreddit → s'.owner streamId = some subreddit
  calls : ∀ call x, s.calls call = some x → s'.calls call = some x
  home : ∀ call streamId, s.home call = some streamId → s'.home call = some streamId
  tasks : ∀ call role, s.tasks call role ≠ .absent → s'.tasks call role ≠ .absent
  outcome : ∀ call role r, s.tasks call role = .done r → s'.tasks call role = .done r

theorem Onward.refl (s : Service) : s.Onward s :=
  ⟨fun _ _ h => h, fun _ _ h => h, fun _ _ h => h, fun _ _ h => h, fun _ _ _ h => h⟩

theorem Onward.trans {a b c : Service} (first : a.Onward b) (second : b.Onward c) : a.Onward c where
  owner id name h := second.owner id name (first.owner id name h)
  calls call x h := second.calls call x (first.calls call x h)
  home call id h := second.home call id (first.home call id h)
  tasks call role h := second.tasks call role (first.tasks call role h)
  outcome call role r h := second.outcome call role r (first.outcome call role r h)

/-- What a thread knows about its own call, until it acts itself. -/
def Private (t : Thread) (s s' : Service) : Prop :=
  match t with
  | .start call => (∀ id, s'.claimant id = some call ↔ s.claimant id = some call) ∧
      s'.home call = s.home call ∧ (s.tasks call .run = .absent →
        s'.tasks call .run = .absent ∧ s'.retired call = s.retired call)
  | .task call role =>
      (∀ task, s.tasks call role = .alive task → s'.tasks call role = .alive task) ∧
        (role = .runner → s.tasks call .stream = .absent → s'.tasks call .stream = .absent)
  | _ => True

theorem Private.refl (t : Thread) (s : Service) : Private t s s := by
  unfold Private
  split
  · exact ⟨fun _ => .rfl, rfl, fun h => ⟨h, rfl⟩⟩
  · exact ⟨fun _ h => h, fun _ h => h⟩
  · trivial

theorem Private.trans {t : Thread} {a b c : Service} (first : Private t a b) (second : Private t b c) :
    Private t a c := by
  unfold Private at *
  split
  · obtain ⟨claimant, home, run⟩ := first
    obtain ⟨claimant', home', run'⟩ := second
    refine ⟨fun id => (claimant' id).trans (claimant id), home'.trans home, fun none => ?_⟩
    obtain ⟨none', same⟩ := run none
    obtain ⟨none'', same'⟩ := run' none'
    exact ⟨none'', same'.trans same⟩
  · exact ⟨fun task h => second.1 task (first.1 task h),
      fun is none => second.2 is (first.2 is none)⟩
  · trivial

/-- The effect of another thread on what a thread knows about its own call. -/
theorem Private.of_eq {s s' : Service} (t : Thread) (claimant : s'.claimant = s.claimant)
    (home : s'.home = s.home) (tasks : s'.tasks = s.tasks)
    (retired : ∀ call, s.tasks call .run = .absent → s'.retired call = s.retired call) :
    Private t s s' := by
  unfold Private
  split
  · exact ⟨fun id => by rw [claimant], by rw [home], fun none => ⟨by rw [tasks, none], retired _ none⟩⟩
  · exact ⟨fun _ h => by rw [tasks, h], fun _ h => by rw [tasks, h]⟩
  · trivial

end Service

def registrationDiscipline : Discipline Effect Service Thread where
  inv s := s.Upheld ∧ s.Staffed
  keeps t s s' := s.Onward s' ∧ Service.Private t s s'
  keeps_refl t s := ⟨.refl s, .refl t s⟩
  keeps_trans _ _ _ _ first second := ⟨first.1.trans second.1, first.2.trans second.2⟩
  ok t e s := s.stray t e = false
  pledge _ _ _ := True

namespace Service

variable {s s' : Service} {t : Thread} {call : Nat} {role : Role}

/-! ## Steps that create no task -/

theorem Staffed.absent_stream (hs : s.Staffed) (none : s.tasks call .runner = .absent) :
    s.tasks call .stream = .absent := by
  rcases hs.early call with stream | ⟨task, alive⟩ | done
  · exact stream
  · cases none.symm.trans alive
  · simp [none, TaskState.isDone] at done

theorem about_mono {task : Task} (about : task.about s call)
    (calls : ∀ x, s.calls call = some x → s'.calls call = some x)
    (home : ∀ id, s.home call = some id → s'.home call = some id) : task.about s' call := by
  cases task with
  | run => exact ⟨calls _ about.1, home _ about.2⟩
  | runner =>
      obtain ⟨id, is⟩ := Option.ne_none_iff_exists'.mp about.2
      exact ⟨calls _ about.1, by simp [home id is]⟩
  | stream => exact ⟨calls _ about.1, home _ about.2⟩
  | watcher | lock => trivial

/-- Tasks stay, and what is recorded about the calls goes on. -/
theorem Staffed.moved (hs : s.Staffed) (tasks : s'.tasks = s.tasks)
    (calls : ∀ call x, s.calls call = some x → s'.calls call = some x)
    (home : ∀ call id, s.home call = some id → s'.home call = some id)
    (failed : ∀ call, s'.failed call = true → s.tasks call .stream ≠ .absent)
    (retired : ∀ call, s'.retired call = true → s'.failed call = true ∨
      (s.tasks call .runner).isDone = true ∨ s.tasks call .run = .absent)
    (unused : ∀ call, s'.calls call = none →
      s'.home call = none ∧ s.tasks call .run = .absent ∧ s'.retired call = false) : s'.Staffed where
  about call role task is := by
    rw [tasks] at is
    obtain ⟨named, about⟩ := hs.about call role task is
    exact ⟨named, about_mono about (calls call) (home call)⟩
  orphan call none := by
    rw [tasks] at none ⊢
    exact hs.orphan call none
  early call := by
    rw [tasks]
    exact hs.early call
  under call task is := by
    rw [tasks] at is ⊢
    exact hs.under call task is
  watcher call e is := hs.watcher call e (tasks ▸ is)
  failed call is := by
    rw [tasks]
    exact failed call is
  retired call is := by
    rw [tasks]
    exact retired call is
  unused call new := by
    rw [tasks]
    exact unused call new

/-- Everything is as before that the two invariants look at. -/
structure Alike (s s' : Service) : Prop where
  unaltered : Unaltered s.redis s'.redis
  identity : ∀ name id, s'.redis.get (identityKey name) = some id →
    s.redis.get (identityKey name) = some id
  owner : s'.owner = s.owner
  calls : s'.calls = s.calls
  claimant : s'.claimant = s.claimant
  registered : s'.registered = s.registered
  home : s'.home = s.home
  retired : s'.retired = s.retired
  failed : s'.failed = s.failed
  tasks : s'.tasks = s.tasks

theorem Alike.upheld (h : s.Alike s') (hs : s.Upheld) : s'.Upheld := by
  refine hs.unaltered h.unaltered (fun id name own => by rw [h.owner, own]) (fun name id held => ?_)
    (fun call x known => by rw [h.calls, known]) h.claimant h.registered h.home h.retired
  rw [h.owner]
  exact hs.identity name id (h.identity name id held)

theorem Alike.staffed (h : s.Alike s') (hs : s.Staffed) : s'.Staffed := by
  refine hs.moved h.tasks (fun call x known => by rw [h.calls, known])
    (fun call id is => by rw [h.home, is]) ?_ ?_ ?_
  · rw [h.failed]
    exact hs.failed
  · rw [h.failed, h.retired]
    exact hs.retired
  · rw [h.calls, h.home, h.retired]
    exact hs.unused

theorem Alike.keeps (h : s.Alike s') (t : Thread) : registrationDiscipline.keeps t s s' := by
  refine ⟨⟨?_, ?_, ?_, ?_, ?_⟩, .of_eq t h.claimant h.home h.tasks fun call _ => by rw [h.retired]⟩
  · rw [h.owner]
    exact fun _ _ h => h
  · rw [h.calls]
    exact fun _ _ h => h
  · rw [h.home]
    exact fun _ _ h => h
  · rw [h.tasks]
    exact fun _ _ h => h
  · rw [h.tasks]
    exact fun _ _ _ h => h

/-! ## Steps of a task -/

/-- A new task is about the stream of its call, and created at its place. -/
structure Placed (s : Service) (call : Nat) (task : Task) : Prop where
  absent : s.tasks call task.role = .absent
  about : task.about s call
  run : task.role = .run → s.retired call = false
  runner : task.role = .runner → s.tasks call .run ≠ .absent
  stream : task.role = .stream → ∃ task', s.tasks call .runner = .alive task'

theorem Placed.known {task : Task} (h : s.Placed call task) (isRun : task.role = .run) :
    s.calls call ≠ none := by
  cases task with
  | run => simp [h.about.1]
  | _ => cases isRun

theorem Placed.staffed {task : Task} (h : s.Placed call task) (hs : s.Staffed) :
    (s.setTask call task.role (.created task)).Staffed := by
  have there {call' : Nat} {role' : Role} (was : s.tasks call' role' ≠ .absent) :
      (s.setTask call task.role (.created task)).tasks call' role' = s.tasks call' role' := by
    rw [setTask_tasks, if_neg]
    rintro ⟨rfl, rfl⟩
    exact was h.absent
  have still {call' : Nat} {role' : Role}
      (none : (s.setTask call task.role (.created task)).tasks call' role' = .absent) :
      s.tasks call' role' = .absent := by
    rw [setTask_tasks] at none
    split at none
    · cases none
    · exact none
  refine ⟨?_, ?_, ?_, ?_, ?_, ?_, ?_, ?_⟩
  · intro call' role' task' is
    rw [setTask_tasks] at is
    split at is
    · rename_i same
      cases is
      rw [same.1, same.2]
      exact ⟨rfl, about_mono h.about (fun _ h => h) fun _ h => h⟩
    · obtain ⟨named, about⟩ := hs.about call' role' task' is
      exact ⟨named, about_mono about (fun _ h => h) fun _ h => h⟩
  · intro call' none
    rw [setTask_tasks, if_neg, hs.orphan call' (still none)]
    rintro ⟨rfl, isRunner⟩
    exact h.runner isRunner.symm (still none)
  · intro call'
    by_cases here : call' = call ∧ .stream = task.role
    · obtain ⟨rfl, isStream⟩ := here
      obtain ⟨task', alive⟩ := h.stream isStream.symm
      exact .inr (.inl ⟨task', by rw [there (by simp [alive]), alive]⟩)
    · rw [setTask_tasks, if_neg here]
      rcases hs.early call' with none | ⟨task', alive⟩ | done
      · exact .inl none
      · exact .inr (.inl ⟨task', by rw [there (by simp [alive]), alive]⟩)
      · refine .inr (.inr ?_)
        rwa [there]
        intro none
        simp [none, TaskState.isDone] at done
  · intro call' task' is
    by_cases here : call' = call ∧ .stream = task.role
    · obtain ⟨rfl, isStream⟩ := here
      obtain ⟨task', alive⟩ := h.stream isStream.symm
      exact ⟨task', by rw [there (by simp [alive]), alive]⟩
    · rw [setTask_tasks, if_neg here] at is
      obtain ⟨task', alive⟩ := hs.under call' task' is
      exact ⟨task', by rw [there (by simp [alive]), alive]⟩
  · intro call' e is
    rw [setTask_tasks] at is
    split at is
    · cases is
    · exact hs.watcher call' e is
  · intro call' failed none
    exact hs.failed call' failed (still none)
  · intro call' retired
    rcases hs.retired call' retired with failed | done | none
    · exact .inl failed
    · refine .inr (.inl ?_)
      rwa [there]
      intro none
      simp [none, TaskState.isDone] at done
    · refine .inr (.inr ?_)
      rw [setTask_tasks, if_neg, none]
      rintro ⟨rfl, isRun⟩
      have kept := h.run isRun.symm
      simp_all [setTask]
  · intro call' new
    obtain ⟨home, none, kept⟩ := hs.unused call' new
    refine ⟨home, ?_, kept⟩
    rw [setTask_tasks, if_neg, none]
    rintro ⟨rfl, isRun⟩
    exact h.known isRun.symm new

/-- A task that exists moves on: it begins, or it is done. -/
structure Advanced (s : Service) (call : Nat) (role : Role) (state : TaskState) : Prop where
  pending : ∃ task, (s.tasks call role).task = some task
  moves : (∃ task, s.tasks call role = .created task ∧ state = .alive task) ∨ ∃ r, state = .done r
  runner : role = .runner → state.isDone = true → (s.tasks call .stream).task = none
  watcher : role = .watcher → ∀ e, state = .done (.error e) → e.isInstance [.cancelledError] = true

theorem Advanced.staffed {state : TaskState} (h : s.Advanced call role state) (hs : s.Staffed) :
    (s.setTask call role state).Staffed := by
  obtain ⟨⟨old, pending⟩, moves, runner, watcher⟩ := h
  have there : state ≠ .absent := by
    rcases moves with ⟨task, -, rfl⟩ | ⟨r, rfl⟩ <;> exact fun same => by cases same
  have absent {call' : Nat} {role' : Role} :
      (s.setTask call role state).tasks call' role' = .absent ↔ s.tasks call' role' = .absent := by
    rw [setTask_tasks]
    split
    · rename_i same
      obtain ⟨rfl, rfl⟩ := same
      exact ⟨fun none => (there none).elim, fun none => by simp [none, TaskState.task] at pending⟩
    · rfl
  have older {call' : Nat} {role' : Role} {task : Task}
      (is : ((s.setTask call role state).tasks call' role').task = some task) :
      (s.tasks call' role').task = some task := by
    rw [setTask_tasks] at is
    split at is
    · rename_i same
      obtain ⟨rfl, rfl⟩ := same
      rcases moves with ⟨task', created, rfl⟩ | ⟨r, rfl⟩
      · rwa [created]
      · cases is
    · exact is
  have done {call' : Nat} {role' : Role} (was : (s.tasks call' role').isDone = true) :
      ((s.setTask call role state).tasks call' role').isDone = true := by
    rw [setTask_tasks, if_neg]
    · exact was
    · rintro ⟨rfl, rfl⟩
      cases is : s.tasks call' role' <;> simp [is, TaskState.isDone, TaskState.task] at was pending
  refine ⟨?_, ?_, ?_, ?_, ?_, ?_, ?_, ?_⟩
  · intro call' role' task is
    obtain ⟨named, about⟩ := hs.about call' role' task (older is)
    exact ⟨named, about_mono about (fun _ h => h) fun _ h => h⟩
  · intro call' none
    exact absent.mpr (hs.orphan call' (absent.mp none))
  · intro call'
    rcases hs.early call' with none | ⟨task, alive⟩ | was
    · exact .inl (absent.mpr none)
    · by_cases here : call' = call ∧ .runner = role
      · rw [setTask_tasks s call call' role .runner, if_pos here]
        rcases moves with ⟨task', -, rfl⟩ | ⟨r, rfl⟩
        · exact .inr (.inl ⟨task', rfl⟩)
        · exact .inr (.inr rfl)
      · exact .inr (.inl ⟨task, by rw [setTask_tasks, if_neg here, alive]⟩)
    · exact .inr (.inr (done was))
  · intro call' task is
    obtain ⟨task', alive⟩ := hs.under call' task (older is)
    refine ⟨task', ?_⟩
    rw [setTask_tasks, if_neg, alive]
    rintro ⟨rfl, rfl⟩
    -- a runner that is alive can only end, and then the stream task has ended
    rcases moves with ⟨other, created, -⟩ | ⟨r, rfl⟩
    · cases alive.symm.trans created
    · cases (runner rfl rfl).symm.trans (older is)
  · intro call' e is
    rw [setTask_tasks] at is
    split at is
    · rename_i same
      exact watcher same.2.symm e is
    · exact hs.watcher call' e is
  · intro call' failed none
    exact hs.failed call' failed (absent.mp none)
  · intro call' retired
    rcases hs.retired call' retired with failed | was | none
    · exact .inl failed
    · exact .inr (.inl (done was))
    · exact .inr (.inr (absent.mpr none))
  · intro call' new
    obtain ⟨home, none, kept⟩ := hs.unused call' new
    exact ⟨home, absent.mpr none, kept⟩

/-- What the threads rely on that do not make the step themselves. -/
theorem setTask_keeps {state : TaskState} (u : Thread) (there : state ≠ .absent)
    (open' : (s.tasks call role).isDone = false) (alive : u = .task call role → ∀ task, s.tasks call role ≠ .alive task)
    (run : role = .run → s.tasks call .run = .absent → u ≠ .start call)
    (stream : role = .stream → s.tasks call .stream = .absent → u ≠ .task call .runner) :
    registrationDiscipline.keeps u s (s.setTask call role state) := by
  have others {call' : Nat} {role' : Role} (other : ¬ (call' = call ∧ role' = role)) :
      (s.setTask call role state).tasks call' role' = s.tasks call' role' :=
    (setTask_tasks ..).trans (if_neg other)
  refine ⟨⟨fun _ _ h => h, fun _ _ h => h, fun _ _ h => h, fun call' role' was => ?_,
    fun call' role' r was => ?_⟩, ?_⟩
  · rw [setTask_tasks]
    split
    · exact there
    · exact was
  · rw [others, was]
    rintro ⟨rfl, rfl⟩
    simp [was, TaskState.isDone] at open'
  · cases u with
    | start call' =>
        refine ⟨fun _ => .rfl, rfl, fun none => ⟨?_, rfl⟩⟩
        rw [others, none]
        rintro ⟨rfl, rfl⟩
        exact run rfl none rfl
    | task call' role' =>
        refine ⟨fun task is => ?_, fun isRunner none => ?_⟩
        · rw [others, is]
          rintro ⟨rfl, rfl⟩
          exact alive rfl task is
        · rw [others, none]
          rintro ⟨rfl, rfl⟩
          exact stream rfl none (by rw [isRunner])
    | stop | sweep => trivial

/-! ## Effects that name no stream -/

theorem noteStatus_failed (key status : String) (call : Nat) :
    (s.noteStatus t key status).failed call = true ↔ s.failed call = true ∨ t = .task call .stream := by
  cases t with
  | task own role =>
      simp only [noteStatus, Function.update_apply, Thread.task.injEq]
      split
      · rename_i same
        simp [same]
      · rename_i other
        simp [Ne.symm other]
  | _ => simp [noteStatus]

/-- Only steps of asyncio, or the passing of time. -/
theorem Alike.of_aside (hs : s.Upheld) (aside : s.Aside s') (owner : s'.owner = s.owner)
    (calls : s'.calls = s.calls) (tasks : s'.tasks = s.tasks) : s.Alike s' := by
  obtain ⟨n, redis⟩ := aside.redis
  refine ⟨redis ▸ hs.elapse n, fun name id held => ?_, owner, calls, aside.claimant, aside.registered,
    aside.home, aside.retired, aside.failed, tasks⟩
  rw [redis] at held
  exact Store.get_elapse held

/-- Nothing is recorded about a plain command that writes no status, but for stop requests. -/
theorem plain_note {c : RedisCmd} (plain : RegistryLinks.PlainCommand c)
    (silent : ∀ key mapping, c = .hset key mapping → mapping.lookup "status" = none) :
    (s.note t c).claimant = s.claimant ∧ (s.note t c).registered = s.registered ∧
      (s.note t c).home = s.home ∧ (s.note t c).retired = s.retired ∧
      (s.note t c).failed = s.failed := by
  obtain ⟨anonymous, registry | lease⟩ := plain
  · cases registry with
    | claim | identity | delete => cases anonymous
    | metadata _ _ _ _ _ _ creates => exact (creates rfl).elim
    | status id status time instanceId =>
        have lookups := Service.statusMapping_lookup status time instanceId
        cases lookups.1.symm.trans (silent _ _ rfl)
    | hgetall | stopRequest => cases t <;> exact ⟨rfl, rfl, rfl, rfl, rfl⟩
    | checkpoint id mapping other =>
        simp only [note, other]
        exact ⟨trivial, trivial, trivial, trivial, trivial⟩
    | _ => exact ⟨rfl, rfl, rfl, rfl, rfl⟩
  · cases lease <;> exact ⟨rfl, rfl, rfl, rfl, rfl⟩

theorem plain_alike {c : RedisCmd} (plain : RegistryLinks.PlainCommand c)
    (silent : ∀ key mapping, c = .hset key mapping → mapping.lookup "status" = none) :
    s.Alike (s.execute t c) := by
  obtain ⟨claimant, registered, home, retired, failed⟩ := plain_note (s := s) (t := t) plain silent
  have same : RegistryLinks.Same s.redis (c.run s.redis).2 :=
    RegistryLinks.plain_same plain fun key mapping is _ written => by
      rw [silent key mapping is] at written
      cases written
  exact ⟨plain_unaltered plain silent s.redis, same.identity, by simp, by simp, claimant, registered,
    home, retired, failed, by simp⟩

end Service

/-- A thread may write a status: `_run` once its runner is done, a worker while it is in its stream
task; others only write statuses that are not terminal. -/
def Thread.writes (t : Thread) (status : String) (s : Service) : Prop :=
  match t with
  | .task call .run => (s.tasks call .runner).isDone = true
  | .task call .stream => s.tasks call .stream ≠ .absent
  | .task _ _ => False
  | _ => status ∉ DeadStreamCleanup.deadStatuses

/-- Anything but a registration, and but for these statuses. -/
def Permission.calm (may : String → Prop) : Permission → Prop
  | .create => False
  | .write status => may status
  | _ => True

/-- An effect that names no stream, creates no task and writes no status but these. -/
def CalmEffect (may : String → Prop) (e : Effect) : Prop :=
  e.anonymous ∧ ServiceEffect (fun _ permission => permission.calm may) e ∧ ∀ task, ¬ Service.Creates e task

namespace Service

variable {s s' : Service} {t : Thread} {call : Nat} {role : Role} {streamId : String}

theorem status_step (hs : registrationDiscipline.inv s) {status time : String}
    {written : Option String} (writes : t.writes status s)
    (mild : s.stray t (.redis (.hset (metaKey streamId) (statusMapping status time written))) = false) :
    let s' := s.execute t (.hset (metaKey streamId) (statusMapping status time written))
    registrationDiscipline.inv s' ∧ ∀ u, registrationDiscipline.keeps u s s' := by
  intro s'
  have noted : s.note t (.hset (metaKey streamId) (statusMapping status time written)) =
      s.noteStatus t (metaKey streamId) status := by
    have lookups := Service.statusMapping_lookup status time written
    simp only [Service.note, lookups.1, lookups.2]
  have claimant : s'.claimant = s.claimant := by
    simp only [s', Service.execute, noted]
    exact noteStatus_claimant _ _
  have home : s'.home = s.home := by
    simp only [s', Service.execute, noted]
    exact noteStatus_home _ _
  have retired (call : Nat) :
      s'.retired call = true ↔ s.retired call = true ∨ ∃ role, t = .task call role := by
    simp only [s', Service.execute, noted]
    exact noteStatus_retired _ _ call
  have failed (call : Nat) :
      s'.failed call = true ↔ s.failed call = true ∨ t = .task call .stream := by
    simp only [s', Service.execute, noted]
    exact noteStatus_failed _ _ call
  -- the call of a task that writes has a run
  have begun {call : Nat} {role : Role} (own : t = .task call role) :
      s.tasks call .run ≠ .absent := by
    intro none
    subst own
    have noRunner := hs.2.orphan call none
    cases role with
    | run => simp [Thread.writes, noRunner, TaskState.isDone] at writes
    | stream => exact writes (hs.2.absent_stream noRunner)
    | runner | watcher | lock => exact writes
  have unborn (call : Nat) (none : s.tasks call .run = .absent) : s'.retired call = s.retired call := by
    rw [Bool.eq_iff_iff, retired]
    refine or_iff_left fun written => ?_
    obtain ⟨role, own⟩ := written
    exact begun own none
  refine ⟨⟨hs.1.status mild fun dead => ?_, hs.2.moved (by simp [s']) (by simp [s']) (by simp [home])
    (fun call is => ?_) (fun call is => ?_) fun call new => ?_⟩,
    fun u => ⟨⟨by simp [s'], by simp [s'], by simp [home], by simp [s'], by simp [s']⟩,
      .of_eq u claimant home (by simp [s']) unborn⟩⟩
  · cases t with
    | task call role => exact ⟨call, role, rfl⟩
    | start | stop | sweep => exact (writes dead).elim
  · rcases (failed call).mp is with was | rfl
    · exact hs.2.failed call was
    · exact writes
  · rcases (retired call).mp is with was | ⟨role, rfl⟩
    · exact (hs.2.retired call was).imp_left fun was => (failed call).mpr (.inl was)
    · cases role with
      | run => exact .inr (.inl writes)
      | stream => exact .inl ((failed call).mpr (.inr rfl))
      | runner | watcher | lock => exact writes.elim
  · obtain ⟨homeless, none, kept⟩ := hs.2.unused call (by simpa [s'] using new)
    exact ⟨by rw [home, homeless], none, by rw [unborn call none, kept]⟩

theorem calm_redis (hs : registrationDiscipline.inv s) {may : String → Prop} {c : RedisCmd}
    (calm : CalmEffect may (.redis c)) (writes : ∀ status, may status → t.writes status s)
    (mild : s.stray t (.redis c) = false) : registrationDiscipline.inv (s.execute t c) ∧
      ∀ u, registrationDiscipline.keeps u s (s.execute t c) := by
  obtain ⟨anonymous, command, -⟩ := calm
  by_cases silent : ∀ key mapping, c = .hset key mapping → mapping.lookup "status" = none
  · have plain : RegistryLinks.PlainCommand c :=
      ⟨anonymous, command.imp_left fun registry => registry.mono fun _ permission allowed => by
        rintro rfl
        cases allowed⟩
    have alike := plain_alike (s := s) (t := t) plain silent
    exact ⟨⟨alike.upheld hs.1, alike.staffed hs.2⟩, alike.keeps⟩
  · push Not at silent
    obtain ⟨key, mapping, rfl, written⟩ := silent
    rcases command with registry | lease
    · cases registry with
      | metadata _ _ _ _ _ _ creates => exact creates.elim
      | status id status time instanceId allowed => exact status_step hs (writes _ allowed) mild
      | checkpoint id mapping other => exact (written other).elim
    · cases lease

theorem calm_answer (hs : registrationDiscipline.inv s) {may : String → Prop} {e : Effect}
    (calm : CalmEffect may e) (writes : ∀ status, may status → t.writes status s)
    (mild : s.stray t e = false) {turn : Turn} {r : Except PyExc e.Answer}
    (answered : Service.answer false t e turn s = some (r, s')) :
    registrationDiscipline.inv s' ∧ ∀ u, registrationDiscipline.keeps u s s' := by
  have still : registrationDiscipline.inv s ∧ ∀ u, registrationDiscipline.keeps u s s :=
    ⟨hs, fun u => registrationDiscipline.keeps_refl u s⟩
  have beside (aside : s.Aside s') (owner : s'.owner = s.owner) (calls : s'.calls = s.calls)
      (tasks : s'.tasks = s.tasks) :
      registrationDiscipline.inv s' ∧ ∀ u, registrationDiscipline.keeps u s s' := by
    have alike := Alike.of_aside hs.1 aside owner calls tasks
    exact ⟨⟨alike.upheld hs.1, alike.staffed hs.2⟩, alike.keeps⟩
  cases e with
  | redis c =>
      cases turn with
      | answered => cases answered; exact calm_redis hs calm writes mild
      | raisedAfter e =>
          simp only [Service.answer] at answered
          split at answered <;> cases answered
          exact calm_redis hs calm writes mild
      | raised e =>
          simp only [Service.answer] at answered
          split at answered <;> cases answered
          exact still
      | named | worker => cases answered
  | task c =>
      refine beside (taskAnswer_aside answered) (Identified.taskAnswer_owner answered)
        (RegistryLinks.taskAnswer_calls answered) ?_
      funext call role
      rcases taskAnswer_tasks answered call role with same | ⟨-, task, -, -, creates⟩
      · exact same
      · exact (calm.2.2 task creates).elim
  | uuid4 => exact calm.1.elim
  | reply => exact calm.2.1.elim
  | ownerToken instanceId =>
      cases turn with
      | named text =>
          simp only [Service.answer] at answered
          split at answered <;> cases answered
          exact beside ⟨⟨0, rfl⟩, rfl, rfl, rfl, rfl, rfl, rfl, rfl, rfl, fun _ _ h => h⟩ rfl rfl rfl
      | answered | raised | raisedAfter | worker => cases answered
  | worker c =>
      cases turn with
      | worker c' r' =>
          simp only [Service.answer] at answered
          split at answered <;> cases answered
          exact still
      | answered | named | raised | raisedAfter => cases answered
  | persist | sleep | getSerializer =>
      cases turn with
      | answered => cases answered; exact still
      | raised e =>
          simp only [Service.answer] at answered
          split at answered <;> cases answered
          exact still
      | named | raisedAfter | worker => cases answered
  | nowIso =>
      cases turn <;> cases answered
      exact still

end Service
end RedditKafka
