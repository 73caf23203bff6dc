import RedditKafka.Manager.TaskSteps
import RedditKafka.Stream.WorkerMachine

/-!
# The end of a worker

`StreamWorker.run` with its two tasks, amid everything else: when it gives the
lease back, and whether it does.
-/
namespace RedditKafka
open Async Redis StreamRegistry DistributedLockManager

/-- The exceptions that `except Exception` lets through. -/
def fatal (e : PyExc) : Bool := !e.isException

/-- The await ends with a cancellation. -/
def Turn.cancels : Turn → Bool
  | .raised e | .raisedAfter e => fatal e
  | _ => false

namespace WorkerShutdown

variable (call : Nat) (w : StreamWorker)

def tasksDone (s : Service) : Bool := (s.tasks call .stream).isDone && (s.tasks call .lock).isDone

/-- For each call of `release_lock` with the worker's token: were both tasks done? -/
def noteRelease : Effect → Service → Service × Turn → List Bool → List Bool
  | .redis (.eval (.deleteIfOwner key ownerToken)), issued, _, releases =>
      if key = lockKey w.subreddit ∧ ownerToken = w.lockToken then
        releases ++ [tasksDone call issued]
      else releases
  | _, _, _, releases => releases

/-- The commands of `_save_checkpoint`; `run` itself issues no others on hashes. -/
def savesCheckpoint : Effect → Bool
  | .redis (.hgetall _) | .redis (.hset _ _) => true
  | _ => false

/-- What the runner task's part in `run` is answered, amid the others. -/
abbrev amidRun : (c : Effect) → Service × Turn → Service × List Bool →
    Option (Except PyExc c.Answer × (Service × List Bool)) :=
  amid (Service.keepsOutcomes call) (Service.answer true (.task call .runner)) (noteRelease call w)

variable {call w} {α : Type} {trace : List (Effect × (Service × Turn))} {s s' : Service × List Bool}

/-- Effects on tasks. -/
def OnTasks : Effect → Prop
  | .task _ => True
  | _ => False

theorem onTasks_quiet {p : Program α} {out : Except PyExc α} (uses : p.Uses OnTasks)
    (ran : Runs (amidRun call w) p s trace out s') :
    s'.2 = s.2 ∧ ∀ entry ∈ trace, savesCheckpoint entry.1 = false := by
  constructor
  · refine ran.keeps (fun b => b.2 = s.2) (fun c moment r a b on same answered => ?_) uses rfl
    obtain ⟨-, -, noted⟩ := amid_answered answered
    cases c with
    | task => exact noted.trans same
    | _ => cases on
  · intro entry there
    have on := ran.uses uses entry there
    obtain ⟨c, moment⟩ := entry
    cases c with
    | task => rfl
    | _ => cases on

theorem answer_keepsOutcomes {faulty : Bool} {t : Thread} {c : Effect} {turn : Turn}
    {r : Except PyExc c.Answer} {a b : Service}
    (answered : Service.answer faulty t c turn a = some (r, b)) :
    Service.keepsOutcomes call a b = true := by
  rw [Service.keepsOutcomes_iff]
  intro role outcome held
  rcases Service.answer_tasks answered call role with same | ⟨free, -⟩
  · rwa [same]
  · simp [free, TaskState.outcome] at held

/-- Done tasks stay done through any run. -/
theorem tasksDone_kept {p : Program α} {out : Except PyExc α} (ran : Runs (amidRun call w) p s trace out s')
    (done : tasksDone call s.1 = true) : tasksDone call s'.1 = true := by
  have kept : Service.keepsOutcomes call s.1 s'.1 = true :=
    ran.moves (H := fun _ => True) (R := fun a b => Service.keepsOutcomes call a.1 b.1 = true)
      (fun _ => Service.keepsOutcomes_refl call _)
      (fun _ _ _ => Service.keepsOutcomes_trans _ _ _) (fun c moment r a b _ answered => by
        obtain ⟨moved, given, -⟩ := amid_answered answered
        exact Service.keepsOutcomes_trans _ _ _ moved (answer_keepsOutcomes given)) (.any p)
  rw [Service.keepsOutcomes_iff] at kept
  simp only [tasksDone, Bool.and_eq_true, TaskState.isDone_iff, Option.ne_none_iff_exists'] at done ⊢
  exact ⟨done.1.imp fun _ => kept _ _, done.2.imp fun _ => kept _ _⟩

theorem serve_onTasks {c : WorkerEff} (on : c = .waitFirst ∨ ∃ child, c = .createTask child ∨
    c = .awaitTask child ∨ c = .taskDone child ∨ c = .cancelTask child) : (w.serve c).Uses OnTasks := by
  obtain rfl | ⟨child, rfl | rfl | rfl | rfl⟩ := on
  · exact (Prog.Uses.perform (by trivial)).bind fun _ => by trivial
  · cases child <;> exact Prog.Uses.perform (by trivial)
  all_goals exact Prog.Uses.perform (by trivial)

theorem superviseTasks_onTasks : (w.served w.superviseTasks).Uses OnTasks :=
  Prog.Uses.link (fun _ => serve_onTasks) (w.superviseTasks_straight (.inl rfl) fun child =>
    .inr ⟨child, .inr (.inl rfl)⟩).uses

/-- A step on a task that cannot be interrupted. -/
theorem task_perform {c : TaskEff} {out : Except PyExc c.Answer}
    (ran : Runs (amidRun call w) (task c) s trace out s') :
    ∃ turn now, Service.taskAnswer call c turn now = some (out, s'.1) := by
  obtain ⟨moment, -, answered⟩ := ran.perform_inv
  exact ⟨moment.2, moment.1, (amid_answered answered).2.1⟩

theorem cancelIfRunning_ok {child : Child} {out : Except PyExc Unit}
    (ran : Runs (amidRun call w) (w.served (StreamWorker.cancelIfRunning child)) s trace out s') :
    out = .ok () := by
  simp only [StreamWorker.cancelIfRunning, StreamWorker.served_bind] at ran
  rcases ran.bind_inv with ⟨e, rfl, raised⟩ | ⟨_, _, finished, _, rfl, -, rest⟩
  · rw [StreamWorker.served_await] at raised
    obtain ⟨turn, now, answered⟩ := task_perform (c := .isDone _) raised
    cases turn <;> cases answered
  · cases finished with
    | true => exact rest.ret_inv.2.1
    | false =>
        have rest : Runs (amidRun call w) (w.served (await (.cancelTask child))) _ _ out s' := rest
        rw [StreamWorker.served_await] at rest
        obtain ⟨turn, now, answered⟩ := task_perform (c := .cancel _) rest
        cases turn <;> cases answered
        rfl

/-- The inner `finally` ends only with both tasks done. -/
theorem reapTasks_done {out : Except PyExc Unit}
    (ran : Runs (amidRun call w) (w.served StreamWorker.reapTasks) s trace out s') :
    tasksDone call s'.1 = true := by
  simp only [StreamWorker.reapTasks, StreamWorker.served_bind] at ran
  rcases ran.bind_inv with ⟨e, rfl, raised⟩ | ⟨_, _, _, _, rfl, -, rest⟩
  · cases cancelIfRunning_ok raised
  rcases rest.bind_inv with ⟨e, rfl, raised⟩ | ⟨_, _, _, _, rfl, -, rest⟩
  · cases cancelIfRunning_ok raised
  rw [StreamWorker.served_await] at rest
  obtain ⟨turn, now, answered⟩ := task_perform (c := .gather _) rest
  cases turn with
  | answered =>
      simp only [Service.taskAnswer] at answered
      split at answered <;> cases answered
      rename_i done
      simpa [tasksDone] using done
  | raised e =>
      simp only [Service.taskAnswer] at answered
      split at answered <;> cases answered
      rename_i done
      simp only [Bool.and_eq_true] at done
      simpa [tasksDone] using done.1
  | _ => cases answered

/-! ## The final save -/

/-- The effects of `_save_checkpoint`. -/
def OnCheckpoint (c : Effect) : Prop := savesCheckpoint c = true ∨ c = .nowIso

theorem serve_onCheckpoint {c : WorkerEff} (on : c = .getCheckpoint ∨ c = .nowIso ∨
    ∃ id time, c = .setCheckpoint id time) : (w.serve c).Uses OnCheckpoint := by
  obtain rfl | rfl | ⟨id, time, rfl⟩ := on
  · exact (Prog.Uses.perform (.inl rfl)).bind fun _ => by trivial
  · exact Prog.Uses.perform (.inr rfl)
  · exact (Prog.Uses.perform (.inr rfl)).bind fun _ => Prog.Uses.perform (.inl rfl)

theorem saveCheckpoint_onCheckpoint : (w.served StreamWorker.saveCheckpoint).Uses OnCheckpoint :=
  Prog.Uses.link (fun _ => serve_onCheckpoint) (StreamWorker.saveCheckpoint_straight (.inl rfl)
    (.inr (.inl rfl)) fun _ _ => .inr (.inr ⟨_, _, rfl⟩)).uses

theorem exceptException_transparent {E : Type} {A : E → Type} {p : Prog E A PyExc α}
    {handler : PyExc → Prog E A PyExc α} (hp : p.Transparent fatal)
    (hh : ∀ e, (handler e).Transparent fatal) : (exceptException p handler).Transparent fatal := by
  refine hp.bindE (fun e deadly => ?_) fun r mild => ?_
  · simp_all [fatal]
  · cases r with
    | ok a => trivial
    | error e =>
        have := mild e rfl
        simp_all [fatal]

theorem persist_transparent : persist.Transparent fatal :=
  exceptException_transparent (.perform _) fun _ => by trivial

theorem updateStatus_transparent (streamId status : String) (instanceId : Option String) :
    (updateStatus streamId status instanceId).Transparent fatal := by
  refine .bind (.perform _) fun _ => .bind (.perform _) fun _ => ?_
  cases instanceId with
  | none => exact persist_transparent
  | some instanceId => exact .bind (.perform _) fun _ => persist_transparent

theorem serve_transparent (c : WorkerEff) : (w.serve c).Transparent fatal := by
  cases c with
  | getCheckpoint | waitFirst => exact .bind (.perform _) fun _ => by trivial
  | setCheckpoint => exact .bind (.perform _) fun _ => .perform _
  | updateStatus => exact updateStatus_transparent ..
  | heartbeat => exact .bind (.bind (.perform _) fun _ => .perform _) fun _ => by trivial
  | releaseLock => exact .bind (.perform _) fun _ => by trivial
  | createTask child => cases child <;> exact .perform _
  | _ => exact .perform _

theorem saveCheckpoint_transparent : (w.served StreamWorker.saveCheckpoint).Transparent fatal := by
  refine .link serve_transparent (.bind (.perform _) fun checkpoint => ?_)
  split
  · split
    · exact exceptException_transparent (.bind (.perform _) fun _ => .perform _) fun _ => by trivial
    · trivial
  · trivial

/-- What Redis itself replies is never a cancellation. -/
theorem run_error {c : RedisCmd} {store : Store} {e : PyExc} (h : (c.run store).1 = .error e) :
    fatal e = false := by
  cases c with
  | setNx key value ex =>
      cases ex with
      | none =>
          simp only [RedisCmd.run] at h
          split at h <;> cases h
      | some ttl =>
          simp only [RedisCmd.run] at h
          split at h
          · cases h
            rfl
          · split at h <;> cases h
  | _ => cases h

theorem answer_cancelled {c : Effect} {moment : Service × Turn} {r : Except PyExc c.Answer}
    (on : OnCheckpoint c) (answered : amidRun call w c moment s = some (r, s')) :
    (∃ e, r = .error e ∧ fatal e = true) ↔ (savesCheckpoint c && moment.2.cancels) = true := by
  obtain ⟨-, given, -⟩ := amid_answered answered
  obtain ⟨now, turn⟩ := moment
  cases c with
  | redis c =>
      have saves : savesCheckpoint (.redis c) = true := on.elim id nofun
      rw [saves, Bool.true_and]
      cases turn with
      | answered =>
          obtain ⟨rfl, -⟩ := Prod.mk.inj (Option.some.inj given)
          refine iff_of_false ?_ (by simp [Turn.cancels])
          rintro ⟨e, failed, deadly⟩
          rw [run_error failed] at deadly
          cases deadly
      | raised e | raisedAfter e =>
          simp only [Service.answer, mayRaise, Bool.true_or, if_true] at given
          obtain ⟨rfl, -⟩ := Prod.mk.inj (Option.some.inj given)
          simp [Turn.cancels]
      | _ => cases given
  | nowIso =>
      cases turn <;> cases given
      simp [savesCheckpoint]
  | _ => exact (on.elim nofun nofun)

/-- The save ends with a cancellation exactly when one of its commands does. -/
theorem saveCheckpoint_cancelled {out : Except PyExc Unit}
    (ran : Runs (amidRun call w) (w.served StreamWorker.saveCheckpoint) s trace out s') :
    s'.2 = s.2 ∧ ((∃ e, out = .error e ∧ fatal e = true) ↔
      ∃ entry ∈ trace, (savesCheckpoint entry.1 && entry.2.2.cancels) = true) := by
  refine ⟨?_, ran.transparent (fun c moment => savesCheckpoint c && moment.2.cancels)
    (fun _ _ _ _ _ => answer_cancelled) saveCheckpoint_onCheckpoint saveCheckpoint_transparent⟩
  refine ran.keeps (fun b => b.2 = s.2) (fun c moment r a b on same answered => ?_)
    saveCheckpoint_onCheckpoint rfl
  obtain ⟨-, -, noted⟩ := amid_answered answered
  refine Eq.trans ?_ same
  rw [noted]
  unfold noteRelease
  split
  · exact on.elim nofun nofun
  · rfl

/-! ## The whole run -/

theorem releaseLock_notes {out : Except PyExc Unit}
    (ran : Runs (amidRun call w)
      (w.served (exceptException (await .releaseLock) fun _ => pure ())) s trace out s') :
    s'.2 = s.2 ++ [tasksDone call s.1] ∧ ∀ entry ∈ trace, savesCheckpoint entry.1 = false := by
  rw [StreamWorker.served_exceptException, StreamWorker.served_await] at ran
  have released {r : Except PyExc Bool} {trace : List (Effect × (Service × Turn))}
      {s₁ : Service × List Bool}
      (ran : Runs (amidRun call w) (releaseLock w.subreddit w.lockToken) s trace r s₁) :
      s₁.2 = s.2 ++ [tasksDone call s.1] ∧ ∀ entry ∈ trace, savesCheckpoint entry.1 = false := by
    obtain ⟨moment, rfl, answered⟩ := ran.perform_inv
    obtain ⟨-, -, noted⟩ := amid_answered answered
    exact ⟨by simpa [noteRelease] using noted, by simp [savesCheckpoint]⟩
  have ignored {r : Except PyExc Unit} {trace : List (Effect × (Service × Turn))}
      {s₁ : Service × List Bool} (ran : Runs (amidRun call w) (w.serve .releaseLock) s trace r s₁) :
      s₁.2 = s.2 ++ [tasksDone call s.1] ∧ ∀ entry ∈ trace, savesCheckpoint entry.1 = false := by
    rcases ran.bind_inv with ⟨e, -, raised⟩ | ⟨before, _, _, _, rfl, first, rest⟩
    · exact released raised
    · obtain ⟨rfl, -, rfl⟩ := rest.ret_inv
      simpa using released first
  rcases ran.rescue_inv with ⟨_, -, returned⟩ | ⟨e, before, _, _, rfl, raised, rest⟩
  · exact ignored returned
  · dsimp only at rest
    split at rest
    · obtain ⟨rfl, -, rfl⟩ := rest.ret_inv
      simpa using ignored raised
    · obtain ⟨rfl, -, rfl⟩ := rest.raise_inv
      simpa using ignored raised

theorem create_ok {t : Task} {out : Except PyExc Unit}
    (ran : Runs (amidRun call w) (task (.create t)) s trace out s') : out = .ok () := by
  obtain ⟨turn, now, answered⟩ := task_perform ran
  cases turn with
  | answered =>
      simp only [Service.taskAnswer] at answered
      split at answered
      · exact (Prod.mk.inj (Option.some.inj answered)).1.symm
      · cases answered
  | _ => cases answered

theorem served_createTask_ok {child : Child} {out : Except PyExc Unit}
    (ran : Runs (amidRun call w) (w.served (await (.createTask child))) s trace out s') :
    out = .ok () := by
  rw [StreamWorker.served_await] at ran
  cases child <;> exact create_ok ran

theorem reapTasks_onTasks : (w.served StreamWorker.reapTasks).Uses OnTasks := by
  have asked (child : Child) : (w.served (StreamWorker.cancelIfRunning child)).Uses OnTasks := by
    refine Prog.Uses.link (fun _ => serve_onTasks) ((await_uses (.inr ⟨child, ?_⟩)).bind fun finished => ?_)
    · split
      · trivial
      · exact await_uses (.inr ⟨child, .inr (.inr (.inr rfl))⟩)
    · exact .inr (.inr (.inl rfl))
  simp only [StreamWorker.reapTasks, StreamWorker.served_bind]
  refine (asked _).bind fun _ => (asked _).bind fun _ => ?_
  rw [StreamWorker.served_await]
  exact Prog.Uses.perform (by trivial)

/-- The final save lets the rest of the outer `finally` run unless it is cancelled. -/
theorem finalSave_cases {out : Except PyExc Unit}
    (ran : Runs (amidRun call w)
      (w.served (exceptException StreamWorker.saveCheckpoint fun _ => pure ())) s trace out s') :
    s'.2 = s.2 ∧ (out = .ok () ↔
      ∀ entry ∈ trace, savesCheckpoint entry.1 = true → entry.2.2.cancels = false) := by
  rw [StreamWorker.served_exceptException] at ran
  have uncut {trace : List (Effect × (Service × Turn))} :
      (¬ ∃ entry ∈ trace, (savesCheckpoint entry.1 && entry.2.2.cancels) = true) ↔
        ∀ entry ∈ trace, savesCheckpoint entry.1 = true → entry.2.2.cancels = false := by
    simp
  rcases ran.rescue_inv with ⟨_, rfl, returned⟩ | ⟨e, before, _, _, rfl, raised, rest⟩
  · obtain ⟨kept, cut⟩ := saveCheckpoint_cancelled returned
    exact ⟨kept, iff_of_true rfl (uncut.mp fun there => by simpa using cut.mpr there)⟩
  · obtain ⟨kept, cut⟩ := saveCheckpoint_cancelled raised
    dsimp only at rest
    split at rest
    · rename_i exception
      obtain ⟨rfl, rfl, rfl⟩ := rest.ret_inv
      refine ⟨kept, iff_of_true rfl (uncut.mp fun there => ?_)⟩
      obtain ⟨_, same, deadly⟩ := cut.mpr (by simpa using there)
      cases same
      simp [fatal, exception] at deadly
    · rename_i deadly
      obtain ⟨rfl, rfl, rfl⟩ := rest.raise_inv
      refine ⟨kept, iff_of_false nofun fun calm => uncut.mpr calm ?_⟩
      simpa using cut.mp ⟨e, rfl, by simpa [fatal] using deadly⟩

/-- The outer `finally`, entered with both tasks done. -/
theorem shutDown_notes {shutdownEvent : Bool} {out : Except PyExc Unit}
    (ran : Runs (amidRun call w) (w.served (StreamWorker.shutDown shutdownEvent)) s trace out s')
    (unreleased : s.2 = []) (done : tasksDone call s.1 = true) : s'.2 = [true] ↔
      ∀ entry ∈ trace, savesCheckpoint entry.1 = true → entry.2.2.cancels = false := by
  have last {s : Service × List Bool} {trace : List (Effect × (Service × Turn))}
      (ran : Runs (amidRun call w)
        (w.served (exceptException (await .releaseLock) fun _ => pure ())) s trace out s')
      (unreleased : s.2 = []) (done : tasksDone call s.1 = true) :
      s'.2 = [true] ∧ ∀ entry ∈ trace, savesCheckpoint entry.1 = false := by
    obtain ⟨noted, others⟩ := releaseLock_notes ran
    exact ⟨by rw [noted, unreleased, done]; rfl, others⟩
  cases shutdownEvent with
  | false =>
      obtain ⟨released, others⟩ := last ran unreleased done
      exact iff_of_true released fun entry there saves => by simp [others entry there] at saves
  | true =>
      have ran : Runs (amidRun call w) (w.served (exceptException StreamWorker.saveCheckpoint
          (fun _ => pure ()) >>= fun _ => exceptException (await .releaseLock) fun _ => pure ()))
          s trace out s' := ran
      rw [StreamWorker.served_bind] at ran
      obtain ⟨before, after, r, s₁, rfl, saved, rest⟩ := ran.bindE_inv
      obtain ⟨kept, uncut⟩ := finalSave_cases saved
      cases r with
      | error e =>
          obtain ⟨rfl, -, rfl⟩ := rest.raise_inv
          rw [List.append_nil, ← uncut, kept, unreleased]
          simp
      | ok =>
          obtain ⟨released, others⟩ := last rest (kept.trans unreleased) (tasksDone_kept saved done)
          refine iff_of_true released fun entry there saves => ?_
          rcases List.mem_append.mp there with there | there
          · exact uncut.mp rfl entry there saves
          · simp [others entry there] at saves

/-- For every run of `run`, with any failures and any number of cancellations: behind it both of
its tasks are done, and it has called `release_lock` exactly once, when both were done, if and
only if no cancellation hit an await of the final `_save_checkpoint`. -/
theorem lease_released_behind_tasks {store : Service} {trace : List (Effect × (Service × Turn))}
    {out : Except PyExc Unit} (ran : Runs (amidRun call w) (w.served w.run) (store, []) trace out s') :
    (tasksDone call s'.1 = true ∧ s'.2 = [true]) ↔
      ∀ entry ∈ trace, savesCheckpoint entry.1 = true → entry.2.2.cancels = false := by
  simp only [StreamWorker.run, StreamWorker.served_bind] at ran
  obtain ⟨_, _, r, s₁, rfl, created, ran⟩ := ran.bindE_inv
  cases served_createTask_ok created
  obtain ⟨_, _, r, s₂, rfl, created', ran⟩ := ran.bindE_inv
  cases served_createTask_ok created'
  obtain ⟨_, _, r, s₃, rfl, supervised, ran⟩ := ran.bindE_inv
  obtain ⟨⟨shutdownEvent, outcome⟩, rfl⟩ := supervised.ends (Prog.Ends.link w.serve w.superviseTasks_ends)
  simp only [Prog.andThen] at ran
  obtain ⟨_, closing, r, s₄, rfl, reaped, rest⟩ := ran.bindE_inv
  rw [StreamWorker.served, Prog.link_attempt, Prog.link_ensure, Prog.link_ofExcept] at reaped
  obtain ⟨left, rfl, ensured⟩ := reaped.attempt_inv
  obtain ⟨_, _, _, _, s₅, rfl, passed, reaping, -⟩ := ensured.ensure_inv
  have done := reapTasks_done reaping
  have ran : Runs (amidRun call w)
      (w.served (Prog.ensure (Prog.ofExcept left) (StreamWorker.shutDown shutdownEvent)))
      s₄ closing out s' := rest
  rw [StreamWorker.served, Prog.link_ensure, Prog.link_ofExcept] at ran
  obtain ⟨_, _, _, _, s₆, rfl, passed', closed, -⟩ := ran.ensure_inv
  obtain ⟨rfl, -, rfl⟩ := passed.ofExcept_inv
  obtain ⟨rfl, -, rfl⟩ := passed'.ofExcept_inv
  have quiet {child : Child} {s s' : Service × List Bool} {out : Except PyExc Unit}
      {trace : List (Effect × (Service × Turn))}
      (ran : Runs (amidRun call w) (w.served (await (.createTask child))) s trace out s') :=
    onTasks_quiet (Prog.Uses.link (fun _ => serve_onTasks) (await_uses (.inr ⟨child, .inl rfl⟩))) ran
  obtain ⟨log₁, quiet₁⟩ := quiet created
  obtain ⟨log₂, quiet₂⟩ := quiet created'
  obtain ⟨log₃, quiet₃⟩ := onTasks_quiet superviseTasks_onTasks supervised
  obtain ⟨log₄, quiet₄⟩ := onTasks_quiet reapTasks_onTasks reaping
  have closes := shutDown_notes closed (by rw [log₄, log₃, log₂, log₁]) done
  rw [and_iff_right (tasksDone_kept closed done), closes]
  have idle {trace : List (Effect × (Service × Turn))}
      (quiet : ∀ entry ∈ trace, savesCheckpoint entry.1 = false) :
      ∀ entry ∈ trace, savesCheckpoint entry.1 = true → entry.2.2.cancels = false :=
    fun entry there saves => by simp [quiet entry there] at saves
  simp only [List.nil_append, List.forall_mem_append]
  exact ⟨fun calm => ⟨idle quiet₁, idle quiet₂, idle quiet₃, idle quiet₄, calm⟩,
    fun calm => calm.2.2.2.2⟩

/-- The service as `run` of the worker in the concrete runs sees it. -/
def pair (stream lock : TaskState) : Service where
  tasks _ role :=
    match role with
    | .stream => stream
    | .lock => lock
    | _ => .absent

def cancelledTask : TaskState := .done (.error .cancelledError)

/-- `run` is cancelled and waits for its tasks, which end, up to the final save. -/
def cancelledRun : List (Service × Turn) :=
  let stream := TaskState.alive (.stream newsWorker)
  let lock := TaskState.alive (.lock newsWorker)
  [(pair .absent .absent, .answered), (pair stream .absent, .answered),
    (pair stream lock, .raised .cancelledError), (pair stream lock, .answered),
    (pair stream lock, .answered), (pair stream lock, .answered), (pair stream lock, .answered),
    (pair cancelledTask cancelledTask, .answered)]

theorem released_after_one_cancellation : ∃ trace out s',
    Runs (amidRun 0 newsWorker) (newsWorker.served newsWorker.run) ({}, []) trace out s' ∧
      out = .error .cancelledError ∧ tasksDone 0 s'.1 = true ∧ s'.2 = [true] := by
  have run : (Runs.replay (amidRun 0 newsWorker) (newsWorker.served newsWorker.run)
      (cancelledRun ++ [(pair cancelledTask cancelledTask, .answered),
        (pair cancelledTask cancelledTask, .answered)]) ({}, [])).map (fun last => (last.2.1,
          last.1.all fun entry => !savesCheckpoint entry.1 || !entry.2.2.cancels)) =
      some (.error .cancelledError, true) := rfl
  obtain ⟨trace, out, s', ran, seen⟩ := Runs.of_replay_map run
  obtain ⟨cancelled, calm⟩ := Prod.mk.inj seen
  refine ⟨trace, out, s', ran, cancelled, (lease_released_behind_tasks ran).mpr ?_⟩
  intro entry there saves
  simpa [saves] using List.all_eq_true.mp calm entry there

/-- A second cancellation arrives while the checkpoint is read. -/
theorem unreleased_after_two_cancellations : ∃ trace out s',
    Runs (amidRun 0 newsWorker) (newsWorker.served newsWorker.run) ({}, []) trace out s' ∧
      tasksDone 0 s'.1 = true ∧ s'.2 = [] := by
  have run : (Runs.replay (amidRun 0 newsWorker) (newsWorker.served newsWorker.run)
      (cancelledRun ++ [(pair cancelledTask cancelledTask, .raised .cancelledError)])
        ({}, [])).map (fun last => (tasksDone 0 last.2.2.1, last.2.2.2)) = some (true, []) := rfl
  obtain ⟨trace, out, s', ran, seen⟩ := Runs.of_replay_map run
  obtain ⟨done, unreleased⟩ := Prod.mk.inj seen
  exact ⟨trace, out, s', ran, done, unreleased⟩

end WorkerShutdown
end RedditKafka
