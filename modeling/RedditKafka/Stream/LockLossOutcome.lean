import RedditKafka.Stream.Supervision

/-!
# Loss of the lock is never masked

The refresher sets the stop event and raises without suspending in between, so
whoever sees the event finds the refresher finished. `run` never returns, and a
loss that came before the end of the stream is what it raises.
-/
namespace RedditKafka
open Async

def LostLock (outcome : Except PyExc Unit) : Prop := ∃ message, outcome = .error (.lockLostError message)

namespace Supervision

/-- The refresher has ended with the loss of the lock. -/
def LockFailed (s : Supervision) : Prop := ∃ outcome, s.tasks .lock = .done outcome ∧ LostLock outcome

/-- What `run` has made of its tasks: it raises, and it raises the loss unless it was cancelled. -/
def Verdict (s : Supervision) (outcome : Except PyExc Unit) : Prop :=
  (∃ e, outcome = .error e) ∧ (s.lostEarly = true → s.cancelled = true ∨ LostLock outcome)

/-- `control` is the actor that has not suspended. -/
structure Sane (control : Option Actor) (s : Supervision) : Prop where
  lost : s.stopEvent = true → control = some (.child .lock) ∨ s.LockFailed
  streamEnd : s.tasks .stream = .done (.ok ()) → s.LockFailed
  early : s.lostEarly = true → s.stopEvent = true
  order : s.tasks .stream = .absent → s.tasks .lock = .absent
  outcome : ∀ outcome, s.outcome = some outcome →
    s.Verdict outcome ∧ (s.cancelled = true ∨ (s.tasks .lock).isDone = true)

/-- While `run` is suspended its finished tasks stay finished, and behind the first of them no loss
comes early. Only the event loop lets a task run, and a running task is only ended by itself. -/
def Keeps : Actor → Supervision → Supervision → Prop
  | .run, s, s' => (∀ child outcome, s.tasks child = .done outcome → s'.tasks child = .done outcome) ∧
      ((∃ child, (s.tasks child).isDone = true) → s'.lostEarly = s.lostEarly) ∧
      s'.cancelled = s.cancelled ∧ s'.outcome = s.outcome
  | .child child, s, s' => s.tasks child = .running ↔ s'.tasks child = .running

end Supervision

open Supervision

theorem ChildTask.isDone_iff {task : ChildTask} :
    task.isDone = true ↔ ∃ outcome, task = .done outcome := by
  cases task <;> simp [ChildTask.isDone]

def supervision : Cooperation Supervision Actor where
  inv := Sane
  keeps := Keeps
  keeps_refl actor s := by
    cases actor with
    | run => exact ⟨fun _ _ done => done, fun _ => rfl, rfl, rfl⟩
    | child child => exact Iff.rfl
  keeps_trans actor a b c first second := by
    cases actor with
    | run =>
        refine ⟨fun child outcome done => second.1 _ _ (first.1 _ _ done), fun some_ => ?_,
          second.2.2.1.trans first.2.2.1, second.2.2.2.trans first.2.2.2⟩
        obtain ⟨child, ended⟩ := some_
        obtain ⟨outcome, done⟩ := ChildTask.isDone_iff.mp ended
        have still : (b.tasks child).isDone = true := by rw [first.1 _ _ done]; rfl
        exact (second.2.1 ⟨child, still⟩).trans (first.2.1 ⟨child, ended⟩)
    | child child => exact first.trans second

namespace Supervision.Sane

variable {control : Option Actor} {s : Supervision}

/-- Every actor but the refresher may suspend, or take over. -/
theorem away {actor : Actor} (h : Sane (some actor) s) (other : actor ≠ .child .lock) :
    Sane none s where
  lost stopped := by
    rcases h.lost stopped with held | failed
    · exact absurd (Option.some.inj held) other
    · exact .inr failed
  streamEnd := h.streamEnd
  early := h.early
  order := h.order
  outcome := h.outcome

theorem taken (h : Sane none s) (control : Option Actor) : Sane control s where
  lost stopped := by
    rcases h.lost stopped with held | failed
    · cases held
    · exact .inr failed
  streamEnd := h.streamEnd
  early := h.early
  order := h.order
  outcome := h.outcome

/-- While the refresher is suspended, the stop event is clear. -/
theorem clear (h : Sane none s) (running : s.tasks .lock = .running) : s.stopEvent = false := by
  by_contra stopped
  rcases h.lost (by simpa using stopped) with held | ⟨outcome, done, -⟩
  · cases held
  · cases running.symm.trans done

end Supervision.Sane

section children

variable {w : StreamWorker} {α : Type} {s : Supervision}

/-- A program on the event loop. -/
abbrev Supervised (w : StreamWorker) (actor : Actor) (p : Coroutine α)
    (Q : Except PyExc α → Supervision → Prop) (s : Supervision) : Prop :=
  Cooperates (supervisionMachine w) WorkerEff.awaits supervision actor p Q s

/-- The effects outside the event loop. -/
def WorkerEff.outside : WorkerEff → Bool
  | .stopIsSet | .setStop | .createTask _ | .taskDone _ | .cancelTask _ | .awaitTask _ | .waitFirst
  | .gather => false
  | _ => true

theorem answer_outside {c : WorkerEff} (outside : c.outside = true) (actor : Actor) (reply : Replies)
    (s : Supervision) : Supervision.answer actor c reply s =
      some (reply c, s.noteCancel actor (reply c)) := by
  cases c <;> first | rfl | cases outside

@[simp] theorem noteCancel_child (s : Supervision) (child : Child) (r : Except PyExc α) :
    s.noteCancel (.child child) r = s := by
  cases r <;> simp [noteCancel]

/-! ## A task that moves on -/

theorem tasks_setTask {child : Child} {task : ChildTask} : (s.setTask child task).tasks child = task := by
  simp [setTask]

theorem tasks_setTask_ne {child other : Child} {task : ChildTask} (apart : other ≠ child) :
    (s.setTask child task).tasks other = s.tasks other := by
  simp [setTask, Function.update_of_ne apart]

section setTask

variable {child : Child} {task : ChildTask} (unfinished : (s.tasks child).isDone = false)
include unfinished

theorem done_setTask {other : Child} {outcome : Except PyExc Unit}
    (done : s.tasks other = .done outcome) : (s.setTask child task).tasks other = .done outcome := by
  refine (tasks_setTask_ne ?_).trans done
  rintro rfl
  rw [done] at unfinished
  cases unfinished

theorem failed_setTask (h : s.LockFailed) : (s.setTask child task).LockFailed := by
  obtain ⟨outcome, done, lost⟩ := h
  exact ⟨outcome, done_setTask unfinished done, lost⟩

theorem sane_setTask {control control' : Option Actor} (inv : Sane control s)
    (lost : s.stopEvent = true → control = some (.child .lock) →
      control' = some (.child .lock) ∨ (s.setTask child task).LockFailed)
    (streamEnd : child = .stream → task = .done (.ok ()) → s.LockFailed)
    (made : task ≠ .absent) (order : child = .lock → s.tasks .stream ≠ .absent) :
    Sane control' (s.setTask child task) where
  lost stopped := by
    rcases inv.lost stopped with held | failed
    · exact lost stopped held
    · exact .inr (failed_setTask unfinished failed)
  streamEnd done := by
    refine failed_setTask unfinished ?_
    by_cases same : Child.stream = child
    · subst same
      exact streamEnd rfl (tasks_setTask.symm.trans done)
    · exact inv.streamEnd ((tasks_setTask_ne same).symm.trans done)
  early := inv.early
  order gone := by
    cases child with
    | stream => exact absurd (tasks_setTask.symm.trans gone) made
    | lock => exact absurd ((tasks_setTask_ne (by decide)).symm.trans gone) (order rfl)
  outcome outcome ended := by
    obtain ⟨verdict, cancelled | ended'⟩ := inv.outcome outcome ended
    · exact ⟨verdict, .inl cancelled⟩
    · obtain ⟨outcome', done⟩ := ChildTask.isDone_iff.mp ended'
      exact ⟨verdict, .inr (by rw [done_setTask unfinished done]; rfl)⟩

theorem keeps_setTask (u : Actor) (other : u ≠ .child child) :
    Keeps u s (s.setTask child task) := by
  cases u with
  | run => exact ⟨fun _ _ done => done_setTask unfinished done, fun _ => rfl, rfl, rfl⟩
  | child child' =>
      have apart : child' ≠ child := by
        rintro rfl
        exact other rfl
      exact iff_of_eq (congrArg (· = ChildTask.running) (tasks_setTask_ne apart).symm)

end setTask

/-- What an actor leaves behind when it ends. -/
def leaves : Actor → Except PyExc Unit → Supervision → Prop
  | .run, outcome, s => s.Verdict outcome ∧ (s.cancelled = true ∨ (s.tasks .lock).isDone = true)
  | .child .stream, outcome, s =>
      s.tasks .stream = .running ∧ (outcome = .ok () → s.stopEvent = true)
  | .child .lock, outcome, s =>
      s.tasks .lock = .running ∧ (s.stopEvent = true → LostLock outcome)

theorem answered_self {actor : Actor} (inv : Sane (some actor) s) :
    supervision.Answered actor s s :=
  ⟨inv, fun u _ => supervision.keeps_refl u s⟩

/-! ## The stream task -/

/-- What the stream task awaits or calls: it never sets the stop event. -/
def WorkerEff.looksOnly (c : WorkerEff) : Prop := c.outside = true ∨ c = .stopIsSet

theorem WorkerEff.looksOnly_of_comment {c : WorkerEff} (h : c.ofComment) : c.looksOnly := by
  cases c <;> first | exact .inl rfl | exact .inr rfl | cases h

namespace StreamWorker

theorem fetchAndProcessComments_looks : w.fetchAndProcessComments.Uses WorkerEff.looksOnly := by
  exact (await_uses (.inl rfl)).bind fun _ => (await_uses (.inl rfl)).bind fun checkpoint =>
    exceptException_uses ((await_uses (.inl rfl)).bind fun _ =>
      ((w.eachComment_uses checkpoint).mono fun _ => WorkerEff.looksOnly_of_comment).forever)
      fun e => (handleFetchException_straight (.inl rfl) e).uses

theorem handleError_looks (e : PyExc) : (handleError e).Uses WorkerEff.looksOnly :=
  (handleError_straight (fun _ _ _ => .inl rfl) (.inl rfl) (fun _ => .inl rfl) e).uses

theorem session_looks :
    (exceptException (CircuitBreaker.call w.fetchAndProcessComments) handleError).Uses
      WorkerEff.looksOnly := by
  refine exceptException_uses ((await_uses (.inl rfl)).bind fun _ => ?_) handleError_looks
  refine exceptException_uses ?_ fun _ => (await_uses (.inl rfl)).bind fun _ => trivial
  exact w.fetchAndProcessComments_looks.bind fun _ => (await_uses (.inl rfl)).bind fun _ => trivial

end StreamWorker

/-- The stream task changes nothing that its supervision looks at. -/
theorem supervised_looks {p : Coroutine α} (looks : p.Uses WorkerEff.looksOnly)
    (inv : Sane (some (.child .stream)) s) (running : s.tasks .stream = .running) :
    Supervised w (.child .stream) p (fun _ s' => s'.tasks .stream = .running) s := by
  refine Cooperates.of_uses (C := supervision) looks
    (fun s : Supervision => s.tasks .stream = .running) (fun a b kept => kept.mp)
    (fun s _ inv => Sane.away inv (by decide))
    (fun c s₁ reply r s₂ effect inv₁ running₁ given => ?_) inv running
  have same : s₂ = s₁ := by
    rcases effect with outside | rfl
    · have given' : Supervision.answer (.child .stream) c reply s₁ = some (r, s₂) := given
      rw [answer_outside outside, noteCancel_child] at given'
      cases given'
      rfl
    · cases given
      rfl
  subst same
  refine ⟨answered_self ?_, running₁⟩
  split at inv₁
  · exact inv₁.taken _
  · exact inv₁

/-- It returns only when it has seen the stop event. -/
theorem streamLoop_supervised (running : s.tasks .stream = .running) :
    Supervised w (.child .stream) w.streamLoop (leaves (.child .stream)) s := by
  refine Cooperates.forever (fun s => s.tasks .stream = .running) running fun s inv running => ?_
  refine Cooperates.act rfl fun reply r s₁ given => ?_
  cases given
  refine ⟨answered_self inv, ?_⟩
  by_cases stopped : s.stopEvent = true
  · simp only [Prog.ofExcept, Prog.bindE, Prog.andThen, stopped, if_true]
    exact Cooperates.ret ⟨running, fun _ => stopped⟩
  · simp only [Prog.ofExcept, Prog.bindE, Prog.andThen, if_neg stopped]
    refine Cooperates.bind inv (supervised_looks StreamWorker.session_looks inv running)
      (fun _ s' _ running => Cooperates.ret running) fun e s' _ running => ?_
    exact ⟨running, fun returned => by cases returned⟩

/-! ## The refresher -/

/-- Between its awaits: the stop event is clear. -/
def Supervision.Watching (s : Supervision) : Prop :=
  s.tasks .lock = .running ∧ s.stopEvent = false

theorem watching_suspends (inv : Sane (some (.child .lock)) s) (watching : s.Watching) :
    Sane none s where
  lost stopped := by cases watching.2.symm.trans stopped
  streamEnd := inv.streamEnd
  early := inv.early
  order := inv.order
  outcome := inv.outcome

theorem lock_awaits {c : WorkerEff} (outside : c.outside = true) (awaits : c.awaits = true)
    (inv : Sane (some (.child .lock)) s) (watching : s.Watching) :
    Supervised w (.child .lock) (await c) (fun _ s' => s'.Watching) s := by
  refine Cooperates.suspend (C := supervision) awaits (watching_suspends inv watching)
    fun s₁ kept inv₁ reply r s₂ given => ?_
  have given' : Supervision.answer (.child .lock) c reply s₁ = some (r, s₂) := given
  rw [answer_outside outside, noteCancel_child] at given'
  cases given'
  have running : s₁.tasks .lock = .running := kept.mp watching.1
  have still : s₁.Watching := ⟨running, Sane.clear inv₁ running⟩
  refine ⟨answered_self (Sane.taken inv₁ _), ?_⟩
  cases reply c with
  | ok a => exact Cooperates.ret still
  | error e => exact Cooperates.raise still

/-- Recording the loss and raising it are one step of the event loop. -/
theorem recordLockLoss_raises {message : String} {Q : Except PyExc α → Supervision → Prop}
    (inv : Sane (some (.child .lock)) s) (watching : s.Watching)
    (raises : ∀ s', s'.tasks .lock = .running →
      Q (.error (.lockLostError message)) s') :
    Supervised w (.child .lock)
      (do StreamWorker.recordLockLoss; Prog.raise (.lockLostError message)) Q s := by
  refine Cooperates.act (C := supervision) rfl fun reply r s₁ given => ?_
  cases given
  have running : s.loseLock.tasks .lock = .running := watching.1
  have lost : Sane (some (.child .lock)) s.loseLock := by
    refine ⟨fun _ => .inl rfl, inv.streamEnd, fun _ => rfl, inv.order, fun outcome ended => ?_⟩
    obtain ⟨⟨raised, early⟩, cancelled | done⟩ := inv.outcome outcome ended
    · exact ⟨⟨raised, fun _ => .inl cancelled⟩, .inl cancelled⟩
    · rw [watching.1] at done
      cases done
  refine ⟨⟨lost, ?_⟩, Cooperates.raise (raises _ running)⟩
  intro u other
  cases u with
  | child child => exact Iff.rfl
  | run =>
      refine ⟨fun _ _ done => done, fun some_ => ?_, rfl, rfl⟩
      obtain ⟨child, done⟩ := some_
      cases child with
      | stream => simp [loseLock, done]
      | lock =>
          rw [watching.1] at done
          cases done

theorem lockRefreshLoop_supervised (running : s.tasks .lock = .running)
    (clear : s.stopEvent = false) :
    Supervised w (.child .lock) w.lockRefreshLoop (leaves (.child .lock)) s := by
  refine Cooperates.forever Supervision.Watching ⟨running, clear⟩ fun s inv watching => ?_
  have quiet {s' : Supervision} {outcome : Except PyExc Unit} (watching : s'.Watching) :
      leaves (.child .lock) outcome s' :=
    ⟨watching.1, fun stopped => by cases watching.2.symm.trans stopped⟩
  refine Cooperates.bind inv (lock_awaits rfl rfl inv watching) (fun _ s inv watching => ?_)
    fun e s' _ watching => quiet watching
  refine Cooperates.bind (P := fun r s => match r with
    | .ok _ => s.Watching
    | .error e => leaves (.child .lock) (.error e) s) inv ?_ (fun success s inv watching => ?_)
    fun e s' _ left => left
  · refine Cooperates.rescue inv (lock_awaits rfl rfl inv watching) (fun _ _ _ still => still)
      fun e s inv watching => ?_
    split
    · exact recordLockLoss_raises inv watching fun s' running => ⟨running, fun _ => ⟨_, rfl⟩⟩
    · exact Cooperates.raise (quiet watching)
  · split
    · refine Cooperates.bind (P := fun r s => match r with
        | .ok _ => s.Watching
        | .error e => leaves (.child .lock) (.error e) s) inv ?_
        (fun _ s _ watching => Cooperates.ret watching) fun e s' _ left => left
      refine Cooperates.rescue inv (lock_awaits rfl rfl inv watching) (fun _ _ _ still => still)
        fun e s inv watching => ?_
      split
      · exact Cooperates.ret watching
      · exact Cooperates.raise (quiet watching)
    · exact recordLockLoss_raises inv watching fun s' running => ⟨running, fun _ => ⟨_, rfl⟩⟩

/-! ## `run` -/

/-- `run` has an outcome in hand, behind the end of a task or its own cancellation. -/
structure Supervision.Judged (outcome : Except PyExc Unit) (s : Supervision) : Prop where
  verdict : s.Verdict outcome
  behind : s.cancelled = true ∨ ∃ child, (s.tasks child).isDone = true
  open_ : s.outcome = none

theorem Supervision.Judged.kept {outcome : Except PyExc Unit} {s' : Supervision}
    (h : s.Judged outcome) (kept : Keeps .run s s') : s'.Judged outcome := by
  obtain ⟨tasks, frozen, cancelled, open_⟩ := kept
  obtain ⟨⟨raised, early⟩, behind, open'⟩ := h
  refine ⟨⟨raised, fun lost => ?_⟩, ?_, open_.trans open'⟩
  · rcases behind with gone | some_
    · exact .inl (cancelled.trans gone)
    · rw [cancelled]
      exact early ((frozen some_).symm.trans lost)
  · rcases behind with gone | ⟨child, ended⟩
    · exact .inl (cancelled.trans gone)
    · obtain ⟨outcome', done⟩ := ChildTask.isDone_iff.mp ended
      exact .inr ⟨child, by rw [tasks _ _ done]; rfl⟩

/-- And the refresher has ended too, if `run` was not cancelled. -/
structure Supervision.Reaped (outcome : Except PyExc Unit) (s : Supervision) : Prop
    extends s.Judged outcome where
  reaped : s.cancelled = true ∨ (s.tasks .lock).isDone = true

theorem Supervision.Reaped.kept {outcome : Except PyExc Unit} {s' : Supervision}
    (h : s.Reaped outcome) (kept : Keeps .run s s') : s'.Reaped outcome where
  toJudged := h.toJudged.kept kept
  reaped := by
    rcases h.reaped with gone | ended
    · exact .inl (kept.2.2.1.trans gone)
    · obtain ⟨outcome', done⟩ := ChildTask.isDone_iff.mp ended
      exact .inr (by rw [kept.1 _ _ done]; rfl)

theorem Sane.cancel {control : Option Actor} (h : Sane control s) (open_ : s.outcome = none) :
    Sane control s.cancel where
  lost := h.lost
  streamEnd := h.streamEnd
  early := h.early
  order := h.order
  outcome outcome same := by cases open_.symm.trans same

theorem interrupt_inv {r r' : Except PyExc α} {s' : Supervision}
    (h : s.interrupt r = some (r', s')) : ∃ e, r' = .error e ∧ s' = s.cancel := by
  unfold interrupt at h
  split at h
  · split at h <;> cases h
    exact ⟨_, rfl, rfl⟩
  · cases h

/-- A cancellation of `run`, with the exception it raises. -/
theorem reaped_of_cancel (e : PyExc) (open_ : s.outcome = none) : s.cancel.Reaped (.error e) where
  verdict := ⟨⟨e, rfl⟩, fun _ => .inl rfl⟩
  behind := .inl rfl
  open_ := open_
  reaped := .inl rfl

theorem answered_cancel (inv : Sane (some .run) s) (open_ : s.outcome = none) :
    supervision.Answered .run s s.cancel := by
  refine ⟨Sane.cancel inv open_, fun u other => ?_⟩
  cases u with
  | run => exact absurd rfl other
  | child child => exact Iff.rfl

/-- An exception that `except Exception` does not catch was a cancellation. -/
def Supervision.Noted (outcome : Except PyExc Unit) (r : Except PyExc α) (s : Supervision) : Prop :=
  s.Reaped outcome ∧ ∀ e, r = .error e → e.isException = false → s.cancelled = true

theorem run_outside {c : WorkerEff} (outside : c.outside = true) {outcome : Except PyExc Unit}
    (inv : Sane (some .run) s) (reaped : s.Reaped outcome) :
    Supervised w .run (await c) (Supervision.Noted outcome) s := by
  have answer {s₁ s₂ : Supervision} {reply : Replies} {r : Except PyExc c.Answer}
      (inv₁ : Sane (some .run) s₁) (reaped₁ : s₁.Reaped outcome)
      (given : Supervision.answer .run c reply s₁ = some (r, s₂)) :
      supervision.Answered .run s₁ s₂ ∧
        Supervised w .run (Prog.ofExcept r) (Supervision.Noted outcome) s₂ := by
    rw [answer_outside outside] at given
    cases given
    cases reply c with
    | ok a => exact ⟨answered_self inv₁, Cooperates.ret ⟨reaped₁, nofun⟩⟩
    | error e =>
        by_cases deadly : e.isException = false
        · simp only [noteCancel, deadly, and_self, if_true]
          refine ⟨answered_cancel inv₁ reaped₁.open_, Cooperates.raise ⟨?_, fun _ _ _ => rfl⟩⟩
          exact ⟨⟨⟨reaped₁.verdict.1, fun _ => .inl rfl⟩, .inl rfl, reaped₁.open_⟩, .inl rfl⟩
        · simp [noteCancel, deadly]
          refine ⟨answered_self inv₁, Cooperates.raise ⟨reaped₁, fun e' same mild => ?_⟩⟩
          cases same
          exact absurd mild deadly
  by_cases awaits : c.awaits = true
  · exact Cooperates.suspend (C := supervision) awaits (Sane.away inv (by decide))
      fun s₁ kept inv₁ reply r s₂ given =>
        answer (Sane.taken inv₁ _) (reaped.kept kept) given
  · exact Cooperates.act (C := supervision) (by simpa using awaits)
      fun reply r s₂ given => answer inv reaped given

theorem Supervision.Noted.error {β : Type} {outcome : Except PyExc Unit} {e : PyExc}
    (h : s.Noted outcome (.error e : Except PyExc α)) :
    s.Noted outcome (.error e : Except PyExc β) :=
  ⟨h.1, fun e' same mild => by cases same; exact h.2 e rfl mild⟩

theorem saveCheckpointForCommentId_supervised {outcome : Except PyExc Unit} (commentId : String)
    (inv : Sane (some .run) s) (reaped : s.Reaped outcome) :
    Supervised w .run (StreamWorker.saveCheckpointForCommentId commentId)
      (Supervision.Noted outcome) s := by
  refine Cooperates.rescue (P := Supervision.Noted outcome) inv ?_ (fun _ _ _ noted => noted)
    fun e s inv noted => ?_
  · exact Cooperates.bind inv (run_outside rfl inv reaped)
      (fun now s inv noted => run_outside rfl inv noted.1) fun e s _ noted => noted.error
  · split
    · exact Cooperates.ret ⟨noted.1, nofun⟩
    · exact Cooperates.raise noted.error

theorem saveCheckpoint_supervised {outcome : Except PyExc Unit} (inv : Sane (some .run) s)
    (reaped : s.Reaped outcome) :
    Supervised w .run StreamWorker.saveCheckpoint (Supervision.Noted outcome) s := by
  refine Cooperates.bind inv (run_outside rfl inv reaped) (fun checkpoint s inv noted => ?_)
    fun e s _ noted => noted.error
  cases checkpoint.lastCommentId with
  | none => exact Cooperates.ret ⟨noted.1, nofun⟩
  | some id =>
      dsimp only
      split
      · exact saveCheckpointForCommentId_supervised id inv noted.1
      · exact Cooperates.ret ⟨noted.1, nofun⟩

/-- Only a cancellation gets past the handlers of the outer `finally`. -/
def Supervision.Closed (outcome r : Except PyExc Unit) (s : Supervision) : Prop :=
  s.Reaped outcome ∧ ∀ e, r = .error e → s.cancelled = true

theorem closes {outcome : Except PyExc Unit} {p : Coroutine Unit} (inv : Sane (some .run) s)
    (body : Supervised w .run p (Supervision.Noted outcome) s) :
    Supervised w .run (exceptException p fun _ => pure ()) (Supervision.Closed outcome) s := by
  refine Cooperates.rescue inv body (fun _ _ _ noted => ⟨noted.1, nofun⟩) fun e s inv noted => ?_
  split
  · exact Cooperates.ret ⟨noted.1, nofun⟩
  · rename_i deadly
    exact Cooperates.raise ⟨noted.1, fun e' same => by
      cases same
      exact noted.2 e rfl (by simpa using deadly)⟩

theorem shutDown_supervised {outcome : Except PyExc Unit} (shutdownEvent : Bool)
    (inv : Sane (some .run) s) (reaped : s.Reaped outcome) :
    Supervised w .run (StreamWorker.shutDown shutdownEvent) (Supervision.Closed outcome) s := by
  have saved : Supervised w .run
      (if shutdownEvent then exceptException StreamWorker.saveCheckpoint fun _ => pure ()
        else pure ()) (Supervision.Closed outcome) s := by
    split
    · exact closes inv (saveCheckpoint_supervised inv reaped)
    · exact Cooperates.ret ⟨reaped, nofun⟩
  have released (s : Supervision) (inv : Sane (some .run) s) (reaped : s.Reaped outcome) :
      Supervised w .run (exceptException (await .releaseLock) fun _ => pure ())
        (Supervision.Closed outcome) s :=
    closes inv (run_outside rfl inv reaped)
  cases shutdownEvent with
  | false => exact released s inv reaped
  | true =>
      exact Cooperates.bind inv saved (fun _ s inv closed => released s inv closed.1)
        fun e s _ closed => closed

/-- The tasks are asked to end, and `run` waits until they have. -/
theorem reapTasks_supervised {outcome : Except PyExc Unit} (inv : Sane (some .run) s)
    (judged : s.Judged outcome) :
    Supervised w .run StreamWorker.reapTasks (fun r s' => match r with
      | .ok _ => s'.Reaped outcome
      | .error e => s'.Reaped (.error e)) s := by
  have asks (child : Child) (s : Supervision) (inv : Sane (some .run) s)
      (judged : s.Judged outcome) : Supervised w .run (StreamWorker.cancelIfRunning child)
        (fun r s' => r = .ok () ∧ s'.Judged outcome) s := by
    refine Cooperates.act (C := supervision) rfl fun reply r s₁ given => ?_
    cases given
    refine ⟨answered_self inv, ?_⟩
    simp only [Prog.ofExcept, Prog.bindE, Prog.andThen]
    split
    · exact Cooperates.ret ⟨rfl, judged⟩
    · refine Cooperates.act (C := supervision) rfl fun reply r s₁ given => ?_
      cases given
      exact ⟨answered_self inv, Cooperates.ret ⟨rfl, judged⟩⟩
  refine Cooperates.bind inv (asks .stream s inv judged) (fun _ s inv left => ?_)
    fun e s _ left => by cases left.1
  refine Cooperates.bind inv (asks .lock s inv left.2) (fun _ s inv left => ?_)
    fun e s _ left => by cases left.1
  refine Cooperates.suspend (C := supervision) rfl (Sane.away inv (by decide))
    fun s₁ kept inv₁ reply r s₂ given => ?_
  have judged₁ := left.2.kept kept
  have inv₁' := Sane.taken inv₁ (some .run)
  have given' : Supervision.answer .run .gather reply s₁ = some (r, s₂) := given
  simp only [Supervision.answer] at given'
  split at given'
  · rename_i both
    cases given'
    have ended : Child.lock ∈ s₁.finished := by simp [both.1]
    have done : (s₁.tasks .lock).isDone = true := (List.mem_filter.mp ended).2
    exact ⟨answered_self inv₁', Cooperates.ret ⟨judged₁, .inr done⟩⟩
  · obtain ⟨e, rfl, rfl⟩ := interrupt_inv given'
    exact ⟨answered_cancel inv₁' judged₁.open_,
      Cooperates.raise (reaped_of_cancel e judged₁.open_)⟩

/-- The outcome of a finished task. -/
theorem awaitTask_supervised {child : Child} {outcome : Except PyExc Unit}
    {Q : Except PyExc (Except PyExc Unit) → Supervision → Prop} (inv : Sane (some .run) s)
    (done : s.tasks child = .done outcome) (post : ∀ s', Sane (some .run) s' → Keeps .run s s' →
      Q (.ok outcome) s') :
    Supervised w .run (Prog.attempt (await (.awaitTask child))) Q s := by
  refine Cooperates.suspend (C := supervision) rfl (Sane.away inv (by decide))
    fun s₁ kept inv₁ reply r s₂ given => ?_
  have inv₁' := Sane.taken inv₁ (some .run)
  have given' : Supervision.answer .run (.awaitTask child) reply s₁ = some (r, s₂) := given
  simp only [Supervision.answer, kept.1 _ _ done] at given'
  cases given'
  refine ⟨answered_self inv₁', ?_⟩
  cases outcome with
  | ok u => exact Cooperates.ret (post s₁ inv₁' kept)
  | error e => exact Cooperates.ret (post s₁ inv₁' kept)

/-- Whoever is behind the loss finds the refresher ended with it. -/
theorem lockFailed_of_early (inv : Sane (some .run) s) (early : s.lostEarly = true) :
    s.LockFailed := by
  rcases inv.lost (inv.early early) with held | failed
  · cases held
  · exact failed

/-- `asyncio.wait` returned with the refresher among the finished tasks. -/
theorem judged_lock {outcome outcome' : Except PyExc Unit} (inv : Sane (some .run) s)
    (done : s.tasks .lock = .done outcome) (open_ : s.outcome = none)
    (raised : ∃ e, outcome' = .error e) (same : LostLock outcome → LostLock outcome') :
    s.Judged outcome' where
  verdict := by
    refine ⟨raised, fun early => .inr (same ?_)⟩
    obtain ⟨outcome₁, done₁, lost⟩ := lockFailed_of_early inv early
    cases done.symm.trans done₁
    exact lost
  behind := .inr ⟨.lock, by rw [done]; rfl⟩
  open_ := open_

/-- It returned without: the stream task has raised, and no loss has come before its end. -/
theorem judged_stream {outcome : Except PyExc Unit} (inv : Sane (some .run) s)
    (done : s.tasks .stream = .done outcome) (running : (s.tasks .lock).isDone = false)
    (open_ : s.outcome = none) : s.Judged outcome := by
  have unfailed : ¬ s.LockFailed := by
    rintro ⟨outcome', ended, -⟩
    rw [ended] at running
    cases running
  refine ⟨⟨?_, fun early => absurd (lockFailed_of_early inv early) unfailed⟩,
    .inr ⟨.stream, by rw [done]; rfl⟩, open_⟩
  cases outcome with
  | ok u => exact absurd (inv.streamEnd done) unfailed
  | error e => exact ⟨e, rfl⟩

theorem superviseTasks_supervised (inv : Sane (some .run) s) (open_ : s.outcome = none) :
    Supervised w .run w.superviseTasks (fun r s' => match r with
      | .ok (_, outcome) => s'.Judged outcome
      | .error _ => False) s := by
  refine Cooperates.suspend (C := supervision) rfl (Sane.away inv (by decide))
    fun s₁ kept inv₁ reply r s₂ given => ?_
  have inv₁' := Sane.taken inv₁ (some .run)
  have open₁ : s₁.outcome = none := kept.2.2.2.trans open_
  have given' : Supervision.answer .run .waitFirst reply s₁ = some (r, s₂) := given
  simp only [Supervision.answer] at given'
  split at given'
  · rename_i some_
    cases given'
    refine ⟨answered_self inv₁', ?_⟩
    by_cases lost : Child.lock ∈ s₁.finished
    · have ended : (s₁.tasks .lock).isDone = true := (List.mem_filter.mp lost).2
      obtain ⟨outcome, done⟩ := ChildTask.isDone_iff.mp ended
      simp only [Prog.ofExcept, Prog.bindE, Prog.andThen, if_pos lost]
      refine Cooperates.bind (P := fun r s' => r = .ok outcome ∧ Keeps .run s₁ s') inv₁'
        (awaitTask_supervised inv₁' done fun s' _ kept' => ⟨rfl, kept'⟩)
        (fun outcome' s' _ left => ?_) fun e s' _ left => by cases left.1
      obtain ⟨same, kept'⟩ := left
      cases same
      cases outcome with
      | ok u =>
          refine Cooperates.ret (Judged.kept ?_ kept')
          exact judged_lock inv₁' done open₁ ⟨_, rfl⟩ fun _ => ⟨_, rfl⟩
      | error e =>
          exact Cooperates.ret ((judged_lock inv₁' done open₁ ⟨e, rfl⟩ id).kept kept')
    · have running : (s₁.tasks .lock).isDone = false := by
        by_contra ended
        exact lost (List.mem_filter.mpr ⟨by simp, by simpa using ended⟩)
      have ended : (s₁.tasks .stream).isDone = true := by
        by_contra unfinished
        refine some_.1 (List.filter_eq_nil_iff.mpr fun child _ => ?_)
        cases child with
        | stream => exact unfinished
        | lock => simp [running]
      obtain ⟨outcome, done⟩ := ChildTask.isDone_iff.mp ended
      simp only [Prog.ofExcept, Prog.bindE, Prog.andThen, if_neg lost]
      refine Cooperates.bind (P := fun r s' => r = .ok outcome ∧ Keeps .run s₁ s') inv₁'
        (awaitTask_supervised inv₁' done fun s' _ kept' => ⟨rfl, kept'⟩)
        (fun outcome' s' _ left => ?_) fun e s' _ left => by cases left.1
      obtain ⟨same, kept'⟩ := left
      cases same
      have judged := (judged_stream inv₁' done running open₁).kept kept'
      cases outcome with
      | ok u => exact Cooperates.ret judged
      | error e => exact Cooperates.ret judged
  · obtain ⟨e, rfl, rfl⟩ := interrupt_inv given'
    exact ⟨answered_cancel inv₁' open₁, Cooperates.ret (reaped_of_cancel e open₁).toJudged⟩

/-- `create_task` for a task that there was not. -/
theorem answered_create (child : Child) (inv : Sane (some .run) s)
    (absent : s.tasks child = .absent) (order : child = .lock → s.tasks .stream ≠ .absent) :
    supervision.Answered .run s (s.setTask child .created) := by
  have unfinished : (s.tasks child).isDone = false := by rw [absent]; rfl
  refine ⟨sane_setTask unfinished inv (fun _ held => .inl held) nofun nofun order,
    fun u other => ?_⟩
  cases u with
  | run => exact absurd rfl other
  | child child' =>
      by_cases same : child' = child
      · subst same
        exact iff_of_false (by simp [absent]) (by simp [tasks_setTask])
      · exact iff_of_eq (congrArg (· = ChildTask.running) (tasks_setTask_ne same).symm)

/-- The inner `finally`, behind an exception. -/
theorem reap_supervised {e : PyExc} (inv : Sane (some .run) s) (judged : s.Judged (.error e)) :
    Supervised w .run (Prog.ensure (Prog.raise e) StreamWorker.reapTasks)
      (fun r s' => s'.Reaped r) s := by
  refine Cooperates.bindE (p := Prog.raise e) (P := fun r s' => r = .error e ∧ s'.Judged r) inv
    (Cooperates.raise ⟨rfl, judged⟩) fun r s inv left => ?_
  obtain ⟨rfl, judged⟩ := left
  refine Cooperates.bindE inv (reapTasks_supervised inv judged) fun r s _ reaped => ?_
  cases r with
  | ok u => exact Cooperates.raise reaped
  | error e' => exact Cooperates.raise reaped

/-- The outer `finally`, behind an exception. -/
theorem close_supervised {e : PyExc} (shutdownEvent : Bool) (inv : Sane (some .run) s)
    (reaped : s.Reaped (.error e)) :
    Supervised w .run (Prog.ensure (Prog.raise e) (StreamWorker.shutDown shutdownEvent))
      (leaves .run) s := by
  refine Cooperates.bindE (p := Prog.raise e) (P := fun r s' => r = .error e ∧ s'.Reaped r) inv
    (Cooperates.raise ⟨rfl, reaped⟩) fun r s inv left => ?_
  obtain ⟨rfl, reaped⟩ := left
  refine Cooperates.bindE inv (shutDown_supervised shutdownEvent inv reaped) fun r s _ closed => ?_
  cases r with
  | ok u => exact Cooperates.raise ⟨closed.1.verdict, closed.1.reaped⟩
  | error e' =>
      exact Cooperates.raise ⟨⟨⟨e', rfl⟩, fun _ => .inl (closed.2 e' rfl)⟩, closed.1.reaped⟩

theorem run_supervised : Supervised w .run w.run (leaves .run) {} := by
  have start : Sane (some .run) {} := ⟨nofun, nofun, nofun, fun _ => rfl, nofun⟩
  refine Cooperates.act (C := supervision) rfl fun reply r s₁ given => ?_
  cases given
  have first := answered_create .stream start rfl nofun
  refine ⟨first, Cooperates.act (C := supervision) rfl fun reply r s₂ given => ?_⟩
  cases given
  have second := answered_create .lock first.1 rfl fun _ => nofun
  refine ⟨second, ?_⟩
  refine Cooperates.bind (C := supervision) (p := w.superviseTasks) second.1
    (superviseTasks_supervised second.1 rfl) (fun result s inv judged => ?_)
    fun e s _ impossible => False.elim impossible
  obtain ⟨shutdownEvent, outcome⟩ := result
  obtain ⟨e, rfl⟩ := judged.verdict.1
  have reaps := Cooperates.attempt (Q := fun r s' => ∃ outcome, r = .ok outcome ∧
    s'.Reaped outcome) inv (reap_supervised (w := w) inv judged) fun r _ _ reaped => ⟨r, rfl, reaped⟩
  refine Cooperates.bind (C := supervision) inv reaps (fun outcome s inv left => ?_)
    fun e s _ left => by obtain ⟨_, same, -⟩ := left; cases same
  obtain ⟨_, same, reaped⟩ := left
  cases same
  obtain ⟨e', rfl⟩ := reaped.verdict.1
  exact close_supervised shutdownEvent inv reaped

/-! ## The event loop -/

/-- A created task takes its first step. -/
theorem start_supervised {child : Child} (cancelledBefore : Bool) (inv : Sane none s)
    (created : s.tasks child = .created) :
    supervision.Answered (.child child) s (s.setTask child .running) ∧
      Supervised w (.child child) (w.childProgram cancelledBefore child) (leaves (.child child))
        (s.setTask child .running) := by
  have unfinished : (s.tasks child).isDone = false := by rw [created]; rfl
  have order : child = .lock → s.tasks .stream ≠ .absent := by
    rintro rfl gone
    cases (inv.order gone).symm.trans created
  refine ⟨⟨sane_setTask unfinished inv nofun nofun nofun order, keeps_setTask unfinished⟩, ?_⟩
  have running : (s.setTask child .running).tasks child = .running := tasks_setTask
  cases child with
  | stream =>
      cases cancelledBefore with
      | true => exact Cooperates.raise ⟨running, nofun⟩
      | false => exact streamLoop_supervised running
  | lock =>
      have clear : s.stopEvent = false := by
        by_contra stopped
        rcases inv.lost (by simpa using stopped) with held | ⟨outcome, done, -⟩
        · cases held
        · cases created.symm.trans done
      cases cancelledBefore with
      | true => exact Cooperates.raise ⟨running, fun stopped => by cases clear.symm.trans stopped⟩
      | false => exact lockRefreshLoop_supervised running clear

/-- A task ends. -/
theorem finish_supervised {child : Child} {outcome : Except PyExc Unit}
    (inv : Sane (some (.child child)) s) (left : leaves (.child child) outcome s) :
    Sane none (s.setTask child (.done outcome)) ∧ ∀ u, u ≠ .child child →
      Keeps u s (s.setTask child (.done outcome)) := by
  cases child with
  | stream =>
      have unfinished : (s.tasks .stream).isDone = false := by rw [left.1]; rfl
      refine ⟨sane_setTask unfinished inv nofun (fun _ ended => ?_) nofun nofun,
        keeps_setTask unfinished⟩
      rcases inv.lost (left.2 (ChildTask.done.inj ended)) with held | failed
      · cases held
      · exact failed
  | lock =>
      have unfinished : (s.tasks .lock).isDone = false := by rw [left.1]; rfl
      have order : s.tasks .stream ≠ .absent := fun gone => by
        cases (inv.order gone).symm.trans left.1
      refine ⟨sane_setTask unfinished inv (fun stopped _ => .inr ?_) nofun nofun fun _ => order,
        keeps_setTask unfinished⟩
      exact ⟨outcome, tasks_setTask, left.2 stopped⟩

theorem supervision_sound : supervision.Sound (supervisionMachine w) WorkerEff.awaits leaves where
  start actor cancelledBefore s p s' inv started := by
    cases actor with
    | run => cases started
    | child child =>
        simp only [supervisionMachine] at started
        split at started
        · rename_i created
          cases started
          exact start_supervised cancelledBefore inv created
        · cases started
  finish actor outcome s inv left := by
    cases actor with
    | child child => exact finish_supervised inv left
    | run =>
        have calm := Sane.away inv (by decide)
        refine ⟨⟨calm.lost, calm.streamEnd, calm.early, calm.order, fun outcome' same => ?_⟩,
          fun u other => ?_⟩
        · cases same
          exact left
        · cases u with
          | run => exact absurd rfl other
          | child child => exact Iff.rfl
  tick _ _ := rfl

theorem runEntered_orderly (w : StreamWorker) :
    Orderly (eventLoop w) supervision.discipline
      (fun actor r s => s.control = some actor ∧ leaves actor r s.state) (runEntered w) where
  inv := ⟨nofun, nofun, nofun, fun _ => rfl, nofun⟩
  threads actor p running := by
    cases actor with
    | run =>
        cases running
        exact run_supervised
    | child child => cases running

end children

end RedditKafka
