import RedditKafka.Async.Driving
import RedditKafka.Stream.LockLossOutcome
import RedditKafka.Stream.WorkerMachine

/-!
# A lost lock is raised

No interleaving leaves `run` stuck behind the loss: the stream task can always
be cancelled at its next await, `run` finds both tasks finished, and then it is
the loss that it raises.
-/
namespace RedditKafka
open Async

namespace Supervision

/-- The loss came early, and `run` has not been cancelled. -/
structure Pending (s : Supervision) : Prop where
  stopped : s.stopEvent = true
  early : s.lostEarly = true
  open_ : s.cancelled = false

end Supervision

open Supervision

variable {w : StreamWorker} {s : Supervision}

theorem pending_setTask {child : Child} {task : ChildTask} (h : s.Pending) :
    (s.setTask child task).Pending :=
  ⟨h.stopped, h.early, h.open_⟩

/-! ## Cancelled tasks -/

/-- Every await ends in a cancellation. -/
def abandoned : Replies := fun _ => .error .cancelledError

/-- The effects of a task. -/
def Child.effects : Child → WorkerEff → Prop
  | .stream, c => c.looksOnly
  | .lock, c => c.ofLock

theorem child_answers (child : Child) (c : WorkerEff) (s : Supervision) (of : child.effects c)
    (h : s.Pending) : ∃ reply r s', (supervisionMachine w).answer (.child child) c reply s =
      some (r, s') ∧ s'.Pending := by
  have away (outside : c.outside = true) : ∃ reply r s',
      (supervisionMachine w).answer (.child child) c reply s = some (r, s') ∧ s'.Pending :=
    ⟨abandoned, _, _, answer_outside outside _ _ _, by rwa [noteCancel_child]⟩
  cases child with
  | stream =>
      rcases of with outside | rfl
      · exact away outside
      · exact ⟨abandoned, _, s, rfl, h⟩
  | lock =>
      cases c with
      | sleep | refreshLock | heartbeat => exact away rfl
      | setStop =>
          exact ⟨abandoned, _, s.loseLock, rfl, rfl, by simp [loseLock, h.early], h.open_⟩
      | _ => cases of

/-- What is left of a task can be brought to an end. -/
abbrev Stops (w : StreamWorker) (child : Child) {α : Type} (p : Coroutine α) : Prop :=
  p.Stoppable ((supervisionMachine w).answer (.child child)) child.effects Pending

theorem streamLoop_stops : Stops w .stream w.streamLoop := by
  have look {c : WorkerEff} (h : c.outside = true) : Stops w .stream (await c) :=
    .of_straight (await_straight (.inl h))
  have caught {α : Type} {p : Coroutine α} {handler : PyExc → Coroutine α}
      (hp : Stops w .stream p) (hh : ∀ e, Stops w .stream (handler e)) :
      Stops w .stream (exceptException p handler) := hp.rescue fun e => by
    split
    · exact hh e
    · trivial
  refine .forever (.bind (.of_straight (await_straight (.inr rfl))) fun stopped => ?_) ?_
  · split
    · trivial
    refine (caught ?_ fun e => ?_).bind fun _ => trivial
    · refine (look rfl).bind fun _ => caught ?_ fun e => (look rfl).bind fun _ => trivial
      refine .bind ?_ fun _ => (look rfl).bind fun _ => trivial
      refine (look rfl).bind fun _ => (look rfl).bind fun checkpoint => caught ?_ fun e => ?_
      · refine (look rfl).bind fun _ => .forever ?_ fun s pending => ?_
        · exact .of_straight ((w.eachComment_straight checkpoint).mono fun _ =>
            WorkerEff.looksOnly_of_comment)
        · have given : (supervisionMachine w).answer (.child .stream) .nextComment abandoned s =
              some (.error .cancelledError, s) := rfl
          exact ⟨_, _, s, .call given (.raise _ _), pending, nofun⟩
      · exact .of_straight (StreamWorker.handleFetchException_straight (.inl rfl) e)
    · exact .of_straight (StreamWorker.handleError_straight (fun _ _ _ => .inl rfl) (.inl rfl)
        (fun _ => .inl rfl) e)
  · intro s pending
    have given : (supervisionMachine w).answer (.child .stream) .stopIsSet abandoned s =
        some (.ok true, s) := by
      simp [supervisionMachine, Supervision.answer, pending.stopped]
    exact ⟨_, _, s, .call given (.ret _ _), pending, by simp⟩

theorem lockRefreshLoop_stops : Stops w .lock w.lockRefreshLoop := by
  have loses (message : String) : (do
      StreamWorker.recordLockLoss
      Prog.raise (.lockLostError message) : Coroutine Bool).Straight WorkerEff.ofLock :=
    (await_straight (by trivial)).bind fun _ => trivial
  refine .forever (.of_straight ((await_straight (by trivial)).bind fun _ => ?_)) ?_
  · refine (exceptException_straight (await_straight (by trivial)) fun _ => loses _).bind
      fun success => ?_
    split
    · exact (exceptException_straight (await_straight (by trivial)) fun _ => by trivial).bind
        fun _ => by trivial
    · exact (await_straight (by trivial)).bind fun _ => trivial
  · intro s pending
    have given : (supervisionMachine w).answer (.child .lock) (.sleep w.lockRefreshInterval)
        abandoned s = some (.error .cancelledError, s) := rfl
    exact ⟨_, _, s, .call given (.raise _ _), pending, nofun⟩

theorem childProgram_stops (child : Child) (cancelledBefore : Bool) :
    Stops w child (w.childProgram cancelledBefore child) := by
  cases child with
  | stream =>
      cases cancelledBefore with
      | true => trivial
      | false => exact streamLoop_stops
  | lock =>
      cases cancelledBefore with
      | true => trivial
      | false => exact lockRefreshLoop_stops

theorem child_course (child : Child) : Course (supervisionMachine w) WorkerEff.awaits
    (.child child) fun q _ => Stops w child q :=
  .of_stoppable fun cancelledBefore s p s' started => by
    simp only [supervisionMachine] at started
    split at started
    · cases started
      exact childProgram_stops child cancelledBefore
    · cases started

/-! ## `run` behind its tasks -/

/-- `run` creates its tasks at once; what follows has no loops. -/
inductive Launching : Coroutine Unit → Prop where
  | launched {q : Coroutine Unit} : q.Straight WorkerEff.ofRun → Launching q
  | create (child : Child) {next : Except PyExc Unit → Coroutine Unit} :
      (∀ r, Launching (next r)) → Launching (.call (.createTask child) next)

theorem reapTasks_straight : StreamWorker.reapTasks.Straight WorkerEff.ofRun := by
  have asks (child : Child) : (StreamWorker.cancelIfRunning child).Straight WorkerEff.ofRun := by
    refine (await_straight (by trivial)).bind fun finished => ?_
    split
    · trivial
    · exact await_straight (by trivial)
  exact (asks .stream).bind fun _ => (asks .lock).bind fun _ => await_straight (by trivial)

theorem run_launching : Launching w.run := by
  have given {α : Type} (r : Except PyExc α) :
      (Prog.ofExcept r : Coroutine α).Straight WorkerEff.ofRun := by
    cases r <;> trivial
  refine .create .stream fun r => ?_
  cases r with
  | error e => exact .launched trivial
  | ok u =>
      refine .create .lock fun r => ?_
      cases r with
      | error e => exact .launched trivial
      | ok u =>
          refine .launched ((w.superviseTasks_straight trivial fun _ => trivial).bind
            fun supervised => ?_)
          refine .bind (Prog.Straight.bindE ((given _).ensure reapTasks_straight) fun _ => trivial)
            fun outcome => ?_
          exact (given _).ensure (StreamWorker.shutDown_straight _)

theorem Launching.straight {q : Coroutine Unit} (h : Launching q) :
    q.Straight fun c => c.ofRun ∨ ∃ child, c = .createTask child := by
  induction h with
  | launched straight => exact straight.mono fun _ => .inl
  | create child _ ih => exact ⟨.inr ⟨child, rfl⟩, ih⟩

theorem run_course : Course (supervisionMachine w) WorkerEff.awaits .run fun q _ => Launching q where
  started _ _ _ _ started := by cases started
  answered _ r _ _ h _ := by
    cases h with
    | launched straight => exact .launched (straight.2 r)
    | create _ rest => exact rest r
  unrolled _ h := by
    cases h with
    | launched straight => cases straight
  aside _ _ _ h := h

/-- Nothing fails that `run` would have to handle as a cancellation. -/
def uneventful : Replies
  | .waitFirst => .ok []
  | .gather => .ok ()
  | _ => .error (.valueError "")

theorem run_outside_answers {c : WorkerEff} (outside : c.outside = true)
    (mild : uneventful c = .error (.valueError "")) :
    (supervisionMachine w).answer .run c uneventful s = some (uneventful c, s) := by
  have given : (supervisionMachine w).answer .run c uneventful s =
      some (uneventful c, s.noteCancel .run (uneventful c)) := answer_outside outside _ _ _
  rw [given, mild]
  rfl

/-- `run` in control goes on to its next await. -/
theorem run_answers_plain (c : WorkerEff) (s : Supervision)
    (of : c.ofRun ∨ ∃ child, c = .createTask child) (plain : c.awaits = false) (h : s.Pending) :
    ∃ reply r s', (supervisionMachine w).answer .run c reply s = some (r, s') ∧ s'.Pending := by
  rcases of with of | ⟨child, rfl⟩
  · cases c with
    | nowIso => exact ⟨uneventful, _, s, run_outside_answers rfl rfl, h⟩
    | taskDone | cancelTask => exact ⟨uneventful, _, s, rfl, h⟩
    | waitFirst | awaitTask | gather | getCheckpoint | setCheckpoint | releaseLock => cases plain
    | _ => cases of
  · exact ⟨uneventful, _, _, rfl, pending_setTask h⟩

/-- Both tasks are finished. -/
def Supervision.Over (s : Supervision) : Prop := ∀ child, (s.tasks child).isDone = true

theorem finished_of_over (h : s.Over) : s.finished = [.stream, .lock] := by
  simp [finished, h .stream, h .lock]

/-- Behind its tasks every effect of `run` can be answered. -/
theorem run_answers_over (c : WorkerEff) (s : Supervision) (of : c.ofRun)
    (h : s.Pending ∧ s.Over) : ∃ reply r s',
      (supervisionMachine w).answer .run c reply s = some (r, s') ∧ s'.Pending ∧ s'.Over := by
  have both := finished_of_over h.2
  cases c with
  | getCheckpoint | nowIso | setCheckpoint | releaseLock =>
      exact ⟨uneventful, _, s, run_outside_answers rfl rfl, h⟩
  | taskDone | cancelTask => exact ⟨uneventful, _, s, rfl, h⟩
  | waitFirst =>
      refine ⟨uneventful, .ok s.finished, s, ?_, h⟩
      exact if_pos ⟨by rw [both]; nofun, rfl⟩
  | gather => exact ⟨uneventful, .ok (), s, if_pos ⟨both, rfl⟩, h⟩
  | awaitTask child =>
      obtain ⟨outcome, done⟩ := ChildTask.isDone_iff.mp (h.2 child)
      refine ⟨uneventful, outcome, s, ?_, h⟩
      simp only [supervisionMachine, Supervision.answer, done]
  | _ => cases of

/-! ## The way to the end -/

section progress

variable {c : Config (Paced WorkerEff) (Paced.Answer WorkerEff.Answer) PyExc
  (Controlled Supervision Actor) Actor}

theorem reaches_orderly (reached : (eventLoop w).Reaches (runEntered w) c) :
    Orderly (eventLoop w) supervision.discipline
      (fun actor r s => s.control = some actor ∧ leaves actor r s.state) c :=
  supervision_sound.discipline.reaches (runEntered_orderly w) reached

/-- An actor without a program. -/
def Resigned : Actor → Supervision → Prop
  | .run, s => s.outcome ≠ none
  | .child child, s => s.tasks child ≠ .running

theorem reaches_resigned (reached : (eventLoop w).Reaches (runEntered w) c) {actor : Actor}
    (idle : c.threads actor = none) : Resigned actor c.state.state := by
  refine supervision_sound.discipline.idle (R := fun actor s => Resigned actor s.state)
    (fun actor a b kept _ resigned => ?_) (fun actor r s _ left => ?_) (runEntered_orderly w)
    (fun actor idle => ?_) reached idle
  · cases actor with
    | run => exact fun open_ => resigned (kept.2.2.2.2.symm.trans open_)
    | child child => exact fun running => resigned (kept.2.mpr running)
  · simp only [Machine.cooperative, left.1, if_true]
    cases actor with
    | run => exact Option.some_ne_none r
    | child child =>
        intro running
        cases tasks_setTask.symm.trans running
  · cases actor with
    | run => cases idle
    | child child =>
        intro running
        cases running

theorem reaches_controlled (reached : (eventLoop w).Reaches (runEntered w) c) {actor : Actor}
    (held : c.state.control = some actor) : ∃ p, c.threads actor = some p := by
  refine controlled_runs (fun u first => ?_) reached held
  cases first
  exact ⟨_, rfl⟩

theorem child_placed (reached : (eventLoop w).Reaches (runEntered w) c) (child : Child) :
    Placed WorkerEff.awaits (.child child) (fun q _ => Stops w child q) c :=
  (child_course child).reaches (fun _ running => by cases running) reached

theorem run_placed (reached : (eventLoop w).Reaches (runEntered w) c) :
    Placed WorkerEff.awaits .run (fun q _ => Launching q) c :=
  run_course.reaches (fun _ running => by cases running; exact ⟨_, run_launching, .here _⟩) reached

/-- A task that runs can be cancelled. -/
theorem child_ends (reached : (eventLoop w).Reaches (runEntered w) c) (h : c.state.state.Pending)
    {child : Child} (free : c.state.control = none ∨ c.state.control = some (.child child))
    {p : Prog (Paced WorkerEff) (Paced.Answer WorkerEff.Answer) PyExc Unit}
    (running : c.threads (.child child) = some p) :
    ∃ d, (eventLoop w).Reaches c d ∧ d.state.state.Pending ∧ d.state.control = none ∧
      (d.state.state.tasks child).isDone = true := by
  obtain ⟨q, stops, standing⟩ := child_placed reached child p running
  obtain ⟨d, outcome, s, onward, pending, same⟩ :=
    standing.ends stops (child_answers child) h free running
  refine ⟨d, onward, ?_⟩
  rw [same]
  refine ⟨pending_setTask pending, rfl, ?_⟩
  have done : (s.setTask child (.done outcome)).tasks child = .done outcome := tasks_setTask
  exact ChildTask.isDone_iff.mpr ⟨outcome, done⟩

/-- Whoever is in control comes to an await, or to its end. -/
theorem control_returns (reached : (eventLoop w).Reaches (runEntered w) c)
    (h : c.state.state.Pending) :
    ∃ d, (eventLoop w).Reaches c d ∧ d.state.state.Pending ∧ d.state.control = none := by
  cases held : c.state.control with
  | none => exact ⟨c, .refl, h, held⟩
  | some actor =>
      obtain ⟨p, running⟩ := reaches_controlled reached held
      cases actor with
      | child child =>
          obtain ⟨d, onward, pending, idle, -⟩ := child_ends reached h (.inr held) running
          exact ⟨d, onward, pending, idle⟩
      | run =>
          obtain ⟨q, launching, standing⟩ := run_placed reached p running
          rw [held] at standing
          cases standing with
          | away _ _ apart => exact absurd rfl apart
          | here =>
              exact yields launching.straight run_answers_plain
                (fun _ _ pending => ⟨pending.stopped, pending.early, pending.open_⟩) h held running
                uneventful

/-- The stream task is cancelled, unless it has ended by itself. -/
theorem stream_ends (reached : (eventLoop w).Reaches (runEntered w) c) (h : c.state.state.Pending)
    (idle : c.state.control = none) :
    ∃ d, (eventLoop w).Reaches c d ∧ d.state.state.Pending ∧ d.state.control = none ∧
      (d.state.state.tasks .stream).isDone = true := by
  cases thread : c.threads (.child .stream) with
  | some p => exact child_ends reached h (.inl idle) thread
  | none =>
      have resigned : c.state.state.tasks .stream ≠ .running := reaches_resigned reached thread
      cases task : c.state.state.tasks .stream with
      | running => exact absurd task resigned
      | done outcome => exact ⟨c, .refl, h, idle, by rw [task]; rfl⟩
      | absent =>
          have sane : Sane c.state.control c.state.state := (reaches_orderly reached).inv
          rw [idle] at sane
          rcases sane.lost h.stopped with held | ⟨outcome, done, -⟩
          · cases held
          · cases (sane.order task).symm.trans done
      | created =>
          -- Cancelled before its first step.
          have started : (eventLoop w).next (.start (.child .stream) true) c =
              some (c.put (.child .stream) (some (.raise .cancelledError))
                ⟨some (.child .stream), c.state.state.setTask .stream .running⟩) := by
            simp [Machine.next, thread, Machine.cooperative, idle, supervisionMachine, task,
              StreamWorker.childProgram, Prog.link]
          have begun := reached.step started
          obtain ⟨d, onward, rest⟩ :=
            child_ends begun (pending_setTask h) (.inr rfl) (Config.put_self ..)
          exact ⟨d, (Machine.Reaches.step .refl started).trans onward, rest⟩

/-- `run` has found its tasks finished and ends. -/
theorem run_ends (reached : (eventLoop w).Reaches (runEntered w) c) (h : c.state.state.Pending)
    (idle : c.state.control = none) (ended : (c.state.state.tasks .stream).isDone = true) :
    ∃ d outcome, (eventLoop w).Reaches c d ∧ d.state.state.Pending ∧
      d.state.state.outcome = some outcome := by
  cases result : c.state.state.outcome with
  | some outcome => exact ⟨c, outcome, .refl, h, result⟩
  | none =>
      have sane : Sane c.state.control c.state.state := (reaches_orderly reached).inv
      rw [idle] at sane
      have ended_ : c.state.state.Over := by
        intro child
        cases child with
        | stream => exact ended
        | lock =>
            rcases sane.lost h.stopped with held | ⟨outcome, done, -⟩
            · cases held
            · exact ChildTask.isDone_iff.mpr ⟨outcome, done⟩
      cases thread : c.threads .run with
      | none => exact absurd result (reaches_resigned reached thread)
      | some p =>
          obtain ⟨q, launching, standing⟩ := run_placed reached p thread
          have straight : q.Straight WorkerEff.ofRun := by
            rw [idle] at standing
            cases standing with
            | away next suspends _ =>
                cases launching with
                | launched straight => exact straight
                | create => cases suspends
          obtain ⟨d, outcome, s, onward, ⟨pending, -⟩, same⟩ :=
            standing.ends (.of_straight straight) run_answers_over ⟨h, ended_⟩ (.inl idle) thread
          refine ⟨d, outcome, onward, ?_⟩
          rw [same]
          exact ⟨⟨pending.stopped, pending.early, pending.open_⟩, rfl⟩

end progress

/-- Redis says that the lock is gone; nothing else fails but the saving of the checkpoint. -/
def lockGone : Replies
  | .refreshLock _ => .ok false
  | .sleep _ => .ok ()
  | c => uneventful c

/-- The refresher loses the lock before the stream task has taken its first step; the stream task
sees the stop event and returns, and both are finished when `run` goes on. -/
def lossBeforeStream : List (Action Actor Replies Bool) :=
  have calls (actor : Actor) (n : Nat) : List (Action Actor Replies Bool) :=
    List.replicate n (.call actor lockGone)
  List.flatten [calls .run 3, [.start (.child .lock) false, .unroll (.child .lock)],
    calls (.child .lock) 5, [.finish (.child .lock)],
    [.start (.child .stream) false, .unroll (.child .stream)], calls (.child .stream) 1,
    [.finish (.child .stream)], calls .run 11, [.finish .run]]

end RedditKafka
