import RedditKafka.Async.Triples
import RedditKafka.Manager.WorkerShutdown

/-!
# Why and when `_run` ends its runner

The runner is cancelled for a cause, and a terminal status is written behind it:
whenever the stop watcher has not failed under a running runner.
-/
namespace RedditKafka
open Async Redis StreamRegistry

/-- The await ends with a result, an exception, or a cancellation. -/
def Turn.awaited : Turn → Bool
  | .raised e | .raisedAfter e => e.isException || e.isInstance [.cancelledError]
  | _ => true

theorem Turn.cancelled_of_fatal {e : PyExc} (awaited : (Turn.raised e).awaited = true)
    (deadly : fatal e = true) : e.isInstance [.cancelledError] = true := by
  rcases Bool.or_eq_true_iff.mp awaited with exception | cancelled
  · simp [fatal, exception] at deadly
  · exact cancelled

namespace RunCause

/-- What a run of `_run` has done: it was cancelled; it cancelled a running runner without having
been and before the watcher returned; it wrote a terminal status beside a running runner. -/
structure RunLog where
  cancelled : Bool := false
  unfounded : Bool := false
  premature : Bool := false

variable (call : Nat) (streamId : String)

def runnerDone (s : Service) : Bool := (s.tasks call .runner).isDone

/-- The watcher has returned. -/
def stopSeen (s : Service) : Bool :=
  match s.tasks call .watcher with
  | .done (.ok _) => true
  | _ => false

def cancelsRunner : Effect → Bool
  | .task (.cancel .runner) => true
  | _ => false

def reportsEnd : Effect → Bool
  | .redis (.hset key mapping) =>
      key = metaKey streamId &&
        (mapping.lookup "status" = some "stopped" || mapping.lookup "status" = some "error")
  | _ => false

def noteRun (c : Effect) (issued : Service) (moment : Service × Turn) (log : RunLog) : RunLog where
  cancelled := log.cancelled || moment.2.cancels
  unfounded := log.unfounded || (cancelsRunner c && !runnerDone call issued &&
    !stopSeen call issued && !log.cancelled)
  premature := log.premature || (reportsEnd streamId c && !runnerDone call issued)

/-- What `_run` is answered, amid the others. -/
abbrev amidRun : (c : Effect) → Service × Turn → Service × RunLog →
    Option (Except PyExc c.Answer × (Service × RunLog)) :=
  amid (Service.keepsOutcomes call) (Service.answer true (.task call .run)) (noteRun call streamId)

def takesResult : Effect → Bool
  | .task (.result .watcher) => true
  | _ => false

/-- When `_run` takes the result of its watcher, that one has returned, or the runner is done. -/
def SoundWatcher (c : Effect) (moment : Service × Turn) : Prop :=
  moment.2.awaited = true ∧ (takesResult c = true →
    stopSeen call moment.1 = true ∨ runnerDone call moment.1 = true)

instance (c : Effect) (moment : Service × Turn) : Decidable (SoundWatcher call c moment) :=
  inferInstanceAs (Decidable (_ ∧ (_ → _ ∨ _)))

def Cleared (s : Service × RunLog) : Prop := s.2.unfounded = false ∧ s.2.premature = false

/-- The runner may be cancelled. -/
def Founded (s : Service × RunLog) : Prop :=
  Cleared s ∧ (runnerDone call s.1 = true ∨ stopSeen call s.1 = true ∨ s.2.cancelled = true)

/-- A terminal status may be written. -/
def Over (s : Service × RunLog) : Prop := Cleared s ∧ runnerDone call s.1 = true

variable {call streamId} {c : Effect} {moment : Service × Turn} {s s' : Service × RunLog}
  {r : Except PyExc c.Answer}

theorem answered_keeps (answered : amidRun call streamId c moment s = some (r, s')) :
    Service.keepsOutcomes call s.1 s'.1 = true := by
  obtain ⟨moved, given, -⟩ := amid_answered answered
  exact Service.keepsOutcomes_trans _ _ _ moved (WorkerShutdown.answer_keepsOutcomes given)

theorem runnerDone_kept {now now' : Service} (kept : Service.keepsOutcomes call now now' = true)
    (done : runnerDone call now = true) : runnerDone call now' = true := by
  rw [runnerDone, TaskState.isDone_iff, Option.ne_none_iff_exists'] at done ⊢
  exact done.imp fun r held => Service.keepsOutcomes_iff.mp kept .runner r held

theorem stopSeen_iff {now : Service} :
    stopSeen call now = true ↔ (now.tasks call .watcher).outcome = some (.ok ()) := by
  cases is : now.tasks call .watcher with
  | done outcome => cases outcome <;> simp [stopSeen, TaskState.outcome, is]
  | _ => simp [stopSeen, TaskState.outcome, is]

theorem stopSeen_kept {now now' : Service} (kept : Service.keepsOutcomes call now now' = true)
    (seen : stopSeen call now = true) : stopSeen call now' = true := by
  rw [stopSeen_iff] at seen ⊢
  exact Service.keepsOutcomes_iff.mp kept .watcher _ seen

theorem Cleared.next (h : Cleared s) (answered : amidRun call streamId c moment s = some (r, s'))
    (cancel : cancelsRunner c = true → Founded call s) (report : reportsEnd streamId c = true → Over call s) :
    Cleared s' := by
  obtain ⟨-, -, noted⟩ := amid_answered answered
  rw [Cleared, noted]
  constructor
  · cases asks : cancelsRunner c with
    | false => simp [noteRun, h.1, asks]
    | true => rcases (cancel asks).2 with cause | cause | cause <;> simp [noteRun, h.1, cause]
  · cases asks : reportsEnd streamId c with
    | false => simp [noteRun, h.2, asks]
    | true => simp [noteRun, h.2, (report asks).2]

theorem Founded.next (h : Founded call s) (answered : amidRun call streamId c moment s = some (r, s'))
    (report : reportsEnd streamId c = true → Over call s) : Founded call s' := by
  refine ⟨h.1.next answered (fun _ => h) report, ?_⟩
  have kept := answered_keeps answered
  obtain ⟨-, -, noted⟩ := amid_answered answered
  rcases h.2 with done | seen | cancelled
  · exact .inl (runnerDone_kept kept done)
  · exact .inr (.inl (stopSeen_kept kept seen))
  · exact .inr (.inr (by simp [noted, noteRun, cancelled]))

theorem Over.next (h : Over call s) (answered : amidRun call streamId c moment s = some (r, s')) :
    Over call s' :=
  ⟨h.1.next answered (fun _ => ⟨h.1, .inl h.2⟩) fun _ => h, runnerDone_kept (answered_keeps answered) h.2⟩

/-! ## The parts of `_run` -/

abbrev Does {α : Type} (call : Nat) (streamId : String) (P : Service × RunLog → Prop)
    (p : Program α) (Q : Except PyExc α → Service × RunLog → Prop) : Prop :=
  Triple (amidRun call streamId) (SoundWatcher call) P p Q

/-- Behind the runner, anything goes. -/
theorem over_keeps {α : Type} (p : Program α) :
    Does call streamId (Over call) p fun _ => Over call :=
  .keeps (H := fun _ => True) (fun _ _ _ _ _ _ past answered => past.next answered) (.any p)

/-- With a cause, everything but a terminal status. -/
theorem founded_keeps {α : Type} {p : Program α}
    (uses : p.Uses fun c => reportsEnd streamId c = false) :
    Does call streamId (Founded call) p fun _ => Founded call :=
  .keeps (fun _ _ _ _ _ silent founded answered =>
    founded.next answered fun report => by simp [silent] at report) uses

theorem awaitRunner_over : Does call streamId Cleared (suppressCancelled (task (.awaitTask .runner)))
    fun _ => Over call := by
  refine .rescue (R := fun _ => Over call) (.perform fun s moment r s' cleared _ answered => ?_)
    (fun _ _ past => past) fun e => over_keeps _
  refine ⟨cleared.next answered nofun nofun, ?_⟩
  obtain ⟨-, given, -⟩ := amid_answered answered
  obtain ⟨now, turn⟩ := moment
  have ended : Service.taskAnswer call (.awaitTask .runner) turn now = some (r, s'.1) := given
  cases turn with
  | answered =>
      simp only [Service.taskAnswer] at ended
      split at ended <;> cases ended
      rename_i is
      simp [runnerDone, is, TaskState.isDone]
  | raised e =>
      simp only [Service.taskAnswer] at ended
      split at ended <;> cases ended
      rename_i done
      exact (Bool.and_eq_true _ _ ▸ done).1
  | _ => cases ended

theorem waitFirst_notices : Does call streamId Cleared (task (.waitFirst [.runner, .watcher]))
    fun r s => Cleared s ∧ match r with
      | .ok done => .watcher ∈ done ∨ runnerDone call s.1 = true
      | .error e => s.2.cancelled = true ∧ e.isInstance [.cancelledError] = true := by
  refine .perform fun s moment r s' cleared sound answered => ⟨cleared.next answered nofun nofun, ?_⟩
  obtain ⟨-, given, noted⟩ := amid_answered answered
  obtain ⟨now, turn⟩ := moment
  have ended : Service.taskAnswer call (.waitFirst [.runner, .watcher]) turn now =
    some (r, s'.1) := given
  cases turn with
  | answered =>
      simp only [Service.taskAnswer] at ended
      split at ended <;> cases ended
      rename_i some_
      by_cases runner : (s'.1.tasks call .runner).isDone = true
      · exact .inr runner
      · by_cases watcher : (s'.1.tasks call .watcher).isDone = true
        · exact .inl (by simp [watcher])
        · exact (some_ (by simp [runner, watcher])).elim
  | raised e =>
      simp only [Service.taskAnswer] at ended
      split at ended <;> cases ended
      rename_i deadly
      have deadly : fatal e = true := by simpa [fatal] using deadly
      exact ⟨by simp [noted, noteRun, Turn.cancels, deadly], Turn.cancelled_of_fatal sound.1 deadly⟩
  | _ => cases ended

/-- What the watcher left behind; its failure is harmless when the runner is done. -/
theorem result_sound : Does call streamId Cleared (task (.result .watcher)) fun r s =>
    match r with
    | .ok _ => Founded call s
    | .error _ => Over call s := by
  refine .perform fun s moment r s' cleared sound answered => ?_
  have cleared' := cleared.next answered nofun nofun
  obtain ⟨-, given, -⟩ := amid_answered answered
  obtain ⟨now, turn⟩ := moment
  have ended : Service.taskAnswer call (.result .watcher) turn now = some (r, s'.1) := given
  cases turn with
  | answered =>
      simp only [Service.taskAnswer] at ended
      split at ended <;> cases ended
      rename_i is
      rcases sound.2 rfl with seen | done
      · rw [stopSeen_iff, is] at seen
        cases seen
        exact ⟨cleared', .inr (.inl (stopSeen_iff.mpr (by rw [is]; rfl)))⟩
      · cases r with
        | ok => exact ⟨cleared', .inl done⟩
        | error => exact ⟨cleared', done⟩
  | _ => cases ended

/-- How the body of the `try` leaves the runner. -/
theorem superviseRunner_sound : Does call streamId Cleared (StreamManager.superviseRunner streamId)
    fun r s => Cleared s ∧ (runnerDone call s.1 = true ∨ s.2.cancelled = true ∧
      ∃ e, r = .error e ∧ e.isInstance [.cancelledError] = true) := by
  have past {r : Except PyExc Unit} {s : Service × RunLog} (h : Over call s) :
      Cleared s ∧ (runnerDone call s.1 = true ∨ s.2.cancelled = true ∧
        ∃ e, r = .error e ∧ e.isInstance [.cancelledError] = true) := ⟨h.1, .inl h.2⟩
  refine .bind waitFirst_notices (fun e s h => ⟨h.1, .inr ⟨h.2.1, e, rfl, h.2.2⟩⟩) fun done => ?_
  dsimp only
  split
  · refine .bind (result_sound.consequence (fun _ h => h.1) fun _ _ h => h)
      (fun _ _ h => past h) fun _ => ?_
    refine .bind (R := fun r s => r = .ok () ∧ Founded call s) ?_ (fun _ _ h => by cases h.1)
      fun _ => (awaitRunner_over.consequence (fun _ h => h.2.1) fun _ _ h => h).bind
        (fun _ _ h => past h) fun _ => (over_keeps _).consequence (fun _ h => h) fun _ _ h => past h
    refine .perform fun s moment r s' founded _ answered =>
      ⟨?_, founded.next answered fun reports => by cases reports⟩
    obtain ⟨-, given, -⟩ := amid_answered answered
    obtain ⟨now, turn⟩ := moment
    cases turn <;> cases given
    rfl
  · rename_i unseen
    exact (over_keeps _).consequence (fun s h => ⟨h.1, h.2.resolve_left unseen⟩) fun _ _ h => past h

theorem handleRunError_sound {e : PyExc} : Does call streamId
    (fun s => Cleared s ∧ (runnerDone call s.1 = true ∨
      s.2.cancelled = true ∧ e.isInstance [.cancelledError] = true))
    (StreamManager.handleRunError streamId e) fun _ => Founded call := by
  intro s trace out s' start ran allowed
  rcases start.2 with done | ⟨cancelled, kind⟩
  · have past : Over call s' := over_keeps _ s trace out s' ⟨start.1, done⟩ ran allowed
    exact ⟨past.1, .inl past.2⟩
  · have founded : Founded call s := ⟨start.1, .inr (.inr cancelled)⟩
    have stops : Does call streamId (Founded call) (StreamManager.handleRunError streamId e)
        fun _ => Founded call := by
      rw [StreamManager.handleRunError, if_pos kind]
      refine .bind (founded_keeps (.perform rfl)) (fun _ _ h => h) fun _ => ?_
      refine ((awaitRunner_over.bind (fun _ _ h => h) fun _ => over_keeps _).consequence
        (fun _ h => h.1) fun _ _ h => ⟨h.1, .inl h.2⟩)
    exact stops s trace out s' founded ran allowed

theorem closeRun_onTasks {instanceId : String} :
    (StreamManager.closeRun instanceId streamId).Uses WorkerShutdown.OnTasks := by
  refine .bind (.bind (.perform (by trivial)) fun finished => ?_) fun _ => ?_
  · split
    · trivial
    · exact .bind (.perform (by trivial)) fun _ => suppressCancelled_uses (.perform (by trivial))
  · exact .bind (.perform (by trivial)) fun _ =>
      .bind (suppressCancelled_uses (.perform (by trivial))) fun _ => .perform (by trivial)

theorem closeRun_sound {instanceId : String} : Does call streamId (Founded call)
    (StreamManager.closeRun instanceId streamId) fun _ => Founded call := by
  refine founded_keeps (closeRun_onTasks.mono fun c on => ?_)
  cases c with
  | task => rfl
  | _ => cases on

/-! ## The watcher -/

/-- A poll has returned `True`. -/
def notePoll (streamId : String) (c : Effect) (_ : Service) (moment : Service × Turn)
    (polled : Bool) : Bool :=
  polled || match c, moment.2 with
    | .redis (.keyExists key), .answered => key = stopRequestKey streamId && moment.1.redis.has key
    | _, _ => false

/-- What the watcher is answered, amid the others. -/
abbrev amidWatch (call : Nat) (streamId : String) : (c : Effect) → Service × Turn →
    Service × Bool → Option (Except PyExc c.Answer × (Service × Bool)) :=
  amid (Service.keepsOutcomes call) (Service.answer true (.task call .watcher)) (notePoll streamId)

/-- A watcher that returns has seen a poll that returned `True`. -/
theorem watcher_polled {s s' : Service × Bool} {trace : List (Effect × (Service × Turn))}
    (ran : Runs (amidWatch call streamId) (StreamManager.waitForStopRequest streamId) s trace
      (.ok ()) s') : s'.2 = true := by
  have watches : Triple (amidWatch call streamId) (fun _ _ => True) (fun _ => True)
      (StreamManager.waitForStopRequest streamId) (fun r s => r = .ok () → s.2 = true) := by
    refine .forever (.bind (R := fun r s => r = .ok true → s.2 = true) ?_ (fun _ _ _ => nofun)
      fun stop => ?_)
    · refine .perform fun s moment r s' _ _ answered same => ?_
      subst same
      obtain ⟨-, given, noted⟩ := amid_answered answered
      obtain ⟨now, turn⟩ := moment
      cases turn with
      | answered =>
          have found : now.redis.has (stopRequestKey streamId) = true := by
            simpa [Service.answer, RedisCmd.run] using (Prod.mk.inj (Option.some.inj given)).1
          simp [noted, notePoll, found]
      | raised | raisedAfter => simp [Service.answer, mayRaise] at given
      | _ => cases given
    · cases stop with
      | true => exact .ret fun s polled _ => polled rfl
      | false =>
          exact .bind (R := fun _ _ => True) (.perform fun _ _ _ _ _ _ _ => trivial)
            (fun _ _ _ => nofun) fun _ => .ret fun _ _ => trivial
  exact watches s trace _ s' trivial ran (fun _ _ => trivial) rfl

/-! ## The whole run -/

/-- For every interleaving in which the watcher has not failed under a running runner when `_run`
looks at it: a running runner is cancelled only once the watcher has returned, which takes a poll
that returned `True`, or once `_run` is cancelled; and terminal statuses are written behind it. -/
theorem runner_stopped_for_cause {instanceId subreddit : String} {lockToken : Option String}
    {now : Service} {trace : List (Effect × (Service × Turn))} {out : Except PyExc Unit}
    (ran : Runs (amidRun call streamId) (StreamManager.run instanceId streamId subreddit lockToken)
      (now, {}) trace out s')
    (sound : ∀ entry ∈ trace, SoundWatcher call entry.1 entry.2) :
    s'.2.unfounded = false ∧ s'.2.premature = false ∧
      ∀ before polls after, Runs (amidWatch call streamId)
        (StreamManager.waitForStopRequest streamId) (before, false) polls (.ok ()) after →
        after.2 = true := by
  have creates {t : Task} : Does call streamId Cleared (task (.create t)) fun _ => Cleared :=
    .keeps (fun c _ _ _ _ made cleared answered =>
      cleared.next answered (fun asks => by rw [made] at asks; cases asks)
        (fun asks => by rw [made] at asks; cases asks)) (Prog.Uses.perform (H := (· = .task (.create t))) rfl)
  have runs : Does call streamId Cleared
      (StreamManager.run instanceId streamId subreddit lockToken) fun _ => Cleared := by
    refine .bind creates (fun _ _ h => h) fun _ => .bind creates (fun _ _ h => h) fun _ => ?_
    refine .ensure (R := fun _ => Founded call) ?_ fun r => closeRun_sound.consequence
      (fun _ h => h) fun r _ h => by cases r <;> exact h.1
    refine .rescue superviseRunner_sound (fun a s h => ⟨h.1, ?_⟩) fun e =>
      handleRunError_sound.consequence (fun s h => ⟨h.1, ?_⟩) fun _ _ h => h
    · rcases h.2 with done | ⟨-, e, same, -⟩
      · exact .inl done
      · cases same
    · rcases h.2 with done | ⟨cancelled, e', same, kind⟩
      · exact .inl done
      · cases same
        exact .inr ⟨cancelled, kind⟩
  have cleared := runs _ _ _ _ ⟨rfl, rfl⟩ ran sound
  exact ⟨cleared.1, cleared.2, fun _ _ _ => watcher_polled⟩

/-! ## Concrete runs -/

/-- The tasks of a started stream as `_run` sees them. -/
def runView (runner watcher : TaskState) : Service where
  tasks _ role :=
    match role with
    | .runner => runner
    | .watcher => watcher
    | _ => .absent

def newsRunner : TaskState := .alive (.runner "A" "news" (some "A:1"))

def newsWatcher : TaskState := .alive (.watcher "id-1")

def redisDown : PyExc := ⟨"ConnectionError", [.redisError, .exception], "connection refused"⟩

/-- The runner ends by itself. -/
def finishedRun : List (Service × Turn) :=
  let past := runView (.done (.ok ())) newsWatcher
  let last := runView (.done (.ok ())) WorkerShutdown.cancelledTask
  [(runView .absent .absent, .answered), (runView newsRunner .absent, .answered),
    (past, .answered), (past, .answered), (past, .named "12:00"), (past, .answered),
    (past, .answered), (past, .answered), (past, .answered), (last, .answered), (last, .answered)]

/-- A poll of the watcher fails while the runner runs. -/
def failedPoll : List (Service × Turn) :=
  let failed := runView newsRunner (.done (.error redisDown))
  let last := runView WorkerShutdown.cancelledTask (.done (.error redisDown))
  [(runView .absent .absent, .answered), (runView newsRunner .absent, .answered),
    (failed, .answered), (failed, .answered), (failed, .named "12:00"), (failed, .answered),
    (failed, .answered), (failed, .answered), (failed, .answered), (last, .answered),
    (last, .answered), (last, .answered)]

abbrev newsRun : Program Unit := StreamManager.run "A" "id-1" "news" (some "A:1")

theorem finished_runner_reported : ∃ trace out s',
    Runs (amidRun 0 "id-1") newsRun ({}, {}) trace out s' ∧ out = .ok () ∧
      s'.2.unfounded = false ∧ s'.2.premature = false := by
  have run : (Runs.replay (amidRun 0 "id-1") newsRun finishedRun ({}, {})).map (fun last =>
      (last.2.1, decide (∀ entry ∈ last.1, SoundWatcher 0 entry.1 entry.2))) =
      some (.ok (), true) := rfl
  obtain ⟨trace, out, s', ran, seen⟩ := Runs.of_replay_map run
  obtain ⟨returned, sound⟩ := Prod.mk.inj seen
  obtain ⟨founded, timely, -⟩ := runner_stopped_for_cause ran (of_decide_eq_true sound)
  exact ⟨trace, out, s', ran, returned, founded, timely⟩

theorem running_runner_reported : ∃ trace out s',
    Runs (amidRun 0 "id-1") newsRun ({}, {}) trace out s' ∧
      (∀ entry ∈ trace, entry.2.2.awaited = true) ∧ s'.2.cancelled = false ∧
      s'.2.unfounded = true ∧ s'.2.premature = true := by
  have run : (Runs.replay (amidRun 0 "id-1") newsRun failedPoll ({}, {})).map (fun last =>
      (last.1.all fun entry => entry.2.2.awaited, last.2.2.2)) =
      some (true, { unfounded := true, premature := true }) := rfl
  obtain ⟨trace, out, s', ran, seen⟩ := Runs.of_replay_map run
  obtain ⟨awaited, log⟩ := Prod.mk.inj seen
  exact ⟨trace, out, s', ran, List.all_eq_true.mp awaited, by rw [log], by rw [log], by rw [log]⟩

end RunCause
end RedditKafka
