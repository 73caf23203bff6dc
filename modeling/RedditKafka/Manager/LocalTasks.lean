import RedditKafka.Async.Sequential
import RedditKafka.Manager.TaskSteps

/-!
# `_tasks` and the running tasks

Who puts a task into `_tasks` of its instance and who takes it out. In the runs
in which every `_run` comes to the end of its `finally`, the entries are those of
the unfinished tasks.
-/
namespace RedditKafka
open Async Redis StreamRegistry StreamManager

/-- The wait for a task ends with an exception that `suppress(asyncio.CancelledError)` lets
through. -/
def TaskState.escapes (state : TaskState) : Turn → Bool
  | .answered =>
      match state.outcome with
      | some (.error e) => !e.isInstance [.cancelledError]
      | _ => false
  | .raised e => !e.isInstance [.cancelledError]
  | _ => false

/-- The `finally` of a `_run` begins beside a running runner, is left with the exception of its
watcher, or is cancelled at the manager's lock. -/
def Thread.strays : Thread → Effect → Turn → Service → Bool
  | .task call .run, .task (.isDone .runner), _, s => !(s.tasks call .runner).isDone
  | .task call .run, .task (.awaitTask .watcher), turn, s => (s.tasks call .watcher).escapes turn
  | .task _ .run, .task (.forgetLocal _ _), .raised _, _ => true
  | _, _, _, _ => false

/-- The service with any failures and cancellations, in which every `finally` of a `_run` is run
to its end, and no `_run` task is cancelled before its first step. -/
def mirrorMachine (kafkaTopic : String) :
    Machine Effect Effect.Answer PyExc Service Thread Turn ServiceEvent where
  answer t c turn s := if t.strays c turn s then none else Service.answer true t c turn s
  start := Service.start kafkaTopic
  finish := Service.finish
  tick event s :=
    match event with
    | .cancelledEarly _ .run => none
    | event => Service.tick event s

/-- The `_run` task of the call, for the stream on the instance, is not finished. -/
def Unfinished (c : ServiceConfig) (call : Nat) (instanceId streamId : String) : Prop :=
  ∃ subreddit lockToken,
    c.state.tasks call .run = .created (.run instanceId streamId subreddit lockToken) ∨
      c.state.tasks call .run = .alive (.run instanceId streamId subreddit lockToken) ∧
        c.outcome (.task call .run) = none

namespace LocalTasks

/-- A task waits under its own role. -/
def InRole (s : Service) : Prop := ∀ call role t, s.tasks call role = .created t → t.role = role

/-- Entries of `_tasks` are those of run tasks that exist and are not done. -/
structure Mirrored (s : Service) : Prop where
  roles : InRole s
  created : ∀ call t, s.tasks call .run = .created t → ∃ instanceId streamId subreddit lockToken,
    t = .run instanceId streamId subreddit lockToken ∧ s.locals instanceId streamId = some call
  kept : ∀ instanceId streamId call, s.locals instanceId streamId = some call →
    ∃ subreddit lockToken,
      s.tasks call .run = .created (.run instanceId streamId subreddit lockToken) ∨
        s.tasks call .run = .alive (.run instanceId streamId subreddit lockToken)

/-- The run task of the call has begun, and is in `_tasks`. -/
structure Held (call : Nat) (instanceId streamId subreddit : String) (lockToken : Option String)
    (s : Service) : Prop where
  alive : s.tasks call .run = .alive (.run instanceId streamId subreddit lockToken)
  entry : s.locals instanceId streamId = some call

def Listed (call : Nat) (s : Service) : Prop :=
  ∃ instanceId streamId subreddit lockToken, Held call instanceId streamId subreddit lockToken s

/-- It has left `_tasks`. -/
def Left (call : Nat) (s : Service) : Prop :=
  (∃ t, s.tasks call .run = .alive t) ∧
    ∀ instanceId streamId, s.locals instanceId streamId ≠ some call

/-- Others neither end a running `_run` nor touch its entry. -/
def Keeps : Thread → Service → Service → Prop
  | .task call .run, s, s' => ∀ t, s.tasks call .run = .alive t → s'.tasks call .run = .alive t ∧
      ∀ instanceId streamId,
        s'.locals instanceId streamId = some call ↔ s.locals instanceId streamId = some call
  | _, _, _ => True

theorem keeps_refl (t : Thread) (s : Service) : Keeps t s s := by
  unfold Keeps
  split
  · exact fun t alive => ⟨alive, fun _ _ => .rfl⟩
  · trivial

theorem keeps_trans (t : Thread) (a b c : Service) (first : Keeps t a b) (second : Keeps t b c) :
    Keeps t a c := by
  unfold Keeps at *
  split
  · intro t alive
    obtain ⟨alive', same⟩ := first t alive
    obtain ⟨alive'', same'⟩ := second t alive'
    exact ⟨alive'', fun i st => (same' i st).trans (same i st)⟩
  · trivial

def localsDiscipline : Discipline Effect Service Thread where
  inv := Mirrored
  keeps := Keeps
  keeps_refl := keeps_refl
  keeps_trans := keeps_trans
  ok _ _ _ := True
  pledge t _ s :=
    match t with
    | .task call .run => Listed call s
    | _ => True

def localsPost : Thread → Except PyExc Unit → Service → Prop
  | .task call .run, _, s => Left call s
  | _, _, _ => True

abbrev LocalsSafe (kafkaTopic : String) (t : Thread) {α : Type} (p : Program α)
    (Q : Except PyExc α → Service → Prop) (s : Service) : Prop :=
  Safe (mirrorMachine kafkaTopic) localsDiscipline t p Q s

/-- The effects that leave `_tasks` and the run tasks alone. -/
def Quiet : Effect → Prop
  | .task (.create t) => t.role ≠ .run
  | .task (.createLocal _ _ _) | .task (.forgetLocal _ _) => False
  | _ => True

/-- The section of `start_stream` under the manager's lock. -/
def Enters : Effect → Prop
  | .task (.createLocal instanceId streamId t) =>
      ∃ subreddit lockToken, t = .run instanceId streamId subreddit lockToken
  | c => Quiet c

variable {kafkaTopic : String} {t : Thread} {s s' : Service} {call : Nat}

theorem Held.kept {instanceId streamId subreddit : String} {lockToken : Option String}
    (h : Held call instanceId streamId subreddit lockToken s)
    (keeps : Keeps (.task call .run) s s') :
    Held call instanceId streamId subreddit lockToken s' := by
  obtain ⟨alive, same⟩ := keeps _ h.alive
  exact ⟨alive, (same _ _).mpr h.entry⟩

theorem Left.kept (h : Left call s) (keeps : Keeps (.task call .run) s s') : Left call s' := by
  obtain ⟨⟨t, alive⟩, gone⟩ := h
  obtain ⟨alive', same⟩ := keeps _ alive
  exact ⟨⟨t, alive'⟩, fun i st held => gone i st ((same i st).mp held)⟩

/-- A change that leaves the entries and the run tasks as they are. -/
theorem same_mirrored (hs : Mirrored s) (roles : InRole s') (locals : s'.locals = s.locals)
    (tasks : ∀ call, s'.tasks call .run = s.tasks call .run) :
    Mirrored s' ∧ ∀ u, Keeps u s s' := by
  refine ⟨⟨roles, fun call t is => ?_, fun i st call held => ?_⟩, fun u => ?_⟩
  · rw [locals]
    exact hs.created call t (tasks call ▸ is)
  · rw [tasks]
    exact hs.kept i st call (locals ▸ held)
  · unfold Keeps
    split
    · exact fun t alive => ⟨by rw [tasks, alive], fun i st => by rw [locals]⟩
    · trivial

theorem mirror_answer {c : Effect} {turn : Turn} {r : Except PyExc c.Answer}
    (answered : (mirrorMachine kafkaTopic).answer t c turn s = some (r, s')) :
    t.strays c turn s = false ∧ Service.answer true t c turn s = some (r, s') := by
  simp only [mirrorMachine] at answered
  split at answered
  · cases answered
  · rename_i straight
    exact ⟨by simpa using straight, answered⟩

theorem answer_roles (roles : InRole s) {c : Effect} {turn : Turn} {r : Except PyExc c.Answer}
    (answered : Service.answer true t c turn s = some (r, s')) : InRole s' := by
  intro call role t is
  rcases Service.answer_tasks answered call role with same | ⟨-, task, made, own, -⟩
  · exact roles call role t (same ▸ is)
  · rw [made] at is
    cases is
    exact own

theorem quiet_answer {c : Effect} {turn : Turn} {r : Except PyExc c.Answer} (quiet : Quiet c)
    (answered : Service.answer true t c turn s = some (r, s')) :
    s'.locals = s.locals ∧ ∀ call, s'.tasks call .run = s.tasks call .run := by
  refine ⟨Service.answer_locals answered (fun _ _ _ => by rintro rfl; exact quiet)
    fun _ _ => by rintro rfl; exact quiet, fun call => ?_⟩
  rcases Service.answer_tasks answered call .run with same | ⟨-, task, -, role, rfl | ⟨_, _, rfl⟩⟩
  · exact same
  · exact (quiet role).elim
  · exact quiet.elim

/-- A new entry is that of a new task. -/
theorem entered_mirrored (hs : Mirrored s) (roles : InRole s') {own : Nat} {instanceId streamId : String}
    (subreddit : String) (lockToken : Option String) (vacant : s.locals instanceId streamId = none)
    (free : s.tasks own .run = .absent)
    (locals : ∀ i st, s'.locals i st =
      if i = instanceId ∧ st = streamId then some own else s.locals i st)
    (tasks : ∀ call, s'.tasks call .run = if call = own then
      .created (.run instanceId streamId subreddit lockToken) else s.tasks call .run) :
    Mirrored s' ∧ ∀ u, Keeps u s s' := by
  refine ⟨⟨roles, fun call t is => ?_, fun i st call listed => ?_⟩, fun u => ?_⟩
  · rw [tasks] at is
    split at is
    · rename_i same
      cases is
      exact ⟨instanceId, streamId, subreddit, lockToken, rfl, by simp [locals, same]⟩
    · obtain ⟨i, st, sub, token, rfl, held⟩ := hs.created call t is
      refine ⟨i, st, sub, token, rfl, ?_⟩
      rw [locals, if_neg, held]
      rintro ⟨rfl, rfl⟩
      rw [vacant] at held
      cases held
  · rw [locals] at listed
    rw [tasks]
    split at listed
    · rename_i same
      obtain ⟨rfl, rfl⟩ := same
      cases listed
      exact ⟨subreddit, lockToken, .inl (by simp)⟩
    · obtain ⟨sub, token, is⟩ := hs.kept i st call listed
      refine ⟨sub, token, ?_⟩
      rw [if_neg]
      · exact is
      · rintro rfl
        rw [free] at is
        rcases is with is | is <;> cases is
  · unfold Keeps
    split
    · rename_i call
      intro t alive
      have other : call ≠ own := by
        rintro rfl
        rw [free] at alive
        cases alive
      refine ⟨by rw [tasks, if_neg other, alive], fun i st => ?_⟩
      rw [locals]
      split
      · rename_i same
        obtain ⟨rfl, rfl⟩ := same
        rw [vacant]
        exact iff_of_false (fun same => other (Option.some.inj same).symm) nofun
      · rfl
    · trivial

theorem updated_locals (locals : String → String → Option Nat) (instanceId streamId : String)
    (entry : Option Nat) (i st : String) :
    Function.update locals instanceId (Function.update (locals instanceId) streamId entry) i st =
      if i = instanceId ∧ st = streamId then entry else locals i st := by
  by_cases same : i = instanceId <;> by_cases same' : st = streamId <;> simp [same, same']

theorem createLocal_mirrored (hs : Mirrored s) (roles : InRole s') {own : Nat} {instanceId streamId subreddit : String}
    {lockToken : Option String} {turn : Turn} {r : Except PyExc Bool}
    (answered : Service.taskAnswer own (.createLocal instanceId streamId
      (.run instanceId streamId subreddit lockToken)) turn s = some (r, s')) :
    Mirrored s' ∧ ∀ u, Keeps u s s' := by
  have quiet : Mirrored s ∧ ∀ u, Keeps u s s := same_mirrored hs hs.roles rfl fun _ => rfl
  cases turn with
  | raised e =>
      simp only [Service.taskAnswer] at answered
      split at answered <;> cases answered
      exact quiet
  | answered =>
      cases held : s.locals instanceId streamId with
      | some other =>
          simp only [Service.taskAnswer, held] at answered
          cases answered
          exact quiet
      | none =>
          simp only [Service.taskAnswer, held] at answered
          split at answered
          · rename_i contra
            cases contra
          · rename_i free
            obtain ⟨-, rfl⟩ := Prod.mk.inj (Option.some.inj answered)
            exact entered_mirrored hs roles subreddit lockToken held free (updated_locals _ _ _ _)
              fun call => (Service.setTask_tasks s own call .run .run _).trans (by simp)
          · cases answered
  | _ => cases answered

/-- What every thread but a `_run` does. -/
theorem enters_answer (hs : Mirrored s) {c : Effect} {turn : Turn} {r : Except PyExc c.Answer}
    (enters : Enters c) (answered : Service.answer true t c turn s = some (r, s')) :
    Mirrored s' ∧ ∀ u, Keeps u s s' := by
  have quietly (quiet : Quiet c) : Mirrored s' ∧ ∀ u, Keeps u s s' :=
    have same := quiet_answer quiet answered
    same_mirrored hs (answer_roles hs.roles answered) same.1 same.2
  cases c with
  | task c =>
      cases c with
      | createLocal instanceId streamId t =>
          obtain ⟨subreddit, lockToken, rfl⟩ := enters
          exact createLocal_mirrored hs (answer_roles hs.roles answered) answered
      | _ => exact quietly enters
  | _ => exact quietly enters

/-- A run task takes out its own entry. -/
theorem forgotten_mirrored (hs : Mirrored s) {instanceId streamId subreddit : String}
    {lockToken : Option String} (held : Held call instanceId streamId subreddit lockToken s)
    (locals : ∀ i st, s'.locals i st =
      if i = instanceId ∧ st = streamId then none else s.locals i st)
    (tasks : s'.tasks = s.tasks) :
    Mirrored s' ∧ (∀ u, u ≠ .task call .run → Keeps u s s') ∧ Left call s' := by
  have elsewhere {i st : String} {call' : Nat} (listed : s'.locals i st = some call') :
      ¬ (i = instanceId ∧ st = streamId) ∧ s.locals i st = some call' := by
    rw [locals] at listed
    split at listed
    · cases listed
    · exact ⟨‹_›, listed⟩
  obtain ⟨alive, held⟩ := held
  refine ⟨⟨fun call' role t is => hs.roles call' role t (by rw [← tasks, is]),
    fun call' t is => ?_, fun i st call' listed => ?_⟩, fun u other => ?_,
    ⟨_, by rw [tasks, alive]⟩, fun i st listed => ?_⟩
  · rw [tasks] at is
    obtain ⟨i, st, sub, token, rfl, held'⟩ := hs.created call' t is
    refine ⟨i, st, sub, token, rfl, ?_⟩
    rw [locals, if_neg, held']
    rintro ⟨rfl, rfl⟩
    cases held.symm.trans held'
    rw [alive] at is
    cases is
  · rw [tasks]
    exact hs.kept i st call' (elsewhere listed).2
  · unfold Keeps
    split
    · rename_i call'
      refine fun t alive' => ⟨by rw [tasks, alive'], fun i st => ?_⟩
      rw [locals]
      split
      · rename_i same
        obtain ⟨rfl, rfl⟩ := same
        refine iff_of_false nofun fun held' => other ?_
        rw [Option.some.inj (held'.symm.trans held)]
      · rfl
    · trivial
  · obtain ⟨apart, listed⟩ := elsewhere listed
    obtain ⟨sub, token, is⟩ := hs.kept i st call listed
    rw [alive] at is
    rcases is with is | is
    · cases is
    · cases is
      exact apart ⟨rfl, rfl⟩

/-! ## Beginnings and ends of tasks -/

/-- A run task begins. -/
theorem begun_mirrored (hs : Mirrored s) (roles : InRole s')
    {instanceId streamId subreddit : String} {lockToken : Option String}
    (created : s.tasks call .run = .created (.run instanceId streamId subreddit lockToken))
    (locals : s'.locals = s.locals)
    (tasks : ∀ call', s'.tasks call' .run =
      if call' = call then .alive (.run instanceId streamId subreddit lockToken)
      else s.tasks call' .run) :
    Mirrored s' ∧ (∀ u, u ≠ .task call .run → Keeps u s s') ∧
      Held call instanceId streamId subreddit lockToken s' := by
  obtain ⟨i₀, st₀, sub₀, token₀, same, held⟩ := hs.created call _ created
  cases same
  refine ⟨⟨roles, fun call' t' is => ?_, fun i st call' listed => ?_⟩, fun u other => ?_,
    by simp [tasks], by rw [locals, held]⟩
  · rw [tasks] at is
    split at is
    · cases is
    · rw [locals]
      exact hs.created call' t' is
  · rw [locals] at listed
    obtain ⟨sub, token, is⟩ := hs.kept i st call' listed
    rw [tasks]
    by_cases same : call' = call
    · subst same
      rw [created] at is
      rcases is with is | is
      · cases is
        exact ⟨subreddit, lockToken, .inr (by simp)⟩
      · cases is
    · simp only [if_neg same]
      exact ⟨sub, token, is⟩
  · unfold Keeps
    split
    · rename_i call'
      have ne : call' ≠ call := fun same => other (by rw [same])
      exact fun t' alive => ⟨by rw [tasks, if_neg ne, alive], fun i st => by rw [locals]⟩
    · trivial

/-- A run task that has left `_tasks` is done. -/
theorem ended_mirrored (hs : Mirrored s) (roles : InRole s') (left : Left call s) {r : Except PyExc Unit}
    (locals : s'.locals = s.locals)
    (tasks : ∀ call', s'.tasks call' .run = if call' = call then .done r else s.tasks call' .run) :
    Mirrored s' ∧ ∀ u, u ≠ .task call .run → Keeps u s s' := by
  refine ⟨⟨roles, fun call' t is => ?_, fun i st call' listed => ?_⟩, fun u other => ?_⟩
  · rw [tasks] at is
    split at is
    · cases is
    · rw [locals]
      exact hs.created call' t is
  · rw [locals] at listed
    rw [tasks, if_neg]
    · exact hs.kept i st call' listed
    · rintro rfl
      exact left.2 i st listed
  · unfold Keeps
    split
    · rename_i call'
      have ne : call' ≠ call := fun same => other (by rw [same])
      exact fun t alive => ⟨by rw [tasks, if_neg ne, alive], fun i st => by rw [locals]⟩
    · trivial

/-! ## What the threads do to `_tasks` -/

section footprints

theorem registry_quiet {may : String → Permission → Prop} {c : Effect} (h : RegistryEffect may c) :
    Quiet c := by
  cases c with
  | task => cases h
  | _ => trivial

theorem Quiet.enters {c : Effect} (h : Quiet c) : Enters c := by
  cases c with
  | task c =>
      cases c with
      | createLocal => cases h
      | _ => exact h
  | _ => exact h

theorem quiet_of_registry {α : Type} {p : Program α}
    (uses : p.Uses (RegistryEffect fun _ _ => True)) : p.Uses Quiet :=
  uses.mono fun _ => registry_quiet

theorem updateStatus_quiet (streamId status : String) (instanceId : Option String) :
    (updateStatus streamId status instanceId).Uses Quiet :=
  quiet_of_registry (updateStatus_uses trivial instanceId)

theorem serve_quiet (w : StreamWorker) (c : WorkerEff) : (w.serve c).Uses Quiet := by
  cases c with
  | nowIso => exact Prog.Uses.perform trivial
  | getCheckpoint => exact (Prog.Uses.perform trivial).bind fun _ => by trivial
  | setCheckpoint => exact (Prog.Uses.perform trivial).bind fun _ => Prog.Uses.perform trivial
  | updateStatus => exact updateStatus_quiet ..
  | refreshLock => exact Prog.Uses.perform trivial
  | heartbeat =>
      exact ignoring_uses ((Prog.Uses.perform trivial).bind fun _ => Prog.Uses.perform trivial)
  | releaseLock => exact ignoring_uses (Prog.Uses.perform trivial)
  | createTask child => cases child <;> exact task_uses (c := .create _) nofun
  | waitFirst => exact (task_uses (by trivial)).bind fun _ => by trivial
  | taskDone | cancelTask | awaitTask | gather => exact task_uses (by trivial)
  | _ => exact Prog.Uses.perform trivial

theorem served_quiet (w : StreamWorker) {α : Type} (p : Coroutine α) : (w.served p).Uses Quiet :=
  Prog.Uses.link (fun c _ => serve_quiet w c) (Prog.Uses.any p)

theorem invokeRunner_quiet (instanceId subreddit : String) (lockToken : Option String) :
    (invokeRunner kafkaTopic instanceId subreddit lockToken).Uses Quiet := by
  cases lockToken with
  | none => trivial
  | some lockToken =>
      refine (quiet_of_registry (getStreamBySubreddit_uses _)).bind fun streamMeta => ?_
      cases streamMeta with
      | none => trivial
      | some data =>
          dsimp only
          split
          · trivial
          · exact (Prog.Uses.perform trivial).bind fun _ => served_quiet _ _

theorem waitForStopRequest_quiet (streamId : String) : (waitForStopRequest streamId).Uses Quiet := by
  refine Prog.Uses.forever ((Prog.Uses.perform trivial).bind fun requested => ?_)
  split
  · trivial
  · exact (Prog.Uses.perform trivial).bind fun _ => by trivial

theorem writeStatus_straight (streamId status : String) :
    (updateStatus streamId status none).Straight Quiet :=
  .bind (.perform (by trivial)) fun _ => .bind (.perform (by trivial)) fun _ =>
    .rescue (.perform (by trivial)) fun e => by split <;> trivial

theorem suppressCancelled_straight {p : Program Unit} (straight : p.Straight Quiet) :
    (suppressCancelled p).Straight Quiet := by
  refine straight.rescue fun e => ?_
  split <;> trivial

theorem superviseRunner_straight (streamId : String) : (superviseRunner streamId).Straight Quiet := by
  refine .bind (.perform (by trivial)) fun done => ?_
  split
  · exact .bind (.perform (by trivial)) fun _ => .bind (.perform (by trivial)) fun _ =>
      .bind (suppressCancelled_straight (.perform (by trivial))) fun _ => writeStatus_straight ..
  · exact .bind (.perform (by trivial)) fun _ => writeStatus_straight ..

theorem handleRunError_straight (streamId : String) (e : PyExc) :
    (handleRunError streamId e).Straight Quiet := by
  unfold handleRunError
  split
  · exact .bind (.perform (by trivial)) fun _ =>
      .bind (suppressCancelled_straight (.perform (by trivial))) fun _ =>
        .bind (writeStatus_straight ..) fun _ => (by trivial)
  split
  · exact writeStatus_straight ..
  split
  · exact writeStatus_straight ..
  · trivial

theorem body_straight (streamId : String) :
    ((superviseRunner streamId).rescue (handleRunError streamId)).Straight Quiet :=
  (superviseRunner_straight streamId).rescue (handleRunError_straight streamId)

theorem startStream_enters (instanceId subreddit config : String) :
    (startStream instanceId subreddit config).Uses Enters := by
  refine ((quiet_of_registry (createStream_uses (fun _ => trivial) _ _ _)).mono fun _ =>
    Quiet.enters).bind fun metadata => ?_
  refine (((Prog.Uses.perform trivial).bind fun _ => (Prog.Uses.perform trivial).bind
    fun acquired => ?_).mono fun _ => Quiet.enters).bind fun token => ?_
  · split
    · trivial
    · exact (Prog.Uses.perform trivial).bind fun _ => by trivial
  · cases token with
    | none =>
        exact ((quiet_of_registry (deleteStream_uses (.inr trivial) _ _)).mono fun _ =>
          Quiet.enters).bind fun _ => trivial
    | some token =>
        refine Prog.Uses.bind ((task_uses ⟨_, _, rfl⟩).bind fun created => ?_) fun _ => trivial
        split
        · exact (updateStatus_quiet ..).mono fun _ => Quiet.enters
        · trivial

theorem stopStream_quiet (instanceId streamId : String) :
    (stopStream instanceId streamId).Uses Quiet := by
  refine (quiet_of_registry (requestStop_uses trivial trivial)).bind fun _ =>
    (task_uses (by trivial)).bind fun started => ?_
  cases started with
  | none => trivial
  | some started => exact suppressCancelled_uses (task_uses (by trivial))

theorem stopEndpoint_quiet (instanceId streamId : String) :
    (stopEndpoint instanceId streamId).Uses Quiet := by
  refine (quiet_of_registry (getStream_uses _)).bind fun metadata => ?_
  split
  · trivial
  · exact stopStream_quiet ..

theorem program_quiet (t : Task) (other : t.role ≠ .run) : (t.program kafkaTopic).Uses Quiet := by
  cases t with
  | run => exact (other rfl).elim
  | runner => exact invokeRunner_quiet ..
  | watcher => exact waitForStopRequest_quiet _
  | stream w => exact served_quiet w _
  | lock w => exact served_quiet w _

/-- Every thread but a `_run` only enters new tasks. -/
theorem start_enters (roles : InRole s) {event : ServiceEvent} {p : Program Unit}
    (started : Service.start kafkaTopic t event s = some (p, s')) (other : ∀ call, t ≠ .task call .run) :
    p.Uses Enters := by
  have stop (request : Nat) (streamId : String) (q : Program Unit) (quiet : q.Uses Quiet)
      (begun : s.beginRequest request streamId q = some (p, s')) : p.Uses Enters := by
    unfold Service.beginRequest at begun
    split at begun <;> cases begun
    exact quiet.mono fun _ => Quiet.enters
  unfold Service.start at started
  split at started
  · split at started <;> cases started
    exact ignoring_uses (startStream_enters ..)
  · exact stop _ _ _ (stopEndpoint_quiet ..) started
  · exact stop _ _ _ (stopStream_quiet ..) started
  · exact stop _ _ _ (quiet_of_registry (requestStop_uses trivial trivial)) started
  · cases started
    exact (quiet_of_registry DeadStreamCleanup.cleanup_uses).mono fun _ => Quiet.enters
  · rename_i call role
    split at started <;> cases started
    rename_i task is
    refine (program_quiet task fun same => other call ?_).mono fun _ => Quiet.enters
    rw [← roles call role task is, same]
  · cases started

end footprints

/-! ## A `_run` task -/

section run

variable {instanceId streamId subreddit : String} {lockToken : Option String}

theorem quiet_safe {α : Type} {p : Program α} (uses : p.Uses Quiet)
    (held : Held call instanceId streamId subreddit lockToken s) :
    LocalsSafe kafkaTopic (.task call .run) p
      (fun _ => Held call instanceId streamId subreddit lockToken) s := by
  refine Safe.of_uses uses _ held (fun a b moved _ held => held.kept moved)
    fun c s₁ quiet hs₁ held => ⟨⟨_, _, _, _, held⟩, fun _ turn r s₂ answered => ?_⟩
  obtain ⟨-, answered⟩ := mirror_answer answered
  obtain ⟨hs₂, keeps⟩ := enters_answer hs₁ quiet.enters answered
  exact ⟨hs₂, fun u _ => keeps u, held.kept (keeps _)⟩

/-- One effect of a `_run`, with what is known of its answers. -/
theorem quiet_perform {c : TaskEff} {R : Except PyExc c.Answer → Prop} (quiet : Quiet (.task c))
    (answers : ∀ turn r s₁ s₂, Thread.strays (.task call .run) (.task c) turn s₁ = false →
      Service.taskAnswer call c turn s₁ = some (r, s₂) → R r)
    (held : Held call instanceId streamId subreddit lockToken s) :
    LocalsSafe kafkaTopic (.task call .run) (task c)
      (fun r s => R r ∧ Held call instanceId streamId subreddit lockToken s) s := by
  intro s₁ moved hs₁
  have held := held.kept moved
  refine ⟨⟨_, _, _, _, held⟩, fun _ turn r s₂ answered => ?_⟩
  obtain ⟨straight, answered⟩ := mirror_answer answered
  obtain ⟨hs₂, keeps⟩ := enters_answer hs₁ quiet.enters answered
  have known := answers turn r s₁ s₂ straight answered
  refine ⟨hs₂, fun u _ => keeps u, ?_⟩
  cases r with
  | ok a => exact ⟨known, held.kept (keeps _)⟩
  | error e => exact ⟨known, held.kept (keeps _)⟩

theorem stopRunner_safe (hs : Mirrored s)
    (held : Held call instanceId streamId subreddit lockToken s) :
    LocalsSafe kafkaTopic (.task call .run) stopRunner
      (fun r s => r = .ok () ∧ Held call instanceId streamId subreddit lockToken s) s := by
  refine Safe.bind hs (quiet_perform (R := fun r => r = .ok true) (by trivial) ?_ held) ?_ ?_
  · intro turn r s₁ s₂ straight answered
    cases turn with
    | answered =>
        have finished : (s₁.tasks call .runner).isDone = true := by
          simpa [Thread.strays] using straight
        simp only [Service.taskAnswer] at answered
        cases answered
        rw [finished]
    | _ => cases answered
  · rintro done s' - ⟨same, held⟩
    cases same
    exact ⟨rfl, held⟩
  · rintro e s' - ⟨same, -⟩
    cases same

theorem watcher_safe (hs : Mirrored s)
    (held : Held call instanceId streamId subreddit lockToken s) :
    LocalsSafe kafkaTopic (.task call .run) (suppressCancelled (task (.awaitTask .watcher)))
      (fun r s => r = .ok () ∧ Held call instanceId streamId subreddit lockToken s) s := by
  refine Safe.rescue hs (quiet_perform
    (R := fun r => ∀ e, r = .error e → e.isInstance [.cancelledError] = true) (by trivial)
    ?_ held) ?_ ?_
  · intro turn r s₁ s₂ straight answered e same
    subst same
    cases turn with
    | answered =>
        simp only [Service.taskAnswer] at answered
        split at answered
        · rename_i is
          cases answered
          simpa [Thread.strays, TaskState.escapes, TaskState.outcome, is] using straight
        · cases answered
    | raised e' =>
        simp only [Service.taskAnswer] at answered
        split at answered
        · cases answered
          simpa [Thread.strays, TaskState.escapes] using straight
        · cases answered
    | _ => cases answered
  · exact fun _ _ _ left => ⟨rfl, left.2⟩
  · rintro e s' - ⟨cancelled, held⟩
    rw [if_pos (cancelled e rfl)]
    exact ⟨rfl, held⟩

theorem closeRun_safe (hs : Mirrored s)
    (held : Held call instanceId streamId subreddit lockToken s) :
    LocalsSafe kafkaTopic (.task call .run) (closeRun instanceId streamId)
      (fun r s => r = .ok () ∧ Left call s) s := by
  refine Safe.bind hs (stopRunner_safe hs held) (fun _ s hs held => ?_) (fun e s _ h => by cases h.1)
  refine Safe.bind hs (quiet_perform (R := fun r => r = .ok ()) (by trivial) ?_ held.2)
    (fun _ s hs held => ?_) (fun e s _ h => by cases h.1)
  · intro turn r s₁ s₂ _ answered
    cases turn <;> cases answered
    rfl
  refine Safe.bind hs (watcher_safe hs held.2) (fun _ s hs held => ?_) (fun e s _ h => by cases h.1)
  intro s₁ moved hs₁
  have held := held.2.kept moved
  refine ⟨⟨_, _, _, _, held⟩, fun _ turn r s₂ answered => ?_⟩
  obtain ⟨straight, answered⟩ := mirror_answer answered
  have answered : Service.taskAnswer call (.forgetLocal instanceId streamId) turn s₁ =
    some (r, s₂) := answered
  cases turn with
  | answered =>
      obtain ⟨rfl, same⟩ := Prod.mk.inj (Option.some.inj answered)
      have locals := congrArg Service.locals same
      obtain ⟨hs₂, others, left⟩ := forgotten_mirrored hs₁ held
        (by rw [← locals]; exact updated_locals _ _ _ _) (show s₂.tasks = s₁.tasks by rw [← same])
      exact ⟨hs₂, others, rfl, left⟩
  | raised e => cases straight
  | _ => cases answered

theorem run_safe (hs : Mirrored s) (held : Held call instanceId streamId subreddit lockToken s) :
    LocalsSafe kafkaTopic (.task call .run) (run instanceId streamId subreddit lockToken)
      (fun _ => Left call) s := by
  have create (task' : Task) (role : task'.role ≠ .run) {s : Service}
      (held : Held call instanceId streamId subreddit lockToken s) :
      LocalsSafe kafkaTopic (.task call .run) (task (.create task'))
        (fun r s => r = .ok () ∧ Held call instanceId streamId subreddit lockToken s) s := by
    refine quiet_perform (c := .create task') (R := fun r => r = .ok ()) role
      (fun turn r s₁ s₂ _ answered => ?_) held
    cases turn with
    | answered =>
        simp only [Service.taskAnswer] at answered
        split at answered <;> cases answered
        rfl
    | _ => cases answered
  refine Safe.bind hs (create _ (fun same => by cases same) held) (fun _ s hs held => ?_)
    (fun e s _ h => by cases h.1)
  refine Safe.bind hs (create _ (fun same => by cases same) held.2) (fun _ s hs held => ?_)
    (fun e s _ h => by cases h.1)
  refine Safe.bindE hs (quiet_safe (body_straight streamId).uses held.2) fun r s hs held => ?_
  refine Safe.bindE hs (closeRun_safe hs held) fun r' s _ left => ?_
  obtain ⟨rfl, left⟩ := left
  cases r with
  | ok => exact left
  | error => exact left

/-- A `_run` has no loop. -/
theorem run_straight : (run instanceId streamId subreddit lockToken).Straight fun _ => True := by
  have close : (closeRun instanceId streamId).Straight fun _ => True := by
    refine .bind (.bind (.perform trivial) fun done => ?_) fun _ => .bind (.perform trivial) fun _ =>
      .bind ((suppressCancelled_straight (.perform (by trivial))).mono fun _ _ => trivial) fun _ =>
        .perform trivial
    split
    · trivial
    · exact .bind (.perform trivial) fun _ =>
        (suppressCancelled_straight (.perform (by trivial))).mono fun _ _ => trivial
  exact .bind (.perform trivial) fun _ => .bind (.perform trivial) fun _ =>
    ((body_straight streamId).mono fun _ _ => trivial).ensure close

end run

/-! ## All threads -/

theorem start_locals {event : ServiceEvent} {p : Program Unit}
    (started : Service.start kafkaTopic t event s = some (p, s')) : s'.locals = s.locals := by
  unfold Service.start Service.beginRequest at started
  split at started
  all_goals
    try split at started
    all_goals
      cases started
      try rfl

theorem roles_of_tasks (roles : InRole s)
    (tasks : ∀ call role t, s'.tasks call role = .created t → s.tasks call role = .created t) :
    InRole s' :=
  fun call role t is => roles call role t (tasks call role t is)

/-- A run task starts with its own `_run`. -/
theorem start_run (roles : InRole s) {event : ServiceEvent} {p : Program Unit}
    (started : Service.start kafkaTopic (.task call .run) event s = some (p, s')) :
    ∃ instanceId streamId subreddit lockToken,
      s.tasks call .run = .created (.run instanceId streamId subreddit lockToken) ∧
      p = run instanceId streamId subreddit lockToken ∧
      s' = s.setTask call .run (.alive (.run instanceId streamId subreddit lockToken)) := by
  cases event with
  | begin =>
      simp only [Service.start] at started
      split at started <;> cases started
      rename_i t is
      have role := roles _ _ t is
      cases t with
      | run => exact ⟨_, _, _, _, is, rfl, rfl⟩
      | _ => cases role
  | _ => cases started

theorem post_aside (other : ∀ call, t ≠ .task call .run) (r : Except PyExc Unit) (s : Service) :
    localsPost t r s := by
  unfold localsPost
  split
  · exact (other _ rfl).elim
  · trivial

/-- A task other than a run task is done, or begins. -/
theorem setTask_mirrored (hs : Mirrored s) {role : Role} (other : role ≠ .run) (state : TaskState)
    (none : ∀ t, state ≠ .created t) :
    Mirrored (s.setTask call role state) ∧ ∀ u, Keeps u s (s.setTask call role state) := by
  refine same_mirrored hs (roles_of_tasks hs.roles fun call' role' t is => ?_) rfl fun call' => ?_
  · rw [Service.setTask_tasks] at is
    split at is
    · exact (none t is).elim
    · exact is
  · rw [Service.setTask_tasks, if_neg fun same => other same.2.symm]

theorem sound : Sound (mirrorMachine kafkaTopic) localsDiscipline localsPost where
  post_stable t r a b moved _ left := by
    unfold localsPost at *
    split at left
    · exact left.kept moved
    · trivial
  start t event s p s' hs started := by
    have roles : InRole s' := roles_of_tasks hs.roles fun call role task is => by
      rcases Service.start_tasks started call role with ⟨-, same⟩ | ⟨-, task, -, begun⟩
      · rw [← same, is]
      · rw [begun] at is
        cases is
    by_cases own : ∃ call, t = .task call .run
    · obtain ⟨call, rfl⟩ := own
      obtain ⟨i, st, sub, token, is, rfl, rfl⟩ := start_run hs.roles started
      obtain ⟨hs', others, held⟩ := begun_mirrored hs roles is rfl
        fun call' => (Service.setTask_tasks s call call' .run .run _).trans (by simp)
      exact ⟨hs', others, run_safe hs' held⟩
    · have other (call : Nat) : t ≠ .task call .run := fun same => own ⟨call, same⟩
      have tasks (call : Nat) : s'.tasks call .run = s.tasks call .run := by
        rcases Service.start_tasks started call .run with ⟨-, same⟩ | ⟨same, -⟩
        · exact same
        · exact (other call same).elim
      obtain ⟨hs', keeps⟩ := same_mirrored hs roles (start_locals started) tasks
      refine ⟨hs', fun u _ => keeps u, ?_⟩
      refine (Safe.of_uses (start_enters hs.roles started other) (fun _ => True) trivial
        (fun _ _ _ _ _ => trivial) fun c s₁ enters hs₁ _ => ⟨?_, fun _ turn r s₂ answered => ?_⟩).mono
        hs' fun r s _ _ => post_aside other r s
      · simp only [localsDiscipline]
      · obtain ⟨hs₂, keeps⟩ := enters_answer hs₁ enters (mirror_answer answered).2
        exact ⟨hs₂, fun u _ => keeps u, trivial⟩
  finish t r s hs left := by
    cases t with
    | task call role =>
        by_cases own : role = .run
        · subst own
          refine ended_mirrored (r := r) hs (roles_of_tasks hs.roles fun call' role' t is => ?_) left rfl
            fun call' => (Service.setTask_tasks s call call' .run .run _).trans (by simp)
          have is : (s.setTask call .run (.done r)).tasks call' role' = .created t := is
          rw [Service.setTask_tasks] at is
          split at is
          · cases is
          · exact is
        · obtain ⟨hs', keeps⟩ := setTask_mirrored hs own (.done r) nofun
          exact ⟨hs', fun u _ => keeps u⟩
    | _ => exact ⟨hs, fun u _ => keeps_refl u s⟩
  tick event s s' hs ticked := by
    cases event with
    | elapse n =>
        cases ticked
        exact same_mirrored hs hs.roles rfl fun _ => rfl
    | cancelledEarly call role =>
        by_cases own : role = .run
        · subst own
          cases ticked
        · have ticked : Service.tick (.cancelledEarly call role) s = some s' := by
            cases role with
            | run => exact (own rfl).elim
            | _ => exact ticked
          simp only [Service.tick] at ticked
          split at ticked <;> cases ticked
          exact setTask_mirrored hs own _ fun _ created => by cases created
    | _ => cases ticked

/-! ## The threads of the run tasks -/

/-- A run of the service in which no `finally` strays. -/
theorem mirror_next {a : Action Thread Turn ServiceEvent} {c d : ServiceConfig}
    (moved : (mirrorMachine kafkaTopic).next a c = some d) :
    (serviceMachine true kafkaTopic).next a c = some d := by
  cases a with
  | call t turn =>
      obtain ⟨e, k, r, s, waits, answered, rfl⟩ := Machine.next_call moved
      simp only [Machine.next, waits, serviceMachine, (mirror_answer answered).2, Option.map_some]
  | tick event =>
      obtain ⟨s, ticked, rfl⟩ := Machine.next_tick moved
      simp only [mirrorMachine] at ticked
      split at ticked
      · cases ticked
      · simp only [Machine.next, serviceMachine, ticked, Option.map_some]
  | _ => exact moved

theorem mirror_reaches {c₀ c : ServiceConfig} (h : (mirrorMachine kafkaTopic).Reaches c₀ c) :
    (serviceMachine true kafkaTopic).Reaches c₀ c := by
  induction h with
  | refl => exact .refl
  | step _ _ moved ih => exact ih.step (mirror_next moved)

variable {store : Store} {c : ServiceConfig}

theorem orderly_of_reaches (h : (mirrorMachine kafkaTopic).Reaches
    (Config.initial { redis := store }) c) :
    Orderly (mirrorMachine kafkaTopic) localsDiscipline localsPost c :=
  sound.reaches (.initial ⟨fun _ _ _ is => (by cases is), fun _ _ is => (by cases is),
    fun _ _ _ held => (by cases held)⟩) (h.mono fun _ _ _ _ => trivial)

theorem run_thread_straight (h : (mirrorMachine kafkaTopic).Reaches
    (Config.initial { redis := store }) c) {call : Nat} {p : Program Unit}
    (running : c.threads (.task call .run) = some p) : p.Straight fun _ => True := by
  induction h generalizing p with
  | refl => cases running
  | step reached _ moved ih =>
      rcases Machine.next_threads moved running with before | ⟨e, k, r, turn, s, waits, rfl, -⟩ |
          ⟨β, body, k, waits, rfl⟩ | ⟨event, started⟩
      · exact ih before
      · exact (ih waits).2 r
      · exact (ih waits).elim
      · obtain ⟨_, _, _, _, -, rfl, -⟩ := start_run (orderly_of_reaches reached).inv.roles started
        exact run_straight

/-- A run task that is still running waits for an effect, with its entry in place. -/
theorem listed_of_running (h : (mirrorMachine kafkaTopic).Reaches
    (Config.initial { redis := store }) c) {call : Nat} {t : Task}
    (alive : c.state.tasks call .run = .alive t) (running : c.outcome (.task call .run) = none) :
    Listed call c.state := by
  obtain ⟨p, thread⟩ := Option.ne_none_iff_exists'.mp
    ((alive_of_reaches (mirror_reaches h) call .run).mpr ⟨t, alive⟩)
  cases p with
  | ret u => simp [Config.outcome, thread] at running
  | raise e => simp [Config.outcome, thread] at running
  | call e k => exact (orderly_of_reaches h).pledged ⟨k, thread⟩
  | loop body k => exact (run_thread_straight h thread).elim

theorem listed_iff (h : (mirrorMachine kafkaTopic).Reaches
    (Config.initial { redis := store }) c) {instanceId streamId : String} {call : Nat} :
    c.state.locals instanceId streamId = some call ↔ Unfinished c call instanceId streamId := by
  have orderly := orderly_of_reaches h
  constructor
  · intro entry
    obtain ⟨sub, token, created | alive⟩ := orderly.inv.kept _ _ _ entry
    · exact ⟨sub, token, .inl created⟩
    · refine ⟨sub, token, .inr ⟨alive, ?_⟩⟩
      by_contra ended
      obtain ⟨r, ended⟩ := Option.ne_none_iff_exists'.mp ended
      have left : Left call c.state := orderly.ended (Config.threads_of_outcome ended)
      exact left.2 _ _ entry
  · rintro ⟨sub, token, created | ⟨alive, running⟩⟩
    · obtain ⟨_, _, _, _, same, entry⟩ := orderly.inv.created _ _ created
      cases same
      exact entry
    · obtain ⟨_, _, _, _, held⟩ := listed_of_running h alive running
      have same := held.alive
      rw [alive] at same
      cases same
      exact held.entry

end LocalTasks

open LocalTasks

/-- In such a run `_tasks` of an instance has the stream ids of its unfinished run tasks, of
which there is one each. -/
theorem tasks_mirror_runs (kafkaTopic : String) (store : Store) (c : ServiceConfig)
    (h : (mirrorMachine kafkaTopic).Reaches (Config.initial { redis := store }) c)
    (instanceId streamId : String) :
    (c.state.locals instanceId streamId ≠ none ↔
        ∃ call, Unfinished c call instanceId streamId) ∧
      ∀ call call', Unfinished c call instanceId streamId →
        Unfinished c call' instanceId streamId → call = call' := by
  refine ⟨?_, fun call call' one other => ?_⟩
  · rw [Option.ne_none_iff_exists']
    exact exists_congr fun call => listed_iff h
  · exact Option.some.inj (((listed_iff h).mpr one).symm.trans ((listed_iff h).mpr other))

/-! ## Concrete runs -/

namespace LocalTasks

/-- A stream is started on the instance, and its task has not begun. -/
def started : List (Action Thread Turn ServiceEvent) :=
  .start (.start 0) (.startStream "i" "news" "config") ::
    (Thread.start 0).turns (startTurns ++ [.answered, .answered, .answered]) ++ [.finish (.start 0)]

/-- It is stopped there at once. -/
def stoppedEarly : List (Action Thread Turn ServiceEvent) :=
  .start (.stop 0) (.stopStream "i" "s") ::
    (Thread.stop 0).turns (stopTurns ++ [.answered, .answered, .answered]) ++
    [.tick (.cancelledEarly 0 .run), .call (.stop 0) .answered, .finish (.stop 0)]

/-- Its task is all that was created. -/
def cancelledRun : Service :=
  (({} : Service).setTask 0 .run (.created (.run "i" "s" "news" (some "i:u")))).setTask 0 .run
    (.done (.error .cancelledError))

end LocalTasks

theorem started_stream_in_tasks : ∃ c,
    (mirrorMachine "topic").Reaches (Config.initial {}) c ∧
      c.state.locals "i" "s" ≠ none ∧ ∃ call, Unfinished c call "i" "s" := by
  have run : ((mirrorMachine "topic").exec (started ++ [.start (.task 0 .run) .begin])
      (Config.initial {})).map (fun c => c.state.locals "i" "s") = some (some 0) := rfl
  obtain ⟨c, reached, entry⟩ := Machine.Reaches.of_exec_map run
  have listed : c.state.locals "i" "s" ≠ none := by simp [entry]
  exact ⟨c, reached, listed, (tasks_mirror_runs "topic" {} c reached "i" "s").1.mp listed⟩

/-- The task is cancelled before its first step, and its entry stays. -/
theorem cancelled_task_left : ∃ c,
    (serviceMachine false "topic").Reaches (Config.initial {}) c ∧ (∀ t, c.threads t = none) ∧
      c.state.locals "i" "s" ≠ none ∧ ¬ ∃ call, Unfinished c call "i" "s" := by
  have run : ((serviceMachine false "topic").exec (started ++ stoppedEarly)
      (Config.initial {})).map (fun c => (c.state.locals "i" "s", c.state.tasks,
        [Thread.start 0, .stop 0].all fun t => (c.threads t).isNone)) =
      some (some 0, cancelledRun.tasks, true) := rfl
  obtain ⟨c, ran, seen⟩ := Option.map_eq_some_iff.mp run
  simp only [Prod.mk.injEq] at seen
  obtain ⟨entry, tasks, ended⟩ := seen
  refine ⟨c, Machine.Reaches.of_exec ran,
    Machine.exec_idle ran (fun _ => rfl) (by decide) ended, by simp [entry], ?_⟩
  rintro ⟨call, sub, token, unfinished⟩
  by_cases own : call = 0 <;>
    simp [tasks, cancelledRun, Service.setTask_tasks, own] at unfinished

end RedditKafka
