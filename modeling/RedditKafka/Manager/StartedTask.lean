import RedditKafka.Manager.TaskSteps
import RedditKafka.Registry.Footprint

/-!
# The task of a started stream

A `start_stream` that returns has created its task, unless a task is still kept
in `_tasks` under the stream id when it comes to the manager's lock.
-/
namespace RedditKafka
open Async Redis StreamRegistry DistributedLockManager StreamManager

namespace StartedTask

variable (call : Nat) (instanceId subreddit : String)

/-- What `start_stream` is answered, amid the others. -/
abbrev amidStart : (c : Effect) → Service × Turn → Service × Unit →
    Option (Except PyExc c.Answer × (Service × Unit)) :=
  amid (Service.keepsOutcomes call) (Service.answer true (.start call)) fun _ _ _ u => u

/-- The lease of the subreddit is acquired with this token. -/
def Acquires (lockToken : String) (c : Effect) (moment : Service × Turn) : Prop :=
  c = .redis (.setNx (lockKey subreddit) lockToken (some 60)) ∧ moment.2 = .answered ∧
    (RedisCmd.run (.setNx (lockKey subreddit) lockToken (some 60)) moment.1.redis).1 = .ok true

/-- The task is created, and entered in `_tasks` under the stream id. -/
def Enters (streamId : String) (t : Task) (c : Effect) (moment : Service × Turn) : Prop :=
  c = .task (.createLocal instanceId streamId t) ∧ ∃ s,
    Service.taskAnswer call (.createLocal instanceId streamId t) moment.2 moment.1 =
      some (.ok true, s) ∧
    s.tasks call .run = .created t ∧ s.locals instanceId streamId = some call

/-- A new `_run` task with the acquired token, for the returned stream. -/
def Started (metadata : Hash) (trace : List (Effect × (Service × Turn))) : Prop :=
  ∃ streamId lockToken, metadata.get "id" = some streamId ∧
    (∃ entry ∈ trace, Acquires subreddit lockToken entry.1 entry.2) ∧
    ∃ entry ∈ trace, Enters call instanceId streamId
      (.run instanceId streamId subreddit (some lockToken)) entry.1 entry.2

/-- No task is kept under the stream id when the manager's lock is taken. -/
def vacant : Effect → Service × Turn → Bool
  | .task (.createLocal instanceId streamId _), moment =>
      (moment.1.locals instanceId streamId).isNone
  | _, _ => true

variable {call instanceId subreddit} {s s' : Service × Unit} {trace : List (Effect × (Service × Turn))}

theorem vacant_of_silent {c : Effect} {moment : Service × Turn} (other : ∀ t, c ≠ .task t) :
    vacant c moment = true := by
  unfold vacant
  split
  · exact (other _ rfl).elim
  · rfl

/-- The metadata that `create_stream` returns has an id. -/
theorem createStream_ends (subreddit config : String) (instanceId : Option String) :
    (createStream subreddit config instanceId).Ends fun r =>
      ∀ data, r = .ok data → ∃ streamId, data.get "id" = some streamId := by
  refine .bind (fun _ _ => nofun) fun existing => ?_
  split
  · exact .bind (fun _ _ => nofun) fun _ _ => nofun
  · refine .bind (fun _ _ => nofun) fun candidateId => .bind (fun _ _ => nofun) fun streamId => ?_
    split
    · refine .bind (fun _ _ => nofun) fun claimed => ?_
      split
      · refine .bind (fun _ _ => nofun) fun _ => .bind (fun _ _ => nofun) fun _ =>
          .bind (fun _ _ => nofun) fun _ => .bind (fun _ _ => nofun) fun _ =>
          .bind (fun _ _ => nofun) fun _ => .bind (fun _ _ => nofun) fun _ => ?_
        intro data same
        cases same
        exact ⟨_, rfl⟩
      · exact .bind (fun _ _ => nofun) fun _ _ => nofun
    · exact fun _ => nofun

/-- The commands of an acquisition that succeeds. -/
theorem acquireLock_acquires {lockToken : String}
    (ran : Runs (amidStart call) (acquireLock subreddit instanceId 60) s trace (.ok (some lockToken)) s') :
    (∃ entry ∈ trace, Acquires subreddit lockToken entry.1 entry.2) ∧
      ∀ entry ∈ trace, ∀ t, entry.1 ≠ .task t := by
  obtain ⟨_, after, ownerToken, s₁, rfl, named, rest⟩ := ran.bind_ok
  obtain ⟨moment, rfl, -⟩ := named.perform_inv
  obtain ⟨_, last, acquired, s₂, rfl, taken, left⟩ := rest.bind_ok
  obtain ⟨⟨now, turn⟩, rfl, answered⟩ := taken.perform_inv
  obtain ⟨-, given, -⟩ := amid_answered answered
  split at left
  · rename_i free
    obtain ⟨rfl, same, -⟩ := left.ret_inv
    cases same
    have answers : turn = .answered ∧
        (RedisCmd.run (.setNx (lockKey subreddit) lockToken (some 60)) now.redis).1 = .ok true := ?_
    · exact ⟨⟨(_, now, turn), by simp, rfl, answers⟩, by simp⟩
    cases turn with
    | answered => exact ⟨rfl, by rw [(Prod.mk.inj (Option.some.inj given)).1, free]⟩
    | raised | raisedAfter => simp [Service.answer, mayRaise] at given
    | _ => cases given
  · obtain ⟨_, _, _, _, -, -, none_⟩ := left.bind_ok
    cases none_.ret_inv.2.1

theorem createLocal_answered {now s₁ : Service} {turn : Turn} {streamId : String} {t : Task}
    {created : Bool} (role : t.role = .run) (answered : Service.taskAnswer call
      (.createLocal instanceId streamId t) turn now = some (.ok created, s₁)) :
    now.locals instanceId streamId = none ∧ created = true ∧ s₁.tasks call .run = .created t ∧
        s₁.locals instanceId streamId = some call ∨
      now.locals instanceId streamId ≠ none ∧ created = false := by
  cases turn with
  | answered =>
      cases held : now.locals instanceId streamId with
      | some other =>
          simp only [Service.taskAnswer, held] at answered
          cases answered
          exact .inr ⟨nofun, rfl⟩
      | none =>
          simp only [Service.taskAnswer, held] at answered
          split at answered
          · rename_i contra
            cases contra
          · obtain ⟨same, rfl⟩ := Prod.mk.inj (Option.some.inj answered)
            exact .inl ⟨rfl, (Except.ok.inj same).symm, by simp [Service.setTask, role], by simp⟩
          · cases answered
  | raised e =>
      simp only [Service.taskAnswer] at answered
      split at answered <;> cases answered
  | _ => cases answered

/-- The section under the manager's lock. -/
theorem launch_enters {streamId lockToken : String}
    (ran : Runs (amidStart call) (launch instanceId streamId subreddit lockToken) s trace (.ok ()) s') :
    ((∃ entry ∈ trace, Enters call instanceId streamId
        (.run instanceId streamId subreddit (some lockToken)) entry.1 entry.2) ↔
      ∀ entry ∈ trace, vacant entry.1 entry.2 = true) ∧
    ∀ entry ∈ trace, ∀ id t, entry.1 = .task (.createLocal instanceId id t) →
      t = .run instanceId streamId subreddit (some lockToken) := by
  obtain ⟨_, after, created, s₁, rfl, entered, rest⟩ := ran.bind_ok
  obtain ⟨⟨now, turn⟩, rfl, answered⟩ := entered.perform_inv
  obtain ⟨-, given, -⟩ := amid_answered answered
  have others : ∀ entry ∈ after, ∀ t, entry.1 ≠ .task t := by
    split at rest
    · exact registry_silent (updateStatus_uses trivial _) rest
    · obtain ⟨rfl, -⟩ := rest.ret_inv
      exact List.forall_mem_nil _
  have answers : Service.taskAnswer call (.createLocal instanceId streamId
      (.run instanceId streamId subreddit (some lockToken))) turn now = some (.ok created, s₁.1) := given
  rw [List.singleton_append, List.exists_mem_cons_iff, List.forall_mem_cons, List.forall_mem_cons]
  refine ⟨?_, fun id t same => by cases same; rfl,
    fun entry there id t same => (others entry there _ same).elim⟩
  constructor
  · intro enters
    have free : now.locals instanceId streamId = none := by
      rcases enters with ⟨-, s₂, creates, -⟩ | ⟨entry, there, same, -⟩
      · rcases createLocal_answered rfl creates with ⟨free, -⟩ | ⟨-, contra⟩
        · exact free
        · cases contra
      · exact (others entry there _ same).elim
    exact ⟨by simp [vacant, free], fun entry there => vacant_of_silent (others entry there)⟩
  · rintro ⟨free, -⟩
    rcases createLocal_answered rfl answers with ⟨-, rfl, made, kept⟩ | ⟨taken, -⟩
    · exact .inl ⟨rfl, s₁.1, answers, made, kept⟩
    · exact (taken (by simpa [vacant] using free)).elim

/-- For every interleaving: a `start_stream` that returns has created a new `_run` task for the
returned stream, with the lease token it acquired, and has entered it in `_tasks`, if and only if
no task was kept there under the stream id when the manager's lock was taken. -/
theorem started_iff_vacant {config : String} {metadata : Hash}
    (ran : Runs (amidStart call) (startStream instanceId subreddit config) s trace (.ok metadata) s') :
    Started call instanceId subreddit metadata trace ↔
      ∀ entry ∈ trace, vacant entry.1 entry.2 = true := by
  obtain ⟨creating, _, metadata', s₁, rfl, created, rest⟩ := ran.bind_ok
  obtain ⟨streamId, identified⟩ := created.ends (createStream_ends ..) metadata' rfl
  obtain ⟨acquiring, _, acquired, s₂, rfl, locked, left⟩ := rest.bind_ok
  cases acquired with
  | none =>
      obtain ⟨_, _, _, _, -, -, raised⟩ := left.bind_ok
      cases raised.raise_inv.2.1
  | some lockToken =>
      obtain ⟨launching, _, _, s₃, rfl, launched, returned⟩ := left.bind_ok
      obtain ⟨rfl, same, -⟩ := returned.ret_inv
      cases same
      simp only [identified, Option.getD_some] at launched
      have quiet := registry_silent (createStream_uses (fun _ => trivial) _ _ _) created
      obtain ⟨acquires, silent⟩ := acquireLock_acquires locked
      obtain ⟨enters, onlyTask⟩ := launch_enters launched
      have sorted {before : List (Effect × (Service × Turn))}
          (others : ∀ entry ∈ before, ∀ t, entry.1 ≠ .task t) :
          ∀ entry ∈ before, vacant entry.1 entry.2 = true :=
        fun entry there => vacant_of_silent (others entry there)
      rw [List.append_nil, List.forall_mem_append, List.forall_mem_append,
        and_iff_right (sorted quiet), and_iff_right (sorted silent), ← enters]
      constructor
      · rintro ⟨streamId', lockToken', identified', -, entry, there, entered⟩
        cases identified.symm.trans identified'
        rcases List.mem_append.mp there with early | there
        · exact (quiet entry early _ entered.1).elim
        rcases List.mem_append.mp there with early | there
        · exact (silent entry early _ entered.1).elim
        · exact ⟨entry, there, onlyTask entry there _ _ entered.1 ▸ entered⟩
      · rintro ⟨entry, there, entered⟩
        obtain ⟨entry', there', acquired⟩ := acquires
        exact ⟨streamId, lockToken, identified, ⟨entry', by simp [there'], acquired⟩, entry,
          by simp [there], entered⟩

/-! ## Concrete runs -/

/-- The answers of a `start_stream` that goes through, while the others do nothing. -/
def quietStart : List (Service × Turn) :=
  (startTurns ++ [Turn.answered, .answered, .answered]).map fun turn => ({}, turn)

theorem first_start_started : ∃ trace metadata s',
    Runs (amidStart 0) (startStream "i" "news" "config") ({}, ()) trace (.ok metadata) s' ∧
      Started 0 "i" "news" metadata trace := by
  have run : (Runs.replay (amidStart 0) (startStream "i" "news" "config") quietStart ({}, ())).map
      (fun last => (last.2.1, last.1.all fun entry => vacant entry.1 entry.2)) =
      some (.ok (newMeta "s" "news" "config" "i" "now" "now"), true) := rfl
  obtain ⟨trace, out, s', ran, seen⟩ := Runs.of_replay_map run
  obtain ⟨rfl, all⟩ := Prod.mk.inj seen
  exact ⟨trace, _, s', ran, (started_iff_vacant ran).mpr (List.all_eq_true.mp all)⟩

/-- A stream is started, and its worker runs. -/
def startedWorker : List (Action Thread Turn ServiceEvent) :=
  .start (.start 0) (.startStream "i" "news" "config") ::
    (Thread.start 0).turns (startTurns ++ [.answered, .answered, .answered]) ++
    .finish (.start 0) :: .start (.task 0 .run) .begin ::
    (Thread.task 0 .run).turns [.answered, .answered] ++
    .start (.task 0 .runner) .begin ::
    (Thread.task 0 .runner).turns [.answered, .answered, .answered, .answered, .answered] ++
    .start (.task 0 .stream) .begin :: .unroll (.task 0 .stream) ::
    (Thread.task 0 .stream).turns [.worker .stopIsSet (.ok false), .worker .breakerAdmit (.ok ())] ++
    [.start (.task 0 .lock) .begin, .unroll (.task 0 .lock)]

/-- The stream is stopped on its instance, up to the status that `_run` writes at the end. -/
def stoppedWorker : List (Action Thread Turn ServiceEvent) :=
  .start (.stop 0) (.stopStream "i" "s") ::
    (Thread.stop 0).turns (stopTurns ++ [.answered, .answered, .answered]) ++
    (Thread.task 0 .run).turns [.raised .cancelledError, .answered] ++
    (Thread.task 0 .runner).turns
      [.raised .cancelledError, .answered, .answered, .answered, .answered] ++
    .call (.task 0 .stream) (.worker .subreddit (.error .cancelledError)) ::
    .finish (.task 0 .stream) ::
    .call (.task 0 .lock) (.worker (.sleep 30) (.error .cancelledError)) ::
    .finish (.task 0 .lock) :: (Thread.task 0 .runner).turns [.answered, .answered, .answered] ++
    .finish (.task 0 .runner) ::
    (Thread.task 0 .run).turns [.answered, .named "later", .answered]

/-- A sweep deletes the stream, and it is started again. -/
def restart : List (Action Thread Turn ServiceEvent) :=
  .start (.sweep 0) .cleanup ::
    (Thread.sweep 0).turns [.answered, .answered, .answered, .answered, .answered] ++
    .finish (.sweep 0) :: .start (.start 1) (.startStream "i" "news" "config") ::
    (Thread.start 1).turns [.answered, .named "t", .answered, .answered, .answered, .named "later",
      .named "later", .answered, .answered, .answered, .answered, .named "v", .answered, .answered]

/-- The thread has returned. -/
def hasReturned : Option (Program Unit) → Bool
  | some (.ret _) => true
  | _ => false

def isAbsent : TaskState → Bool
  | .absent => true
  | _ => false

/-- The first run has not left `_tasks` yet, and the second start returns with its lease and
without a task. -/
theorem restart_without_task : ∃ c,
    (serviceMachine false "topic").Reaches (Config.initial {}) c ∧
      hasReturned (c.threads (.start 1)) = true ∧ c.state.tasks 1 .run = .absent ∧
      c.state.locals "i" "s" = some 0 ∧ c.state.redis.get (lockKey "news") = some "i:v" := by
  have run : ((serviceMachine false "topic").exec (startedWorker ++ stoppedWorker ++ restart)
      (Config.initial {})).map (fun c => (hasReturned (c.threads (.start 1)),
        isAbsent (c.state.tasks 1 .run), c.state.locals "i" "s",
        c.state.redis.get (lockKey "news"))) = some (true, true, some 0, some "i:v") := rfl
  obtain ⟨c, reached, seen⟩ := Machine.Reaches.of_exec_map run
  simp only [Prod.mk.injEq] at seen
  obtain ⟨returned, absent, kept, held⟩ := seen
  refine ⟨c, reached, returned, ?_, kept, held⟩
  unfold isAbsent at absent
  split at absent
  · assumption
  · cases absent

end StartedTask
end RedditKafka
