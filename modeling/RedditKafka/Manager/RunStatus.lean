import RedditKafka.Manager.RunCause

/-!
# What `_run` leaves as the status

Every write of `_run` is terminal. Which of its runs write one, when Redis and
Postgres answer and any of its awaits may be cancelled.
-/
namespace RedditKafka
open Async Redis StreamRegistry

namespace RunStatus

variable (call : Nat) (streamId : String)

/-- What `_run` is answered, amid the others, by a registry that does not fail. -/
abbrev amidRun : (c : Effect) → Service × Turn → Service × Unit →
    Option (Except PyExc c.Answer × (Service × Unit)) :=
  amid (Service.keepsOutcomes call) (Service.answer false (.task call .run)) fun _ _ _ u => u

/-- The status that a command writes to the metadata. -/
def statusOf : Effect → Option String
  | .redis (.hset key mapping) => if key = metaKey streamId then mapping.lookup "status" else none
  | _ => none

/-- Redis has executed the command. -/
def executed : Turn → Bool
  | .answered | .raisedAfter _ => true
  | _ => false

/-- The status values that a run has written, oldest first. -/
def written (trace : List (Effect × (Service × Turn))) : List String :=
  trace.filterMap fun entry => if executed entry.2.2 then statusOf streamId entry.1 else none

/-- The last status written is `stopped` or `error`. -/
def Terminal (trace : List (Effect × (Service × Turn))) : Prop :=
  (written streamId trace).getLast? = some "stopped" ∨
    (written streamId trace).getLast? = some "error"

instance (trace : List (Effect × (Service × Turn))) : Decidable (Terminal streamId trace) :=
  inferInstanceAs (Decidable (_ ∨ _))

/-- The wait for the cancelled runner ends with an exception that `suppress` lets through. -/
def abandons : Effect → Service × Turn → Bool
  | .task (.awaitTask .runner), (now, .answered) =>
      match (now.tasks call .runner).outcome with
      | some (.error e) => !e.isInstance [.cancelledError]
      | _ => false
  | .task (.awaitTask .runner), (_, .raised e) => !e.isInstance [.cancelledError]
  | _, _ => false

/-- A status write that is cancelled before Redis executes it. -/
def cutShort (c : Effect) (moment : Service × Turn) : Bool :=
  (statusOf streamId c).isSome && !executed moment.2

/-- The stretches of a run of `_run`: the body of its `try`, its `except` clause and its
`finally`, and the exception that the body ended with. -/
structure Stretches where
  body : List (Effect × (Service × Turn))
  handling : List (Effect × (Service × Turn)) := []
  closing : List (Effect × (Service × Turn))
  failure : Option PyExc := none

def createTasks (instanceId subreddit : String) (lockToken : Option String) : Program Unit := do
  task (.create (.runner instanceId subreddit lockToken))
  task (.create (.watcher streamId))

/-- The stretches are those of this run. -/
def Divides (instanceId subreddit : String) (lockToken : Option String) (s s' : Service × Unit)
    (trace : List (Effect × (Service × Turn))) (parts : Stretches) : Prop :=
  ∃ starting s₁ s₂ s₃ r r',
    trace = starting ++ (parts.body ++ (parts.handling ++ parts.closing)) ∧
    Runs (amidRun call) (createTasks streamId instanceId subreddit lockToken) s starting (.ok ()) s₁ ∧
    Runs (amidRun call) (StreamManager.superviseRunner streamId) s₁ parts.body r s₂ ∧
    (match r with
      | .ok _ => parts.failure = none ∧ parts.handling = [] ∧ s₃ = s₂
      | .error e => parts.failure = some e ∧ ∃ left,
          Runs (amidRun call) (StreamManager.handleRunError streamId e) s₂ parts.handling left s₃) ∧
    Runs (amidRun call) (StreamManager.closeRun instanceId streamId) s₃ parts.closing r' s'

/-- The `except` clauses see the exception, the cancelled runner ends with nothing but its
cancellation, and no status write is cut short. -/
def Handled (e : PyExc) (handling : List (Effect × (Service × Turn))) : Prop :=
  e.isInstance [.cancelledError, .streamNotFoundError, .exception] = true ∧
    ∀ entry ∈ handling, abandons call entry.1 entry.2 = false ∧
      cutShort streamId entry.1 entry.2 = false

/-- The body returned, or it was cancelled behind its status write, or its exception was handled. -/
def Settles (parts : Stretches) : Prop :=
  ∀ e, parts.failure = some e →
    (∃ entry ∈ parts.body, (statusOf streamId entry.1).isSome = true ∧ executed entry.2.2 = true) ∨
      Handled call streamId e parts.handling

variable {call streamId} {s s' : Service × Unit} {trace : List (Effect × (Service × Turn))}

/-- Some status has been written. -/
def Writes (streamId : String) (trace : List (Effect × (Service × Turn))) : Prop :=
  ∃ entry ∈ trace, (statusOf streamId entry.1).isSome = true ∧ executed entry.2.2 = true

theorem writes_append {before after : List (Effect × (Service × Turn))} :
    Writes streamId (before ++ after) ↔ Writes streamId before ∨ Writes streamId after := by
  simp only [Writes, List.mem_append, or_and_right, exists_or]

theorem terminal_iff (kinds : ∀ entry ∈ trace, ∀ status, statusOf streamId entry.1 = some status →
    status = "stopped" ∨ status = "error") : Terminal streamId trace ↔ Writes streamId trace := by
  constructor
  · intro terminal
    have last : ∃ status, (written streamId trace).getLast? = some status :=
      terminal.elim (fun h => ⟨_, h⟩) fun h => ⟨_, h⟩
    obtain ⟨status, last⟩ := last
    obtain ⟨entry, there, wrote⟩ := List.mem_filterMap.mp (List.mem_of_getLast? last)
    split at wrote
    · rename_i ran
      exact ⟨entry, there, by rw [wrote]; rfl, ran⟩
    · cases wrote
  · rintro ⟨entry, there, isStatus, ran⟩
    obtain ⟨status, wrote⟩ := Option.isSome_iff_exists.mp isStatus
    have mem : status ∈ written streamId trace :=
      List.mem_filterMap.mpr ⟨entry, there, by rw [if_pos ran, wrote]⟩
    obtain ⟨last, is⟩ := Option.ne_none_iff_exists'.mp
      (mt List.getLast?_eq_none_iff.mp (List.ne_nil_of_mem mem))
    obtain ⟨entry', there', wrote'⟩ := List.mem_filterMap.mp (List.mem_of_getLast? is)
    split at wrote'
    · exact (kinds entry' there' last wrote').imp (fun same => by rw [is, same])
        fun same => by rw [is, same]
    · cases wrote'

/-! ## The stretches -/

theorem onTasks_silent {c : Effect} (on : WorkerShutdown.OnTasks c) : statusOf streamId c = none := by
  cases c with
  | task => rfl
  | _ => cases on

theorem silent (streamId : String) {α : Type} {p : Program α} {out : Except PyExc α}
    (uses : p.Uses fun c => statusOf streamId c = none)
    (ran : Runs (amidRun call) p s trace out s') :
    ¬ Writes streamId trace ∧ ∀ entry ∈ trace, cutShort streamId entry.1 entry.2 = false := by
  have quiet := ran.uses uses
  refine ⟨?_, fun entry there => by simp [cutShort, quiet entry there]⟩
  rintro ⟨entry, there, isStatus, -⟩
  rw [quiet entry there] at isStatus
  cases isStatus

/-- One status write among effects that are none. -/
theorem writes_around (before after : List (Effect × (Service × Turn))) {c : Effect}
    (moment : Service × Turn) (isStatus : (statusOf streamId c).isSome = true)
    (quiet : ∀ entry ∈ before ++ after, statusOf streamId entry.1 = none) :
    (Writes streamId (before ++ (c, moment) :: after) ↔ executed moment.2 = true) ∧
      ((∀ entry ∈ before ++ (c, moment) :: after, cutShort streamId entry.1 entry.2 = false) ↔
        executed moment.2 = true) := by
  rw [List.forall_mem_append] at quiet
  constructor
  · constructor
    · rintro ⟨entry, there, isStatus', ran⟩
      rcases List.mem_append.mp there with there | there
      · simp [quiet.1 entry there] at isStatus'
      · rcases List.mem_cons.mp there with rfl | there
        · exact ran
        · simp [quiet.2 entry there] at isStatus'
    · exact fun ran => ⟨(c, moment), by simp, isStatus, ran⟩
  · rw [List.forall_mem_append, List.forall_mem_cons]
    constructor
    · intro whole
      simpa [cutShort, isStatus] using whole.2.1
    · exact fun ran => ⟨fun entry there => by simp [cutShort, quiet.1 entry there],
        by simp [cutShort, ran], fun entry there => by simp [cutShort, quiet.2 entry there]⟩

theorem updateStatus_writes {status : String} {out : Except PyExc Unit}
    (ran : Runs (amidRun call) (updateStatus streamId status none) s trace out s') :
    (Writes streamId trace ↔ ∀ entry ∈ trace, cutShort streamId entry.1 entry.2 = false) ∧
      (out = .ok () → Writes streamId trace) := by
  have isStatus (updatedAt : String) : (statusOf streamId (.redis (.hset (metaKey streamId)
      (statusMapping status updatedAt none)))).isSome = true := by
    simp [statusOf, statusMapping]
  rcases ran.bind_inv with ⟨e, rfl, raised⟩ | ⟨_, after, updatedAt, s₁, rfl, clock, rest⟩
  · obtain ⟨⟨now, turn⟩, -, answered⟩ := raised.perform_inv
    obtain ⟨-, given, -⟩ := amid_answered answered
    cases turn <;> cases given
  · obtain ⟨moment, rfl, -⟩ := clock.perform_inv
    rcases rest.bind_inv with ⟨e, rfl, raised⟩ | ⟨_, last, _, s₂, rfl, wrote, left⟩
    · obtain ⟨moment', rfl, -⟩ := raised.perform_inv
      obtain ⟨writes, uncut⟩ := writes_around [(.nowIso, moment)] [] moment'
        (isStatus updatedAt) (by simp [statusOf])
      exact ⟨writes.trans uncut.symm, nofun⟩
    · obtain ⟨⟨now, turn⟩, rfl, answered⟩ := wrote.perform_inv
      obtain ⟨-, given, -⟩ := amid_answered answered
      have quiet : ∀ entry ∈ last, statusOf streamId entry.1 = none :=
        left.uses (H := fun c => statusOf streamId c = none)
          (Prog.Uses.rescue (.perform rfl) fun e => by dsimp only; split <;> trivial)
      obtain ⟨writes, uncut⟩ := writes_around [(.nowIso, moment)] last (now, turn)
        (isStatus updatedAt) (by simpa [statusOf] using quiet)
      refine ⟨writes.trans uncut.symm, fun _ => writes.mpr ?_⟩
      cases turn with
      | answered => rfl
      | raised | raisedAfter =>
          simp only [Service.answer] at given
          split at given <;> cases given
      | _ => cases given

theorem updateStatus_abandons {status : String} {out : Except PyExc Unit}
    (ran : Runs (amidRun call) (updateStatus streamId status none) s trace out s') :
    ∀ entry ∈ trace, abandons call entry.1 entry.2 = false := by
  have uses : (updateStatus streamId status none).Uses fun c => ∀ moment, abandons call c moment = false :=
    .bind (.perform fun _ => rfl) fun _ => .bind (.perform fun _ => rfl) fun _ =>
      .rescue (.perform fun _ => rfl) fun e => by split <;> trivial
  exact fun entry there => ran.uses uses entry there _

/-- A body that returns has written its status. -/
theorem superviseRunner_writes
    (ran : Runs (amidRun call) (StreamManager.superviseRunner streamId) s trace (.ok ()) s') :
    Writes streamId trace := by
  obtain ⟨_, after, done, s₁, rfl, -, ran⟩ := ran.bind_ok
  rw [writes_append]
  right
  split at ran
  · obtain ⟨_, after, _, s₁, rfl, -, ran⟩ := ran.bind_ok
    obtain ⟨_, after, _, s₁, rfl, -, ran⟩ := ran.bind_ok
    obtain ⟨_, after, _, s₁, rfl, -, ran⟩ := ran.bind_ok
    simp only [writes_append, (updateStatus_writes ran).2 rfl, or_true]
  · obtain ⟨_, after, _, s₁, rfl, -, ran⟩ := ran.bind_ok
    simp only [writes_append, (updateStatus_writes ran).2 rfl, or_true]

/-- The wait for the cancelled runner returns, or lets an exception through. -/
theorem awaitRunner_abandons (streamId : String) {out : Except PyExc Unit}
    (ran : Runs (amidRun call) (suppressCancelled (task (.awaitTask .runner))) s trace out s') :
    ¬ Writes streamId trace ∧ (out = .ok () ↔ ∀ entry ∈ trace, abandons call entry.1 entry.2 = false) ∧
      ∀ entry ∈ trace, cutShort streamId entry.1 entry.2 = false := by
  have awaited {r : Except PyExc Unit} {trace : List (Effect × (Service × Turn))} {s₁ : Service × Unit}
      (ran : Runs (amidRun call) (task (.awaitTask .runner)) s trace r s₁) :
      (∀ entry ∈ trace, abandons call entry.1 entry.2 = false) ↔
        ∀ e, r = .error e → e.isInstance [.cancelledError] = true := by
    obtain ⟨⟨now, turn⟩, rfl, answered⟩ := ran.perform_inv
    obtain ⟨-, given, -⟩ := amid_answered answered
    have ended : Service.taskAnswer call (.awaitTask .runner) turn now = some (r, s₁.1) := given
    rw [List.forall_mem_singleton]
    cases turn with
    | answered =>
        simp only [Service.taskAnswer] at ended
        split at ended <;> cases ended
        rename_i is
        cases r <;> simp [abandons, is, TaskState.outcome]
    | raised e =>
        simp only [Service.taskAnswer] at ended
        split at ended <;> cases ended
        simp [abandons]
    | _ => cases ended
  obtain ⟨unwritten, uncut⟩ := silent streamId
    (suppressCancelled_uses (.perform (by rfl))) ran
  refine ⟨unwritten, ?_, uncut⟩
  rcases ran.rescue_inv with ⟨_, rfl, returned⟩ | ⟨e, before, after, s₁, rfl, raised, ran⟩
  · exact iff_of_true rfl ((awaited returned).mpr fun e raised => by cases raised)
  · split at ran
    · rename_i cancelled
      obtain ⟨rfl, rfl, -⟩ := ran.ret_inv
      rw [List.append_nil, awaited raised]
      exact iff_of_true rfl fun e' same => by cases same; exact cancelled
    · rename_i other
      obtain ⟨rfl, rfl, -⟩ := ran.raise_inv
      rw [List.append_nil, awaited raised]
      exact iff_of_false (by simp) fun all => other (all e rfl)

theorem cancelRunner_ok {out : Except PyExc Unit}
    (ran : Runs (amidRun call) (task (.cancel .runner)) s trace out s') :
    out = .ok () ∧ ∃ moment, trace = [(.task (.cancel .runner), moment)] := by
  obtain ⟨⟨now, turn⟩, rfl, answered⟩ := ran.perform_inv
  obtain ⟨-, given, -⟩ := amid_answered answered
  cases turn <;> cases given
  exact ⟨rfl, _, rfl⟩

/-- The `except` clauses write a status exactly when the exception is handled. -/
theorem handleRunError_writes {e : PyExc} {out : Except PyExc Unit}
    (ran : Runs (amidRun call) (StreamManager.handleRunError streamId e) s trace out s') :
    Writes streamId trace ↔ Handled call streamId e trace := by
  have update {status : String} {trace : List (Effect × (Service × Turn))} {s s' : Service × Unit}
      {out : Except PyExc Unit}
      (ran : Runs (amidRun call) (updateStatus streamId status none) s trace out s')
      (caught : e.isInstance [.cancelledError, .streamNotFoundError, .exception] = true) :
      Writes streamId trace ↔ Handled call streamId e trace := by
    rw [(updateStatus_writes ran).1, Handled, and_iff_right caught]
    exact ⟨fun uncut entry there => ⟨updateStatus_abandons ran entry there, uncut entry there⟩,
      fun both entry there => (both entry there).2⟩
  unfold StreamManager.handleRunError at ran
  split at ran
  · rename_i cancelled
    have caught : e.isInstance [.cancelledError, .streamNotFoundError, .exception] = true := by
      simp_all [PyExc.isInstance]
    rcases ran.bind_inv with ⟨e', rfl, raised⟩ | ⟨_, _, _, s₁, rfl, asked, rest⟩
    · cases (cancelRunner_ok raised).1
    obtain ⟨-, moment, rfl⟩ := cancelRunner_ok asked
    have asks : ¬ Writes streamId [(Effect.task (.cancel .runner), moment)] := by
      simp [Writes, statusOf]
    rcases rest.bind_inv with ⟨e', rfl, raised⟩ | ⟨wait, after, _, s₂, rfl, waited, left⟩
    · obtain ⟨unwritten, through, -⟩ := awaitRunner_abandons streamId raised
      rw [writes_append, or_iff_right asks]
      refine iff_of_false unwritten fun handled => ?_
      have calm := through.mpr fun entry there => (handled.2 entry (by simp [there])).1
      cases calm
    obtain ⟨unwritten, through, uncut⟩ := awaitRunner_abandons streamId waited
    have updated : ∃ r s₃, Runs (amidRun call) (updateStatus streamId "stopped" none) s₂ after r s₃ := by
      rcases left.bind_inv with ⟨e', -, raised⟩ | ⟨last, _, _, s₃, rfl, wrote, raised⟩
      · exact ⟨_, _, raised⟩
      · obtain ⟨rfl, -, -⟩ := raised.raise_inv
        exact ⟨_, _, by rwa [List.append_nil]⟩
    obtain ⟨r, s₃, updated⟩ := updated
    rw [writes_append, writes_append, or_iff_right asks, or_iff_right unwritten, update updated caught]
    refine and_congr_right fun _ => ?_
    rw [List.forall_mem_append, List.forall_mem_append, List.forall_mem_singleton]
    exact ⟨fun after => ⟨⟨rfl, rfl⟩, fun entry there =>
      ⟨through.mp rfl entry there, uncut entry there⟩, after⟩, fun whole => whole.2.2⟩
  · rename_i uncancelled
    split at ran
    · rename_i missing
      exact update ran (by simp_all [PyExc.isInstance])
    · rename_i found
      split at ran
      · rename_i exception
        exact update ran (by simp_all [PyExc.isInstance, PyExc.isException])
      · rename_i other
        obtain ⟨rfl, -, -⟩ := ran.raise_inv
        refine iff_of_false (by simp [Writes]) fun handled => ?_
        have caught := handled.1
        simp_all [PyExc.isInstance, PyExc.isException]

/-! ## The whole run -/

theorem run_writes {instanceId subreddit : String} {lockToken : Option String} :
    (StreamManager.run instanceId streamId subreddit lockToken).Uses fun c =>
      ∀ status, statusOf streamId c = some status → status = "stopped" ∨ status = "error" := by
  have quiet {p : Program Unit} (uses : p.Uses WorkerShutdown.OnTasks) : p.Uses fun c =>
      ∀ status, statusOf streamId c = some status → status = "stopped" ∨ status = "error" :=
    uses.mono fun c on status is => by rw [onTasks_silent on] at is; cases is
  have terminal (status : String) (known : status = "stopped" ∨ status = "error") :
      (updateStatus streamId status none).Uses fun c =>
        ∀ status, statusOf streamId c = some status → status = "stopped" ∨ status = "error" := by
    refine .bind (.perform nofun) fun _ => .bind (.perform fun status' is => ?_) fun _ =>
      .rescue (.perform nofun) fun e => by split <;> trivial
    simp only [statusOf, if_true, statusMapping, List.cons_append, List.lookup_cons,
      beq_self_eq_true, Option.some.injEq] at is
    exact is ▸ known
  refine .bind (.perform nofun) fun _ => .bind (.perform nofun) fun _ =>
    .ensure (.rescue ?_ fun e => ?_) (quiet RunCause.closeRun_onTasks)
  · refine .bind (.perform nofun) fun done => ?_
    split
    · exact .bind (.perform nofun) fun _ => .bind (.perform nofun) fun _ =>
        .bind (suppressCancelled_uses (.perform nofun)) fun _ => terminal _ (.inl rfl)
    · exact .bind (.perform nofun) fun _ => terminal _ (.inl rfl)
  · unfold StreamManager.handleRunError
    split
    · exact .bind (.perform nofun) fun _ => .bind (suppressCancelled_uses (.perform nofun)) fun _ =>
        .bind (terminal _ (.inl rfl)) fun _ => trivial
    · split
      · exact terminal _ (.inr rfl)
      · split
        · exact terminal _ (.inr rfl)
        · trivial

theorem create_ok {t : Task} {out : Except PyExc Unit}
    (ran : Runs (amidRun call) (task (.create t)) s trace out s') : out = .ok () := by
  obtain ⟨⟨now, turn⟩, -, answered⟩ := ran.perform_inv
  obtain ⟨-, given, -⟩ := amid_answered answered
  have made : Service.taskAnswer call (.create t) turn now = some (out, s'.1) := given
  cases turn with
  | answered =>
      simp only [Service.taskAnswer] at made
      split at made
      · exact (Prod.mk.inj (Option.some.inj made)).1.symm
      · cases made
  | _ => cases made

theorem run_divides {instanceId subreddit : String} {lockToken : Option String}
    {out : Except PyExc Unit} (ran : Runs (amidRun call)
      (StreamManager.run instanceId streamId subreddit lockToken) s trace out s') :
    ∃ parts, Divides call streamId instanceId subreddit lockToken s s' trace parts := by
  obtain ⟨first, _, r, s₁, rfl, created, rest⟩ := ran.bindE_inv
  cases create_ok created
  obtain ⟨second, _, r, s₂, rfl, created', supervised⟩ := rest.bindE_inv
  cases create_ok created'
  have started : Runs (amidRun call) (createTasks streamId instanceId subreddit lockToken) s
      (first ++ second) (.ok ()) s₂ := created.bindE created'
  obtain ⟨_, closing, r, r', s₃, rfl, tried, closed, -⟩ := supervised.ensure_inv
  rcases tried.rescue_inv with ⟨_, rfl, body⟩ | ⟨e, body, handling, s₄, rfl, failed, handled⟩
  · exact ⟨⟨_, [], closing, none⟩, first ++ second, s₂, s₃, s₃, _, r', by simp, started, body,
      ⟨rfl, rfl, rfl⟩, closed⟩
  · exact ⟨⟨body, handling, closing, some e⟩, first ++ second, s₂, s₄, s₃, _, r', by simp, started,
      failed, ⟨rfl, _, handled⟩, closed⟩

/-- With a registry that does not fail, `_run` leaves a terminal status exactly when its body
returned, or was cancelled behind its status write, or ended with an exception that the `except`
clauses handle to the end. -/
theorem run_terminal_iff {instanceId subreddit : String} {lockToken : Option String}
    {out : Except PyExc Unit} (ran : Runs (amidRun call)
      (StreamManager.run instanceId streamId subreddit lockToken) s trace out s') :
    (∃ parts, Divides call streamId instanceId subreddit lockToken s s' trace parts) ∧
      ∀ parts, Divides call streamId instanceId subreddit lockToken s s' trace parts →
        (Terminal streamId trace ↔ Settles call streamId parts) := by
  refine ⟨run_divides ran, ?_⟩
  rintro ⟨body, handling, closing, failure⟩ ⟨starting, s₁, s₂, s₃, r, r', rfl, started, supervised,
    handled, closed⟩
  have quietStart := (silent streamId
    (.bind (.perform (by rfl)) fun _ => .perform (by rfl)) started).1
  have quietEnd := (silent streamId
    (RunCause.closeRun_onTasks.mono fun _ => onTasks_silent) closed).1
  rw [terminal_iff (ran.uses run_writes), writes_append, writes_append, writes_append,
    or_iff_right quietStart, or_iff_left quietEnd]
  cases r with
  | ok =>
      obtain ⟨rfl, rfl, -⟩ := handled
      exact iff_of_true (.inl (superviseRunner_writes supervised)) nofun
  | error e =>
      obtain ⟨rfl, left, handled⟩ := handled
      rw [handleRunError_writes handled]
      constructor
      · intro settled e' same
        cases same
        exact settled
      · exact fun settles => settles e rfl

/-- The runner fails while `_run`, which has been cancelled, waits for it. -/
def failedCancellation : List (Service × Turn) :=
  let failed := RunCause.runView (.done (.error (.runtimeError "flush failed"))) RunCause.newsWatcher
  let last := RunCause.runView (.done (.error (.runtimeError "flush failed")))
    WorkerShutdown.cancelledTask
  [(RunCause.runView .absent .absent, .answered),
    (RunCause.runView RunCause.newsRunner .absent, .answered),
    (RunCause.runView RunCause.newsRunner RunCause.newsWatcher, .raised .cancelledError),
    (RunCause.runView RunCause.newsRunner RunCause.newsWatcher, .answered), (failed, .answered),
    (failed, .answered), (failed, .answered), (last, .answered), (last, .answered)]

theorem finished_run_terminal : ∃ trace out s' parts,
    Runs (amidRun 0) RunCause.newsRun ({}, ()) trace out s' ∧ out = .ok () ∧
      Divides 0 "id-1" "A" "news" (some "A:1") ({}, ()) s' trace parts ∧ Settles 0 "id-1" parts := by
  have run : (Runs.replay (amidRun 0) RunCause.newsRun RunCause.finishedRun ({}, ())).map
      (fun last => (last.2.1, decide (Terminal "id-1" last.1))) = some (.ok (), true) := rfl
  obtain ⟨trace, out, s', ran, seen⟩ := Runs.of_replay_map run
  obtain ⟨returned, terminal⟩ := Prod.mk.inj seen
  obtain ⟨⟨parts, divides⟩, exactly⟩ := @run_terminal_iff 0 "id-1" _ _ _ _ _ _ _ ran
  exact ⟨trace, out, s', parts, ran, returned, divides,
    (exactly parts divides).mp (of_decide_eq_true terminal)⟩

theorem failed_cancellation_unrecorded : ∃ trace out s',
    Runs (amidRun 0) RunCause.newsRun ({}, ()) trace out s' ∧
      out = .error (.runtimeError "flush failed") ∧ written "id-1" trace = [] ∧
      ¬ Terminal "id-1" trace := by
  have run : (Runs.replay (amidRun 0) RunCause.newsRun failedCancellation ({}, ())).map
      (fun last => (last.2.1, written "id-1" last.1)) =
      some (.error (.runtimeError "flush failed"), []) := rfl
  obtain ⟨trace, out, s', ran, seen⟩ := Runs.of_replay_map run
  obtain ⟨failed, unwritten⟩ := Prod.mk.inj seen
  exact ⟨trace, out, s', ran, failed, unwritten, by simp [Terminal, unwritten]⟩

end RunStatus
end RedditKafka
