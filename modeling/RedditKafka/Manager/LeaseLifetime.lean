import RedditKafka.Manager.Tenancy
import RedditKafka.Stream.WorkerEffects

/-!
# No lease outlives its tasks

The coroutines that a token passes through, from `start_stream` to the release
at the end of the worker's `run`: each of them hands the token on, releases the
lease, or leaves by one of the exits that are recorded.
-/
namespace RedditKafka
open Async Redis StreamRegistry StreamManager DistributedLockManager

section programs

variable {kafkaTopic : String} {t : Thread} {s : Tenancy} {call : Nat} {α β : Type}

abbrev TenancySafe (kafkaTopic : String) (t : Thread) (p : Program α)
    (Q : Except PyExc α → Tenancy → Prop) (s : Tenancy) : Prop :=
  Safe (tenancyMachine kafkaTopic) tenancyDiscipline t p Q s

namespace TenancySafe

/-- A plain effect, in front of the rest of a program. -/
theorem await {c : Effect} (plain : PlainEffect (fun _ _ => True) c) {f : c.Answer → Program β}
    {Q : Except PyExc β → Tenancy → Prop}
    (rest : ∀ s₁ turn r s₂, tenancyDiscipline.keeps t s s₁ → tenancyDiscipline.keeps t s s₂ →
      Tenancy.answer t c turn s₁ = some (r, s₂) → s₂.Valid →
      TenancySafe kafkaTopic t (Prog.andThen f r) Q s₂) :
    TenancySafe kafkaTopic t (Prog.perform c >>= f) Q s := by
  refine Safe.await fun s₁ kept hs₁ => ⟨trivial, fun _ turn r s₂ answered => ?_⟩
  obtain ⟨moved, built⟩ := Tenancy.answer_plain plain answered
  have keeps (u : Thread) : tenancyDiscipline.keeps u s₁ s₂ :=
    ⟨moved.onward hs₁, moved.private built u⟩
  exact ⟨moved.valid hs₁, fun u _ => keeps u,
    rest s₁ turn r s₂ kept (tenancyDiscipline.keeps_trans _ _ _ _ kept (keeps t)) answered
      (moved.valid hs₁)⟩

/-- A plain program keeps what its thread may rely on. -/
theorem plain {p : Program α} (uses : p.Uses (PlainEffect fun _ _ => True)) (I : Tenancy → Prop) (start : I s)
    (stable : ∀ a b, tenancyDiscipline.keeps t a b → I a → I b) :
    TenancySafe kafkaTopic t p (fun _ => I) s := by
  refine Safe.of_uses uses I start (fun a b kept _ => stable a b kept) fun c s₁ plain hs₁ holds =>
    ⟨trivial, fun _ turn r s₂ answered => ?_⟩
  obtain ⟨moved, built⟩ := Tenancy.answer_plain plain answered
  have keeps (u : Thread) : tenancyDiscipline.keeps u s₁ s₂ :=
    ⟨moved.onward hs₁, moved.private built u⟩
  exact ⟨moved.valid hs₁, fun u _ => keeps u, stable _ _ (keeps t) holds⟩

end TenancySafe

/-- The call is known, and has neither a lease nor a task. -/
def Tenancy.Fresh (call : Nat) (instanceId subreddit : String) (s : Tenancy) : Prop :=
  s.service.calls call = some (instanceId, subreddit) ∧ s.lease call = none ∧
    s.launching call = false ∧ s.service.tasks call .run = .absent

theorem Tenancy.Fresh.stays {instanceId subreddit : String} {a b : Tenancy}
    (h : a.Fresh call instanceId subreddit) (kept : tenancyDiscipline.keeps (.start call) a b) :
    b.Fresh call instanceId subreddit := by
  obtain ⟨onward, lease, launching, run⟩ := kept
  exact ⟨onward.calls _ _ h.1, lease.trans h.2.1, launching.trans h.2.2.1, run h.2.2.2⟩

theorem acquireLock_tenancy {instanceId subreddit : String}
    (fresh : s.Fresh call instanceId subreddit) :
    TenancySafe kafkaTopic (.start call) (acquireLock subreddit instanceId 60)
      (fun r s' => match r with
        | .ok (some token) => s'.lease call = some (lockKey subreddit, token)
        | _ => s'.launching call = false) s := by
  refine Safe.await fun s₁ kept hs₁ => ⟨trivial, fun _ turn r s₂ answered => ?_⟩
  obtain ⟨hs₂, onward, kept₂, token, rfl, minted⟩ := Tenancy.answer_ownerToken hs₁ answered
  refine ⟨hs₂, fun u _ => ⟨onward, kept₂ u⟩, ?_⟩
  have fresh₂ := (fresh.stays kept).stays ⟨onward, kept₂ _⟩
  refine Safe.await fun s₃ kept₃ hs₃ => ⟨trivial, fun _ turn r s₄ answered => ?_⟩
  obtain ⟨known, free, idle, run⟩ := fresh₂.stays kept₃
  obtain ⟨hs₄, onward, others, -, result⟩ :=
    Tenancy.answer_acquire hs₃ (kept₃.1.minter _ _ minted) free idle run known answered
  refine ⟨hs₄, fun u ne => ⟨onward, others u ne⟩, ?_⟩
  rcases r with e | _ | _
  · exact result
  · simp only [Prog.andThen, Bool.false_eq_true, if_false]
    refine Safe.bind hs₄ (TenancySafe.plain
      ((redis_uses (.get _)).mono fun _ => RegistryEffect.plain)
      (fun s => s.launching call = false) result fun a b kept launching =>
        kept.2.2.1.trans launching) (fun _ _ _ launching => launching) fun _ _ _ launching => launching
  · exact result.1

theorem launch_tenancy {instanceId streamId subreddit token : String}
    (held : s.lease call = some (lockKey subreddit, token)) :
    TenancySafe kafkaTopic (.start call) (launch instanceId streamId subreddit token)
      (fun _ s' => s'.launching call = false) s := by
  refine Safe.await fun s₁ kept hs₁ => ⟨trivial, fun _ turn r s₂ answered => ?_⟩
  obtain ⟨hs₂, onward, others, launched⟩ :=
    Tenancy.answer_createLocal hs₁ (kept.1.lease _ _ held) answered
  refine ⟨hs₂, fun u ne => ⟨onward, others u ne⟩, ?_⟩
  rcases r with e | _ | _
  · exact launched
  · exact launched
  · exact TenancySafe.plain (status_uses trivial _)
      (fun s => s.launching call = false) launched fun a b kept launching =>
        kept.2.2.1.trans launching

/-- `start_stream` ends without a token, or behind the creation of its task. -/
theorem startStream_tenancy {instanceId subreddit config : String} (hs : s.Valid)
    (fresh : s.Fresh call instanceId subreddit) :
    TenancySafe kafkaTopic (.start call) (ignoring (startStream instanceId subreddit config))
      (fun _ s' => s'.launching call = false) s := by
  have calm {γ : Type} {p : Program γ} (uses : p.Uses (PlainEffect fun _ _ => True)) {s : Tenancy}
      (launching : s.launching call = false) :
      TenancySafe kafkaTopic (.start call) p (fun _ s' => s'.launching call = false) s :=
    TenancySafe.plain uses (fun s => s.launching call = false) launching
      fun a b kept launching => kept.2.2.1.trans launching
  refine Safe.bind hs (P := fun _ s' => s'.launching call = false) ?_
    (fun _ _ _ launching => by exact launching) fun _ _ _ launching => launching
  refine Safe.bind hs (TenancySafe.plain ((createStream_uses
    (fun _ => trivial) _ _ _).mono fun _ => RegistryEffect.plain) (Tenancy.Fresh call instanceId
      subreddit) fresh fun a b kept fresh => fresh.stays kept) (fun metadata s₁ hs₁ fresh₁ => ?_)
    fun _ _ _ fresh => fresh.2.2.1
  refine Safe.bind hs₁ (acquireLock_tenancy fresh₁) (fun token s₂ hs₂ acquired => ?_)
    fun _ _ _ launching => launching
  cases token with
  | none =>
      refine Safe.bind hs₂ (calm ((deleteStream_uses (.inr trivial) _ _).mono
        fun _ => RegistryEffect.plain) acquired) (fun _ _ _ launching => launching)
        fun _ _ _ launching => launching
  | some token =>
      exact Safe.bind hs₂ (launch_tenancy acquired) (fun _ _ _ launching => launching)
        fun _ _ _ launching => launching

/-- `_run` creates its runner before anything else. -/
theorem run_tenancy {instanceId streamId subreddit token : String}
    (held : s.lease call = some (lockKey subreddit, token))
    (there : s.service.tasks call .run ≠ .absent) :
    TenancySafe kafkaTopic (.task call .run)
      (StreamManager.run instanceId streamId subreddit (some token))
      (fun _ s' => s'.service.tasks call .run ≠ .absent ∧ s'.service.tasks call .runner ≠ .absent)
      s := by
  refine Safe.await fun s₁ kept hs₁ => ⟨trivial, fun _ turn r s₂ answered => ?_⟩
  obtain ⟨hs₂, onward, others, made⟩ := Tenancy.create_runner hs₁ (kept.1.lease _ _ held)
    (kept.1.tasks _ _ there) answered
  refine ⟨hs₂, fun u _ => ⟨onward, others u⟩, ?_⟩
  have there₂ := onward.tasks _ _ (kept.1.tasks _ _ there)
  obtain ⟨rfl, -⟩ := Tenancy.answer_create answered
  refine Safe.await fun s₃ kept₃ hs₃ => ⟨trivial, fun _ turn r s₄ answered => ?_⟩
  obtain ⟨hs₄, onward₄, others₄⟩ := Tenancy.create_aside hs₃ rfl answered
  refine ⟨hs₄, fun u _ => ⟨onward₄, others₄ u⟩, ?_⟩
  obtain ⟨rfl, -⟩ := Tenancy.answer_create answered
  exact TenancySafe.plain
    (Prog.Uses.ensure ((superviseRunner_uses trivial).rescue (handleRunError_uses trivial trivial))
      (closeRun_uses instanceId streamId))
    (fun s => s.service.tasks call .run ≠ .absent ∧ s.service.tasks call .runner ≠ .absent)
    ⟨onward₄.tasks _ _ (kept₃.1.tasks _ _ there₂), onward₄.tasks _ _ (kept₃.1.tasks _ _ made)⟩
    fun a b kept both => ⟨kept.1.tasks _ _ both.1, kept.1.tasks _ _ both.2⟩

/-! ## The runner and its worker -/

/-- The call holds the lease `x`, and its runner exists. -/
def Tenancy.Hired (call : Nat) (x : String × String) (s : Tenancy) : Prop :=
  s.lease call = some x ∧ s.service.tasks call .runner ≠ .absent

/-- The runner has built a worker with the token of the call. -/
def Tenancy.Working (call : Nat) (w : StreamWorker) (s : Tenancy) : Prop :=
  s.Hired call (lockKey w.subreddit, w.lockToken) ∧ s.built call = true

/-- The lease of the call is gone, or its token was dropped. -/
def Tenancy.Over (call : Nat) (s : Tenancy) : Prop :=
  ∃ x, s.Hired call x ∧ (s.dropped call = true ∨ s.service.redis.get x.1 ≠ some x.2)

theorem Tenancy.Hired.stays {x : String × String} {a b : Tenancy} (h : a.Hired call x)
    (onward : a.Onward b) : b.Hired call x :=
  ⟨onward.lease _ _ h.1, onward.tasks _ _ h.2⟩

theorem Tenancy.Working.stays {w : StreamWorker} {a b : Tenancy} (h : a.Working call w)
    (kept : tenancyDiscipline.keeps (.task call .runner) a b) : b.Working call w :=
  ⟨h.1.stays kept.1, Eq.trans kept.2 h.2⟩

theorem Tenancy.Over.stays {a b : Tenancy} (h : a.Over call) (onward : a.Onward b) :
    b.Over call := by
  obtain ⟨x, hired, past⟩ := h
  exact ⟨x, hired.stays onward, past.imp (onward.dropped _) (onward.gone _ _ _ hired.1)⟩

/-- An answer on which the runner drops the token. -/
theorem Tenancy.dropped_of_drops {c : Effect} {turn : Turn} {r : Except PyExc c.Answer}
    {s' : Tenancy} (answered : Tenancy.answer (.task call .runner) c turn s = some (r, s'))
    (drops : Thread.drops (s.built call) (.task call .runner) c r = true) :
    s'.dropped call = true := by
  obtain ⟨after, -, rfl⟩ := Tenancy.answer_service answered
  have same : s.builtOf (.task call .runner) = s.built call := rfl
  rw [same, drops]
  exact Tenancy.drop_self _ _

/-- The worker's last save is not left by a cancellation, unless the token is dropped. -/
def Tenancy.Saving {α : Type} (call : Nat) (w : StreamWorker) (r : Except PyExc α) (s : Tenancy) :
    Prop :=
  s.Working call w ∧ ∀ e, r = .error e → e.isException = false → s.dropped call = true

section worker

variable {w : StreamWorker}

theorem nowIso_answer {turn : Turn} {r : Except PyExc String} {s' : Tenancy}
    (answered : Tenancy.answer t .nowIso turn s = some (r, s')) : ∃ now, r = .ok now := by
  obtain ⟨after, given, -⟩ := Tenancy.answer_service answered
  cases turn with
  | named text => cases given; exact ⟨text, rfl⟩
  | answered | raised | raisedAfter | worker => cases given

theorem saveCheckpointForCommentId_tenancy {commentId : String} (hs : s.Valid)
    (working : s.Working call w) :
    TenancySafe kafkaTopic (.task call .runner)
      (w.served (StreamWorker.saveCheckpointForCommentId commentId))
      (Tenancy.Saving call w) s := by
  rw [StreamWorker.saveCheckpointForCommentId, StreamWorker.served_exceptException,
    StreamWorker.served_bind, StreamWorker.served_await]
  refine Safe.exceptException hs (P := Tenancy.Saving call w) ?_
    (fun _ _ _ saving => saving) (fun _ _ _ _ saving => saving)
    fun _ _ _ _ saving => ⟨saving.1, nofun⟩
  refine TenancySafe.await (c := .nowIso) trivial fun s₁ turn r s₂ _ kept answered _ => ?_
  obtain ⟨processedAt, rfl⟩ := nowIso_answer answered
  rw [Prog.andThen, StreamWorker.served_await]
  refine TenancySafe.await (c := .nowIso) trivial fun s₃ turn r s₄ _ kept₂ answered _ => ?_
  obtain ⟨now, rfl⟩ := nowIso_answer answered
  have working₂ := (working.stays kept).stays kept₂
  rw [Prog.andThen, ← Prog.bindE_ofExcept (redis _)]
  refine TenancySafe.await (f := Prog.ret) (by exact .inl (.checkpoint _ _ rfl))
    fun s₅ turn r s₆ _ kept₃ answered _ => ?_
  cases r with
  | ok _ => exact ⟨working₂.stays kept₃, fun _ raised => by cases raised⟩
  | error e =>
      refine ⟨working₂.stays kept₃, fun e' same cancelled => ?_⟩
      cases same
      exact Tenancy.dropped_of_drops answered (by simp [Thread.drops, cancelled])

theorem saveCheckpoint_tenancy (hs : s.Valid) (working : s.Working call w) :
    TenancySafe kafkaTopic (.task call .runner) (w.served StreamWorker.saveCheckpoint)
      (Tenancy.Saving call w) s := by
  rw [StreamWorker.saveCheckpoint, StreamWorker.served_bind, StreamWorker.served_await]
  refine Safe.bind hs (P := Tenancy.Saving call w) ?_ (fun checkpoint s' hs' saving => ?_)
    fun _ _ _ saving => ⟨saving.1, fun e same => saving.2 e (by cases same; rfl)⟩
  · refine TenancySafe.await (by exact .inl (.hgetall _)) fun s₁ turn r s₂ _ kept answered _ => ?_
    cases r with
    | ok data => exact ⟨working.stays kept, fun _ raised => by cases raised⟩
    | error e =>
        refine ⟨working.stays kept, fun e' same cancelled => ?_⟩
        cases same
        exact Tenancy.dropped_of_drops answered (by simp [Thread.drops, cancelled])
  · cases checkpoint.lastCommentId with
    | none => exact ⟨saving.1, fun _ raised => by cases raised⟩
    | some lastCommentId =>
        by_cases empty : lastCommentId = ""
        · simp only [empty, ne_eq, not_true_eq_false, if_false]
          exact ⟨saving.1, fun _ raised => by cases raised⟩
        · simp only [ne_eq, empty, not_false_eq_true, if_true]
          exact saveCheckpointForCommentId_tenancy hs' saving.1

/-- The release reaches Redis, and the token is not stored behind it. -/
theorem releaseLock_tenancy (working : s.Working call w) :
    TenancySafe kafkaTopic (.task call .runner) (w.serve .releaseLock)
      (fun _ s' => s'.Over call) s := by
  refine Safe.await fun s₁ kept hs₁ => ⟨trivial, fun _ turn r s₂ answered => ?_⟩
  have plain : PlainEffect (fun _ _ => True)
      (.redis (.eval (.deleteIfOwner (lockKey w.subreddit) w.lockToken))) := .inr (.release _ _)
  obtain ⟨moved, built⟩ := Tenancy.answer_plain plain answered
  refine ⟨moved.valid hs₁, fun u _ => ⟨moved.onward hs₁, moved.private built u⟩, ?_⟩
  have released : s₂.service.redis.get (lockKey w.subreddit) ≠ some w.lockToken := by
    obtain ⟨after, given, rfl⟩ := Tenancy.answer_service answered
    have gone : (s₁.service.execute (.task call .runner)
        (.eval (.deleteIfOwner (lockKey w.subreddit) w.lockToken))).redis.get
          (lockKey w.subreddit) ≠ some w.lockToken := by
      rw [Service.execute_redis]
      simp only [RedisCmd.run, Script.run]
      split
      · simp
      · assumption
    cases turn with
    | answered => cases given; exact gone
    | raisedAfter e => cases given; exact gone
    | raised e => cases answered
    | named | worker => cases given
  have past : s₂.Over call :=
    ⟨_, (working.stays kept).1.stays (moved.onward hs₁), .inr released⟩
  cases r with
  | ok _ => exact past
  | error e => exact past

theorem shutDown_tenancy (hs : s.Valid) (working : s.Working call w) (shutdownEvent : Bool) :
    TenancySafe kafkaTopic (.task call .runner) (w.served (StreamWorker.shutDown shutdownEvent))
      (fun _ s' => s'.Over call) s := by
  have release {s : Tenancy} (hs : s.Valid) (working : s.Working call w) :
      TenancySafe kafkaTopic (.task call .runner)
        (w.served (exceptException (RedditKafka.await .releaseLock) fun _ => pure ()))
        (fun _ s' => s'.Over call) s := by
    rw [StreamWorker.served_exceptException, StreamWorker.served_await]
    exact Safe.exceptException hs (P := fun _ s' => s'.Over call) (releaseLock_tenancy working)
      (fun _ _ _ past => past) (fun _ _ _ _ past => past) fun _ _ _ _ past => past
  rw [StreamWorker.shutDown]
  cases shutdownEvent with
  | false => exact release hs working
  | true =>
      rw [if_pos rfl, StreamWorker.served_bind, StreamWorker.served_exceptException]
      refine Safe.bind hs (P := fun r s' => s'.Working call w ∧
        ∀ e, r = .error e → s'.dropped call = true) ?_ (fun _ s' hs' saved => release hs' saved.1)
        fun e s' _ saved => ⟨_, saved.1.1, .inl (saved.2 e rfl)⟩
      exact Safe.exceptException hs (saveCheckpoint_tenancy hs working)
        (fun _ _ _ saving => ⟨saving.1, nofun⟩)
        (fun e _ _ cancelled saving => ⟨saving.1, fun _ _ => saving.2 e rfl cancelled⟩)
        fun _ _ _ _ saving => ⟨saving.1, nofun⟩

/-- Whatever `run` is left by, the shutdown stands before its end. -/
theorem worker_run_tenancy (working : s.Working call w) :
    TenancySafe kafkaTopic (.task call .runner) (w.served w.run) (fun _ s' => s'.Over call) s := by
  have calm {γ : Type} {p : Coroutine γ} (uses : p.Uses WorkerEff.ofRun) {s : Tenancy}
      (working : s.Working call w) : TenancySafe kafkaTopic (.task call .runner) (w.served p)
        (fun _ s' => s'.Working call w) s :=
    TenancySafe.plain (Prog.Uses.link StreamWorker.serve_ofRun uses)
      (Tenancy.Working call w) working fun a b kept working => working.stays kept
  have create {γ : Type} {task : Task} (beside : task.role.main = false) {f : Unit → Program γ}
      {Q : Except PyExc γ → Tenancy → Prop} {s : Tenancy} (working : s.Working call w)
      (rest : ∀ s', s'.Valid → s'.Working call w →
        TenancySafe kafkaTopic (.task call .runner) (f ()) Q s') :
      TenancySafe kafkaTopic (.task call .runner)
        (Prog.perform (Effect.task (.create task)) >>= f) Q s := by
    refine Safe.await fun s₁ kept hs₁ => ⟨trivial, fun _ turn r s₂ answered => ?_⟩
    obtain ⟨hs₂, onward, others⟩ := Tenancy.create_aside hs₁ beside answered
    obtain ⟨rfl, -⟩ := Tenancy.answer_create answered
    exact ⟨hs₂, fun u _ => ⟨onward, others u⟩,
      rest s₂ hs₂ ((working.stays kept).stays ⟨onward, others _⟩)⟩
  rw [StreamWorker.run, StreamWorker.served_bind, StreamWorker.served_await]
  refine create rfl working fun s₁ hs₁ working₁ => ?_
  rw [StreamWorker.served_bind, StreamWorker.served_await]
  refine create rfl working₁ fun s₂ hs₂ working₂ => ?_
  rw [StreamWorker.served_bind]
  refine Safe.bind hs₂
    ((calm w.superviseTasks_uses working₂).ends (Prog.Ends.link w.serve w.superviseTasks_ends))
    (fun supervised s₃ hs₃ after => ?_) fun e s₃ _ after => ?_
  · obtain ⟨shutdownEvent, outcome⟩ := supervised
    rw [StreamWorker.served_bind]
    have reaped : ((Prog.ofExcept outcome).ensure StreamWorker.reapTasks).attempt.Uses
        WorkerEff.ofRun :=
      (Prog.Uses.ensure (Prog.Uses.ofExcept _) StreamWorker.reapTasks_uses).bindE fun _ => trivial
    refine Safe.bind hs₃ ((calm reaped after.1).ends (Prog.Ends.link w.serve (Prog.Ends.attempt _)))
      (fun outcome s₄ hs₄ after => ?_) fun e s₄ _ after => ?_
    · rw [StreamWorker.served, Prog.link_ensure, Prog.link_ofExcept, Prog.ensure]
      refine Safe.bindE hs₄ (P := fun _ s' => s'.Working call w) (by cases outcome <;> exact after.1)
        fun r s₅ hs₅ working₅ => ?_
      refine Safe.bindE hs₅ (shutDown_tenancy hs₅ working₅ shutdownEvent) fun r' s₆ _ past => ?_
      cases r' with
      | ok _ => cases r <;> exact past
      | error e => exact past
    · obtain ⟨a, same⟩ := after.2
      cases same
  · obtain ⟨a, same⟩ := after.2
    cases same

end worker

/-- The runner's look-up finds metadata with an id, or the token is dropped. -/
def Tenancy.LookedUp (call : Nat) (x : String × String) (r : Except PyExc (Option Hash))
    (s : Tenancy) : Prop :=
  s.Hired call x ∧ ((∃ data id, r = .ok (some data) ∧ data.get "id" = some id) ∨
    s.dropped call = true ∧ ∀ data, r = .ok (some data) → data.get "id" = none)

theorem getStreamBySubreddit_tenancy {subreddit : String} {x : String × String}
    (hired : s.Hired call x) (unbuilt : s.built call = false) :
    TenancySafe kafkaTopic (.task call .runner) (getStreamBySubreddit subreddit)
      (Tenancy.LookedUp call x) s := by
  refine TenancySafe.await (by exact .inl (.get _)) fun s₁ turn r s₂ kept kept₂ answered hs₂ => ?_
  have unbuilt₁ : s₁.built call = false := Eq.trans kept.2 unbuilt
  have unbuilt₂ : s₂.built call = false := Eq.trans kept₂.2 unbuilt
  have hired₂ := hired.stays kept₂.1
  rcases r with e | sid
  · exact ⟨hired₂, .inr ⟨Tenancy.dropped_of_drops answered (by simp [Thread.drops, unbuilt₁]),
      fun _ found => by cases found⟩⟩
  by_cases there : truthy sid = true
  · simp only [Prog.andThen, orNone, if_pos there]
    cases sid with
    | none => cases there
    | some sid =>
        refine Safe.bind hs₂ (P := fun r => Tenancy.LookedUp call x (r.map some)) ?_
          (fun _ _ _ found => found) fun _ _ _ found => found
        refine TenancySafe.await (by exact .inl (.hgetall _))
          fun s₃ turn r s₄ kept₃ kept₄ answered _ => ?_
        have unbuilt₃ : s₃.built call = false := Eq.trans kept₃.2 unbuilt₂
        have hired₄ := hired₂.stays kept₄.1
        rcases r with e | data
        · exact ⟨hired₄, .inr ⟨Tenancy.dropped_of_drops answered (by simp [Thread.drops, unbuilt₃]),
            fun _ found => by cases found⟩⟩
        simp only [Prog.andThen]
        cases named : Hash.get data "id" with
        | none =>
            have drop : s₄.dropped call = true :=
              Tenancy.dropped_of_drops answered (by simp [Thread.drops, unbuilt₃, named])
            split
            · exact ⟨hired₄, .inr ⟨drop, fun _ found => by cases found⟩⟩
            · refine ⟨hired₄, .inr ⟨drop, fun data' same => ?_⟩⟩
              cases same
              exact named
        | some id =>
            rw [if_neg (Hash.ne_nil_of_get named)]
            exact ⟨hired₄, .inl ⟨data, id, rfl, named⟩⟩
  · have drop : s₂.dropped call = true :=
      Tenancy.dropped_of_drops answered (by simpa [Thread.drops] using there)
    simp only [Prog.andThen, orNone, if_neg there]
    exact ⟨hired₂, .inr ⟨drop, fun _ found => by cases found⟩⟩

/-- The runner builds the worker, which releases the lease, or drops the token. -/
theorem invokeRunner_tenancy {instanceId subreddit token : String} (hs : s.Valid)
    (hired : s.Hired call (lockKey subreddit, token)) (unbuilt : s.built call = false) :
    TenancySafe kafkaTopic (.task call .runner)
      (invokeRunner kafkaTopic instanceId subreddit (some token)) (fun _ s' => s'.Over call) s := by
  refine Safe.bind hs (getStreamBySubreddit_tenancy hired unbuilt) (fun found s₁ hs₁ result => ?_)
    fun e s₁ _ result => ?_
  · obtain ⟨hired₁, ⟨data, streamId, same, named⟩ | ⟨drop, unnamed⟩⟩ := result
    · cases same
      simp only [named]
      refine Safe.await fun s₂ kept hs₂ => ⟨trivial, fun _ turn r s₃ answered => ?_⟩
      obtain ⟨hs₃, onward, others, built⟩ := Tenancy.answer_getSerializer hs₂ answered
      refine ⟨hs₃, fun u ne => ⟨onward, others u ne⟩, ?_⟩
      have hired₃ := (hired₁.stays kept.1).stays onward
      cases r with
      | ok _ => exact worker_run_tenancy ⟨hired₃, built⟩
      | error e => exact ⟨_, hired₃, .inl built⟩
    · have past : s₁.Over call := ⟨_, hired₁, .inl drop⟩
      cases found with
      | none => exact past
      | some data =>
          simp only [unnamed data rfl]
          exact past
  · obtain ⟨hired₁, ⟨data, streamId, same, -⟩ | ⟨drop, -⟩⟩ := result
    · cases same
    · exact ⟨_, hired₁, .inl drop⟩

end programs

/-- What a thread of a call leaves behind. -/
def tenancyPost : Thread → Except PyExc Unit → Tenancy → Prop
  | .start call, _, s => s.launching call = false
  | .task call .run, _, s =>
      s.service.tasks call .run ≠ .absent ∧ s.service.tasks call .runner ≠ .absent
  | .task call .runner, _, s => s.Over call
  | _, _, _ => True

theorem tenancyPost_stable {t : Thread} {r : Except PyExc Unit} {a b : Tenancy}
    (kept : tenancyDiscipline.keeps t a b) (h : tenancyPost t r a) : tenancyPost t r b := by
  unfold tenancyPost at *
  split
  · exact kept.2.2.1.trans h
  · exact ⟨kept.1.tasks _ _ h.1, kept.1.tasks _ _ h.2⟩
  · exact h.stays kept.1
  · trivial

namespace Tenancy

variable {kafkaTopic : String} {s s' : Tenancy}

/-- A new request only adds to what is asked, apart from a new call. -/
theorem request_unmoved (service : Service) (tasks : service.tasks = s.service.tasks)
    (tokens : service.tokens = s.service.tokens) (calls : service.calls = s.service.calls)
    (redis : service.redis = s.service.redis) : s.Unmoved { s with service := service } :=
  ⟨tasks, tokens, calls, rfl, rfl, rfl, fun _ h => h, fun _ _ h => redis ▸ h⟩

/-- A thread other than a call or a main task is plain. -/
theorem bystander {t : Thread} {p : Program Unit} (hs : s.Valid)
    (uses : p.Uses (PlainEffect fun _ _ => True)) (post : ∀ r s, tenancyPost t r s) :
    TenancySafe kafkaTopic t p (tenancyPost t) s :=
  (TenancySafe.plain uses (fun _ => True) trivial fun _ _ _ _ => trivial).mono hs
    fun r s' _ _ => post r s'

theorem finish_valid {t : Thread} {r : Except PyExc Unit} (hs : s.Valid) (post : tenancyPost t r s) :
    let s' : Tenancy := { s with service := s.service.finish t r }
    s'.Valid ∧ s.Onward s' ∧ ∀ u, Private u s s' := by
  cases t with
  | task call role =>
      refine setTask_valid _ _ _ false hs nofun nofun (fun isMain => ?_) fun isMain _ => ?_
      · cases role with
        | run => exact ⟨post.1, nofun⟩
        | runner =>
            obtain ⟨x, hired, -⟩ := post
            exact ⟨hired.2, nofun⟩
        | watcher | stream | lock => cases isMain
      · cases role with
        | run => exact .inr (.inl ⟨rfl, post.2⟩)
        | runner =>
            obtain ⟨x, hired, drop | gone⟩ := post
            · exact .inl drop
            · refine .inr (.inr fun key token held => ?_)
              rw [hired.1] at held
              cases held
              exact gone
        | watcher | stream | lock => cases isMain
  | start | stop | sweep => exact ⟨hs, .refl s, fun u => .refl u s⟩

theorem tick_valid {event : ServiceEvent} (hs : s.Valid) (ticked : Tenancy.tick event s = some s') :
    s'.Valid ∧ s.Onward s' ∧ ∀ u, Private u s s' := by
  obtain ⟨service, moved, rfl⟩ := Option.map_eq_some_iff.mp ticked
  cases event with
  | elapse n =>
      cases moved
      have unmoved : s.Unmoved { s with service :=
          { s.service with redis := s.service.redis.elapse n } } :=
        ⟨rfl, rfl, rfl, rfl, rfl, rfl, fun _ h => h, fun _ _ h => Store.get_elapse h⟩
      exact ⟨unmoved.valid hs, unmoved.onward hs, unmoved.private rfl⟩
  | cancelledEarly call role =>
      simp only [Service.tick] at moved
      split at moved
      · rename_i task is
        cases moved
        refine setTask_valid _ _ _ _ hs nofun nofun (fun _ => ⟨by simp [is], nofun⟩) fun isMain _ => ?_
        have drop : (role = .run || role = .runner) = true := isMain
        exact .inl (by rw [drop]; exact drop_self _ _)
      · cases moved
  | _ => cases moved

/-- A new call has no lease and no task. -/
theorem call_valid {call : Nat} (instanceId subreddit : String) (hs : s.Valid)
    (new : s.service.calls call = none) :
    let s' : Tenancy := { s with service := { s.service with
      calls := Function.update s.service.calls call (some (instanceId, subreddit)) } }
    s'.Valid ∧ s.Onward s' ∧ (∀ u, Private u s s') ∧ s'.Fresh call instanceId subreddit := by
  have kept {call' : Nat} {x : String × String} (known : s.service.calls call' = some x) :
      Function.update s.service.calls call (some (instanceId, subreddit)) call' = some x := by
    have ne : call' ≠ call := by
      rintro rfl
      simp [new] at known
    rwa [Function.update_of_ne ne]
  have free : s.lease call = none := by
    refine Option.eq_none_iff_forall_ne_some.mpr fun x held => ?_
    obtain ⟨-, i, sub, known, -⟩ := hs.own call x.1 x.2 held
    simp [new] at known
  refine ⟨⟨hs.minted, ?_, ?_, hs.launching, hs.orphan, hs.roles, hs.run, hs.runner, hs.carried⟩,
    ⟨fun _ _ h => h, fun _ _ h => h, fun _ _ _ _ h => h, fun _ h => h, fun _ _ => kept,
      fun _ _ h => h⟩, fun u => ?_, by simp, free, hs.unborn call new⟩
  · intro call' key token held
    obtain ⟨minted, i, sub, known, same⟩ := hs.own call' key token held
    exact ⟨minted, i, sub, kept known, same⟩
  · intro call' unknown
    cases known : s.service.calls call' with
    | none => exact hs.unborn call' known
    | some x =>
        have asked := (kept known).symm.trans unknown
        cases asked
  · unfold Private
    split
    · exact ⟨rfl, rfl, fun h => h⟩
    · rfl
    · trivial

/-- A created task begins, and its program is the one that its role asks for. -/
theorem begin_valid {call : Nat} {role : Role} {task : Task} (hs : s.Valid)
    (is : s.service.tasks call role = .created task) :
    let s' := s.begin (.task call role) (s.service.setTask call role (.alive task))
    s'.Valid ∧ s.Onward s' ∧ (∀ u, u ≠ .task call role → Private u s s') ∧
      TenancySafe kafkaTopic (.task call role) (task.program kafkaTopic)
        (tenancyPost (.task call role)) s' := by
  obtain ⟨h, onward, others⟩ := setTask_valid call role (.alive task) false hs nofun nofun
    (fun _ => ⟨by simp [is], nofun⟩) fun _ done => by cases done
  have there : (s.service.setTask call role (.alive task)).tasks call role ≠ .absent := by
    simp [Service.setTask_tasks]
  cases role with
  | run =>
      obtain ⟨instanceId, streamId, subreddit, token, rfl, held⟩ := hs.run call task is
      exact ⟨h, onward, fun u _ => others u, run_tenancy held there⟩
  | runner =>
      obtain ⟨instanceId, subreddit, token, rfl, held⟩ := hs.runner call task is
      have valid : (s.begin (.task call .runner) (s.service.setTask call .runner
          (.alive (.runner instanceId subreddit (some token))))).Valid :=
        ⟨h.minted, h.own, h.unborn, h.launching, h.orphan, h.roles, h.run, h.runner, h.carried⟩
      refine ⟨valid, ⟨onward.minter, onward.lease, onward.gone, onward.dropped, onward.calls,
        onward.tasks⟩, fun u other => ?_,
        invokeRunner_tenancy valid ⟨held, there⟩ (Function.update_self ..)⟩
      have before := others u
      unfold Private at before ⊢
      split
      · exact before
      · rename_i call'
        have ne : call' ≠ call := fun same => other (by rw [same])
        exact Function.update_of_ne ne _ _
      · trivial
  | watcher | stream | lock =>
      refine ⟨h, onward, fun u _ => others u, bystander h ?_ fun _ _ => trivial⟩
      have named := hs.roles call _ task is
      cases task with
      | watcher => exact waitForStopRequest_uses _
      | stream w => exact StreamWorker.streamLoop_served trivial
      | lock w => exact StreamWorker.lockRefreshLoop_served
      | run | runner => cases named

theorem start_valid {t : Thread} {event : ServiceEvent} {p : Program Unit} {service : Service}
    (hs : s.Valid) (started : s.service.start kafkaTopic t event = some (p, service)) :
    (s.begin t service).Valid ∧ s.Onward (s.begin t service) ∧
      (∀ u, u ≠ t → Private u s (s.begin t service)) ∧
      TenancySafe kafkaTopic t p (tenancyPost t) (s.begin t service) := by
  have stop (request : Nat) (streamId : String) (q : Program Unit)
      (uses : q.Uses (PlainEffect fun _ _ => True))
      (begun : s.service.beginRequest request streamId q = some (p, service)) :
      (s.begin (.stop request) service).Valid ∧ s.Onward (s.begin (.stop request) service) ∧
        (∀ u, u ≠ .stop request → Private u s (s.begin (.stop request) service)) ∧
        TenancySafe kafkaTopic (.stop request) p (tenancyPost (.stop request))
          (s.begin (.stop request) service) := by
    unfold Service.beginRequest at begun
    split at begun
    · cases begun
      have unmoved := request_unmoved (s := s) { s.service with
        requests := Function.update s.service.requests request (some streamId) } rfl rfl rfl rfl
      exact ⟨unmoved.valid hs, unmoved.onward hs, fun u _ => unmoved.private rfl u,
        bystander (unmoved.valid hs) uses fun _ _ => trivial⟩
    · cases begun
  unfold Service.start at started
  split at started
  · rename_i call instanceId subreddit config
    split at started
    · rename_i new
      cases started
      obtain ⟨h, onward, others, fresh⟩ := call_valid instanceId subreddit hs new
      exact ⟨h, onward, fun u _ => others u, startStream_tenancy h fresh⟩
    · cases started
  · exact stop _ _ _ (stopEndpoint_uses _ trivial trivial) started
  · exact stop _ _ _ (stopStream_uses _ trivial trivial) started
  · exact stop _ _ _ (requestStop_plain trivial trivial) started
  · cases started
    exact ⟨hs, .refl s, fun u _ => .refl u s, bystander hs
      (DeadStreamCleanup.cleanup_uses.mono fun _ => RegistryEffect.plain) fun _ _ => trivial⟩
  · rename_i call role
    split at started
    · rename_i task is
      cases started
      exact begin_valid hs is
    · cases started
  · cases started

theorem sound : Sound (tenancyMachine kafkaTopic) tenancyDiscipline tenancyPost where
  post_stable t r a b kept _ h := tenancyPost_stable kept h
  start t event s p s' hs started := by
    obtain ⟨⟨p', service⟩, begun, same⟩ := Option.map_eq_some_iff.mp started
    cases same
    obtain ⟨h, onward, others, safe⟩ := start_valid hs begun
    exact ⟨h, fun u other => ⟨onward, others u other⟩, safe⟩
  finish t r s hs post := by
    obtain ⟨h, onward, others⟩ := finish_valid hs post
    exact ⟨h, fun u _ => ⟨onward, others u⟩⟩
  tick event s s' hs ticked := by
    obtain ⟨h, onward, others⟩ := tick_valid hs ticked
    exact ⟨h, fun u => ⟨onward, others u⟩⟩

theorem initial (store : Store) : Orderly (tenancyMachine kafkaTopic) tenancyDiscipline tenancyPost
    (tenancyConfig store) :=
  Orderly.initial ⟨nofun, nofun, fun _ _ => ⟨rfl, rfl⟩, nofun, fun _ _ => rfl, nofun, nofun, nofun,
    nofun⟩

/-- A call that is not running has been through with its launch. -/
theorem launched {c : TenancyConfig} {store : Store}
    (reached : (tenancyMachine kafkaTopic).Reaches (tenancyConfig store) c) {call : Nat}
    (ended : c.threads (.start call) = none) : c.state.launching call = false :=
  Sound.idle sound (R := fun t s => ∀ call, t = .start call → s.launching call = false)
    (fun t a b kept _ h call same => by
      cases same
      exact kept.2.2.1.trans (h call rfl))
    (fun t r s _ post call same => by
      cases same
      exact post)
    (initial store) (fun _ _ _ _ => rfl) reached ended call rfl

end Tenancy

/-- A lease that a call acquired is not held any more when no unfinished task carries its token,
unless the token was dropped on one of the listed exits. -/
theorem lease_gone_with_its_tasks {kafkaTopic : String} {store : Store} {c : TenancyConfig}
    (reached : (tenancyMachine kafkaTopic).Reaches (tenancyConfig store) c) {call : Nat}
    {key token : String} (acquired : c.state.lease call = some (key, token))
    (kept : c.state.dropped call = false) (past : ¬ Carried c call) :
    (∃ instanceId subreddit, c.state.service.calls call = some (instanceId, subreddit) ∧
      key = lockKey subreddit) ∧ c.state.service.redis.get key ≠ some token := by
  have hs := (Tenancy.sound.reaches (Tenancy.initial store) reached).inv
  refine ⟨(hs.own call key token acquired).2, fun held => past ?_⟩
  rcases hs.carried call key token acquired kept held with launching | ⟨-, pending⟩ | pending
  · refine .inl ⟨fun ended => ?_, hs.launching call launching⟩
    simp [Tenancy.launched reached ended] at launching
  · exact .inr ⟨.run, nofun, pending⟩
  · exact .inr ⟨.runner, nofun, pending⟩

/-- A `start_stream` call that goes through, and its tasks up to the look-up of the runner. -/
def startedRunner : List (Action Thread Turn ServiceEvent) :=
  .start (.start 0) (.startStream "i" "news" "config") ::
    (Thread.start 0).turns (startTurns ++ [.answered, .answered, .answered]) ++
    .finish (.start 0) :: .start (.task 0 .run) .begin ::
    (Thread.task 0 .run).turns [.answered, .answered] ++
    .start (.task 0 .runner) .begin :: (Thread.task 0 .runner).turns [.answered, .answered]

/-- The end of the run, behind the end of its runner. -/
def endedRun (handler : List Turn) : List (Action Thread Turn ServiceEvent) :=
  .finish (.task 0 .runner) :: (Thread.task 0 .run).turns ([.answered, .answered] ++ handler ++
    [.named "now", .answered, .answered, .answered, .answered]) ++
    .tick (.cancelledEarly 0 .watcher) :: (Thread.task 0 .run).turns [.answered, .answered] ++
    [.finish (.task 0 .run)]

/-- The end of a call in a run: what carries its token, its lease, and whether it was dropped. -/
def traces (c : TenancyConfig) : List Bool × Option (String × String) × Bool :=
  ((c.threads (.start 0)).isSome ::
    [Role.run, .runner, .stream, .lock].map fun role => (c.state.service.tasks 0 role).pending,
    c.state.lease 0, c.state.dropped 0)

theorem not_carried_of_traces {c : TenancyConfig}
    (idle : (c.threads (.start 0)).isSome ::
      ([Role.run, .runner, .stream, .lock].map fun role => (c.state.service.tasks 0 role).pending) =
        [false, false, false, false, false]) : ¬ Carried c 0 := by
  simp only [List.map, List.cons.injEq, Option.isSome_eq_false_iff, Option.isNone_iff_eq_none] at idle
  rintro (⟨running, -⟩ | ⟨role, other, pending⟩)
  · exact running idle.1
  · cases role <;> simp_all

/-- The serializer cannot be made, the run ends as an error, and the lease is still held. -/
theorem lease_outlives_failed_runner :
    ∃ c, (tenancyMachine "topic").Reaches (tenancyConfig {}) c ∧
      c.state.lease 0 = some (lockKey "news", "i:u") ∧ ¬ Carried c 0 ∧
      c.state.service.redis.get (lockKey "news") = some "i:u" := by
  have run : ((tenancyMachine "topic").exec (startedRunner ++ (Thread.task 0 .runner).turns
      [.raised (.runtimeError "no schema registry")] ++ endedRun []) (tenancyConfig {})).map
        (fun c => (traces c, c.state.service.redis.get (lockKey "news"))) =
      some (([false, false, false, false, false], some (lockKey "news", "i:u"), true),
        some "i:u") := by decide +kernel
  obtain ⟨c, reached, seen⟩ := Machine.Reaches.of_exec_map run
  simp only [traces, Prod.mk.injEq] at seen
  exact ⟨c, reached, seen.1.2.1, not_carried_of_traces seen.1.1, seen.2⟩

/-- A runner that is cancelled while its worker runs, and the lease is gone. -/
theorem lease_gone_after_cancellation :
    ∃ c, (tenancyMachine "topic").Reaches (tenancyConfig {}) c ∧
      c.state.lease 0 = some (lockKey "news", "i:u") ∧ ¬ Carried c 0 ∧
      c.state.service.redis.get (lockKey "news") ≠ some "i:u" := by
  have run : ((tenancyMachine "topic").exec (startedRunner ++ (Thread.task 0 .runner).turns
      [.answered, .answered, .answered, .raised .cancelledError, .answered, .answered, .answered,
        .answered] ++
      [.tick (.cancelledEarly 0 .stream), .tick (.cancelledEarly 0 .lock)] ++
      (Thread.task 0 .runner).turns [.answered, .answered, .answered] ++
      endedRun [.answered, .answered]) (tenancyConfig {})).map traces =
      some ([false, false, false, false, false], some (lockKey "news", "i:u"), false) := by decide +kernel
  obtain ⟨c, reached, seen⟩ := Machine.Reaches.of_exec_map run
  simp only [traces, Prod.mk.injEq] at seen
  have past := not_carried_of_traces seen.1
  exact ⟨c, reached, seen.2.1, past,
    (lease_gone_with_its_tasks reached seen.2.1 seen.2.2 past).2⟩

end RedditKafka
