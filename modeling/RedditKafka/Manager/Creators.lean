import RedditKafka.Manager.CreatorSteps

/-!
# Creators and registrations

The coroutines of `start_stream`, one effect after the other, amid the threads of
other calls: each effect keeps every registration in force.
-/
namespace RedditKafka
open Async Redis StreamRegistry StreamManager DistributedLockManager

section programs

variable {kafkaTopic : String} {t : Thread} {s s' : Service} {call : Nat} {α β : Type}
  {streamId subreddit instanceId config : String} {may : String → Prop}

abbrev RegistrationSafe (kafkaTopic : String) (t : Thread) (p : Program α)
    (Q : Except PyExc α → Service → Prop) (s : Service) : Prop :=
  Safe (unfailingMachine kafkaTopic) registrationDiscipline t p Q s

/-! ## Programs that name no stream and create no task -/

theorem CalmEffect.plain {e : Effect} (anonymous : e.anonymous)
    (plain : PlainEffect (fun _ permission => permission.calm may) e) : CalmEffect may e := by
  refine ⟨anonymous, plain.service, fun task creates => ?_⟩
  rcases creates with rfl | ⟨_, _, rfl⟩ <;> exact plain

theorem calm_uses {p : Program α} (anonymous : p.Uses Effect.anonymous)
    (plain : p.Uses (PlainEffect fun _ permission => permission.calm may)) : p.Uses (CalmEffect may) :=
  (anonymous.and plain).mono fun _ both => .plain both.1 both.2

theorem registry_calm {p : Program α} (anonymous : p.Uses Effect.anonymous)
    (registry : p.Uses (RegistryEffect fun _ permission => permission.calm may)) :
    p.Uses (CalmEffect may) :=
  calm_uses anonymous (registry.mono fun _ => RegistryEffect.plain)

theorem command_calm {c : RedisCmd} (anonymous : c.anonymous)
    (registry : RegistryCommand (fun _ permission => permission.calm may) c) :
    (redis c).Uses (CalmEffect may) :=
  registry_calm (redis_anonymous anonymous) (redis_uses registry)

/-- Only steps of asyncio create tasks. -/
theorem CalmEffect.of_outside {e : Effect} (anonymous : e.anonymous)
    (command : ServiceEffect (fun _ permission => permission.calm may) e) (outside : ∀ c, e ≠ .task c) :
    CalmEffect may e := by
  refine ⟨anonymous, command, fun task creates => ?_⟩
  rcases creates with same | ⟨_, _, same⟩ <;> exact outside _ same

theorem acquireLock_calm (subreddit instanceId : String) (ttl : Int) :
    (acquireLock subreddit instanceId ttl).Uses (CalmEffect may) := by
  refine (Prog.Uses.perform (.of_outside trivial trivial nofun)).bind fun _ =>
    (Prog.Uses.perform (.of_outside (by exact ⟨_, rfl⟩) (.inr (.acquire _ _ _)) nofun)).bind
      fun acquired => ?_
  split
  · trivial
  · exact (command_calm (by trivial) (.get _)).bind fun _ => trivial

theorem CalmEffect.mono {may' : String → Prop} {e : Effect} (h : CalmEffect may e)
    (imp : ∀ status, may status → may' status) : CalmEffect may' e := by
  refine ⟨h.1, h.2.1.mono fun id permission allowed => ?_, h.2.2⟩
  cases permission with
  | write status => exact imp status allowed
  | create | requestStop | delete => exact allowed

/-- The answer to an effect that writes no status. -/
theorem silent_answer {e : Effect} {turn : Turn} {r : Except PyExc e.Answer}
    (hs : registrationDiscipline.inv s) (calm : CalmEffect (fun _ => False) e)
    (mild : s.stray t e = false)
    (answered : (unfailingMachine kafkaTopic).answer t e turn s = some (r, s')) :
    registrationDiscipline.inv s' ∧ ∀ u, registrationDiscipline.keeps u s s' :=
  Service.calm_answer hs calm (fun _ never => never.elim) mild (unfailing_answer answered).2

namespace RegistrationSafe

/-- One effect that keeps the discipline, in front of the rest of a program. -/
theorem await {c : Effect} {f : c.Answer → Program β} {Q : Except PyExc β → Service → Prop}
    (h : ∀ s₁ turn r s₂, registrationDiscipline.keeps t s s₁ → registrationDiscipline.inv s₁ →
      s₁.stray t c = false → (unfailingMachine kafkaTopic).answer t c turn s₁ = some (r, s₂) →
        registrationDiscipline.inv s₂ ∧ (∀ u, u ≠ t → registrationDiscipline.keeps u s₁ s₂) ∧
          RegistrationSafe kafkaTopic t (Prog.andThen f r) Q s₂) :
    RegistrationSafe kafkaTopic t (Prog.perform c >>= f) Q s :=
  Safe.await fun s₁ moved hs₁ => ⟨trivial, fun mild turn r s₂ answered =>
    h s₁ turn r s₂ moved hs₁ mild answered⟩

/-- A calm effect, in front of the rest of a program. -/
theorem calmly {c : Effect} (calm : CalmEffect (fun _ => False) c) {f : c.Answer → Program β}
    {Q : Except PyExc β → Service → Prop}
    (h : ∀ s₁ turn r s₂, registrationDiscipline.keeps t s s₁ → registrationDiscipline.inv s₁ →
      registrationDiscipline.keeps t s₁ s₂ → registrationDiscipline.inv s₂ →
      (unfailingMachine kafkaTopic).answer t c turn s₁ = some (r, s₂) →
        RegistrationSafe kafkaTopic t (Prog.andThen f r) Q s₂) :
    RegistrationSafe kafkaTopic t (Prog.perform c >>= f) Q s := by
  refine await fun s₁ turn r s₂ moved hs₁ mild answered => ?_
  obtain ⟨hs₂, keeps⟩ := silent_answer hs₁ calm mild answered
  exact ⟨hs₂, fun u _ => keeps u, h s₁ turn r s₂ moved hs₁ (keeps t) hs₂ answered⟩

/-- A calm program keeps what its thread may rely on, if that lets it write its statuses. -/
theorem calm {p : Program α} (uses : p.Uses (CalmEffect may)) (I : Service → Prop) (start : I s)
    (stable : ∀ a b, registrationDiscipline.keeps t a b → I a → I b)
    (writes : ∀ s, I s → ∀ status, may status → t.writes status s) :
    RegistrationSafe kafkaTopic t p (fun _ => I) s := by
  refine Safe.of_uses uses I start (fun a b kept _ => stable a b kept) fun c s₁ calm hs₁ holds =>
    ⟨trivial, fun mild turn r s₂ answered => ?_⟩
  obtain ⟨hs₂, keeps⟩ := Service.calm_answer hs₁ calm (writes s₁ holds) mild
    (unfailing_answer answered).2
  exact ⟨hs₂, fun u _ => keeps u, stable _ _ (keeps t) holds⟩

/-- A calm program that writes no status. -/
theorem silent {p : Program α} (uses : p.Uses (CalmEffect fun _ => False)) (I : Service → Prop) (start : I s)
    (stable : ∀ a b, registrationDiscipline.keeps t a b → I a → I b) :
    RegistrationSafe kafkaTopic t p (fun _ => I) s :=
  calm uses I start stable fun _ _ _ never => never.elim

/-- A command with a step lemma of its own, after which a cancellation ends the program. -/
theorem command {c : RedisCmd} {f : c.Reply → Program β} {Q : Except PyExc β → Service → Prop}
    (step : ∀ s₁, registrationDiscipline.keeps t s s₁ → registrationDiscipline.inv s₁ →
      s₁.stray t (.redis c) = false → registrationDiscipline.inv (s₁.execute t c) ∧
        ∀ u, u ≠ t → registrationDiscipline.keeps u s₁ (s₁.execute t c))
    (rest : ∀ s₁, registrationDiscipline.keeps t s s₁ → registrationDiscipline.inv s₁ →
      registrationDiscipline.inv (s₁.execute t c) →
        RegistrationSafe kafkaTopic t (Prog.andThen f (c.run s₁.redis).1) Q (s₁.execute t c))
    (failed : ∀ e s, Q (.error e) s) : RegistrationSafe kafkaTopic t (redis c >>= f) Q s := by
  refine await fun s₁ turn r s₂ moved hs₁ mild answered => ?_
  obtain ⟨hs₂, others⟩ := step s₁ moved hs₁ mild
  rcases unfailing_redis answered with ⟨rfl, rfl⟩ | ⟨⟨e, rfl, -⟩, rfl | rfl⟩
  · exact ⟨hs₂, others, rest s₁ moved hs₁ hs₂⟩
  · exact ⟨hs₂, others, failed e _⟩
  · exact ⟨hs₁, fun u _ => registrationDiscipline.keeps_refl u _, failed e _⟩

/-- A read. -/
theorem read {c : RedisCmd} (calm : CalmEffect (fun _ => False) (.redis c)) {f : c.Reply → Program β}
    {Q : Except PyExc β → Service → Prop}
    (rest : ∀ s₁ s₂, registrationDiscipline.keeps t s s₁ → registrationDiscipline.inv s₁ →
      registrationDiscipline.keeps t s₁ s₂ → registrationDiscipline.inv s₂ →
        RegistrationSafe kafkaTopic t (Prog.andThen f (c.run s₁.redis).1) Q s₂)
    (failed : ∀ e s', registrationDiscipline.keeps t s s' → Q (.error e) s') :
    RegistrationSafe kafkaTopic t (redis c >>= f) Q s := by
  refine calmly calm fun s₁ turn r s₂ moved hs₁ kept hs₂ answered => ?_
  rcases unfailing_redis answered with ⟨rfl, -⟩ | ⟨⟨e, rfl, -⟩, -⟩
  · exact rest s₁ s₂ moved hs₁ kept hs₂
  · exact failed e s₂ (registrationDiscipline.keeps_trans _ _ _ _ moved kept)

/-- `datetime.now` in front of the rest of a program. -/
theorem time {f : String → Program β} {Q : Except PyExc β → Service → Prop}
    (rest : ∀ now s', registrationDiscipline.keeps t s s' → registrationDiscipline.inv s' →
      RegistrationSafe kafkaTopic t (f now) Q s') : RegistrationSafe kafkaTopic t (nowIso >>= f) Q s := by
  refine calmly (c := .nowIso) (.plain trivial trivial) fun s₁ turn r s₂ moved _ kept hs₂ answered => ?_
  have answered := (unfailing_answer answered).2
  cases turn with
  | named now =>
      cases answered
      exact rest now _ (registrationDiscipline.keeps_trans _ _ _ _ moved kept) hs₂
  | answered | raised | raisedAfter | worker => cases answered

end RegistrationSafe

/-! ## `start_stream` -/

/-- The call is known, and has neither registered a stream nor created a task. -/
structure Fresh (call : Nat) (instanceId subreddit : String) (s : Service) : Prop where
  known : s.calls call = some (instanceId, subreddit)
  home : s.home call = none
  idle : s.tasks call .run = .absent
  kept : s.retired call = false

/-- The call has registered its stream, and has not created its task yet. -/
structure Seated (call : Nat) (instanceId subreddit streamId : String) (s : Service) : Prop where
  known : s.calls call = some (instanceId, subreddit)
  home : s.home call = some streamId
  idle : s.tasks call .run = .absent
  kept : s.retired call = false

theorem Fresh.stays (h : Fresh call instanceId subreddit s)
    (moved : registrationDiscipline.keeps (.start call) s s') : Fresh call instanceId subreddit s' := by
  obtain ⟨onward, -, home, run⟩ := moved
  obtain ⟨idle, retired⟩ := run h.idle
  exact ⟨onward.calls _ _ h.known, home.trans h.home, idle, retired.trans h.kept⟩

theorem Seated.stays (h : Seated call instanceId subreddit streamId s)
    (moved : registrationDiscipline.keeps (.start call) s s') :
    Seated call instanceId subreddit streamId s' := by
  obtain ⟨onward, -, home, run⟩ := moved
  obtain ⟨idle, retired⟩ := run h.idle
  exact ⟨onward.calls _ _ h.known, home.trans h.home, idle, retired.trans h.kept⟩

/-- What `create_stream` returns is seated. -/
def Returned (call : Nat) (instanceId subreddit : String) (r : Except PyExc Hash) (s : Service) : Prop :=
  ∀ data, r = .ok data → ∃ streamId, data.get "id" = some streamId ∧
    Seated call instanceId subreddit streamId s

theorem register_live (fresh : Fresh call instanceId subreddit s)
    (waits : s.claimant streamId = some call) (owned : s.owner streamId = some subreddit) :
    RegistrationSafe kafkaTopic (.start call) (register streamId subreddit config (some instanceId))
      (Returned call instanceId subreddit) s := by
  refine .time fun createdAt s₁ moved₁ _ => .time fun updatedAt s₂ moved₂ _ => ?_
  have moved := registrationDiscipline.keeps_trans _ _ _ _ moved₁ moved₂
  refine .command (fun s₃ moved₃ hs₃ _ => ?_) (fun s₃ moved₃ hs₃ hs₄ => ?_) fun _ _ _ same => by cases same
  all_goals
    have moved := registrationDiscipline.keeps_trans _ _ _ _ moved moved₃
    have fresh := fresh.stays moved
    obtain ⟨hs₄, others, home, tasks, retired⟩ := Service.register_step hs₃ ((moved.2.1 _).mpr waits)
      fresh.known (moved.1.owner _ _ owned) fresh.home config createdAt updatedAt
  · exact ⟨hs₄, others⟩
  · have seated : Seated call instanceId subreddit streamId (s₃.execute (.start call) (.hset (metaKey streamId)
        (newMeta streamId subreddit config instanceId createdAt updatedAt))) :=
      ⟨by simpa using fresh.known, home, by rw [tasks, fresh.idle], by rw [retired, fresh.kept]⟩
    refine ((RegistrationSafe.silent ?_ (Seated call instanceId subreddit streamId)
      seated fun a b kept seated => seated.stays kept).ends
      (R := fun r => ∀ data, r = .ok data →
        data = newMeta streamId subreddit config instanceId createdAt updatedAt) ?_).mono hs₄ ?_
    · refine (command_calm (by trivial) (.list _)).bind fun _ => Prog.Uses.bind ?_ fun _ =>
        (registry_calm persist_anonymous persist_uses).bind fun _ => by trivial
      unfold indexInstance
      split
      · trivial
      · exact command_calm (by trivial) (.listInstance _ _)
    · have raised (e : PyExc) (data : Hash) : Except.error e = Except.ok data →
          data = newMeta streamId subreddit config instanceId createdAt updatedAt := fun same => by cases same
      exact .bind raised fun _ => .bind raised fun _ => .bind raised fun _ data same => by cases same; rfl
    · rintro r s' - ⟨seated, text⟩ data rfl
      exact ⟨streamId, by rw [text data rfl]; rfl, seated⟩

theorem claim_live (fresh : Fresh call instanceId subreddit s) (owned : s.owner streamId = some subreddit) :
    RegistrationSafe kafkaTopic (.start call) (claim streamId subreddit config (some instanceId))
      (Returned call instanceId subreddit) s := by
  refine .command (fun s₁ moved hs₁ _ => ?_) (fun s₁ moved hs₁ hs₂ => ?_) fun _ _ _ same => by cases same
  all_goals
    have fresh := fresh.stays moved
    have owned := moved.1.owner _ _ owned
    obtain ⟨hs₂, others, claimed, tasks, retired, home⟩ := Service.claim_step hs₁ fresh.known owned
  · exact ⟨hs₂, others⟩
  · rcases setNx_cases (subredditKey subreddit) streamId s₁.redis with ⟨-, ran⟩ | ⟨free, ran⟩
    · rw [ran]
      exact .read (.plain (by trivial) (by exact .inl (.get _))) (fun s₂ s₃ _ _ _ _ data same => by cases same)
        fun _ _ _ _ same => by cases same
    · rw [ran]
      exact register_live ⟨by simpa using fresh.known, by rw [home, fresh.home],
        by rw [tasks, fresh.idle], by rw [retired, fresh.kept]⟩ (claimed free) (by simpa using owned)

/-- The id of the subreddit, whichever creator has chosen it. -/
theorem resolveIdentity_live {candidateId : String} (fresh : Fresh call instanceId subreddit s)
    (owned : s.owner candidateId = some subreddit) :
    RegistrationSafe kafkaTopic (.start call) (resolveIdentity subreddit candidateId)
      (fun r s => ∀ found, r = .ok found → Fresh call instanceId subreddit s ∧
        ∀ streamId, found = some streamId → s.owner streamId = some subreddit) s := by
  refine .command (fun s₁ moved hs₁ _ => ?_) (fun s₁ moved hs₁ hs₂ => ?_) fun _ _ _ same => by cases same
  all_goals
    have fresh := fresh.stays moved
    have owned := moved.1.owner _ _ owned
    obtain ⟨hs₂, keeps⟩ := Service.identity_step call hs₁ owned
  · exact ⟨hs₂, fun u _ => keeps u⟩
  · have fresh₂ := fresh.stays (keeps _)
    rcases setNx_cases (identityKey subreddit) candidateId s₁.redis with ⟨-, ran⟩ | ⟨-, ran⟩
    · rw [ran]
      simp only [Prog.andThen, Bool.false_eq_true, if_false]
      rw [← Prog.bindE_ofExcept (redis _)]
      refine .read (f := Prog.ret) (.plain (by trivial) (by exact .inl (.get _)))
        (fun s₃ s₄ moved₃ hs₃ kept hs₄ found same => ?_) fun _ _ _ _ same => by cases same
      cases same
      exact ⟨(fresh₂.stays moved₃).stays kept, fun streamId same =>
        kept.1.owner _ _ (hs₃.1.identity _ _ same)⟩
    · rw [ran]
      rintro found ⟨⟩
      exact ⟨fresh₂, fun streamId same => by cases same; simpa using owned⟩

theorem createStream_live (fresh : Fresh call instanceId subreddit s) :
    RegistrationSafe kafkaTopic (.start call) (createStream subreddit config (some instanceId))
      (Returned call instanceId subreddit) s := by
  refine .read (.plain (by trivial) (by exact .inl (.get _))) (fun s₁ s₂ moved hs₁ kept hs₂ => ?_)
    fun _ _ _ _ same => by cases same
  have fresh₂ := (fresh.stays moved).stays kept
  simp only [RedisCmd.run, Prog.andThen]
  split
  · rename_i existing found
    have owned := kept.1.owner _ _ (hs₁.1.claim _ _ (orNone_eq_some.mp found).1)
    refine .command (fun s₃ moved₃ hs₃ _ => ?_) (fun s₃ _ _ _ => ?_) fun _ _ _ same => by cases same
    · obtain ⟨hs₄, keeps⟩ := Service.identity_step call hs₃ (moved₃.1.owner _ _ owned)
      exact ⟨hs₄, fun u _ => keeps u⟩
    · rcases setNx_cases (identityKey subreddit) existing s₃.redis with ⟨-, ran⟩ | ⟨-, ran⟩ <;>
        rw [ran] <;> exact fun _ same => by cases same
  · refine .await fun s₃ turn r s₄ moved₃ hs₃ _ answered => ?_
    have fresh₃ := fresh₂.stays moved₃
    obtain ⟨⟨hs₄, keeps⟩, candidateId, rfl, owned⟩ :=
      Service.uuid4_step hs₃ fresh₃.known (unfailing_answer answered).2
    refine ⟨hs₄, fun u _ => keeps u, ?_⟩
    refine Safe.bind hs₄ (resolveIdentity_live (fresh₃.stays (keeps _)) owned)
      (fun found s hs resolved => ?_) fun _ _ _ _ _ same => by cases same
    obtain ⟨fresh₅, owned₅⟩ := resolved found rfl
    split
    · rename_i streamId usable
      exact claim_live fresh₅ (owned₅ streamId (orNone_eq_some.mp usable).1)
    · exact fun _ same => by cases same

/-- Only the metadata, as it was read, says which subreddit a stream belongs to. -/
theorem deleteStream_live {status updatedAt : Option String} {purge : Bool} (I : Service → Prop)
    (stable : ∀ a b, registrationDiscipline.keeps t a b → I a → I b) (holds : I s)
    (entitled : ∀ s, registrationDiscipline.inv s → I s →
      status.getD "" ∈ DeadStreamCleanup.deadStatuses ∨
        ∃ call, t = .start call ∧ s.registered streamId = some call)
    (idle : ∀ s, I s → ∀ call, t = .start call → s.tasks call .run = .absent ∧ s.calls call ≠ none) :
    RegistrationSafe kafkaTopic t (deleteStream streamId status updatedAt purge) (fun _ _ => True) s := by
  refine .read (.plain (by trivial) (by exact .inl (.hgetall _))) (fun s₁ s₂ moved hs₁ kept hs₂ => ?_)
    fun _ _ _ => trivial
  have holds₂ := stable _ _ kept (stable _ _ moved holds)
  simp only [RedisCmd.run, Prog.andThen]
  split
  · trivial
  rename_i subreddit named
  have owned := kept.1.owner _ _ (hs₁.1.named streamId subreddit (orNone_eq_some.mp named).1)
  refine .command (fun s₃ moved₃ hs₃ mild => ?_) (fun s₃ _ _ hs₄ => ?_) fun _ _ => trivial
  · have holds₃ := stable _ _ moved₃ holds₂
    exact Service.delete_step hs₃ (moved₃.1.owner _ _ owned) mild (entitled s₃ hs₃ holds₃) (idle s₃ holds₃)
  · exact RegistrationSafe.silent ((registry_calm (dropInstance_anonymous _ _ _)
      (dropInstance_uses _ _ _)).bind fun _ => by trivial) (fun _ => True) trivial fun _ _ _ _ => trivial

theorem startStream_live (hs : registrationDiscipline.inv s) (fresh : Fresh call instanceId subreddit s) :
    RegistrationSafe kafkaTopic (.start call) (startStream instanceId subreddit config)
      (fun _ _ => True) s := by
  refine Safe.bind hs (createStream_live fresh) (fun metadata s₁ hs₁ returned => ?_) fun _ _ _ _ => trivial
  obtain ⟨streamId, named, seated⟩ := returned metadata rfl
  simp only [named, Option.getD_some]
  refine Safe.bind hs₁ (RegistrationSafe.silent (acquireLock_calm _ _ _)
    (Seated call instanceId subreddit streamId) seated fun _ _ kept seated => seated.stays kept)
    (fun token s₂ hs₂ seated => ?_) fun _ _ _ _ => trivial
  cases token with
  | none =>
      refine Safe.bind hs₂ (deleteStream_live (Seated call instanceId subreddit streamId)
        (fun _ _ kept seated => seated.stays kept) seated
        (fun s hs seated => .inr ⟨call, rfl, hs.1.stays _ _ seated.home seated.kept⟩)
        fun s seated other same => ?_) (fun _ _ _ _ => trivial) fun _ _ _ _ => trivial
      cases same
      exact ⟨seated.idle, by simp [seated.known]⟩
  | some token =>
      refine Safe.bind hs₂ (P := fun _ _ => True) ?_ (fun _ _ _ _ => trivial) fun _ _ _ _ => trivial
      refine RegistrationSafe.await fun s₃ turn r s₄ moved hs₃ _ answered => ?_
      have seated := seated.stays moved
      obtain ⟨hs₄, others⟩ := Service.createLocal_step hs₃ seated.known seated.home seated.kept
        (unfailing_answer answered).2
      refine ⟨hs₄, others, ?_⟩
      rcases r with e | _ | _
      · trivial
      · trivial
      · have active : (updateStatus streamId "active" (some instanceId)).Uses
            (CalmEffect fun status => status = "active") :=
          registry_calm (updateStatus_anonymous _ _ _) (updateStatus_uses (by rfl) _)
        refine RegistrationSafe.calm active (fun _ => True) trivial (fun _ _ _ _ => trivial) ?_
        rintro s - status rfl
        simp [Thread.writes, DeadStreamCleanup.deadStatuses]

end programs

end RedditKafka
