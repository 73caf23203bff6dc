import Mathlib.Data.Set.Finite.Basic
import RedditKafka.Manager.ServiceSteps
import RedditKafka.Registry.Calls

/-!
# Stored identities

Every identity that a subreddit has stored is one that a stream can use, and
only finitely many ids have been generated: in every reachable state of the
service there is a new one.
-/
namespace RedditKafka
open Async Redis StreamRegistry StreamManager

/-- A command that writes neither a claim nor an identity. -/
def RedisCmd.anonymous : RedisCmd → Prop
  | .get _ | .keyExists _ | .hgetall _ | .hgetallEach _ | .smembers _ | .hset _ _ | .sadd _ _
  | .srem _ _ | .eval (.heartbeatIfActive _ _ _ _ _) => True
  | .set key _ => ∃ streamId, key = stopRequestKey streamId
  | .setNx key _ (some _) | .eval (.refreshIfOwner key _ _) | .eval (.deleteIfOwner key _) =>
      ∃ subreddit, key = lockKey subreddit
  | _ => False

/-- An effect that neither generates an id nor writes one that names a stream. -/
def Effect.anonymous : Effect → Prop
  | .redis c => c.anonymous
  | .uuid4 => False
  | _ => True

/-! ## Programs that name no stream -/

section anonymous

theorem nowIso_anonymous : nowIso.Uses Effect.anonymous := Prog.Uses.perform trivial

theorem persist_anonymous : persist.Uses Effect.anonymous :=
  exceptException_uses (Prog.Uses.perform trivial) fun _ => trivial

theorem redis_anonymous {c : RedisCmd} (h : c.anonymous) : (redis c).Uses Effect.anonymous :=
  Prog.Uses.perform h

theorem updateStatus_anonymous (streamId status : String) (instanceId : Option String) :
    (updateStatus streamId status instanceId).Uses Effect.anonymous := by
  refine nowIso_anonymous.bind fun _ => (redis_anonymous (by trivial)).bind fun _ => ?_
  cases instanceId with
  | none => exact persist_anonymous
  | some instanceId => exact (redis_anonymous (by trivial)).bind fun _ => persist_anonymous

theorem register_anonymous (streamId subreddit config : String) (instanceId : Option String) :
    (register streamId subreddit config instanceId).Uses Effect.anonymous := by
  refine nowIso_anonymous.bind fun _ => nowIso_anonymous.bind fun _ =>
    (redis_anonymous (by trivial)).bind fun _ => (redis_anonymous (by trivial)).bind fun _ =>
      Prog.Uses.bind ?_ fun _ => persist_anonymous.bind fun _ => trivial
  unfold indexInstance
  split
  · trivial
  · exact redis_anonymous (by trivial)

theorem getStream_anonymous (streamId : String) : (getStream streamId).Uses Effect.anonymous := by
  refine (redis_anonymous (by trivial)).bind fun _ => ?_
  split <;> trivial

theorem listStreams_anonymous : listStreams.Uses Effect.anonymous := by
  refine (redis_anonymous (by trivial)).bind fun _ => ?_
  split
  · trivial
  refine (redis_anonymous (by trivial)).bind fun _ => Prog.Uses.bind ?_ fun _ => trivial
  unfold dropStale
  split
  · trivial
  · exact redis_anonymous (by trivial)

theorem dropInstance_anonymous (deleted : Bool) (instanceId : Option String) (streamId : String) :
    (dropInstance deleted instanceId streamId).Uses Effect.anonymous := by
  unfold dropInstance
  split
  · exact redis_anonymous (by trivial)
  · trivial

theorem setCheckpoint_anonymous (streamId : String) (lastCommentId lastProcessedAt : Option String) :
    (setCheckpoint streamId lastCommentId lastProcessedAt).Uses Effect.anonymous := by
  unfold setCheckpoint
  split
  · trivial
  · exact nowIso_anonymous.bind fun _ => redis_anonymous (by trivial)

theorem requestStop_anonymous (streamId : String) :
    (requestStop streamId).Uses Effect.anonymous :=
  (getStream_anonymous _).bind fun _ => nowIso_anonymous.bind fun _ =>
    (redis_anonymous (by exact ⟨_, rfl⟩)).bind fun _ => updateStatus_anonymous _ _ _

theorem acquireLock_anonymous (subreddit instanceId : String) (ttl : Int) :
    (DistributedLockManager.acquireLock subreddit instanceId ttl).Uses Effect.anonymous := by
  refine (Prog.Uses.perform trivial).bind fun _ => (redis_anonymous (by exact ⟨_, rfl⟩)).bind fun _ => ?_
  split
  · trivial
  · exact (redis_anonymous (by trivial)).bind fun _ => trivial

/-- Whatever a worker awaits names no stream. -/
theorem serve_anonymous (w : StreamWorker) (c : WorkerEff) : (w.serve c).Uses Effect.anonymous := by
  cases c with
  | nowIso => exact nowIso_anonymous
  | getCheckpoint => exact (redis_anonymous (by trivial)).bind fun _ => trivial
  | setCheckpoint id time => exact setCheckpoint_anonymous w.streamId (some id) (some time)
  | updateStatus => exact updateStatus_anonymous _ _ _
  | refreshLock => exact redis_anonymous (by exact ⟨_, rfl⟩)
  | heartbeat => exact ignoring_uses (nowIso_anonymous.bind fun _ => redis_anonymous (by trivial))
  | releaseLock => exact ignoring_uses (redis_anonymous (by exact ⟨_, rfl⟩))
  | createTask child => cases child <;> exact task_uses (by trivial)
  | waitFirst => exact (task_uses (by trivial)).bind fun _ => trivial
  | taskDone | cancelTask | awaitTask | gather => exact task_uses (by trivial)
  | _ => exact Prog.Uses.perform trivial

theorem served_anonymous (w : StreamWorker) {α : Type} (p : Coroutine α) :
    (w.served p).Uses Effect.anonymous :=
  Prog.Uses.link (fun c _ => serve_anonymous w c) (Prog.Uses.any p)

theorem run_anonymous (instanceId streamId subreddit : String) (lockToken : Option String) :
    (run instanceId streamId subreddit lockToken).Uses Effect.anonymous := by
  have await : (suppressCancelled (task (.awaitTask .runner))).Uses Effect.anonymous :=
    suppressCancelled_uses (task_uses (by trivial))
  refine (task_uses (by trivial)).bind fun _ => (task_uses (by trivial)).bind fun _ =>
    Prog.Uses.ensure (Prog.Uses.rescue ?_ fun e => ?_) ?_
  · refine (task_uses (by trivial)).bind fun done => ?_
    split
    · exact (task_uses (by trivial)).bind fun _ => (task_uses (by trivial)).bind fun _ => await.bind fun _ =>
        updateStatus_anonymous _ _ _
    · exact (task_uses (by trivial)).bind fun _ => updateStatus_anonymous _ _ _
  · unfold handleRunError
    split_ifs
    · exact (task_uses (by trivial)).bind fun _ => await.bind fun _ =>
        (updateStatus_anonymous _ _ _).bind fun _ => trivial
    · exact updateStatus_anonymous _ _ _
    · exact updateStatus_anonymous _ _ _
    · trivial
  · refine Prog.Uses.bind ((task_uses (by trivial)).bind fun done => ?_) fun _ =>
      (task_uses (by trivial)).bind fun _ => (suppressCancelled_uses (task_uses (by trivial))).bind fun _ =>
        task_uses (by trivial)
    split
    · trivial
    · exact (task_uses (by trivial)).bind fun _ => await

theorem invokeRunner_anonymous (kafkaTopic instanceId subreddit : String) (lockToken : Option String) :
    (invokeRunner kafkaTopic instanceId subreddit lockToken).Uses Effect.anonymous := by
  cases lockToken with
  | none => trivial
  | some lockToken =>
      refine Prog.Uses.bind ((redis_anonymous (by trivial)).bind fun _ => ?_) fun streamMeta => ?_
      · split
        · exact (getStream_anonymous _).bind fun _ => trivial
        · trivial
      · cases streamMeta with
        | none => trivial
        | some data =>
            dsimp only
            split
            · trivial
            · exact (Prog.Uses.perform trivial).bind fun _ => served_anonymous _ _

theorem task_anonymous (kafkaTopic : String) (task : Task) :
    (task.program kafkaTopic).Uses Effect.anonymous := by
  cases task with
  | run => exact run_anonymous _ _ _ _
  | runner => exact invokeRunner_anonymous _ _ _ _
  | watcher =>
      refine Prog.Uses.forever ((redis_anonymous (by trivial)).bind fun requested => ?_)
      split
      · trivial
      · exact (Prog.Uses.perform trivial).bind fun _ => trivial
  | stream w => exact served_anonymous _ _
  | lock w => exact served_anonymous _ _

theorem stopStream_anonymous (instanceId streamId : String) :
    (stopStream instanceId streamId).Uses Effect.anonymous := by
  refine (requestStop_anonymous _).bind fun _ => (task_uses (by trivial)).bind fun started => ?_
  cases started with
  | none => trivial
  | some started => exact suppressCancelled_uses (task_uses (by trivial))

theorem stopEndpoint_anonymous (instanceId streamId : String) :
    (stopEndpoint instanceId streamId).Uses Effect.anonymous := by
  refine (getStream_anonymous _).bind fun metadata => ?_
  split
  · trivial
  · exact stopStream_anonymous _ _

theorem launch_anonymous (instanceId streamId subreddit lockToken : String) :
    (launch instanceId streamId subreddit lockToken).Uses Effect.anonymous := by
  refine (task_uses (by trivial)).bind fun created => ?_
  split
  · exact updateStatus_anonymous _ _ _
  · trivial

end anonymous

/-! ## The invariant -/

/-- Stored identities are not empty, and finitely many ids have been generated. -/
structure Service.Identified (s : Service) : Prop where
  usable : ∀ subreddit, s.redis.get (identityKey subreddit) ≠ some ""
  finite : {id | s.owner id ≠ none}.Finite

def storedDiscipline : Discipline Effect Service Thread where
  inv := Service.Identified
  keeps _ _ _ := True
  keeps_refl _ _ := trivial
  keeps_trans _ _ _ _ _ _ := trivial
  ok _ _ _ := True
  pledge _ _ _ := True

namespace Service.Identified

variable {s s' : Service} {t : Thread}

theorem same (h : s.Identified) (owner : s'.owner = s.owner)
    (identity : ∀ subreddit, s'.redis.get (identityKey subreddit) = s.redis.get (identityKey subreddit)) :
    s'.Identified :=
  ⟨fun subreddit => identity subreddit ▸ h.usable subreddit, owner ▸ h.finite⟩

theorem aside (h : s.Identified) (aside : s.Aside s') (owner : s'.owner = s.owner) : s'.Identified := by
  obtain ⟨n, same⟩ := aside.redis
  refine ⟨fun subreddit held => h.usable subreddit (Store.get_elapse (n := n) ?_), owner ▸ h.finite⟩
  rwa [← same]

theorem anonymous {c : RedisCmd} (h : s.Identified) (plain : c.anonymous) : (s.execute t c).Identified := by
  refine h.same (by simp) fun subreddit => ?_
  cases c with
  | set key value =>
      obtain ⟨streamId, rfl⟩ := plain
      simp [RedisCmd.run]
  | setNx key value ex =>
      cases ex with
      | none => cases plain
      | some ttl =>
          obtain ⟨name, rfl⟩ := plain
          simp only [Service.execute_redis, RedisCmd.run]
          split_ifs <;> simp [Store.get_setEx]
  | eval script =>
      cases script with
      | deleteStreamIfUnchanged => cases plain
      | heartbeatIfActive =>
          simp only [Service.execute_redis, RedisCmd.run, Script.run]
          split_ifs <;> simp
      | refreshIfOwner key token ttl =>
          obtain ⟨name, rfl⟩ := plain
          simp only [Service.execute_redis, RedisCmd.run, Script.run]
          split
          · simp [Store.get, Store.entry_expire_of_ne]
          · rfl
      | deleteIfOwner key token =>
          obtain ⟨name, rfl⟩ := plain
          simp only [Service.execute_redis, RedisCmd.run, Script.run]
          split_ifs <;> simp
  | _ => simp [RedisCmd.run]

/-- A claim or an identity is written under an id that can be used. -/
theorem setNx {key value : String} (h : s.Identified) (named : value ≠ "") :
    (s.execute t (.setNx key value none)).Identified := by
  refine ⟨fun subreddit => ?_, by simpa using h.finite⟩
  simp only [Service.execute_redis, RedisCmd.run]
  split_ifs
  · exact h.usable subreddit
  · simp only [Store.get_set]
    split_ifs
    · simpa using named
    · exact h.usable subreddit

/-- A deletion keeps the id of the stream, or purges it. -/
theorem delete {streamId subreddit status updatedAt purge : String} (h : s.Identified)
    (named : streamId ≠ "") :
    (s.execute t (.eval (deleteScript streamId subreddit status updatedAt purge))).Identified := by
  refine ⟨fun name => ?_, by simpa using h.finite⟩
  rcases deleteScript_cases streamId subreddit status updatedAt purge s.redis with same | ⟨-, removed⟩
  · simpa [RedisCmd.run, same] using h.usable name
  · simp only [Service.execute_redis, RedisCmd.run, removed.identity]
    split_ifs
    · simp
    · simpa using named
    · exact h.usable name

theorem answer_redis {c : RedisCmd} {turn : Turn} {r : Except PyExc c.Reply} (h : s.Identified)
    (executed : (s.execute t c).Identified)
    (answered : Service.answer true t (.redis c) turn s = some (r, s')) : s'.Identified := by
  cases turn with
  | answered | raisedAfter => cases answered; exact executed
  | raised => cases answered; exact h
  | named | worker => cases answered

theorem taskAnswer_owner {call : Nat} {e : TaskEff} {turn : Turn} {r : Except PyExc e.Answer}
    (answered : s.taskAnswer call e turn = some (r, s')) : s'.owner = s.owner := by
  unfold Service.taskAnswer at answered
  split at answered
  case h_1 | h_2 => split at answered <;> cases answered <;> rfl
  all_goals
    try split at answered
    all_goals
      cases answered
      try rfl

theorem answer_anonymous {e : Effect} {turn : Turn} {r : Except PyExc e.Answer} (h : s.Identified)
    (plain : e.anonymous) (answered : Service.answer true t e turn s = some (r, s')) :
    s'.Identified := by
  cases e with
  | redis c => exact h.answer_redis (h.anonymous plain) answered
  | task c => exact h.aside (Service.taskAnswer_aside answered) (taskAnswer_owner answered)
  | uuid4 => cases plain
  | ownerToken instanceId =>
      cases turn with
      | named text =>
          simp only [Service.answer] at answered
          split at answered <;> cases answered
          exact h.same rfl fun _ => rfl
      | answered | raised | raisedAfter | worker => cases answered
  | worker c =>
      cases turn with
      | worker c' r' =>
          simp only [Service.answer] at answered
          split at answered <;> cases answered
          exact h
      | answered | named | raised | raisedAfter => cases answered
  | persist | sleep | getSerializer =>
      cases turn with
      | answered => cases answered; exact h
      | raised e =>
          simp only [Service.answer] at answered
          split at answered <;> cases answered
          exact h
      | named | raisedAfter | worker => cases answered
  | nowIso =>
      cases turn <;> cases answered
      exact h
  | reply => cases turn <;> cases answered

/-- A generated id is new and can be used. -/
theorem answer_uuid4 {turn : Turn} {r : Except PyExc String} (h : s.Identified)
    (answered : Service.answer true t .uuid4 turn s = some (r, s')) :
    s'.Identified ∧ ∃ id, r = .ok id ∧ id ≠ "" := by
  cases turn with
  | named id =>
      simp only [Service.answer] at answered
      split at answered
      · split at answered <;> cases answered
        refine ⟨⟨h.usable, (h.finite.insert id).subset fun other generated => ?_⟩, id, rfl, ‹_›⟩
        by_cases same : other = id
        · exact .inl same
        · exact .inr (by simpa [same] using generated)
      · cases answered
  | answered | raised | raisedAfter | worker => cases answered

end Service.Identified

/-! ## Every reachable state -/

section programs

variable {kafkaTopic : String} {t : Thread} {s : Service} {α β : Type}

abbrev IdentitySafe (kafkaTopic : String) (t : Thread) (p : Program α)
    (Q : Except PyExc α → Service → Prop) (s : Service) : Prop :=
  Safe (serviceMachine true kafkaTopic) storedDiscipline t p Q s

namespace IdentitySafe

theorem await {c : Effect} {f : c.Answer → Program β} {Q : Except PyExc β → Service → Prop}
    (h : ∀ s₁ turn r s₂, s₁.Identified → Service.answer true t c turn s₁ = some (r, s₂) →
      s₂.Identified ∧ IdentitySafe kafkaTopic t (Prog.andThen f r) Q s₂) :
    IdentitySafe kafkaTopic t (Prog.perform c >>= f) Q s := by
  refine Safe.await fun s₁ _ hs₁ => ⟨trivial, fun _ turn r s₂ answered => ?_⟩
  obtain ⟨hs₂, rest⟩ := h s₁ turn r s₂ hs₁ answered
  exact ⟨hs₂, fun _ _ => trivial, rest⟩

theorem anonymous {p : Program α} (uses : p.Uses Effect.anonymous) :
    IdentitySafe kafkaTopic t p (fun _ _ => True) s :=
  Safe.of_uses uses (fun _ => True) trivial (fun _ _ _ _ _ => trivial) fun _ _ plain hs₁ _ =>
    ⟨trivial, fun _ _ _ _ answered => ⟨hs₁.answer_anonymous plain answered, fun _ _ => trivial, trivial⟩⟩

/-- Nothing is asked of the outcome. -/
theorem andThen {p : Program α} {f : α → Program β} (hs : s.Identified)
    (first : IdentitySafe kafkaTopic t p (fun _ _ => True) s)
    (rest : ∀ a s', s'.Identified → IdentitySafe kafkaTopic t (f a) (fun _ _ => True) s') :
    IdentitySafe kafkaTopic t (p >>= f) (fun _ _ => True) s :=
  Safe.bind hs first (fun a s' hs' _ => rest a s' hs') fun _ _ _ _ => trivial

theorem caught {p : Program α} {handler : PyExc → α} (hs : s.Identified)
    (body : IdentitySafe kafkaTopic t p (fun _ _ => True) s) :
    IdentitySafe kafkaTopic t (exceptException p fun e => pure (handler e)) (fun _ _ => True) s :=
  Safe.rescue hs body (fun _ _ _ _ => trivial) fun e s' _ _ => by
    split <;> trivial

end IdentitySafe

theorem resolveIdentity_identified {subreddit candidateId : String} (named : candidateId ≠ "") :
    IdentitySafe kafkaTopic t (resolveIdentity subreddit candidateId) (fun _ _ => True) s := by
  refine IdentitySafe.await fun s₁ turn r s₂ hs₁ answered =>
    ⟨hs₁.answer_redis (hs₁.setNx named) answered, ?_⟩
  rcases r with e | _ | _
  · trivial
  · exact IdentitySafe.anonymous (redis_anonymous (by trivial))
  · trivial

theorem claim_identified {streamId subreddit config : String} {instanceId : Option String}
    (named : streamId ≠ "") :
    IdentitySafe kafkaTopic t (claim streamId subreddit config instanceId) (fun _ _ => True) s := by
  refine IdentitySafe.await fun s₁ turn r s₂ hs₁ answered =>
    ⟨hs₁.answer_redis (hs₁.setNx named) answered, ?_⟩
  rcases r with e | _ | _
  · trivial
  · exact IdentitySafe.anonymous ((redis_anonymous (by trivial)).bind fun _ => trivial)
  · exact IdentitySafe.anonymous (register_anonymous _ _ _ _)

/-- A claim returns metadata under its id. -/
theorem claim_ends (streamId subreddit config : String) (instanceId : Option String) :
    (claim streamId subreddit config instanceId).Ends
      fun r => ∀ data, r = .ok data → data.get "id" = some streamId := by
  have later {γ : Type} {p : Program γ} {f : γ → Program Hash}
      (h : ∀ a, (f a).Ends fun r => ∀ data, r = .ok data → data.get "id" = some streamId) :
      (p >>= f).Ends fun r => ∀ data, r = .ok data → data.get "id" = some streamId :=
    (Prog.Ends.any p).bindE fun r _ => by
      cases r with
      | ok a => exact h a
      | error e => exact nofun
  refine later fun claimed => ?_
  split
  · refine later fun _ => later fun _ => later fun _ => later fun _ => later fun _ => later fun _ => ?_
    rintro data same
    cases same
    rfl
  · exact later fun _ => nofun

/-- A creator returns metadata under an id that can be used. -/
theorem createStream_identified {subreddit config : String} {instanceId : Option String} :
    IdentitySafe kafkaTopic t (createStream subreddit config instanceId)
      (fun r _ => ∀ data, r = .ok data → (data.get "id").getD "" ≠ "") s := by
  refine IdentitySafe.await fun s₁ turn r s₂ hs₁ answered =>
    ⟨hs₁.answer_anonymous (e := .redis (.get _)) (by trivial) answered, ?_⟩
  rcases r with e | existing
  · nofun
  dsimp only [Prog.andThen]
  split
  · rename_i existing' found
    refine IdentitySafe.await fun s₃ turn r s₄ hs₃ answered =>
      ⟨hs₃.answer_redis (hs₃.setNx (orNone_eq_some.mp found).2) answered, ?_⟩
    rcases r with e | _ <;> nofun
  refine IdentitySafe.await fun s₃ turn r s₄ hs₃ answered => ?_
  obtain ⟨hs₄, candidateId, rfl, named⟩ := hs₃.answer_uuid4 answered
  refine ⟨hs₄, Safe.bind hs₄ (resolveIdentity_identified named) (fun found s₅ hs₅ _ => ?_)
    fun _ _ _ _ => nofun⟩
  split
  · rename_i streamId usable
    have named := (orNone_eq_some.mp usable).2
    refine ((claim_identified named).ends (claim_ends _ _ _ _)).mono hs₅
      fun r s₆ _ done data same => ?_
    simpa [done.2 data same] using named
  · nofun

theorem deleteStream_identified {streamId : String} {status updatedAt : Option String} {purge : Bool}
    (named : streamId ≠ "") :
    IdentitySafe kafkaTopic t (deleteStream streamId status updatedAt purge) (fun _ _ => True) s := by
  refine IdentitySafe.await fun s₁ turn r s₂ hs₁ answered =>
    ⟨hs₁.answer_anonymous (e := .redis (.hgetall _)) (by trivial) answered, ?_⟩
  rcases r with e | data
  · trivial
  dsimp only [Prog.andThen]
  split
  · trivial
  refine IdentitySafe.await fun s₃ turn r s₄ hs₃ answered =>
    ⟨hs₃.answer_redis (hs₃.delete named) answered, ?_⟩
  rcases r with e | deleted
  · trivial
  · exact IdentitySafe.anonymous ((dropInstance_anonymous _ _ _).bind fun _ => trivial)

theorem cleanup_identified (hs : s.Identified) :
    IdentitySafe kafkaTopic t DeadStreamCleanup.cleanup (fun _ _ => True) s := by
  refine IdentitySafe.caught hs (IdentitySafe.andThen hs
    (IdentitySafe.anonymous listStreams_anonymous) fun streams s₁ hs₁ => ?_)
  induction streams generalizing s₁ with
  | nil => trivial
  | cons stream streams ih =>
      refine IdentitySafe.andThen hs₁ ?_ fun _ s₂ hs₂ => ih s₂ hs₂
      unfold DeadStreamCleanup.retire
      split
      · rename_i streamId dead found
        exact IdentitySafe.caught hs₁ (IdentitySafe.andThen hs₁
          (deleteStream_identified (orNone_eq_some.mp found).2) fun _ _ _ => trivial)
      · trivial

theorem startStream_identified {instanceId subreddit config : String} (hs : s.Identified) :
    IdentitySafe kafkaTopic t (startStream instanceId subreddit config) (fun _ _ => True) s := by
  refine Safe.bind hs createStream_identified (fun metadata s₁ hs₁ usable => ?_)
    fun _ _ _ _ => trivial
  refine IdentitySafe.andThen hs₁ (IdentitySafe.anonymous (acquireLock_anonymous _ _ _))
    fun token s₂ hs₂ => ?_
  cases token with
  | none =>
      exact IdentitySafe.andThen hs₂ (deleteStream_identified (usable metadata rfl))
        fun _ _ _ => trivial
  | some token =>
      exact IdentitySafe.andThen hs₂ (IdentitySafe.anonymous (launch_anonymous _ _ _ _))
        fun _ _ _ => trivial

theorem start_identified {event : ServiceEvent} {p : Program Unit} {s' : Service} (hs : s.Identified)
    (started : Service.start kafkaTopic t event s = some (p, s')) :
    s'.Identified ∧ IdentitySafe kafkaTopic t p (fun _ _ => True) s' := by
  have stop (request : Nat) (streamId : String) (q : Program Unit) (plain : q.Uses Effect.anonymous)
      (begun : s.beginRequest request streamId q = some (p, s')) :
      s'.Identified ∧ IdentitySafe kafkaTopic t p (fun _ _ => True) s' := by
    unfold Service.beginRequest at begun
    split at begun <;> cases begun
    exact ⟨hs.same rfl fun _ => rfl, IdentitySafe.anonymous plain⟩
  unfold Service.start at started
  split at started
  · rename_i call instanceId subreddit config
    split at started <;> cases started
    have known : Service.Identified { s with
        calls := Function.update s.calls call (some (instanceId, subreddit)) } :=
      hs.same rfl fun _ => rfl
    exact ⟨known, IdentitySafe.andThen known (startStream_identified known) fun _ _ _ => trivial⟩
  · exact stop _ _ _ (stopEndpoint_anonymous _ _) started
  · exact stop _ _ _ (stopStream_anonymous _ _) started
  · exact stop _ _ _ (requestStop_anonymous _) started
  · cases started
    exact ⟨hs, cleanup_identified hs⟩
  · split at started <;> cases started
    exact ⟨hs.same rfl fun _ => rfl, IdentitySafe.anonymous (task_anonymous _ _)⟩
  · cases started

theorem tick_identified {event : ServiceEvent} {s' : Service} (hs : s.Identified)
    (ticked : Service.tick event s = some s') : s'.Identified := by
  refine hs.aside (Service.tick_aside ticked) ?_
  unfold Service.tick at ticked
  split at ticked
  · cases ticked; rfl
  · split at ticked <;> cases ticked
    rfl
  · cases ticked

theorem identities_sound :
    Sound (serviceMachine true kafkaTopic) storedDiscipline fun _ _ _ => True where
  post_stable _ _ _ _ _ _ _ := trivial
  start _ _ _ _ _ hs started :=
    have ⟨hs', safe⟩ := start_identified hs started
    ⟨hs', fun _ _ => trivial, safe⟩
  finish t r s hs _ := by
    refine ⟨hs.aside (Service.finish_aside r) ?_, fun _ _ => trivial⟩
    cases t <;> rfl
  tick _ _ _ hs ticked := ⟨tick_identified hs ticked, fun _ => trivial⟩

/-- In every run from the empty store, stored identities can be used and ids do not run out. -/
theorem identified_of_reaches {c : ServiceConfig}
    (reached : (serviceMachine true kafkaTopic).Reaches (Config.initial {}) c) : c.state.Identified :=
  have empty : Service.Identified {} := ⟨fun _ held => (by cases held), by simp⟩
  (identities_sound.reaches (Orderly.initial empty) reached).inv

/-- There is always an id that was not generated before. -/
theorem Service.fresh_id (finite : {id | s.owner id ≠ none}.Finite) : ∃ id, id ≠ "" ∧ s.owner id = none := by
  obtain ⟨id, unused⟩ := (finite.insert "").infinite_compl.nonempty
  simp only [Set.mem_compl_iff, Set.mem_insert_iff, not_or, Set.mem_ofPred_eq, not_not] at unused
  exact ⟨id, unused⟩

end programs

end RedditKafka
