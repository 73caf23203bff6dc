import RedditKafka.Manager.RegistryLinks
import RedditKafka.Manager.TaskSteps

/-!
# Registrations in force

What is stored about a stream is the work of one `start_stream` call, from its
claim on the subreddit to the terminal status that the tasks of the same call
write. This is what every Redis command leaves of it, in the runs in which no
status is written to the registration of another call.
-/
namespace RedditKafka
open Async Redis StreamRegistry StreamManager

/-- What reaches a coroutine from outside is an `Exception` or a cancellation. -/
def Turn.proper : Turn → Bool
  | .raised e | .raisedAfter e => e.isException || e.isInstance [.cancelledError]
  | _ => true

/-- The service, while Redis and Postgres do not fail. -/
def unfailingMachine (kafkaTopic : String) :
    Machine Effect Effect.Answer PyExc Service Thread Turn ServiceEvent where
  answer t c turn s := if turn.proper then Service.answer false t c turn s else none
  start := Service.start kafkaTopic
  finish := Service.finish
  tick := Service.tick

/-- A status write that puts another instance, or a terminal status of another call, into a stored
registration; a deletion of metadata that has no id. -/
def Service.stray (t : Thread) (s : Service) : Effect → Bool
  | .redis (.hset key mapping) =>
      match mapping.lookup "id", mapping.lookup "status", s.redis.hget key "id" with
      | none, some status, some streamId =>
          ((mapping.lookup "instance_id").isSome &&
              mapping.lookup "instance_id" ≠ s.redis.hget key "instance_id") ||
            (status ∈ DeadStreamCleanup.deadStatuses && s.registered streamId ≠ t.call)
      | _, _, _ => false
  | .redis (.eval (.deleteStreamIfUnchanged key checkpoint stop subreddit all identity streamId
      status time purge)) =>
      (s.redis.hget key "id").isNone && (Script.run (.deleteStreamIfUnchanged key checkpoint stop
        subreddit all identity streamId status time purge) s.redis).1
  | _ => false

/-- The stored registration of a stream is the one that the call has written. -/
structure Registration (s : Service) (streamId : String) (call : Nat) (instanceId subreddit : String) :
    Prop where
  known : s.calls call = some (instanceId, subreddit)
  owned : s.owner streamId = some subreddit
  home : s.home call = some streamId
  ownId : s.redis.hget (metaKey streamId) "id" = some streamId
  named : s.redis.hget (metaKey streamId) "subreddit" = some subreddit
  instanceId : s.redis.hget (metaKey streamId) "instance_id" = some instanceId
  status : ∃ status, s.redis.hget (metaKey streamId) "status" = some status ∧
    (status ∈ DeadStreamCleanup.deadStatuses → s.retired call = true)
  claim : s.redis.get (subredditKey subreddit) = some streamId

namespace Service

/-- A registration stays in force until its own call retires it. -/
structure Upheld (s : Service) : Prop where
  identity : ∀ subreddit streamId, s.redis.get (identityKey subreddit) = some streamId →
    s.owner streamId = some subreddit
  claim : ∀ subreddit streamId, s.redis.get (subredditKey subreddit) = some streamId →
    s.owner streamId = some subreddit
  named : ∀ streamId subreddit, s.redis.hget (metaKey streamId) "subreddit" = some subreddit →
    s.owner streamId = some subreddit
  complete : ∀ streamId, s.redis.hget (metaKey streamId) "id" ≠ none → s.registered streamId ≠ none
  /-- Claims do not expire. -/
  lasting : ∀ subreddit e, s.redis.entry (subredditKey subreddit) = some e → e.expiresAt = none
  claimed : ∀ streamId call, s.claimant streamId = some call → s.registered streamId = none ∧
    ∃ subreddit, s.owner streamId = some subreddit ∧
      s.redis.get (subredditKey subreddit) = some streamId
  registered : ∀ streamId call, s.registered streamId = some call →
    ∃ instanceId subreddit, Registration s streamId call instanceId subreddit
  stays : ∀ streamId call, s.home call = some streamId → s.retired call = false →
    s.registered streamId = some call

end Service

variable {s s' : Service} {t : Thread} {call : Nat} {streamId subreddit instanceId : String}

/-! ## What the commands leave of a registration -/

/-- Claims, and the fields of metadata that belong to a registration, are as before. -/
structure Unaltered (r r' : Store) : Prop where
  claim : ∀ subreddit, r'.entry (subredditKey subreddit) = r.entry (subredditKey subreddit)
  field : ∀ streamId, ∀ name ∈ ["id", "subreddit", "instance_id", "status"],
    r'.hget (metaKey streamId) name = r.hget (metaKey streamId) name

theorem Unaltered.refl (r : Store) : Unaltered r r := ⟨fun _ => rfl, fun _ _ _ => rfl⟩

theorem Unaltered.trans {a b c : Store} (first : Unaltered a b) (second : Unaltered b c) : Unaltered a c :=
  ⟨fun name => (second.claim name).trans (first.claim name),
    fun id name field => (second.field id name field).trans (first.field id name field)⟩

theorem Unaltered.get {r r' : Store} (h : Unaltered r r') (subreddit : String) :
    r'.get (subredditKey subreddit) = r.get (subredditKey subreddit) := by
  simp only [Store.get, h.claim]

/-- The metadata of one registration is as before. -/
theorem Registration.kept (h : Registration s streamId call instanceId subreddit)
    (known : s'.calls call = s.calls call) (owned : s'.owner streamId = s.owner streamId)
    (home : s'.home call = s.home call) (retired : s.retired call = true → s'.retired call = true)
    (field : ∀ name ∈ ["id", "subreddit", "instance_id", "status"],
      s'.redis.hget (metaKey streamId) name = s.redis.hget (metaKey streamId) name)
    (claim : s'.redis.get (subredditKey subreddit) = s.redis.get (subredditKey subreddit)) :
    Registration s' streamId call instanceId subreddit := by
  obtain ⟨status, stored, dead⟩ := h.status
  exact ⟨known.trans h.known, owned.trans h.owned, home.trans h.home,
    (field _ (by simp)).trans h.ownId, (field _ (by simp)).trans h.named,
    (field _ (by simp)).trans h.instanceId,
    ⟨status, (field _ (by simp)).trans stored, fun is => retired (dead is)⟩, claim.trans h.claim⟩

namespace Service

/-- Where registrations and claims stay as they are, so does what is known of them. -/
theorem Upheld.unaltered (hs : s.Upheld) (unaltered : Unaltered s.redis s'.redis)
    (owner : ∀ id name, s.owner id = some name → s'.owner id = some name)
    (identity : ∀ name id, s'.redis.get (identityKey name) = some id → s'.owner id = some name)
    (calls : ∀ call x, s.calls call = some x → s'.calls call = some x)
    (claimant : s'.claimant = s.claimant) (registered : s'.registered = s.registered)
    (home : s'.home = s.home) (retired : s'.retired = s.retired) : s'.Upheld where
  identity := identity
  claim name id held := owner id name (hs.claim name id (by rwa [unaltered.get] at held))
  named id name held :=
    owner id name (hs.named id name (by rwa [unaltered.field id _ (by simp)] at held))
  complete id there := by
    rw [registered]
    exact hs.complete id (by rwa [unaltered.field id _ (by simp)] at there)
  lasting name e held := hs.lasting name e (by rwa [unaltered.claim] at held)
  claimed id call is := by
    rw [claimant] at is
    obtain ⟨unregistered, name, own, held⟩ := hs.claimed id call is
    exact ⟨registered ▸ unregistered, name, owner id name own, by rw [unaltered.get, held]⟩
  registered id call is := by
    rw [registered] at is
    obtain ⟨instanceId, name, h⟩ := hs.registered id call is
    exact ⟨instanceId, name, h.kept ((calls _ _ h.known).trans h.known.symm)
      ((owner _ _ h.owned).trans h.owned.symm) (by rw [home]) (fun was => by rw [retired, was])
      (unaltered.field id) (unaltered.get name)⟩
  stays id call is kept := by
    rw [registered]
    exact hs.stays id call (home ▸ is) (retired ▸ kept)

end Service

/-- A command without a status writes no field of a registration. -/
theorem plain_unaltered {c : RedisCmd} (plain : RegistryLinks.PlainCommand c)
    (silent : ∀ key mapping, c = .hset key mapping → mapping.lookup "status" = none) (r : Store) :
    Unaltered r (c.run r).2 := by
  obtain ⟨anonymous, registry | lease⟩ := plain
  · cases registry with
    | get | keyExists | hgetall | hgetallEach | smembers => exact .refl r
    | claim | identity | delete => cases anonymous
    | metadata _ _ _ _ _ _ creates => exact (creates rfl).elim
    | status id status time instanceId =>
        have lookups := Service.statusMapping_lookup status time instanceId
        cases lookups.1.symm.trans (silent _ _ rfl)
    | stopRequest | unlist | unlistInstance | checkpoint | list | listInstance =>
        exact ⟨by simp [RedisCmd.run], by simp [RedisCmd.run, Store.hget]⟩
    | heartbeat id instanceId now =>
        simp only [RedisCmd.run, Script.run]
        split_ifs
        · exact .refl r
        · exact .refl r
        · refine ⟨by simp, fun other name field => ?_⟩
          simp only [Store.hget, Store.sadd_hashes, Store.hset_hashes, Layout.key_inj, true_and]
          split
          · rename_i same
            rw [same]
            exact RegistryLinks.hset_field (by
              simp only [List.mem_cons, List.not_mem_nil, or_false] at field
              rcases field with rfl | rfl | rfl | rfl <;> rfl) _
          · rfl
  · cases lease with
    | acquire name token ttl =>
        simp only [RedisCmd.run]
        split_ifs
        · exact .refl r
        · exact .refl r
        · exact ⟨by simp [Store.entry_setEx], by simp [Store.hget, Store.setEx]⟩
    | refresh name token ttl =>
        simp only [RedisCmd.run, Script.run]
        split_ifs
        · exact ⟨fun _ => Store.entry_expire_of_ne _ (by simp), fun _ _ _ => Store.hget_expire (by simp) _⟩
        · exact .refl r
    | release name token =>
        simp only [RedisCmd.run, Script.run]
        split_ifs
        · exact ⟨by simp, by simp [Store.hget]⟩
        · exact .refl r

/-- Time passes, and claims stay. -/
theorem Service.Upheld.elapse (hs : s.Upheld) (n : Nat) : Unaltered s.redis (s.redis.elapse n) := by
  refine ⟨fun name => ?_, fun _ _ _ => rfl⟩
  cases before : s.redis.entry (subredditKey name) with
  | some e => exact Store.entry_elapse_of_lasting before (hs.lasting name e before)
  | none =>
      cases after : (s.redis.elapse n).entry (subredditKey name) with
      | none => rfl
      | some e => cases before.symm.trans (Store.entry_elapse after)

/-! ## What the steps leave of the invariant -/

section notes

variable (key status : String)

@[simp] theorem Service.noteStatus_claimant : (s.noteStatus t key status).claimant = s.claimant := by
  cases t <;> rfl

@[simp] theorem Service.noteStatus_home : (s.noteStatus t key status).home = s.home := by
  cases t <;> rfl

theorem Service.noteStatus_retired (call : Nat) : (s.noteStatus t key status).retired call = true ↔
    s.retired call = true ∨ ∃ role, t = .task call role := by
  cases t with
  | task own role =>
      simp only [noteStatus, Function.update_apply, Thread.task.injEq]
      split
      · rename_i same
        simp [same]
      · rename_i other
        simp [Ne.symm other]
  | _ => simp [noteStatus]

end notes

namespace Service.Upheld

/-- A status of the own call, or one that changes nothing else. -/
theorem status (hs : s.Upheld) {status time : String} {written : Option String}
    (mild : s.stray t (.redis (.hset (metaKey streamId) (statusMapping status time written))) = false)
    (ofTask : status ∈ DeadStreamCleanup.deadStatuses → ∃ call role, t = .task call role) :
    (s.execute t (.hset (metaKey streamId) (statusMapping status time written))).Upheld := by
  set s' := s.execute t (.hset (metaKey streamId) (statusMapping status time written)) with executed
  have lookups := Service.statusMapping_lookup status time written
  have noted : s.note t (.hset (metaKey streamId) (statusMapping status time written)) =
      s.noteStatus t (metaKey streamId) status := by
    simp only [Service.note, lookups.1, lookups.2]
  have redis : s'.redis = s.redis.hset (metaKey streamId) (statusMapping status time written) := rfl
  have claimant : s'.claimant = s.claimant := by
    rw [executed, Service.execute, noted]
    exact noteStatus_claimant _ _
  have registered : s'.registered = s.registered := by
    rw [executed, Service.execute, noted]
    exact Service.noteStatus_registered _ _
  have home : s'.home = s.home := by
    rw [executed, Service.execute, noted]
    exact noteStatus_home _ _
  have retired (call : Nat) :
      s'.retired call = true ↔ s.retired call = true ∨ ∃ role, t = .task call role := by
    rw [executed, Service.execute, noted]
    exact noteStatus_retired _ _ call
  have field (id name : String) (other : id ≠ streamId ∨ (statusMapping status time written).lookup name = none) :
      s'.redis.hget (metaKey id) name = s.redis.hget (metaKey id) name := by
    simp only [redis, Store.hget, Store.hset_hashes, Layout.key_inj, true_and]
    split
    · rename_i same
      rw [same]
      exact RegistryLinks.hset_field (other.resolve_left (not_not.mpr same)) _
    · rfl
  have plain (name : String) (new : name ≠ "status" ∧ name ≠ "updated_at" ∧ name ≠ "instance_id") :
      (statusMapping status time written).lookup name = none := by
    cases written <;>
      simp [statusMapping, List.lookup_cons, beq_eq_false_iff_ne.mpr new.1,
        beq_eq_false_iff_ne.mpr new.2.1, beq_eq_false_iff_ne.mpr new.2.2]
  refine ⟨?_, ?_, ?_, ?_, ?_, ?_, ?_, ?_⟩
  · intro name id held
    simpa [s'] using hs.identity name id (by simpa [redis] using held)
  · intro name id held
    simpa [s'] using hs.claim name id (by simpa [redis] using held)
  · intro id name held
    rw [field id _ (.inr (plain _ (by simp)))] at held
    simpa [s'] using hs.named id name held
  · intro id there
    rw [field id _ (.inr lookups.2)] at there
    rw [registered]
    exact hs.complete id there
  · intro name e held
    exact hs.lasting name e (by simpa [redis] using held)
  · intro id call is
    rw [claimant] at is
    obtain ⟨unregistered, name, own, held⟩ := hs.claimed id call is
    exact ⟨registered ▸ unregistered, name, by simpa [s'] using own, by simpa [redis] using held⟩
  · intro id call is
    rw [registered] at is
    obtain ⟨instanceId, name, h⟩ := hs.registered id call is
    refine ⟨instanceId, name, ?_⟩
    by_cases other : id ≠ streamId
    · exact h.kept (by simp [s']) (by simp [s']) (by rw [home]) (fun was => by simp [retired, was])
        (fun name _ => field id name (.inl other)) (by simp [redis])
    · rw [not_not] at other
      subst other
      -- the registration is there, so the write is one of its own call
      simp only [stray, lookups, h.ownId, h.instanceId, is, Bool.or_eq_false_iff, Bool.and_eq_false_iff,
        decide_eq_false_iff_not] at mild
      refine ⟨by simpa [s'] using h.known, by simpa [s'] using h.owned, by rw [home, h.home],
        (field _ _ (.inr lookups.2)).trans h.ownId, (field _ _ (.inr (plain _ (by simp)))).trans h.named,
        ?_, ⟨status, ?_, fun dead => ?_⟩, by simpa [redis] using h.claim⟩
      · cases written with
        | none => exact (field _ _ (.inr rfl)).trans h.instanceId
        | some own =>
            have same : own = instanceId := by simpa [statusMapping, List.lookup_cons] using mild.1
            simp [redis, Store.hget, statusMapping, same]
      · cases written <;> simp [redis, Store.hget, statusMapping]
      · obtain ⟨own, role, rfl⟩ := ofTask dead
        have same : call = own := by simpa [dead, Thread.call] using mild.2
        exact (retired call).mpr (.inr ⟨role, by rw [same]⟩)
  · intro id call is kept
    rw [registered]
    refine hs.stays id call (home ▸ is) ?_
    exact Bool.eq_false_iff.mpr fun was => by simp [(retired call).mpr (.inl was)] at kept

/-- A creator claims a free subreddit. -/
theorem claimFree (hs : s.Upheld) (owned : s.owner streamId = some subreddit)
    (free : s.redis.get (subredditKey subreddit) = none) : Upheld { s with
      claimant := Function.update s.claimant streamId (some call)
      redis := s.redis.set (subredditKey subreddit) streamId } := by
  have other {name id : String} (held : s.redis.get (subredditKey name) = some id) :
      (s.redis.set (subredditKey subreddit) streamId).get (subredditKey name) = some id := by
    rw [Store.get_set, if_neg, held]
    rintro same
    cases (Layout.key_inj.mp same).2
    cases free.symm.trans held
  refine ⟨fun name id held => hs.identity name id (by simpa using held), fun name id held => ?_, hs.named,
    hs.complete, fun name e held => ?_, fun id other' is => ?_, fun id other' is => ?_, hs.stays⟩
  · rw [Store.get_set] at held
    split at held
    · rename_i same
      cases held
      rwa [(Layout.key_inj.mp same).2]
    · exact hs.claim name id held
  · rw [Store.entry_set] at held
    split at held
    · cases held
      rfl
    · exact hs.lasting name e held
  · by_cases own : id = streamId
    · subst own
      refine ⟨Option.eq_none_iff_forall_ne_some.mpr fun k registered => ?_, subreddit, owned, by simp⟩
      obtain ⟨_, name, h⟩ := hs.registered id k registered
      cases owned.symm.trans h.owned
      cases free.symm.trans h.claim
    · simp only [Function.update_of_ne own] at is
      obtain ⟨unregistered, name, own', held⟩ := hs.claimed id other' is
      exact ⟨unregistered, name, own', other held⟩
  · obtain ⟨instanceId, name, h⟩ := hs.registered id other' is
    exact ⟨instanceId, name, h.kept rfl rfl rfl (fun was => was) (fun _ _ => rfl)
      ((other h.claim).trans h.claim.symm)⟩

/-- The creator that holds the claim registers the stream. -/
theorem register (hs : s.Upheld) (waits : s.claimant streamId = some call)
    (known : s.calls call = some (instanceId, subreddit)) (owned : s.owner streamId = some subreddit)
    (homeless : s.home call = none) (config createdAt updatedAt : String) :
    let s' := s.execute (.start call) (.hset (metaKey streamId)
      (newMeta streamId subreddit config instanceId createdAt updatedAt))
    s'.Upheld ∧ s'.home = Function.update s.home call (some streamId) ∧ s'.retired = s.retired ∧
      s'.failed = s.failed ∧ s'.claimant = Function.update s.claimant streamId none := by
  intro s'
  have claimant : s'.claimant = Function.update s.claimant streamId none := rfl
  have registered : s'.registered = Function.update s.registered streamId (some call) := rfl
  have home : s'.home = Function.update s.home call (some streamId) := rfl
  have redis : s'.redis = s.redis.hset (metaKey streamId)
    (newMeta streamId subreddit config instanceId createdAt updatedAt) := rfl
  obtain ⟨unregistered, name, own, claimed⟩ := hs.claimed streamId call waits
  cases owned.symm.trans own
  have field {id : String} (other : id ≠ streamId) (name : String) :
      s'.redis.hget (metaKey id) name = s.redis.hget (metaKey id) name := by
    simp [redis, Store.hget, other]
  have mine (field : String) (there : field ∈ ["id", "subreddit", "instance_id", "status"]) :
      s'.redis.hget (metaKey streamId) field =
        (newMeta streamId subreddit config instanceId createdAt updatedAt).lookup field := by
    simp only [List.mem_cons, List.not_mem_nil, or_false] at there
    rcases there with rfl | rfl | rfl | rfl <;>
      simp [redis, Store.hget, newMeta, List.lookup_cons]
  refine ⟨⟨?_, ?_, ?_, ?_, ?_, ?_, ?_, ?_⟩, rfl, rfl, rfl, rfl⟩
  · intro name id held
    simpa [s'] using hs.identity name id (by simpa [redis] using held)
  · intro name id held
    simpa [s'] using hs.claim name id (by simpa [redis] using held)
  · intro id name held
    by_cases other : id = streamId
    · subst other
      rw [mine _ (by simp)] at held
      have same : subreddit = name := by simpa [newMeta, List.lookup_cons] using held
      simpa [s', ← same] using owned
    · rw [field other] at held
      simpa [s'] using hs.named id name held
  · intro id there
    rw [registered]
    by_cases other : id = streamId
    · simp [other]
    · rw [field other] at there
      rw [Function.update_of_ne other]
      exact hs.complete id there
  · intro name e held
    exact hs.lasting name e (by simpa [redis] using held)
  · intro id call' is
    have other : id ≠ streamId := by
      rintro rfl
      simp [claimant] at is
    rw [claimant, Function.update_of_ne other] at is
    obtain ⟨none, name, own, held⟩ := hs.claimed id call' is
    rw [registered, Function.update_of_ne other]
    exact ⟨none, name, by simpa [s'] using own, by simpa [redis] using held⟩
  · intro id call' is
    rw [registered] at is
    by_cases other : id = streamId
    · subst other
      rw [Function.update_self] at is
      cases is
      refine ⟨instanceId, subreddit, by simpa [s'] using known, by simpa [s'] using owned, by simp [home],
        mine _ (by simp), ?_, ?_, ⟨"starting", mine _ (by simp), fun dead => ?_⟩,
        by simpa [redis] using claimed⟩
      · rw [mine _ (by simp)]
        simp [newMeta, List.lookup_cons]
      · rw [mine _ (by simp)]
        simp [newMeta, List.lookup_cons]
      · simp [DeadStreamCleanup.deadStatuses] at dead
    · rw [Function.update_of_ne other] at is
      obtain ⟨instanceId', name, h⟩ := hs.registered id call' is
      have ne : call' ≠ call := by
        rintro rfl
        cases homeless.symm.trans h.home
      exact ⟨instanceId', name, h.kept (by simp [s']) (by simp [s'])
        (by rw [home, Function.update_of_ne ne]) (fun was => was) (fun name _ => field other name)
        (by simp [redis])⟩
  · intro id call' is kept
    rw [home] at is
    rw [registered]
    by_cases own' : call' = call
    · subst own'
      rw [Function.update_self] at is
      cases is
      simp
    · rw [Function.update_of_ne own'] at is
      have stays := hs.stays id call' is kept
      have other : id ≠ streamId := by
        rintro rfl
        cases unregistered.symm.trans stays
      rw [Function.update_of_ne other, stays]

/-- A deletion finds a dead status, or is by the call of the registration itself. -/
theorem delete (hs : s.Upheld) (owned : s.owner streamId = some subreddit)
    {status updatedAt purge : String}
    (mild : s.stray t (.redis (.eval (deleteScript streamId subreddit status updatedAt purge))) = false)
    (entitled : status ∈ DeadStreamCleanup.deadStatuses ∨
      ∃ call, t = .start call ∧ s.registered streamId = some call) :
    (s.execute t (.eval (deleteScript streamId subreddit status updatedAt purge))).Upheld := by
  set s' := s.execute t (.eval (deleteScript streamId subreddit status updatedAt purge)) with executed
  rcases deleteScript_cases streamId subreddit status updatedAt purge s.redis with same | ⟨done, removed⟩
  · have still : s' = s := by simp [executed, Service.execute, Service.note, RedisCmd.run, same]
    rwa [still]
  have noted : s.note t (.eval (deleteScript streamId subreddit status updatedAt purge)) =
      s.noteDelete t (metaKey streamId) streamId := by
    rw [Service.note, if_pos done]
  have redis : s'.redis = ((deleteScript streamId subreddit status updatedAt purge).run s.redis).2 := rfl
  have entries := (deleteScript_entries streamId subreddit status updatedAt purge s.redis).1
  rw [← redis] at removed entries
  have claimant : s'.claimant = s.claimant := by
    rw [executed, Service.execute, noted]
    cases t <;> rfl
  have home : s'.home = s.home := by
    rw [executed, Service.execute, noted]
    cases t <;> rfl
  have registered : s'.registered = Function.update s.registered streamId none := by
    rw [executed, Service.execute, noted]
    exact Service.noteDelete_registered _ _
  have retired (call : Nat) : s'.retired call = true ↔ s.retired call = true ∨ t = .start call := by
    rw [executed, Service.execute, noted]
    cases t with
    | start own =>
        simp only [noteDelete, Function.update_apply, Thread.start.injEq]
        split
        · rename_i same
          simp [same]
        · rename_i other
          simp [Ne.symm other]
    | _ => simp [noteDelete]
  -- the registration that is deleted, and whose call is retired
  obtain ⟨k, is⟩ := Option.ne_none_iff_exists'.mp (hs.complete streamId fun none => by
    simp [stray, none, done] at mild)
  obtain ⟨_, _, h⟩ := hs.registered streamId k is
  have past : s'.retired k = true := by
    rcases entitled with dead | ⟨call, rfl, mine⟩
    · obtain ⟨stored, held, retires⟩ := h.status
      have given : status ≠ "" := by
        rintro rfl
        simp [DeadStreamCleanup.deadStatuses] at dead
      cases held.symm.trans (removed.status given)
      exact (retired k).mpr (.inl (retires dead))
    · cases is.symm.trans mine
      exact (retired k).mpr (.inr rfl)
  have field {id : String} (other : id ≠ streamId) (name : String) :
      s'.redis.hget (metaKey id) name = s.redis.hget (metaKey id) name := by
    rw [Store.hget, removed.metadata, if_neg other, Store.hget]
  have blank (name : String) : s'.redis.hget (metaKey streamId) name = none := by
    rw [Store.hget, removed.metadata, if_pos rfl]
    rfl
  have others {name id : String} (other : id ≠ streamId)
      (held : s.redis.get (subredditKey name) = some id) :
      s'.redis.get (subredditKey name) = some id := by
    rw [removed.claim, if_neg, held]
    rintro ⟨-, same⟩
    exact other (Option.some.inj (held.symm.trans same))
  refine ⟨?_, ?_, ?_, ?_, fun name e held => hs.lasting name e (entries name e held), ?_, ?_, ?_⟩
  · intro name id held
    rw [removed.identity] at held
    split at held
    · rename_i same
      split at held <;> cases held
      simpa [s', same] using owned
    · simpa [s'] using hs.identity name id held
  · intro name id held
    rw [removed.claim] at held
    split at held
    · cases held
    · simpa [s'] using hs.claim name id held
  · intro id name held
    by_cases other : id = streamId
    · subst other
      cases (blank _).symm.trans held
    · rw [field other] at held
      simpa [s'] using hs.named id name held
  · intro id there
    by_cases other : id = streamId
    · subst other
      exact (there (blank _)).elim
    · rw [field other] at there
      rw [registered, Function.update_of_ne other]
      exact hs.complete id there
  · intro id call waits
    rw [claimant] at waits
    obtain ⟨unregistered, name, own, held⟩ := hs.claimed id call waits
    have other : id ≠ streamId := by
      rintro rfl
      cases is.symm.trans unregistered
    rw [registered, Function.update_of_ne other]
    exact ⟨unregistered, name, by simpa [s'] using own, others other held⟩
  · intro id call is'
    rw [registered] at is'
    have other : id ≠ streamId := by
      rintro rfl
      simp at is'
    rw [Function.update_of_ne other] at is'
    obtain ⟨instanceId, name, h⟩ := hs.registered id call is'
    exact ⟨instanceId, name, h.kept (by simp [s']) (by simp [s']) (by rw [home])
      (fun was => (retired call).mpr (.inl was)) (fun name _ => field other name)
      ((others other h.claim).trans h.claim.symm)⟩
  · intro id call is' kept
    have kept₀ : s.retired call = false :=
      Bool.eq_false_iff.mpr fun was => by simp [(retired call).mpr (.inl was)] at kept
    have stays := hs.stays id call (home ▸ is') kept₀
    have other : id ≠ streamId := by
      rintro rfl
      cases is.symm.trans stays
      simp [past] at kept
    rw [registered, Function.update_of_ne other, stays]

end Service.Upheld

end RedditKafka
