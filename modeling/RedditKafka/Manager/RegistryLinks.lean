import RedditKafka.Manager.StoredIdentities

/-!
# Metadata and claims

Metadata that exists is complete and under the claim of its subreddit, and every
claim has such metadata. What each command does to this link, and that it holds
whenever no `start_stream` is in progress, in the runs whose status writes find
the metadata and whose creators finish their registration.
-/
namespace RedditKafka
open Async Redis StreamRegistry StreamManager

/-- The metadata of the stream is complete, and its subreddit is claimed under its id. -/
structure Linked (r : Store) (streamId subreddit : String) : Prop where
  ownId : r.hget (metaKey streamId) "id" = some streamId
  named : r.hget (metaKey streamId) "subreddit" = some subreddit
  status : ∃ status, r.hget (metaKey streamId) "status" = some status
  claim : r.get (subredditKey subreddit) = some streamId

/-- The representation of the registered streams. -/
structure Represented (r : Store) : Prop where
  metadata : ∀ streamId, r.hashes (metaKey streamId) ≠ [] → ∃ subreddit, Linked r streamId subreddit
  claims : ∀ subreddit streamId, r.get (subredditKey subreddit) = some streamId →
    Linked r streamId subreddit

/-- A status write without metadata; a claim, or the metadata behind it, that fails. -/
def Thread.unlinks (t : Thread) (c : Effect) (turn : Turn) (s : Service) : Bool :=
  match c, turn with
  | .redis (.hset _ mapping), .raised _ => (mapping.lookup "id").isSome
  | .redis (.hset key mapping), _ =>
      (mapping.lookup "id").isNone && (mapping.lookup "status").isSome && (s.redis.hashes key).isEmpty
  | .redis (.setNx key _ none), .raisedAfter _ =>
      (s.redis.get key).isNone &&
        ((t.call.bind s.calls).map fun started => subredditKey started.2) = some key
  | _, _ => false

/-- The service with any failures and cancellations, in which every status is written to metadata
that exists, and no creator fails between its claim and its metadata. -/
def linkMachine (kafkaTopic : String) :
    Machine Effect Effect.Answer PyExc Service Thread Turn ServiceEvent where
  answer t c turn s := if t.unlinks c turn s then none else Service.answer true t c turn s
  start := Service.start kafkaTopic
  finish := Service.finish
  tick := Service.tick

namespace RegistryLinks

/-- Identities and claims are those of the generated ids; a claim waits for the metadata of its
creator, or has it. -/
structure Kept (s : Service) : Prop where
  identity : ∀ subreddit streamId, s.redis.get (identityKey subreddit) = some streamId →
    s.owner streamId = some subreddit
  claim : ∀ subreddit streamId, s.redis.get (subredditKey subreddit) = some streamId →
    s.owner streamId = some subreddit ∧
      (s.claimant streamId ≠ none ∨ s.redis.hashes (metaKey streamId) ≠ [])
  metadata : ∀ streamId, s.redis.hashes (metaKey streamId) ≠ [] →
    ∃ subreddit, s.owner streamId = some subreddit ∧ Linked s.redis streamId subreddit
  claimed : ∀ streamId call, s.claimant streamId = some call →
    s.redis.hashes (metaKey streamId) = [] ∧ ∃ subreddit, s.owner streamId = some subreddit ∧
      s.redis.get (subredditKey subreddit) = some streamId
  /-- Claims do not expire. -/
  lasting : ∀ subreddit e, s.redis.entry (subredditKey subreddit) = some e → e.expiresAt = none
  /-- Keys of metadata are used for nothing else. -/
  typed : ∀ streamId, s.redis.entry (metaKey streamId) = none ∧ s.redis.sets (metaKey streamId) = []

/-- What no other thread takes away. -/
def Keeps (t : Thread) (s s' : Service) : Prop :=
  (∀ streamId subreddit, s.owner streamId = some subreddit → s'.owner streamId = some subreddit) ∧
    (∀ call started, s.calls call = some started → s'.calls call = some started) ∧
    match t with
    | .start call => ∀ streamId, s'.claimant streamId = some call ↔ s.claimant streamId = some call
    | _ => True

theorem keeps_refl (t : Thread) (s : Service) : Keeps t s s := by
  refine ⟨fun _ _ h => h, fun _ _ h => h, ?_⟩
  split
  · exact fun _ => .rfl
  · trivial

theorem keeps_trans (t : Thread) (a b c : Service) (first : Keeps t a b) (second : Keeps t b c) :
    Keeps t a c := by
  refine ⟨fun i sub h => second.1 i sub (first.1 i sub h),
    fun call x h => second.2.1 call x (first.2.1 call x h), ?_⟩
  cases t with
  | start call => exact fun i => (second.2.2 i).trans (first.2.2 i)
  | _ => trivial

/-- The call has no claim that waits for its metadata. -/
def Free (call : Nat) (s : Service) : Prop := ∀ streamId, s.claimant streamId ≠ some call

/-- The call has this claim, and no other. -/
def Pending (call : Nat) (streamId : String) (s : Service) : Prop :=
  ∀ streamId', s.claimant streamId' = some call ↔ streamId' = streamId

def linkPost : Thread → Service → Prop
  | .start call, s => Free call s
  | _, _ => True

def linkDiscipline : Discipline Effect Service Thread where
  inv := Kept
  keeps := Keeps
  keeps_refl := keeps_refl
  keeps_trans := keeps_trans
  ok _ _ _ := True
  pledge _ _ _ := True

variable {kafkaTopic : String} {t : Thread} {s s' : Service} {call : Nat}

/-! ## What the commands leave of the links -/

/-- Claims do not change, and metadata keeps its id, its subreddit and a status. -/
structure Links (r r' : Store) : Prop where
  claim : ∀ subreddit, r'.entry (subredditKey subreddit) = r.entry (subredditKey subreddit)
  typed : ∀ streamId, r.entry (metaKey streamId) = none → r'.entry (metaKey streamId) = none
  sets : ∀ streamId, r'.sets (metaKey streamId) = r.sets (metaKey streamId)
  absent : ∀ streamId, r'.hashes (metaKey streamId) = [] ↔ r.hashes (metaKey streamId) = []
  present : ∀ streamId, r.hashes (metaKey streamId) ≠ [] →
    r'.hget (metaKey streamId) "id" = r.hget (metaKey streamId) "id" ∧
      r'.hget (metaKey streamId) "subreddit" = r.hget (metaKey streamId) "subreddit" ∧
      ∀ status, r.hget (metaKey streamId) "status" = some status →
        ∃ status', r'.hget (metaKey streamId) "status" = some status'

/-- No identity is new, either. -/
structure Same (r r' : Store) : Prop extends Links r r' where
  identity : ∀ subreddit streamId, r'.get (identityKey subreddit) = some streamId →
    r.get (identityKey subreddit) = some streamId

theorem Same.refl (r : Store) : Same r r :=
  ⟨⟨fun _ => rfl, fun _ h => h, fun _ => rfl, fun _ => .rfl,
    fun _ _ => ⟨rfl, rfl, fun status h => ⟨status, h⟩⟩⟩, fun _ _ h => h⟩

theorem Same.trans {a b c : Store} (first : Same a b) (second : Same b c) : Same a c := by
  refine ⟨⟨fun name => (second.claim name).trans (first.claim name),
    fun id h => second.typed id (first.typed id h), fun id => (second.sets id).trans (first.sets id),
    fun id => (second.absent id).trans (first.absent id), fun id there => ?_⟩,
    fun name id h => first.identity name id (second.identity name id h)⟩
  obtain ⟨own, name, status⟩ := first.present id there
  obtain ⟨own', name', status'⟩ := second.present id fun none => there ((first.absent id).mp none)
  refine ⟨own'.trans own, name'.trans name, fun value held => ?_⟩
  obtain ⟨value', held'⟩ := status value held
  exact status' value' held'

theorem Links.get {r r' : Store} (h : Links r r') (subreddit : String) :
    r'.get (subredditKey subreddit) = r.get (subredditKey subreddit) := by
  simp only [Store.get, h.claim]

theorem linked_present {r : Store} {streamId subreddit : String} (h : Linked r streamId subreddit) :
    r.hashes (metaKey streamId) ≠ [] :=
  Hash.ne_nil_of_get h.ownId

theorem linked_of_hashes {r r' : Store} {streamId subreddit : String} (h : Linked r streamId subreddit)
    (hashes : r'.hashes (metaKey streamId) = r.hashes (metaKey streamId))
    (claim : r'.get (subredditKey subreddit) = some streamId) : Linked r' streamId subreddit := by
  obtain ⟨ownId, named, status, -⟩ := h
  have kept (field : String) : r'.hget (metaKey streamId) field = r.hget (metaKey streamId) field := by
    rw [Store.hget, Store.hget, hashes]
  exact ⟨(kept _).trans ownId, (kept _).trans named, status.imp fun _ => (kept _).trans, claim⟩

theorem linked_kept {r r' : Store} {streamId subreddit : String} (h : Linked r streamId subreddit)
    (links : Links r r') : Linked r' streamId subreddit := by
  obtain ⟨id, name, status⟩ := links.present streamId (linked_present h)
  obtain ⟨value, held⟩ := h.status
  exact ⟨id.trans h.ownId, name.trans h.named, status value held, by rw [links.get, h.claim]⟩

theorem Kept.links (h : Kept s)
    (owner : ∀ streamId subreddit, s.owner streamId = some subreddit → s'.owner streamId = some subreddit)
    (identity : ∀ subreddit streamId, s'.redis.get (identityKey subreddit) = some streamId →
      s'.owner streamId = some subreddit)
    (claimant : s'.claimant = s.claimant) (links : Links s.redis s'.redis) : Kept s' := by
  refine ⟨identity, fun name id held => ?_, fun id there => ?_, fun id call is => ?_,
    fun name e held => ?_, fun id => ?_⟩
  · rw [links.get] at held
    obtain ⟨own, waits⟩ := h.claim name id held
    rw [claimant]
    exact ⟨owner id name own, waits.imp_right fun there none => there ((links.absent id).mp none)⟩
  · obtain ⟨name, own, linked⟩ := h.metadata id fun none => there ((links.absent id).mpr none)
    exact ⟨name, owner id name own, linked_kept linked links⟩
  · rw [claimant] at is
    obtain ⟨none, name, own, held⟩ := h.claimed id call is
    exact ⟨(links.absent id).mpr none, name, owner id name own, by rw [links.get, held]⟩
  · rw [links.claim] at held
    exact h.lasting name e held
  · exact ⟨links.typed id (h.typed id).1, (links.sets id).trans (h.typed id).2⟩

theorem Kept.same (h : Kept s) (owner : s'.owner = s.owner) (claimant : s'.claimant = s.claimant)
    (same : Same s.redis s'.redis) : Kept s' := by
  refine h.links (fun id name own => owner ▸ own) (fun name id held => ?_) claimant same.toLinks
  rw [owner]
  exact h.identity name id (same.identity name id held)

/-- Commands that write no claim, no identity and no new metadata. -/
def PlainCommand (c : RedisCmd) : Prop :=
  c.anonymous ∧ (RegistryCommand (fun _ permission => permission ≠ .create) c ∨ LeaseCommand c)

theorem setFields_ne_nil {h : Hash} (there : h ≠ []) (mapping : List (String × String)) :
    h.setFields mapping ≠ [] := by
  induction mapping generalizing h with
  | nil => exact there
  | cons entry rest ih => exact ih (List.cons_ne_nil _ _)

theorem hset_field {mapping : List (String × String)} {field : String}
    (other : mapping.lookup field = none) (h : Hash) : (h.setFields mapping).get field = h.get field := by
  induction mapping generalizing h with
  | nil => rfl
  | cons entry rest ih =>
      obtain ⟨key, value⟩ := entry
      simp only [List.lookup_cons] at other
      split at other
      · cases other
      · rename_i ne
        rw [Hash.setFields_cons, ih other, Hash.get_setField, if_neg (by simpa using ne)]

theorem hset_same {r : Store} {streamId : String} {mapping : List (String × String)}
    (there : r.hashes (metaKey streamId) ≠ []) (ownId : mapping.lookup "id" = none)
    (named : mapping.lookup "subreddit" = none)
    (status : ∀ (h : Hash) status, h.get "status" = some status →
      ∃ status', (h.setFields mapping).get "status" = some status') :
    Same r (r.hset (metaKey streamId) mapping) := by
  refine ⟨⟨fun _ => by simp, fun _ h => by simpa using h, fun _ => by simp, fun id => ?_,
    fun id _ => ?_⟩, fun _ _ h => by simpa using h⟩
  · simp only [Store.hset_hashes, Layout.key_inj, true_and]
    split
    · rename_i same
      subst same
      exact iff_of_false (setFields_ne_nil there mapping) there
    · rfl
  · by_cases same : id = streamId
    · subst same
      simp only [Store.hget, Store.hset_hashes, if_true, hset_field ownId, hset_field named, true_and]
      exact status _
    · simpa [Store.hget, same] using fun status h => ⟨status, h⟩

/-- Only keys change that say nothing about links. -/
theorem same_of_eq {r r' : Store} (strings : ∀ subreddit,
      r'.entry (identityKey subreddit) = r.entry (identityKey subreddit) ∧
        r'.entry (subredditKey subreddit) = r.entry (subredditKey subreddit))
    (metadata : ∀ streamId, r'.entry (metaKey streamId) = r.entry (metaKey streamId) ∧
      r'.sets (metaKey streamId) = r.sets (metaKey streamId) ∧
      r'.hashes (metaKey streamId) = r.hashes (metaKey streamId)) : Same r r' := by
  refine ⟨⟨fun name => (strings name).2, fun id h => (metadata id).1.trans h,
    fun id => (metadata id).2.1, fun id => by rw [(metadata id).2.2], fun id _ => ?_⟩,
    fun name id h => ?_⟩
  · have kept (field : String) : r'.hget (metaKey id) field = r.hget (metaKey id) field := by
      rw [Store.hget, Store.hget, (metadata id).2.2]
    exact ⟨kept _, kept _, fun status h => ⟨status, (kept _).trans h⟩⟩
  · rwa [Store.get, (strings name).1] at h

theorem plain_same {c : RedisCmd} (plain : PlainCommand c) {r : Store}
    (found : ∀ key mapping, c = .hset key mapping → mapping.lookup "id" = none →
      (mapping.lookup "status").isSome → r.hashes key ≠ []) : Same r (c.run r).2 := by
  obtain ⟨anonymous, registry | lease⟩ := plain
  · cases registry with
    | get | keyExists | hgetall | hgetallEach | smembers => exact Same.refl r
    | claim | identity | delete => cases anonymous
    | metadata _ _ _ _ _ _ creates => exact (creates rfl).elim
    | stopRequest | unlist | unlistInstance | checkpoint =>
        exact same_of_eq (by simp [RedisCmd.run]) (by simp [RedisCmd.run])
    | list | listInstance =>
        exact same_of_eq (by simp [RedisCmd.run])
          (by simp [RedisCmd.run, Store.sadd_sets_of_ne])
    | status id status time instanceId written =>
        have lookups := Service.statusMapping_lookup status time instanceId
        exact hset_same (found _ _ rfl lookups.2 (by rw [lookups.1]; rfl)) lookups.2
          (by cases instanceId <;> rfl)
          fun h _ _ => ⟨status, by cases instanceId <;> simp [statusMapping]⟩
    | heartbeat id instanceId now =>
        simp only [RedisCmd.run, Script.run]
        split_ifs with other inactive
        · exact Same.refl r
        · exact Same.refl r
        · have touched : Same r (r.hset (metaKey id) [("updated_at", now)]) :=
            hset_same (Hash.ne_nil_of_get (not_not.mp other)) rfl rfl
              fun h status held => ⟨status, by simpa using held⟩
          exact touched.trans (same_of_eq (by simp) (by simp [Store.sadd_sets_of_ne]))
  · cases lease with
    | acquire name token ttl =>
        simp only [RedisCmd.run]
        split_ifs
        · exact Same.refl r
        · exact Same.refl r
        · exact same_of_eq (by simp [Store.entry_setEx]) (by simp [Store.setEx])
    | refresh name token ttl =>
        simp only [RedisCmd.run, Script.run]
        split_ifs
        · exact same_of_eq (fun _ => ⟨Store.entry_expire_of_ne _ (by simp), Store.entry_expire_of_ne _ (by simp)⟩)
            fun _ => ⟨Store.entry_expire_of_ne _ (by simp), (Store.expire_aside (by simp) _).2,
              (Store.expire_aside (by simp) _).1⟩
        · exact Same.refl r
    | release name token =>
        simp only [RedisCmd.run, Script.run]
        split_ifs
        · exact same_of_eq (by simp) (by simp)
        · exact Same.refl r

/-! ## What the steps leave of the invariant -/

/-- A plain command is no claim, and writes no metadata of a creator. -/
theorem plain_claimant {c : RedisCmd} (plain : PlainCommand c) : (s.note t c).claimant = s.claimant := by
  obtain ⟨anonymous, registry | lease⟩ := plain
  · cases registry with
    | claim | identity | delete => cases anonymous
    | metadata _ _ _ _ _ _ creates => exact (creates rfl).elim
    | hgetall | stopRequest => cases t <;> rfl
    | status id status time instanceId written =>
        have lookups := Service.statusMapping_lookup status time instanceId
        simp only [Service.note, lookups.1, lookups.2]
        cases t <;> rfl
    | checkpoint id mapping other =>
        simp only [Service.note, other]
    | _ => rfl
  · cases lease <;> rfl

theorem plain_kept {c : RedisCmd} (hs : Kept s) (plain : PlainCommand c)
    (found : ∀ key mapping, c = .hset key mapping → mapping.lookup "id" = none →
      (mapping.lookup "status").isSome → s.redis.hashes key ≠ []) :
    Kept (s.execute t c) ∧ ∀ u, Keeps u s (s.execute t c) := by
  have claimant : (s.execute t c).claimant = s.claimant := plain_claimant plain
  refine ⟨hs.same (by simp) claimant (plain_same plain found), fun u => ⟨?_, ?_, ?_⟩⟩
  · simp
  · simp
  · split
    · exact fun id => by rw [claimant]
    · trivial

/-- A new identity is that of a generated id. -/
theorem identity_kept (hs : Kept s) {subreddit streamId : String}
    (owned : s.owner streamId = some subreddit) :
    Kept (s.execute t (.setNx (identityKey subreddit) streamId none)) ∧
      ∀ u, Keeps u s (s.execute t (.setNx (identityKey subreddit) streamId none)) := by
  have claimant : (s.execute t (.setNx (identityKey subreddit) streamId none)).claimant = s.claimant := by
    simp only [Service.execute, Service.note]
    split
    · rfl
    · unfold Service.noteClaim
      split
      · rw [if_neg]
        cases s.calls _ <;> simp
      · rfl
  refine ⟨?_, fun u => ⟨by simp, by simp, ?_⟩⟩
  · rcases setNx_cases (identityKey subreddit) streamId s.redis with ⟨-, ran⟩ | ⟨-, ran⟩
    · exact hs.same (by simp) claimant (by rw [Service.execute_redis, ran]; exact Same.refl _)
    · refine hs.links (by simp) (fun name id held => ?_) claimant ?_
      · rw [Service.execute_redis, ran, Store.get_set] at held
        rw [Service.execute_owner]
        split at held
        · rename_i same
          cases held
          cases (Layout.key_inj.mp same).2
          exact owned
        · exact hs.identity name id held
      · rw [Service.execute_redis, ran]
        exact ⟨by simp, by simp, by simp, by simp,
          fun id _ => ⟨rfl, rfl, fun status h => ⟨status, h⟩⟩⟩
  · split
    · exact fun id => by rw [claimant]
    · trivial

/-- A creator claims a free subreddit, whose stream has no metadata then. -/
theorem claim_kept (hs : Kept s) {subreddit streamId instanceId : String} (free : Free call s)
    (known : s.calls call = some (instanceId, subreddit)) (owned : s.owner streamId = some subreddit) :
    let s' := s.execute (.start call) (.setNx (subredditKey subreddit) streamId none)
    Kept s' ∧ (∀ u, u ≠ .start call → Keeps u s s') ∧
      if s.redis.get (subredditKey subreddit) = none then Pending call streamId s' else Free call s' := by
  intro s'
  rcases setNx_cases (subredditKey subreddit) streamId s.redis with ⟨taken, ran⟩ | ⟨none, ran⟩
  · have still : s' = s := by
      simp only [s', Service.execute, Service.note, ran]
      rw [if_pos (by simpa [Option.isSome_iff_ne_none] using taken)]
    rw [still, if_neg taken]
    exact ⟨hs, fun u _ => keeps_refl u s, free⟩
  · have claimed : s' = { s with
        claimant := Function.update s.claimant streamId (some call)
        redis := s.redis.set (subredditKey subreddit) streamId } := by
      simp [s', Service.execute, Service.note, Service.noteClaim, ran, none, known]
    have absent : s.redis.hashes (metaKey streamId) = [] := by
      by_contra there
      obtain ⟨name, own, linked⟩ := hs.metadata streamId there
      cases owned.symm.trans own
      cases none.symm.trans linked.claim
    have unclaimed : s.claimant streamId = Option.none := by
      cases is : s.claimant streamId with
      | none => rfl
      | some other =>
          obtain ⟨-, name, own, held⟩ := hs.claimed streamId other is
          cases owned.symm.trans own
          cases none.symm.trans held
    rw [if_pos none, claimed]
    refine ⟨⟨?_, ?_, ?_, ?_, ?_, ?_⟩, fun u other => ⟨fun _ _ h => h, fun _ _ h => h, ?_⟩, ?_⟩
    · intro name id held
      exact hs.identity name id (by simpa using held)
    · intro name id held
      rw [Store.get_set] at held
      by_cases own : id = streamId
      · subst own
        refine ⟨?_, .inl (by simp)⟩
        split at held
        · rename_i same
          rwa [(Layout.key_inj.mp same).2]
        · exact (hs.claim name id held).1
      · split at held
        · cases held
          exact (own rfl).elim
        · simpa [Function.update_of_ne own] using hs.claim name id held
    · intro id there
      obtain ⟨name, own, linked⟩ := hs.metadata id there
      refine ⟨name, own, linked.ownId, linked.named, linked.status, ?_⟩
      rw [Store.get_set, if_neg, linked.claim]
      rintro same
      cases (Layout.key_inj.mp same).2
      cases none.symm.trans linked.claim
    · intro id other is
      by_cases own : id = streamId
      · subst own
        exact ⟨absent, subreddit, owned, by simp⟩
      · simp only [Function.update_of_ne own] at is
        obtain ⟨empty, name, own', held⟩ := hs.claimed id other is
        refine ⟨empty, name, own', ?_⟩
        rw [Store.get_set, if_neg, held]
        rintro same
        cases (Layout.key_inj.mp same).2
        cases none.symm.trans held
    · intro name e held
      rw [Store.entry_set] at held
      split at held
      · cases held
        rfl
      · exact hs.lasting name e held
    · intro id
      simpa using hs.typed id
    · split
      · rename_i other'
        intro id
        by_cases own : id = streamId
        · subst own
          simp only [Function.update_self, unclaimed, Option.some.injEq, reduceCtorEq, iff_false]
          rintro rfl
          exact other rfl
        · simp only [Function.update_of_ne own]
      · trivial
    · intro id
      by_cases own : id = streamId
      · simp [own]
      · simpa [own, Function.update_of_ne own] using free id

/-- The creator that holds the claim writes the metadata. -/
theorem metadata_kept (hs : Kept s) {streamId subreddit : String} (pending : Pending call streamId s)
    (owned : s.owner streamId = some subreddit) (config instanceId createdAt updatedAt : String) :
    let s' := s.execute (.start call) (.hset (metaKey streamId)
      (newMeta streamId subreddit config instanceId createdAt updatedAt))
    Kept s' ∧ (∀ u, u ≠ .start call → Keeps u s s') ∧ Free call s' := by
  intro s'
  obtain ⟨absent, name, own, held⟩ := hs.claimed streamId call ((pending streamId).mpr rfl)
  cases owned.symm.trans own
  have claimant : s'.claimant = Function.update s.claimant streamId none := rfl
  have redis : s'.redis = s.redis.hset (metaKey streamId)
    (newMeta streamId subreddit config instanceId createdAt updatedAt) := rfl
  have field (name : String) : s'.redis.hget (metaKey streamId) name =
      (Hash.setFields [] (newMeta streamId subreddit config instanceId createdAt updatedAt)).get name := by
    rw [redis, Store.hget, Store.hset_hashes, if_pos rfl, absent]
  have others {id : String} (ne : id ≠ streamId) :
      s'.redis.hashes (metaKey id) = s.redis.hashes (metaKey id) := by
    rw [redis, Store.hset_hashes, if_neg (by simpa using ne)]
  have linked : Linked s'.redis streamId subreddit := by
    refine ⟨?_, ?_, ⟨"starting", ?_⟩, by rw [redis, Store.get_hset, held]⟩ <;>
      rw [field] <;> rfl
  refine ⟨⟨?_, ?_, ?_, ?_, ?_, ?_⟩, fun u other => ⟨by simp [s'], by simp [s'], ?_⟩, ?_⟩
  · intro name id held
    simpa [s'] using hs.identity name id (by simpa [redis] using held)
  · intro name id held
    rw [redis, Store.get_hset] at held
    obtain ⟨own', waits⟩ := hs.claim name id held
    refine ⟨by simpa [s'] using own', ?_⟩
    by_cases ne : id = streamId
    · subst ne
      exact .inr (linked_present linked)
    · rw [claimant, Function.update_of_ne ne, others ne]
      exact waits
  · intro id there
    by_cases ne : id = streamId
    · subst ne
      exact ⟨subreddit, by simpa [s'] using owned, linked⟩
    · rw [others ne] at there
      obtain ⟨name, own', before⟩ := hs.metadata id there
      refine ⟨name, by simpa [s'] using own', ?_⟩
      exact linked_of_hashes before (others ne) (by rw [redis, Store.get_hset, before.claim])
  · intro id other is
    have ne : id ≠ streamId := by
      rintro rfl
      simp [claimant] at is
    rw [claimant, Function.update_of_ne ne] at is
    obtain ⟨empty, name, own', held'⟩ := hs.claimed id other is
    exact ⟨(others ne).trans empty, name, by simpa [s'] using own', by rw [redis, Store.get_hset, held']⟩
  · intro name e held
    exact hs.lasting name e (by simpa [redis] using held)
  · intro id
    simpa [redis] using hs.typed id
  · split
    · rename_i other'
      have ne : some call ≠ some other' := by
        rintro same
        cases same
        exact other rfl
      intro id
      rw [claimant]
      by_cases own' : id = streamId
      · subst own'
        rw [Function.update_self, (pending id).mpr rfl]
        exact iff_of_false (Option.some_ne_none other').symm ne
      · rw [Function.update_of_ne own']
    · trivial
  · intro id
    rw [claimant]
    by_cases own' : id = streamId
    · simp [own']
    · rw [Function.update_of_ne own']
      exact fun is => own' ((pending id).mp is)

/-- A deletion takes the claim along with the metadata. -/
theorem delete_kept (hs : Kept s) {streamId subreddit : String}
    (owned : s.owner streamId = some subreddit) (status updatedAt purge : String) :
    let s' := s.execute t (.eval (deleteScript streamId subreddit status updatedAt purge))
    Kept s' ∧ ∀ u, Keeps u s s' := by
  intro s'
  have claimant : s'.claimant = s.claimant := by
    simp only [s', Service.execute, Service.note]
    split
    · cases t <;> rfl
    · rfl
  have keeps (u : Thread) : Keeps u s s' := by
    refine ⟨by simp [s'], by simp [s'], ?_⟩
    split
    · exact fun id => by rw [claimant]
    · trivial
  refine ⟨?_, keeps⟩
  rcases deleteScript_cases streamId subreddit status updatedAt purge s.redis with same | ⟨done, removed⟩
  · exact hs.same (by simp [s']) claimant
      (by simp only [s', Service.execute_redis, RedisCmd.run, same]; exact Same.refl _)
  · have there : s.redis.hashes (metaKey streamId) ≠ [] := by
      intro none
      have blank : s.redis.has (metaKey streamId) = false := by
        simp [Store.has, hs.typed streamId, none]
      simp [Script.run, blank] at done
    obtain ⟨_, own, linked⟩ := hs.metadata streamId there
    cases owned.symm.trans own
    have entries := deleteScript_entries streamId subreddit status updatedAt purge s.redis
    have redis : s'.redis = ((deleteScript streamId subreddit status updatedAt purge).run s.redis).2 := rfl
    have owner : s'.owner = s.owner := by simp [s']
    -- what another stream has stays as it is
    have others {name id : String} (ne : id ≠ streamId)
        (held : s.redis.get (subredditKey name) = some id) :
        s'.redis.get (subredditKey name) = some id := by
      rw [redis, removed.claim, if_neg, held]
      rintro ⟨-, same⟩
      exact ne (Option.some.inj (held.symm.trans same))
    rw [← redis] at removed entries
    refine ⟨fun name id held => ?_, fun name id held => ?_, fun id present => ?_, fun id call is => ?_,
      fun name e held => hs.lasting name e (entries.1 name e held), fun id => entries.2 id (hs.typed id)⟩
    · rw [owner]
      rw [removed.identity] at held
      split at held
      · rename_i same
        split at held <;> cases held
        rw [same, owned]
      · exact hs.identity name id held
    · rw [removed.claim] at held
      split at held
      · cases held
      · rename_i kept
        obtain ⟨own', waits⟩ := hs.claim name id held
        have ne : id ≠ streamId := by
          rintro rfl
          cases owned.symm.trans own'
          exact kept ⟨rfl, held⟩
        rw [owner, claimant, removed.metadata, if_neg ne]
        exact ⟨own', waits⟩
    · rw [removed.metadata] at present
      split at present
      · exact (present rfl).elim
      · rename_i ne
        obtain ⟨name, own', before⟩ := hs.metadata id present
        exact ⟨name, owner ▸ own', linked_of_hashes before (by rw [removed.metadata, if_neg ne])
          (others ne before.claim)⟩
    · rw [claimant] at is
      obtain ⟨empty, name, own', held⟩ := hs.claimed id call is
      have ne : id ≠ streamId := by
        rintro rfl
        exact there empty
      exact ⟨by rw [removed.metadata, if_neg ne, empty], name, owner ▸ own', others ne held⟩

/-- Time passes, and claims stay. -/
theorem elapse_same (hs : Kept s) (n : Nat) : Same s.redis (s.redis.elapse n) := by
  refine ⟨⟨fun name => ?_, fun id none => ?_, fun _ => rfl, fun _ => .rfl,
    fun _ _ => ⟨rfl, rfl, fun status h => ⟨status, h⟩⟩⟩, fun name id held => Store.get_elapse held⟩
  · cases before : s.redis.entry (subredditKey name) with
    | some e =>
        have forever := hs.lasting name e before
        simp only [Store.entry, Option.filter_eq_some_iff] at before ⊢
        exact ⟨before.1, by simp [Entry.liveAt, forever]⟩
    | none =>
        cases after : (s.redis.elapse n).entry (subredditKey name) with
        | none => rfl
        | some e => cases before.symm.trans (Store.entry_elapse after)
  · cases after : (s.redis.elapse n).entry (metaKey id) with
    | none => rfl
    | some e => cases none.symm.trans (Store.entry_elapse after)

theorem kept_of_aside (hs : Kept s) (aside : s.Aside s') (owner : s'.owner = s.owner)
    (calls : ∀ call started, s.calls call = some started → s'.calls call = some started) :
    Kept s' ∧ ∀ u, Keeps u s s' := by
  obtain ⟨n, redis⟩ := aside.redis
  refine ⟨hs.same owner aside.claimant (redis ▸ elapse_same hs n), fun u =>
    ⟨by simp [owner], calls, ?_⟩⟩
  split
  · exact fun id => by rw [aside.claimant]
  · trivial

theorem taskAnswer_calls {e : TaskEff} {turn : Turn} {r : Except PyExc e.Answer}
    (answered : s.taskAnswer call e turn = some (r, s')) : s'.calls = s.calls := by
  unfold Service.taskAnswer at answered
  split at answered
  case h_1 | h_2 => split at answered <;> cases answered <;> rfl
  all_goals
    try split at answered
    all_goals
      cases answered
      try rfl

/-! ## Programs -/

/-- What every operation may await that neither claims, nor registers, nor deletes. -/
def PlainLink (e : Effect) : Prop :=
  e.anonymous ∧ ServiceEffect (fun _ permission => permission ≠ .create) e

theorem link_answer {c : Effect} {turn : Turn} {r : Except PyExc c.Answer}
    (answered : (linkMachine kafkaTopic).answer t c turn s = some (r, s')) :
    t.unlinks c turn s = false ∧ Service.answer true t c turn s = some (r, s') := by
  simp only [linkMachine] at answered
  split at answered
  · cases answered
  · rename_i linked
    exact ⟨by simpa using linked, answered⟩

theorem plain_answer (hs : Kept s) {c : Effect} (plain : PlainLink c) {turn : Turn}
    {r : Except PyExc c.Answer} (linked : t.unlinks c turn s = false)
    (answered : Service.answer true t c turn s = some (r, s')) :
    Kept s' ∧ ∀ u, Keeps u s s' := by
  have still : Kept s ∧ ∀ u, Keeps u s s := ⟨hs, fun u => keeps_refl u s⟩
  cases c with
  | redis c =>
      have executed (ran : ∀ e, turn ≠ .raised e) : Kept (s.execute t c) ∧ ∀ u, Keeps u s (s.execute t c) := by
        refine plain_kept hs ⟨plain.1, plain.2⟩ fun key mapping same noId status => ?_
        subst same
        cases turn with
        | raised e => exact (ran e rfl).elim
        | _ => simpa [Thread.unlinks, noId, status] using linked
      cases turn with
      | answered => cases answered; exact executed nofun
      | raisedAfter e => cases answered; exact executed nofun
      | raised e => cases answered; exact still
      | named | worker => cases answered
  | task c =>
      exact kept_of_aside hs (Service.taskAnswer_aside answered)
        (Service.Identified.taskAnswer_owner answered)
        fun call started h => by rw [taskAnswer_calls answered, h]
  | uuid4 => exact plain.1.elim
  | reply => exact plain.2.elim
  | ownerToken instanceId =>
      cases turn with
      | named text =>
          simp only [Service.answer] at answered
          split at answered <;> cases answered
          exact kept_of_aside hs
            ⟨⟨0, rfl⟩, rfl, rfl, rfl, rfl, rfl, rfl, rfl, rfl, fun _ _ h => h⟩ rfl fun _ _ h => h
      | _ => cases answered
  | worker c =>
      cases turn with
      | worker c' r' =>
          simp only [Service.answer] at answered
          split at answered <;> cases answered
          exact still
      | _ => cases answered
  | persist | sleep | getSerializer =>
      cases turn with
      | answered => cases answered; exact still
      | raised e =>
          simp only [Service.answer] at answered
          split at answered <;> cases answered
          exact still
      | _ => cases answered
  | nowIso =>
      cases turn <;> cases answered
      exact still

section programs

variable {α β : Type} {subreddit streamId instanceId config : String}

abbrev LinkSafe (kafkaTopic : String) (t : Thread) (p : Program α)
    (Q : Except PyExc α → Service → Prop) (s : Service) : Prop :=
  Safe (linkMachine kafkaTopic) linkDiscipline t p Q s

theorem link_await {c : Effect} {f : c.Answer → Program β} {Q : Except PyExc β → Service → Prop}
    (h : ∀ s₁ turn r s₂, Keeps t s s₁ → Kept s₁ → t.unlinks c turn s₁ = false →
      Service.answer true t c turn s₁ = some (r, s₂) →
        Kept s₂ ∧ (∀ u, u ≠ t → Keeps u s₁ s₂) ∧ LinkSafe kafkaTopic t (Prog.andThen f r) Q s₂) :
    LinkSafe kafkaTopic t (Prog.perform c >>= f) Q s := by
  refine Safe.await fun s₁ moved hs₁ => ⟨trivial, fun _ turn r s₂ answered => ?_⟩
  obtain ⟨linked, answered⟩ := link_answer answered
  exact h s₁ turn r s₂ moved hs₁ linked answered

/-- A plain program keeps whatever its thread knows. -/
theorem plain_safe {p : Program α} (uses : p.Uses PlainLink) {I : Service → Prop}
    (stable : ∀ a b, Keeps t a b → I a → I b) (holds : I s) :
    LinkSafe kafkaTopic t p (fun _ => I) s := by
  refine Safe.of_uses uses I holds (fun a b moved _ => stable a b moved)
    fun c s₁ plain hs₁ holds => ⟨trivial, fun _ turn r s₂ answered => ?_⟩
  obtain ⟨linked, answered⟩ := link_answer answered
  obtain ⟨hs₂, keeps⟩ := plain_answer hs₁ plain linked answered
  exact ⟨hs₂, fun u _ => keeps u, stable _ _ (keeps t) holds⟩

theorem plain_redis {c : RedisCmd} (anonymous : c.anonymous)
    (registry : RegistryCommand (fun _ permission => permission ≠ .create) c) :
    (redis c).Uses PlainLink :=
  Prog.Uses.perform ⟨anonymous, .inl registry⟩

theorem plain_of {p : Program α} (anonymous : p.Uses Effect.anonymous)
    (registry : p.Uses (RegistryEffect fun _ permission => permission ≠ .create)) :
    p.Uses PlainLink :=
  anonymous.and (registry.mono fun _ => RegistryEffect.service)

/-- A command was executed, or has failed before. -/
theorem redis_answer {c : RedisCmd} {turn : Turn} {r : Except PyExc c.Reply}
    (answered : Service.answer true t (.redis c) turn s = some (r, s')) :
    turn = .answered ∧ r = (c.run s.redis).1 ∧ s' = s.execute t c ∨
      (∃ e, r = .error e) ∧ ((∃ e, turn = .raisedAfter e) ∧ s' = s.execute t c ∨
        (∃ e, turn = .raised e) ∧ s' = s) := by
  cases turn with
  | answered => cases answered; exact .inl ⟨rfl, rfl, rfl⟩
  | raisedAfter e => cases answered; exact .inr ⟨⟨e, rfl⟩, .inl ⟨⟨e, rfl⟩, rfl⟩⟩
  | raised e => cases answered; exact .inr ⟨⟨e, rfl⟩, .inr ⟨⟨e, rfl⟩, rfl⟩⟩
  | named | worker => cases answered

theorem answer_kept (hs : Kept s) {c : RedisCmd} {turn : Turn} {r : Except PyExc c.Reply}
    (executed : Kept (s.execute t c) ∧ ∀ u, Keeps u s (s.execute t c))
    (answered : Service.answer true t (.redis c) turn s = some (r, s')) :
    Kept s' ∧ ∀ u, Keeps u s s' := by
  rcases redis_answer answered with ⟨-, -, rfl⟩ | ⟨-, ⟨-, rfl⟩ | ⟨-, rfl⟩⟩
  · exact executed
  · exact executed
  · exact ⟨hs, fun u => keeps_refl u _⟩

/-- Only the metadata, as it was read, says which subreddit a stream belongs to. -/
theorem deleteStream_link {status updatedAt : Option String} {purge : Bool} {I : Service → Prop}
    (stable : ∀ a b, Keeps t a b → I a → I b) (holds : I s) :
    LinkSafe kafkaTopic t (deleteStream streamId status updatedAt purge) (fun _ => I) s := by
  refine link_await fun s₁ turn r s₂ moved hs₁ linked answered => ?_
  obtain ⟨hs₂, keeps⟩ := plain_answer (c := .redis (.hgetall _)) hs₁ ⟨by trivial, .inl (.hgetall _)⟩
    linked answered
  have holds₂ : I s₂ := stable _ _ (keeps t) (stable _ _ moved holds)
  refine ⟨hs₂, fun u _ => keeps u, ?_⟩
  rcases redis_answer answered with ⟨-, rfl, -⟩ | ⟨⟨e, rfl⟩, -⟩
  swap
  · exact holds₂
  simp only [RedisCmd.run, Prog.andThen]
  split
  · exact holds₂
  rename_i subreddit named
  have held := (orNone_eq_some.mp named).1
  have owned : s₂.owner streamId = some subreddit := by
    obtain ⟨name, own, before⟩ := hs₁.metadata streamId (Hash.ne_nil_of_get held)
    cases held.symm.trans before.named
    exact (keeps t).1 _ _ own
  refine link_await fun s₃ turn' r' s₄ moved' hs₃ _ answered' => ?_
  have step : Kept s₄ ∧ ∀ u, Keeps u s₃ s₄ :=
    answer_kept hs₃ (delete_kept hs₃ (moved'.1 _ _ owned) _ _ _) answered'
  refine ⟨step.1, fun u _ => step.2 u, ?_⟩
  have holds₄ : I s₄ := stable _ _ (step.2 t) (stable _ _ moved' holds₂)
  cases r' with
  | error e => exact holds₄
  | ok deleted =>
      exact plain_safe (Prog.Uses.bind (plain_of (dropInstance_anonymous _ _ _)
        (dropInstance_uses _ _ _)) fun _ => by trivial) stable holds₄

theorem cleanup_link (hs : Kept s) {number : Nat} :
    LinkSafe kafkaTopic (.sweep number) DeadStreamCleanup.cleanup (fun _ _ => True) s := by
  have free (a b : Service) (_ : Keeps (.sweep number) a b) (_ : True) : True := trivial
  refine Safe.rescue hs (P := fun _ _ => True) (Safe.bind hs
    (plain_safe (plain_of listStreams_anonymous listStreams_uses) free trivial)
    (fun streams s hs _ => ?_) fun _ _ _ _ => trivial) (fun _ _ _ _ => trivial)
    fun e s _ _ => by split <;> trivial
  induction streams generalizing s with
  | nil => trivial
  | cons stream streams ih =>
      refine Safe.bind hs (P := fun _ _ => True) ?_ (fun _ s hs _ => ih s hs) fun _ _ _ _ => trivial
      unfold DeadStreamCleanup.retire
      split
      · exact Safe.rescue hs (P := fun _ _ => True) (Safe.bind hs (deleteStream_link free trivial)
          (fun _ _ _ _ => trivial) fun _ _ _ _ => trivial) (fun _ _ _ _ => trivial)
          fun e s _ _ => by split <;> trivial
      · trivial

/-- What a `start_stream` knows of its call. -/
def Calling (call : Nat) (instanceId subreddit : String) (s : Service) : Prop :=
  s.calls call = some (instanceId, subreddit) ∧ Free call s

theorem Calling.kept (h : Calling call instanceId subreddit s) (moved : Keeps (.start call) s s') :
    Calling call instanceId subreddit s' :=
  ⟨moved.2.1 _ _ h.1, fun id is => h.2 id ((moved.2.2 id).mp is)⟩

/-- A creator between its claim and its metadata. -/
structure Claiming (call : Nat) (instanceId subreddit streamId : String) (s : Service) : Prop where
  known : s.calls call = some (instanceId, subreddit)
  pending : Pending call streamId s
  owned : s.owner streamId = some subreddit

theorem Claiming.kept (h : Claiming call instanceId subreddit streamId s)
    (moved : Keeps (.start call) s s') : Claiming call instanceId subreddit streamId s' :=
  ⟨moved.2.1 _ _ h.known, fun id => (moved.2.2 id).trans (h.pending id), moved.1 _ _ h.owned⟩

theorem register_link (hs : Kept s) (claiming : Claiming call instanceId subreddit streamId s)
    (named : Option String) :
    LinkSafe kafkaTopic (.start call) (register streamId subreddit config named)
      (fun _ => Free call) s := by
  have time {s : Service} (claiming : Claiming call instanceId subreddit streamId s) :
      LinkSafe kafkaTopic (.start call) nowIso
        (fun r s => (∃ text, r = .ok text) ∧ Claiming call instanceId subreddit streamId s) s := by
    intro s₁ moved hs₁
    refine ⟨trivial, fun _ turn r s₂ answered => ?_⟩
    obtain ⟨-, answered⟩ := link_answer answered
    cases turn <;> cases answered
    exact ⟨hs₁, fun u _ => keeps_refl u _, ⟨_, rfl⟩, claiming.kept moved⟩
  refine Safe.bind hs (time claiming) (fun createdAt s hs claiming => ?_)
    fun e s _ failed => by simp at failed
  refine Safe.bind hs (time claiming.2) (fun updatedAt s hs claiming => ?_)
    fun e s _ failed => by simp at failed
  refine link_await fun s₁ turn r s₂ moved hs₁ linked answered => ?_
  have claiming := claiming.2.kept moved
  obtain ⟨hs₂, others, free⟩ := metadata_kept hs₁ claiming.pending claiming.owned config
    (named.getD "") createdAt updatedAt
  rcases redis_answer answered with ⟨-, rfl, rfl⟩ | ⟨⟨e, rfl⟩, ⟨-, rfl⟩ | ⟨⟨e, rfl⟩, rfl⟩⟩
  · refine ⟨hs₂, others, plain_safe ?_ (fun a b moved free id is => free id ((moved.2.2 id).mp is)) free⟩
    refine (plain_redis (by trivial) (.list _)).bind fun _ => Prog.Uses.bind ?_ fun _ =>
      (plain_of persist_anonymous persist_uses).bind fun _ => by trivial
    unfold indexInstance
    split
    · trivial
    · exact plain_redis (by trivial) (.listInstance _ _)
  · exact ⟨hs₂, others, free⟩
  · cases linked

theorem claim_link (calling : Calling call instanceId subreddit s)
    (owned : s.owner streamId = some subreddit) (named : Option String) :
    LinkSafe kafkaTopic (.start call) (claim streamId subreddit config named) (fun _ => Free call) s := by
  refine link_await fun s₁ turn r s₂ moved hs₁ linked answered => ?_
  have calling := calling.kept moved
  have owned := moved.1 _ _ owned
  obtain ⟨hs₂, others, after⟩ := claim_kept hs₁ calling.2 calling.1 owned
  rcases redis_answer answered with ⟨-, rfl, rfl⟩ | ⟨⟨e, rfl⟩, ⟨⟨e, rfl⟩, rfl⟩ | ⟨-, rfl⟩⟩
  · refine ⟨hs₂, others, ?_⟩
    rcases setNx_cases (subredditKey subreddit) streamId s₁.redis with ⟨taken, ran⟩ | ⟨none, ran⟩
    · rw [if_neg taken] at after
      rw [ran]
      exact plain_safe ((plain_redis (by trivial) (.get _)).bind fun _ => by trivial)
        (fun a b moved free id is => free id ((moved.2.2 id).mp is)) after
    · rw [if_pos none] at after
      rw [ran]
      exact register_link hs₂ ⟨by simpa using calling.1, after, by simpa using owned⟩ named
  · -- a claim that took effect does not fail here
    have taken : s₁.redis.get (subredditKey subreddit) ≠ none := by
      intro none
      simp [Thread.unlinks, none, Thread.call, calling.1] at linked
    rw [if_neg taken] at after
    exact ⟨hs₂, others, after⟩
  · exact ⟨hs₁, fun u _ => keeps_refl u _, calling.2⟩

/-- A generated id belongs to the subreddit of the call. -/
theorem uuid4_kept (hs : Kept s) (known : s.calls call = some (instanceId, subreddit)) {turn : Turn}
    {r : Except PyExc String} (answered : Service.answer true (.start call) .uuid4 turn s = some (r, s')) :
    (Kept s' ∧ ∀ u, Keeps u s s') ∧ ∃ id, r = .ok id ∧ s'.owner id = some subreddit := by
  cases turn with
  | named id =>
      simp only [Service.answer] at answered
      split at answered
      rotate_left
      · cases answered
      rename_i same unused
      cases same
      split at answered <;> cases answered
      have older (id' name : String) (own : s.owner id' = some name) :
          Function.update s.owner id (some subreddit) id' = some name := by
        rw [Function.update_of_ne, own]
        rintro rfl
        cases unused.symm.trans own
      simp only [known, Option.map_some, Option.getD_some]
      refine ⟨⟨hs.links older (fun name id' held => older _ _ (hs.identity name id' held)) rfl
        (Same.refl _).toLinks, fun u => ⟨older, fun _ _ h => h, ?_⟩⟩, id, rfl, by simp⟩
      split
      · exact fun _ => .rfl
      · trivial
  | _ => cases answered

/-- The id of the subreddit, whichever creator has chosen it. -/
theorem resolveIdentity_link {candidateId : String} (calling : Calling call instanceId subreddit s)
    (owned : s.owner candidateId = some subreddit) :
    LinkSafe kafkaTopic (.start call) (resolveIdentity subreddit candidateId)
      (fun r s => Calling call instanceId subreddit s ∧
        ∀ streamId, r = .ok (some streamId) → s.owner streamId = some subreddit) s := by
  refine link_await fun s₁ turn r s₂ moved hs₁ _ answered => ?_
  have owned := moved.1 _ _ owned
  obtain ⟨hs₂, keeps⟩ := answer_kept hs₁ (identity_kept hs₁ owned) answered
  have calling := (calling.kept moved).kept (keeps _)
  have owned := (keeps (.start call)).1 _ _ owned
  refine ⟨hs₂, fun u _ => keeps u, ?_⟩
  rcases r with e | _ | _
  · exact ⟨calling, nofun⟩
  · intro s₃ moved hs₃
    refine ⟨trivial, fun _ turn r s₄ answered => ?_⟩
    obtain ⟨linked, answered⟩ := link_answer answered
    obtain ⟨hs₄, keeps⟩ := plain_answer (c := .redis (.get _)) hs₃ ⟨by trivial, .inl (.get _)⟩
      linked answered
    have calling := (calling.kept moved).kept (keeps _)
    refine ⟨hs₄, fun u _ => keeps u, ?_⟩
    rcases redis_answer answered with ⟨-, rfl, -⟩ | ⟨⟨e, rfl⟩, -⟩
    · exact ⟨calling, fun streamId same =>
        (keeps (.start call)).1 _ _ (hs₃.identity _ _ (Except.ok.inj same))⟩
    · exact ⟨calling, nofun⟩
  · exact ⟨calling, fun streamId same => by cases same; exact owned⟩

theorem free_stable (a b : Service) (moved : Keeps (.start call) a b) (free : Free call a) :
    Free call b :=
  fun id is => free id ((moved.2.2 id).mp is)

theorem createStream_link (calling : Calling call instanceId subreddit s) (named : Option String) :
    LinkSafe kafkaTopic (.start call) (createStream subreddit config named)
      (fun _ => Free call) s := by
  refine link_await fun s₁ turn r s₂ moved hs₁ linked answered => ?_
  obtain ⟨hs₂, keeps⟩ := plain_answer (c := .redis (.get _)) hs₁ ⟨by trivial, .inl (.get _)⟩
    linked answered
  have calling := (calling.kept moved).kept (keeps _)
  refine ⟨hs₂, fun u _ => keeps u, ?_⟩
  rcases redis_answer answered with ⟨-, rfl, -⟩ | ⟨⟨e, rfl⟩, -⟩
  swap
  · exact calling.2
  simp only [RedisCmd.run, Prog.andThen]
  split
  · rename_i existing found
    -- the claim that was found holds an id of the same subreddit
    have owned := (keeps (.start call)).1 _ _ (hs₁.claim _ _ (orNone_eq_some.mp found).1).1
    refine link_await fun s₃ turn r s₄ moved hs₃ _ answered => ?_
    obtain ⟨hs₄, keeps⟩ := answer_kept hs₃ (identity_kept hs₃ (moved.1 _ _ owned)) answered
    refine ⟨hs₄, fun u _ => keeps u, ?_⟩
    have calling := (calling.kept moved).kept (keeps _)
    cases r <;> exact calling.2
  · refine link_await fun s₃ turn r s₄ moved hs₃ _ answered => ?_
    obtain ⟨⟨hs₄, keeps⟩, candidateId, rfl, owned⟩ := uuid4_kept hs₃ (calling.kept moved).1 answered
    refine ⟨hs₄, fun u _ => keeps u, ?_⟩
    refine Safe.bind hs₄ (resolveIdentity_link ((calling.kept moved).kept (keeps _)) owned)
      (fun found s hs resolved => ?_) fun e s _ failed => failed.1.2
    split
    · rename_i streamId usable
      exact claim_link resolved.1 (resolved.2 streamId (by rw [(orNone_eq_some.mp usable).1])) named
    · exact resolved.1.2

theorem startStream_link (hs : Kept s) (calling : Calling call instanceId subreddit s) :
    LinkSafe kafkaTopic (.start call) (startStream instanceId subreddit config)
      (fun _ => Free call) s := by
  refine Safe.bind hs (createStream_link calling _) (fun metadata s hs free => ?_)
    fun _ _ _ free => free
  refine Safe.bind hs (plain_safe ((acquireLock_anonymous _ _ _).and (acquireLock_uses _ _ _))
    free_stable free) (fun token s hs free => ?_) fun _ _ _ free => free
  cases token with
  | none =>
      exact Safe.bind hs (deleteStream_link free_stable free) (fun _ _ _ free => free)
        fun _ _ _ free => free
  | some token =>
      exact Safe.bind hs (plain_safe ((launch_anonymous _ _ _ _).and
        (launch_uses _ _ _ nofun)) free_stable free) (fun _ _ _ free => free)
        fun _ _ _ free => free

/-- A thread that starts knows its call, and nothing else changes. -/
theorem start_known {event : ServiceEvent} {p : Program Unit}
    (started : Service.start kafkaTopic t event s = some (p, s')) :
    s'.owner = s.owner ∧ ∀ call known, s.calls call = some known → s'.calls call = some known := by
  have stop (request : Nat) (streamId : String) (q : Program Unit)
      (begun : s.beginRequest request streamId q = some (p, s')) :
      s'.owner = s.owner ∧ ∀ call known, s.calls call = some known → s'.calls call = some known := by
    unfold Service.beginRequest at begun
    split at begun <;> cases begun
    exact ⟨rfl, fun _ _ h => h⟩
  unfold Service.start at started
  split at started
  · rename_i call instanceId subreddit config
    split at started <;> cases started
    rename_i unused
    refine ⟨rfl, fun other known h => ?_⟩
    have ne : other ≠ call := by
      rintro rfl
      cases unused.symm.trans h
    exact (Function.update_of_ne ne _ _).trans h
  · exact stop _ _ _ started
  · exact stop _ _ _ started
  · exact stop _ _ _ started
  · cases started
    exact ⟨rfl, fun _ _ h => h⟩
  · split at started <;> cases started
    exact ⟨rfl, fun _ _ h => h⟩
  · cases started

theorem start_link {event : ServiceEvent} {p : Program Unit} (hs : Kept s) (rested : linkPost t s)
    (started : Service.start kafkaTopic t event s = some (p, s')) :
    Kept s' ∧ (∀ u, Keeps u s s') ∧ LinkSafe kafkaTopic t p (fun _ => linkPost t) s' := by
  have ⟨owner, calls⟩ := start_known started
  obtain ⟨hs', keeps⟩ := kept_of_aside hs (Service.start_aside started) owner calls
  refine ⟨hs', keeps, ?_⟩
  have plain {t : Thread} {q : Program Unit} (uses : q.Uses PlainLink) :
      LinkSafe kafkaTopic t q (fun _ _ => True) s' :=
    plain_safe uses (fun _ _ _ h => h) trivial
  have stop (request : Nat) (streamId : String) (q : Program Unit) (anonymous : q.Uses Effect.anonymous)
      (uses : q.Uses (PlainEffect fun _ permission => permission ≠ .create))
      (begun : s.beginRequest request streamId q = some (p, s')) :
      LinkSafe kafkaTopic (.stop request) p (fun _ _ => True) s' := by
    unfold Service.beginRequest at begun
    split at begun <;> cases begun
    exact plain (anonymous.and (uses.mono fun _ => PlainEffect.service))
  unfold Service.start at started
  split at started
  · rename_i call instanceId subreddit config
    split at started <;> cases started
    have free := (keeps (.start call)).2.2
    exact Safe.bind hs' (startStream_link hs' ⟨by simp, fun id is => rested id ((free id).mp is)⟩)
      (fun _ _ _ free => free) fun _ _ _ free => free
  · exact stop _ _ _ (stopEndpoint_anonymous _ _) (stopEndpoint_uses _ nofun nofun) started
  · exact stop _ _ _ (stopStream_anonymous _ _) (stopStream_uses _ nofun nofun) started
  · exact stop _ _ _ (requestStop_anonymous _) (requestStop_plain nofun nofun) started
  · cases started
    exact cleanup_link hs'
  · rename_i task begun
    split at started <;> cases started
    refine plain ((task_anonymous _ _).and ((Task.program_uses _ _).mono fun _ h =>
      h.mono fun _ permission => ?_))
    rintro (rfl | rfl) <;> nofun
  · cases started

theorem link_resting : Resting (linkMachine kafkaTopic) linkDiscipline (fun t _ => linkPost t) linkPost where
  post_stable t r a b moved _ held := by
    cases t with
    | start call => exact free_stable a b moved held
    | _ => trivial
  rest_stable t a b moved _ held := by
    cases t with
    | start call => exact free_stable a b moved held
    | _ => trivial
  start _ _ _ _ _ hs rested started :=
    have ⟨hs', keeps, safe⟩ := start_link hs rested started
    ⟨hs', fun u _ => keeps u, safe⟩
  finish t r s hs held := by
    have ⟨hs', keeps⟩ := kept_of_aside hs (Service.finish_aside (t := t) r)
      (by cases t <;> rfl) (by cases t <;> exact fun _ _ h => h)
    refine ⟨hs', fun u _ => keeps u, ?_⟩
    cases t with
    | start call => exact held
    | _ => trivial
  tick event s s' hs ticked := by
    have same : s'.owner = s.owner ∧ s'.calls = s.calls := by
      change Service.tick event s = some s' at ticked
      unfold Service.tick at ticked
      split at ticked
      · cases ticked; exact ⟨rfl, rfl⟩
      · split at ticked <;> cases ticked
        exact ⟨rfl, rfl⟩
      · cases ticked
    exact kept_of_aside hs (Service.tick_aside ticked) same.1 fun _ _ h => by rw [same.2, h]

theorem empty_kept : Kept {} where
  identity _ _ held := by cases held
  claim _ _ held := by cases held
  metadata _ there := (there rfl).elim
  claimed _ _ claimed := by cases claimed
  lasting _ _ held := by cases held
  typed _ := ⟨rfl, rfl⟩

end programs

end RegistryLinks

open RegistryLinks

/-- In every such run, whenever no `start_stream` is in progress, metadata and claims belong
together. -/
theorem registry_represented (kafkaTopic : String) (c : ServiceConfig)
    (h : (linkMachine kafkaTopic).Reaches (Config.initial {}) c)
    (idle : ∀ call, c.threads (.start call) = none) : Represented c.state.redis := by
  have start : Rested (linkMachine kafkaTopic) linkDiscipline (fun t _ => linkPost t) linkPost
      (Config.initial {}) :=
    ⟨Orderly.initial empty_kept, fun t _ => by
      cases t with
      | start call => exact fun _ claimed => by cases claimed
      | _ => trivial⟩
  have rested := link_resting.reaches start h
  have unclaimed (streamId : String) : c.state.claimant streamId = none := by
    by_contra claimed
    obtain ⟨call, claimed⟩ := Option.ne_none_iff_exists'.mp claimed
    exact rested.idle (.start call) (idle call) streamId claimed
  refine ⟨fun id there => ?_, fun name id held => ?_⟩
  · obtain ⟨name, -, linked⟩ := rested.inv.metadata id there
    exact ⟨name, linked⟩
  · obtain ⟨own, waits⟩ := rested.inv.claim name id held
    obtain ⟨name', own', linked⟩ := rested.inv.metadata id (waits.resolve_left (· (unclaimed id)))
    cases own.symm.trans own'
    exact linked

/-! ## Concrete runs -/

namespace RegistryLinks

/-- A stream is started on one instance and, before its last status write, stopped through
another; its task ends, and a sweep deletes it. -/
def deletedEarly : List (Action Thread Turn ServiceEvent) :=
  .start (.start 0) (.startStream "i" "news" "config") :: (Thread.start 0).turns startTurns ++
    .start (.stop 0) (.stopStream "j" "s") ::
      (Thread.stop 0).turns (stopTurns ++ [.answered, .answered, .answered]) ++
    [.finish (.stop 0), .start (.task 0 .run) .begin] ++
      (Thread.task 0 .run).turns [.answered, .answered] ++
    [.start (.task 0 .watcher) .begin, .unroll (.task 0 .watcher),
      .call (.task 0 .watcher) .answered, .finish (.task 0 .watcher)] ++
      (Thread.task 0 .run).turns [.answered, .answered, .answered] ++
    .tick (.cancelledEarly 0 .runner) ::
      (Thread.task 0 .run).turns [.answered, .named "now", .answered, .answered, .answered,
        .answered, .answered, .answered] ++
    [.finish (.task 0 .run), .start (.sweep 0) .cleanup] ++
      (Thread.sweep 0).turns [.answered, .answered, .answered, .answered, .answered] ++
    [.finish (.sweep 0)]

/-- The end of its `start_stream`. -/
def activated : List (Action Thread Turn ServiceEvent) :=
  (Thread.start 0).turns [.answered, .answered, .answered] ++ [.finish (.start 0)]

end RegistryLinks

theorem started_stream_represented : ∃ c,
    (linkMachine "topic").Reaches (Config.initial {}) c ∧
      c.state.redis.hashes (metaKey "s") ≠ [] ∧ Represented c.state.redis := by
  have run : ((linkMachine "topic").exec
      (.start (.start 0) (.startStream "i" "news" "config") ::
        (Thread.start 0).turns startTurns ++ activated) (Config.initial {})).map
      (fun c => (c.state.redis.hget (metaKey "s") "status",
        [Thread.start 0].all fun t => (c.threads t).isNone)) = some (some "active", true) := rfl
  obtain ⟨c, ran, seen⟩ := Option.map_eq_some_iff.mp run
  obtain ⟨status, ended⟩ := Prod.mk.inj seen
  have reached := Machine.Reaches.of_exec ran
  have idle : ∀ t, c.threads t = none := Machine.exec_idle ran (fun _ => rfl) (by decide) ended
  exact ⟨c, reached, Hash.ne_nil_of_get status,
    registry_represented "topic" c reached fun call => idle (.start call)⟩

/-- The last status write of the start finds no metadata, and leaves some without an id. -/
theorem unclaimed_metadata_left : ∃ c,
    (serviceMachine false "topic").Reaches (Config.initial {}) c ∧ (∀ t, c.threads t = none) ∧
      ¬ Represented c.state.redis := by
  have run : ((serviceMachine false "topic").exec (deletedEarly ++ activated)
      (Config.initial {})).map (fun c => (c.state.redis.hget (metaKey "s") "status",
        c.state.redis.hget (metaKey "s") "id",
        [Thread.start 0, .stop 0, .task 0 .run, .task 0 .watcher, .sweep 0].all
          fun t => (c.threads t).isNone)) = some (some "active", none, true) := rfl
  obtain ⟨c, ran, seen⟩ := Option.map_eq_some_iff.mp run
  simp only [Prod.mk.injEq] at seen
  obtain ⟨status, nameless, ended⟩ := seen
  refine ⟨c, Machine.Reaches.of_exec ran,
    Machine.exec_idle ran (fun _ => rfl) (by decide) ended, fun represented => ?_⟩
  obtain ⟨_, linked⟩ := represented.metadata "s" (Hash.ne_nil_of_get status)
  cases nameless.symm.trans linked.ownId

end RedditKafka
