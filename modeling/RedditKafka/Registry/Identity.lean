import RedditKafka.Registry.Calls

/-!
# Stable identities

Every id that the registry stores for a subreddit was generated for it. Unless
checkpoints are purged, the identity of a subreddit never changes once it is
stored, and before that the only claim on the subreddit names it.
-/
namespace RedditKafka
open Async Redis StreamRegistry DeadStreamCleanup

namespace Registry

abbrev identity (s : Registry) (subreddit : String) : Option String :=
  s.redis.get (identityKey subreddit)

abbrev claim (s : Registry) (subreddit : String) : Option String :=
  s.redis.get (subredditKey subreddit)

abbrev metadata (s : Registry) (streamId : String) : Hash := s.redis.hashes (metaKey streamId)

/-- The id is the identity of the subreddit, or the claim from before identity keys existed. -/
def Bound (s : Registry) (subreddit streamId : String) : Prop :=
  s.identity subreddit = some streamId ∨
    s.identity subreddit = none ∧ s.claim subreddit = some streamId

/-- No such claim from before is left on the subreddit. -/
def Free (s : Registry) (subreddit : String) : Prop :=
  s.identity subreddit ≠ none ∨ s.claim subreddit = none

/-- The id was generated for the subreddit and is, without purges, its identity. -/
structure Settled (retain : Bool) (s : Registry) (subreddit streamId : String) : Prop where
  issued : s.issued streamId = some subreddit
  identity : retain = true → s.identity subreddit = some streamId

/-- What a finished call has returned. -/
def Honest (retain : Bool) (s : Registry) (caller : Nat) (outcome : Except PyExc Reply) : Prop :=
  match s.operation caller with
  | some (.createStream subreddit _ _) => ∀ data, outcome = .ok (.metadata data) →
      ∃ streamId, data.get "id" = some streamId ∧ s.Settled retain subreddit streamId
  | some (.getCheckpoint _) => retain = true → ∀ checkpoint, outcome = .ok (.checkpoint checkpoint) →
      checkpoint = ⟨(s.resumed caller).get "last_comment_id",
        (s.resumed caller).get "last_processed_at", (s.resumed caller).get "updated_at"⟩
  | some (.deleteStream _ _ _ _) => outcome = .ok (.flag false) → s.touched caller = false
  | _ => True

structure Consistent (retain : Bool) (s : Registry) : Prop where
  idle : ∀ caller, s.operation caller = none → s.returned caller = none ∧ s.touched caller = false
  blank : s.issued "" = none
  identities : ∀ subreddit streamId, s.identity subreddit = some streamId →
    s.issued streamId = some subreddit
  claims : ∀ subreddit streamId, s.claim subreddit = some streamId →
    s.issued streamId = some subreddit
  metadata : ∀ streamId subreddit, (s.metadata streamId).get "subreddit" = some subreddit →
    s.issued streamId = some subreddit
  times : ∀ streamId time, (s.metadata streamId).get "updated_at" = some time → time ≠ ""
  scans : ∀ caller, ∀ row ∈ s.scanned caller, ∀ time, row.get "updated_at" = some time → time ≠ ""
  claimsBound : retain = true → ∀ subreddit streamId, s.claim subreddit = some streamId →
    s.Bound subreddit streamId
  metadataBound : retain = true → ∀ streamId subreddit,
    (s.metadata streamId).get "subreddit" = some subreddit → s.Bound subreddit streamId
  progress : retain = true → ∀ streamId,
    s.redis.hashes (checkpointKey streamId) = s.progress streamId
  results : ∀ caller outcome, s.returned caller = some outcome → s.Honest retain caller outcome

/-- Facts about identities that no caller can end. -/
structure Lasting (retain : Bool) (s s' : Registry) : Prop where
  issued : ∀ streamId subreddit, s.issued streamId = some subreddit →
    s'.issued streamId = some subreddit
  identity : retain = true → ∀ subreddit streamId, s.identity subreddit = some streamId →
    s'.identity subreddit = some streamId
  bound : retain = true → ∀ subreddit streamId, s.Bound subreddit streamId →
    s'.Bound subreddit streamId
  free : retain = true → ∀ subreddit, s.Free subreddit → s'.Free subreddit
  scanned : ∀ caller, ∀ row ∈ s.scanned caller, row ∈ s'.scanned caller

/-- What a caller relies on: these facts, and its own records. -/
structure Keeps (retain : Bool) (caller : Nat) (s s' : Registry) : Prop extends
    Lasting retain s s' where
  operation : s'.operation caller = s.operation caller
  returned : s'.returned caller = s.returned caller
  resumed : s'.resumed caller = s.resumed caller
  touched : s'.touched caller = s.touched caller

/-- A sweep's deletion purges nothing, and its guards come from a dead row that it has scanned. -/
def Vouched (s : Registry) (caller : Nat) (streamId status updatedAt purge : String) : Prop :=
  s.operation caller = some .cleanup → purge ≠ "1" ∧ ∃ row ∈ s.scanned caller,
    row.get "id" = some streamId ∧ isDeadStream row = true ∧
    status = (orNone (row.get "status")).getD "" ∧
    updatedAt = (orNone (row.get "updated_at")).getD ""

/-- The commands of the registry, with what their callers know when they issue them. -/
inductive Faithful (retain : Bool) (s : Registry) (caller : Nat) : RedisCmd → Prop
  | get (key : String) : Faithful retain s caller (.get key)
  | keyExists (key : String) : Faithful retain s caller (.keyExists key)
  | hgetall (key : String) : Faithful retain s caller (.hgetall key)
  | smembers (key : String) : Faithful retain s caller (.smembers key)
  | scan (streamIds : List String) : Faithful retain s caller (.hgetallEach (streamIds.map metaKey))
  | identity (subreddit streamId : String) : s.issued streamId = some subreddit →
      (retain = true → s.Bound subreddit streamId ∨ s.Free subreddit) →
      Faithful retain s caller (.setNx (identityKey subreddit) streamId none)
  | claim (subreddit streamId : String) : s.Settled retain subreddit streamId →
      Faithful retain s caller (.setNx (subredditKey subreddit) streamId none)
  | metadata (streamId subreddit config instanceId createdAt updatedAt : String) :
      s.Settled retain subreddit streamId → updatedAt ≠ "" →
      Faithful retain s caller (.hset (metaKey streamId)
        (newMeta streamId subreddit config instanceId createdAt updatedAt))
  | status (streamId status updatedAt : String) (instanceId : Option String) : updatedAt ≠ "" →
      Faithful retain s caller (.hset (metaKey streamId) (statusMapping status updatedAt instanceId))
  | checkpoint (streamId : String) (lastCommentId lastProcessedAt : Option String)
      (mapping : List (String × String)) :
      s.operation caller = some (.setCheckpoint streamId lastCommentId lastProcessedAt) →
      Faithful retain s caller (.hset (checkpointKey streamId) mapping)
  | stopRequest (streamId value : String) :
      Faithful retain s caller (.set (stopRequestKey streamId) value)
  | list (key streamId : String) : Faithful retain s caller (.sadd key streamId)
  | unlist (key : String) (streamIds : List String) : Faithful retain s caller (.srem key streamIds)
  | heartbeat (streamId instanceId now : String) : now ≠ "" →
      Faithful retain s caller (.eval (.heartbeatIfActive (metaKey streamId) (instanceKey instanceId)
        instanceId now streamId))
  | delete (streamId subreddit status updatedAt purge : String) :
      s.issued streamId = some subreddit →
      (retain = true → s.Bound subreddit streamId ∧ purge ≠ "1") →
      s.Vouched caller streamId status updatedAt purge →
      Faithful retain s caller (.eval (.deleteStreamIfUnchanged (metaKey streamId)
        (checkpointKey streamId) (stopRequestKey streamId) (subredditKey subreddit) allKey
        (identityKey subreddit) streamId status updatedAt purge))

variable {retain : Bool} {s s' s'' : Registry} {caller other : Nat} {subreddit streamId : String}

namespace Lasting

theorem refl (s : Registry) : Lasting retain s s :=
  ⟨fun _ _ h => h, fun _ _ _ h => h, fun _ _ _ h => h, fun _ _ h => h, fun _ _ h => h⟩

theorem trans (first : Lasting retain s s') (second : Lasting retain s' s'') :
    Lasting retain s s'' where
  issued id name h := second.issued id name (first.issued id name h)
  identity kept name id h := second.identity kept name id (first.identity kept name id h)
  bound kept name id h := second.bound kept name id (first.bound kept name id h)
  free kept name h := second.free kept name (first.free kept name h)
  scanned caller row h := second.scanned caller row (first.scanned caller row h)

theorem settled (h : Lasting retain s s') (settled : s.Settled retain subreddit streamId) :
    s'.Settled retain subreddit streamId :=
  ⟨h.issued _ _ settled.issued, fun kept => h.identity kept _ _ (settled.identity kept)⟩

/-- Identities and claims that are not changed at all. -/
theorem of_same (issued : s'.issued = s.issued) (identity : ∀ name, s'.identity name = s.identity name)
    (claim : ∀ name, s'.claim name = s.claim name)
    (scanned : ∀ caller, ∀ row ∈ s.scanned caller, row ∈ s'.scanned caller) : Lasting retain s s' where
  issued id name h := by rw [issued]; exact h
  identity _ name id h := by rw [identity]; exact h
  bound _ name id h := by simpa only [Bound, identity, claim] using h
  free _ name h := by simpa only [Free, identity, claim] using h
  scanned := scanned

end Lasting

namespace Keeps

theorem refl (s : Registry) : Keeps retain caller s s := ⟨.refl s, rfl, rfl, rfl, rfl⟩

theorem trans (first : Keeps retain caller s s') (second : Keeps retain caller s' s'') :
    Keeps retain caller s s'' where
  toLasting := first.toLasting.trans second.toLasting
  operation := second.operation.trans first.operation
  returned := second.returned.trans first.returned
  resumed := second.resumed.trans first.resumed
  touched := second.touched.trans first.touched

end Keeps

/-- The facts and records behind a result stay. -/
theorem Honest.stays {outcome : Except PyExc Reply} (before : s.Honest retain caller outcome)
    (lasting : Lasting retain s s') (operation : s'.operation caller = s.operation caller)
    (resumed : s'.resumed caller = s.resumed caller) (touched : s'.touched caller = s.touched caller) :
    s'.Honest retain caller outcome := by
  unfold Honest at before ⊢
  rw [operation]
  split at before
  · intro data same
    obtain ⟨id, named, settled⟩ := before data same
    exact ⟨id, named, lasting.settled settled⟩
  · rw [resumed]
    exact before
  · rw [touched]
    exact before
  · trivial

theorem Keeps.honest (h : Keeps retain caller s s') {outcome : Except PyExc Reply}
    (before : s.Honest retain caller outcome) : s'.Honest retain caller outcome :=
  before.stays h.toLasting h.operation h.resumed h.touched

/-- A command only adds to the records of its own caller. -/
theorem execute_others (c : RedisCmd) (ne : other ≠ caller) :
    (s.execute caller c).scanned other = s.scanned other ∧
      (s.execute caller c).resumed other = s.resumed other ∧
      (s.execute caller c).touched other = s.touched other := by
  refine ⟨?_, ?_, by simp [execute, ne]⟩
  all_goals
    simp only [execute, note]
    split
    · split <;> rfl
    · split
      · split <;> rfl
      · rfl
    · split
      · simp [ne]
      · rfl
    · simp [ne]
    · split <;> rfl
    · rfl

theorem Lasting.keeps {c : RedisCmd} (h : Lasting retain s (s.execute caller c)) (ne : other ≠ caller) :
    Keeps retain other s (s.execute caller c) := by
  obtain ⟨-, resumed, touched⟩ := execute_others (s := s) c ne
  exact ⟨h, by simp, by simp, resumed, touched⟩

/-- What one command can do to the stored ids and the records about them. -/
structure Moves (retain : Bool) (s : Registry) (caller : Nat) (s' : Registry) : Prop where
  lasting : Lasting retain s s'
  identities : ∀ name id, s'.identity name = some id →
    s.identity name = some id ∨ s.issued id = some name
  claims : ∀ name id, s'.claim name = some id → s.claim name = some id ∨ s.Settled retain name id
  metadata : ∀ id name, (s'.metadata id).get "subreddit" = some name →
    (s.metadata id).get "subreddit" = some name ∨ s.Settled retain name id
  times : ∀ id time, (s'.metadata id).get "updated_at" = some time →
    (s.metadata id).get "updated_at" = some time ∨ time ≠ ""
  scans : ∀ row ∈ s'.scanned caller, row ∈ s.scanned caller ∨ ∃ id, row = s.metadata id
  progress : retain = true → ∀ id, s.redis.hashes (checkpointKey id) = s.progress id →
    s'.redis.hashes (checkpointKey id) = s'.progress id

/-- Commands that leave identities and claims alone. -/
theorem Moves.quiet {c : RedisCmd} (identity : ∀ name, (s.execute caller c).identity name = s.identity name)
    (claim : ∀ name, (s.execute caller c).claim name = s.claim name)
    (metadata : ∀ id name, ((s.execute caller c).metadata id).get "subreddit" = some name →
      (s.metadata id).get "subreddit" = some name)
    (times : ∀ id time, ((s.execute caller c).metadata id).get "updated_at" = some time →
      (s.metadata id).get "updated_at" = some time ∨ time ≠ "")
    (scans : ∀ row ∈ (s.execute caller c).scanned caller,
      row ∈ s.scanned caller ∨ ∃ id, row = s.metadata id)
    (progress : ∀ id, s.redis.hashes (checkpointKey id) = s.progress id →
      (s.execute caller c).redis.hashes (checkpointKey id) = (s.execute caller c).progress id) :
    Moves retain s caller (s.execute caller c) where
  lasting := .of_same (by simp) identity claim fun _ _ => execute_scanned c
  identities name id h := .inl (identity name ▸ h)
  claims name id h := .inl (claim name ▸ h)
  metadata id name h := .inl (metadata id name h)
  times := times
  scans := scans
  progress _ := progress

/-- Commands that find nothing to do. -/
theorem Moves.still {c : RedisCmd} (redis : (s.execute caller c).redis = s.redis)
    (progress : (s.execute caller c).progress = s.progress)
    (scanned : (s.execute caller c).scanned = s.scanned) :
    Moves retain s caller (s.execute caller c) := by
  refine .quiet (fun name => ?_) (fun name => ?_) (fun id name h => ?_) (fun id time h => .inl ?_)
    (fun row h => .inl (scanned ▸ h)) (fun id h => ?_)
  · rw [Registry.identity, redis]
  · rw [Registry.claim, redis]
  · rwa [Registry.metadata, redis] at h
  · rwa [Registry.metadata, redis] at h
  · rw [redis, progress, h]

theorem moves_identity (issued : s.issued streamId = some subreddit)
    (known : retain = true → s.Bound subreddit streamId ∨ s.Free subreddit) :
    Moves retain s caller (s.execute caller (.setNx (identityKey subreddit) streamId none)) := by
  obtain ⟨progress, scanned⟩ := execute_setNx s caller (identityKey subreddit) streamId
  rcases setNx_cases (identityKey subreddit) streamId s.redis with ⟨taken, ran⟩ | ⟨free, ran⟩
  · exact .still (by simp [ran]) progress scanned
  · replace free : s.identity subreddit = none := free
    have redis : (s.execute caller (.setNx (identityKey subreddit) streamId none)).redis =
        s.redis.set (identityKey subreddit) streamId := by simp [ran]
    have identities (name : String) :
        (s.execute caller (.setNx (identityKey subreddit) streamId none)).identity name =
          if name = subreddit then some streamId else s.identity name := by
      rw [identity, redis, Store.get_set]
      simp
    have claims (name : String) :
        (s.execute caller (.setNx (identityKey subreddit) streamId none)).claim name = s.claim name := by
      rw [claim, redis, Store.get_set]
      simp
    refine ⟨⟨fun _ _ h => by simpa using h, fun _ name id h => ?_, fun kept name id h => ?_,
      fun _ name h => ?_, fun _ _ => execute_scanned _⟩, fun name id h => ?_, fun name id h => ?_,
      fun id name h => .inl ?_,
      fun id time h => .inl ?_, fun row h => .inl (scanned ▸ h), fun _ id h => ?_⟩
    · rw [identities]
      split
      · rename_i same
        rw [same, free] at h
        cases h
      · exact h
    · simp only [Bound, identities, claims]
      by_cases same : name = subreddit
      · subst same
        rw [if_pos rfl]
        left
        rcases h with held | ⟨-, held⟩
        · rw [free] at held
          cases held
        · rcases known kept with (own | ⟨-, own⟩) | (other | none)
          · rw [free] at own
            cases own
          · exact own.symm.trans held
          · exact absurd free other
          · rw [none] at held
            cases held
      · rw [if_neg same]
        exact h
    · simp only [Free, identities, claims]
      by_cases same : name = subreddit
      · exact .inl (by simp [same])
      · rw [if_neg same]
        exact h
    · rw [identities] at h
      split at h
      · rename_i same
        cases h
        exact .inr (same ▸ issued)
      · exact .inl h
    · rw [claims] at h
      exact .inl h
    · rwa [metadata, redis, Store.set_hashes] at h
    · rwa [metadata, redis, Store.set_hashes] at h
    · rw [redis, progress, Store.set_hashes, h]

theorem moves_claim (settled : s.Settled retain subreddit streamId) :
    Moves retain s caller (s.execute caller (.setNx (subredditKey subreddit) streamId none)) := by
  obtain ⟨progress, scanned⟩ := execute_setNx s caller (subredditKey subreddit) streamId
  rcases setNx_cases (subredditKey subreddit) streamId s.redis with ⟨taken, ran⟩ | ⟨free, ran⟩
  · exact .still (by simp [ran]) progress scanned
  replace free : s.claim subreddit = none := free
  have redis : (s.execute caller (.setNx (subredditKey subreddit) streamId none)).redis =
      s.redis.set (subredditKey subreddit) streamId := by simp [ran]
  have identities (name : String) :
      (s.execute caller (.setNx (subredditKey subreddit) streamId none)).identity name =
        s.identity name := by
    rw [identity, redis, Store.get_set]
    simp
  have claims (name : String) :
      (s.execute caller (.setNx (subredditKey subreddit) streamId none)).claim name =
        if name = subreddit then some streamId else s.claim name := by
    rw [claim, redis, Store.get_set]
    simp
  refine ⟨⟨fun _ _ h => by simpa using h, fun _ name id h => by rw [identities]; exact h,
    fun kept name id h => ?_, fun kept name h => ?_, fun _ _ => execute_scanned _⟩,
    fun name id h => .inl (identities name ▸ h),
    fun name id h => ?_, fun id name h => .inl ?_, fun id time h => .inl ?_,
    fun row h => .inl (scanned ▸ h), fun _ id h => ?_⟩
  · simp only [Bound, identities, claims]
    by_cases same : name = subreddit
    · subst same
      rcases h with held | ⟨-, held⟩
      · exact .inl held
      · rw [free] at held
        cases held
    · rw [if_neg same]
      exact h
  · simp only [Free, identities, claims]
    by_cases same : name = subreddit
    · subst same
      exact .inl (by simp [settled.identity kept])
    · rw [if_neg same]
      exact h
  · rw [claims] at h
    split at h
    · rename_i same
      cases h
      exact .inr (same ▸ settled)
    · exact .inl h
  · rwa [metadata, redis, Store.set_hashes] at h
  · rwa [metadata, redis, Store.set_hashes] at h
  · rw [redis, progress, Store.set_hashes, h]

theorem moves_metadata {config instanceId createdAt updatedAt : String}
    (settled : s.Settled retain subreddit streamId) (nonempty : updatedAt ≠ "") :
    Moves retain s caller (s.execute caller (.hset (metaKey streamId)
      (newMeta streamId subreddit config instanceId createdAt updatedAt))) := by
  have scanned := execute_hset_scanned s caller (metaKey streamId)
    (newMeta streamId subreddit config instanceId createdAt updatedAt)
  refine ⟨.of_same (by simp) (fun name => ?_) (fun name => ?_) (fun _ _ => execute_scanned _),
    fun name id h => .inl ?_,
    fun name id h => .inl ?_, fun id name h => ?_, fun id time h => ?_,
    fun row h => .inl (scanned ▸ h), fun _ id h => ?_⟩
  · simp [identity, RedisCmd.run]
  · simp [claim, RedisCmd.run]
  · simpa [identity, RedisCmd.run] using h
  · simpa [claim, RedisCmd.run] using h
  · by_cases same : id = streamId
    · subst same
      simp [metadata, RedisCmd.run, newMeta] at h
      exact .inr (h ▸ settled)
    · exact .inl (by simpa [metadata, RedisCmd.run, same] using h)
  · by_cases same : id = streamId
    · subst same
      simp [metadata, RedisCmd.run, newMeta] at h
      exact .inr (h ▸ nonempty)
    · exact .inl (by simpa [metadata, RedisCmd.run, same] using h)
  · simp only [execute, note]
    split <;> simpa [RedisCmd.run] using h

theorem moves_delete {status updatedAt purge : String} (issued : s.issued streamId = some subreddit)
    (known : retain = true → s.Bound subreddit streamId ∧ purge ≠ "1") :
    Moves retain s caller
      (s.execute caller (.eval (deleteScript streamId subreddit status updatedAt purge))) := by
  obtain ⟨progress, scanned⟩ :=
    execute_delete s caller streamId subreddit status updatedAt purge
  rcases deleteScript_cases streamId subreddit status updatedAt purge s.redis with ran | ⟨-, removed⟩
  · exact .still (by simp [RedisCmd.run, ran]) progress scanned
  have operations : (s.execute caller
      (.eval (deleteScript streamId subreddit status updatedAt purge))).issued = s.issued := by simp
  change Removed _ _ _ _ _ s.redis (s.execute caller (.eval _)).redis at removed
  generalize s.execute caller (.eval (deleteScript streamId subreddit status updatedAt purge)) = s'
    at progress scanned removed operations ⊢
  have identities (kept : retain = true) (name : String) :
      s'.identity name = if name = subreddit then some streamId else s.identity name := by
    rw [identity, removed.identity, if_neg (known kept).2]
  have claims (name id : String) (held : s'.claim name = some id) : s.claim name = some id := by
    rw [claim, removed.claim] at held
    split at held
    · cases held
    · exact held
  have fields (field : String) (id value : String) (held : (s'.metadata id).get field = some value) :
      (s.metadata id).get field = some value := by
    rw [metadata, removed.metadata] at held
    split at held
    · cases held
    · exact held
  refine ⟨⟨fun _ _ h => operations ▸ h, fun kept name id h => ?_, fun kept name id h => ?_,
    fun kept name h => ?_, fun _ _ h => by rw [scanned]; exact h⟩, fun name id h => ?_, fun name id h => .inl (claims name id h),
    fun id name h => .inl (fields _ _ _ h), fun id time h => .inl (fields _ _ _ h),
    fun row h => .inl (scanned ▸ h), fun kept id h => ?_⟩
  · rw [identities kept]
    split
    · rename_i same
      subst same
      rcases (known kept).1 with own | ⟨blank, -⟩
      · exact own.symm.trans h
      · rw [blank] at h
        cases h
    · exact h
  · simp only [Bound, identities kept]
    by_cases same : name = subreddit
    · subst same
      rw [if_pos rfl]
      left
      rcases h, (known kept).1 with ⟨held | ⟨blank, held⟩, own | ⟨blank', own⟩⟩
      · exact own.symm.trans held
      · rw [blank'] at held
        cases held
      · rw [blank] at own
        cases own
      · exact own.symm.trans held
    · rw [if_neg same]
      refine h.imp_right fun unnamed => ⟨unnamed.1, ?_⟩
      rw [claim, removed.claim, if_neg fun both => same both.1]
      exact unnamed.2
  · simp only [Free, identities kept]
    by_cases same : name = subreddit
    · exact .inl (by simp [same])
    · rw [if_neg same]
      refine h.imp_right fun unclaimed => ?_
      rw [claim, removed.claim, if_neg fun both => same both.1]
      exact unclaimed
  · rw [identity, removed.identity] at h
    split at h
    · rename_i same
      split at h
      · cases h
      · cases h
        exact .inr (same ▸ issued)
    · exact .inl h
  · rw [removed.checkpoint, if_neg fun both => (known kept).2 both.2, progress]
    exact h

theorem Faithful.moves {c : RedisCmd} (h : Faithful retain s caller c) :
    Moves retain s caller (s.execute caller c) := by
  cases h with
  | get | keyExists | smembers =>
      exact .quiet (fun _ => rfl) (fun _ => rfl) (fun _ _ h => h) (fun _ _ h => .inl h)
        (fun _ h => .inl h) fun _ h => h
  | hgetall key =>
      refine .quiet (fun _ => rfl) (fun _ => rfl) (fun _ _ h => h) (fun _ _ h => .inl h) ?_ ?_
      · intro row h
        refine .inl ?_
        simp only [execute, note] at h
        split at h <;> exact h
      · intro id h
        simp only [execute, note]
        split <;> exact h
  | scan ids =>
      refine .quiet (fun _ => rfl) (fun _ => rfl) (fun _ _ h => h) (fun _ _ h => .inl h) ?_
        fun _ h => h
      intro row h
      simp only [execute, note, Function.update_self, List.map_map, List.mem_append, List.mem_map] at h
      rcases h with before | ⟨id, -, same⟩
      · exact .inl before
      · exact .inr ⟨id, same.symm⟩
  | list key id =>
      refine .quiet (fun name => ?_) (fun name => ?_) (fun id name h => ?_)
        (fun id time h => .inl ?_) (fun row h => .inl h) (fun id h => ?_)
      · simp [Registry.identity, RedisCmd.run]
      · simp [Registry.claim, RedisCmd.run]
      · simpa [Registry.metadata, RedisCmd.run] using h
      · simpa [Registry.metadata, RedisCmd.run] using h
      · simpa [execute, note, RedisCmd.run] using h
  | unlist key ids =>
      refine .quiet (fun name => ?_) (fun name => ?_) (fun id name h => ?_)
        (fun id time h => .inl ?_) (fun row h => .inl h) (fun id h => ?_)
      · simp [Registry.identity, RedisCmd.run]
      · simp [Registry.claim, RedisCmd.run]
      · simpa [Registry.metadata, RedisCmd.run] using h
      · simpa [Registry.metadata, RedisCmd.run] using h
      · simpa [execute, note, RedisCmd.run] using h
  | status streamId status updatedAt instanceId nonempty =>
      have kept (id : String) : ((s.execute caller (.hset (metaKey streamId)
          (statusMapping status updatedAt instanceId))).metadata id).get "subreddit" =
          (s.metadata id).get "subreddit" := by
        cases instanceId <;> by_cases same : id = streamId <;>
          simp [Registry.metadata, RedisCmd.run, statusMapping, same]
      have written (id : String) : ((s.execute caller (.hset (metaKey streamId)
          (statusMapping status updatedAt instanceId))).metadata id).get "updated_at" =
          if id = streamId then some updatedAt else (s.metadata id).get "updated_at" := by
        cases instanceId <;> by_cases same : id = streamId <;>
          simp [Registry.metadata, RedisCmd.run, statusMapping, same]
      refine .quiet (fun name => ?_) (fun name => ?_) (fun id name h => kept id ▸ h)
        (fun id time h => ?_) (fun row h => .inl ?_) (fun id h => ?_)
      · simp [Registry.identity, RedisCmd.run]
      · simp [Registry.claim, RedisCmd.run]
      · rw [written] at h
        split at h
        · cases h
          exact .inr nonempty
        · exact .inl h
      · simp only [execute, note] at h
        split at h
        · split at h <;> exact h
        · exact h
      · simp only [execute, note]
        split <;> simpa [RedisCmd.run] using h
  | checkpoint streamId lastCommentId lastProcessedAt mapping started =>
      refine .quiet (fun name => ?_) (fun name => ?_) (fun id name h => ?_)
        (fun id time h => .inl ?_) (fun row h => .inl ?_) (fun id h => ?_)
      · simp [Registry.identity, RedisCmd.run]
      · simp [Registry.claim, RedisCmd.run]
      · simpa [Registry.metadata, RedisCmd.run] using h
      · simpa [Registry.metadata, RedisCmd.run] using h
      · simpa [execute, note, started] using h
      · by_cases same : id = streamId
        · subst same
          simp [execute, note, started, RedisCmd.run, h]
        · simp [execute, note, started, RedisCmd.run, same, h]
  | stopRequest streamId value =>
      refine .quiet (fun name => ?_) (fun name => ?_) (fun id name h => ?_)
        (fun id time h => .inl ?_) (fun row h => .inl h) (fun id h => ?_)
      · simp [Registry.identity, RedisCmd.run]
      · simp [Registry.claim, RedisCmd.run]
      · simpa [Registry.metadata, RedisCmd.run] using h
      · simpa [Registry.metadata, RedisCmd.run] using h
      · simpa [execute, note, RedisCmd.run] using h
  | heartbeat streamId instanceId now nonempty =>
      have redis := heartbeatScript_cases streamId instanceId now s.redis
      refine .quiet (fun name => ?_) (fun name => ?_) (fun id name h => ?_)
        (fun id time h => ?_) (fun row h => .inl h) (fun id h => ?_)
      · rcases redis with same | same <;> simp [Registry.identity, RedisCmd.run, same]
      · rcases redis with same | same <;> simp [Registry.claim, RedisCmd.run, same]
      · rcases redis with same | same
        · simpa [Registry.metadata, RedisCmd.run, same] using h
        · by_cases here : id = streamId
          · simpa [Registry.metadata, RedisCmd.run, same, here] using h
          · simpa [Registry.metadata, RedisCmd.run, same, here] using h
      · rcases redis with same | same
        · exact .inl (by simpa [Registry.metadata, RedisCmd.run, same] using h)
        · by_cases here : id = streamId
          · right
            rintro rfl
            simp [Registry.metadata, RedisCmd.run, same, here, nonempty] at h
          · exact .inl (by simpa [Registry.metadata, RedisCmd.run, same, here] using h)
      · rcases redis with same | same <;> simpa [execute, note, RedisCmd.run, same] using h
  | identity name streamId issued known => exact moves_identity issued known
  | claim name streamId settled => exact moves_claim settled
  | metadata streamId name config instanceId createdAt updatedAt settled nonempty =>
      exact moves_metadata settled nonempty
  | delete streamId name status updatedAt purge issued known vouched => exact moves_delete issued known

theorem Moves.bound {c : RedisCmd} (h : Moves retain s caller (s.execute caller c))
    (kept : retain = true) (settled : s.Settled retain subreddit streamId) :
    (s.execute caller c).Bound subreddit streamId :=
  .inl (h.lasting.identity kept _ _ (settled.identity kept))

/-- A command of a running call keeps everything consistent, and what the other calls rely on. -/
theorem Consistent.execute {c : RedisCmd} (hs : Consistent retain s)
    (faithful : Faithful retain s caller c) {op : Operation} (running : Running caller op s) :
    Consistent retain (s.execute caller c) ∧
      ∀ other, other ≠ caller → Keeps retain other s (s.execute caller c) := by
  have moves := faithful.moves
  have others := fun other (ne : other ≠ caller) => moves.lasting.keeps ne
  refine ⟨⟨fun other free => ?_, by simpa using hs.blank, fun name id h => ?_,
    fun name id h => ?_, fun id name h => ?_, fun id time h => ?_, fun other row h time seen => ?_, fun kept name id h => ?_,
    fun kept id name h => ?_, fun kept id => moves.progress kept id (hs.progress kept id),
    fun other outcome h => ?_⟩, others⟩
  · rw [execute_operation] at free
    have own : other ≠ caller := by
      rintro rfl
      rw [running.operation] at free
      cases free
    rw [execute_returned, (execute_others c own).2.2]
    exact hs.idle other free
  · simpa using (moves.identities name id h).elim (hs.identities name id) fun new => new
  · simpa using (moves.claims name id h).elim (hs.claims name id) fun new => new.issued
  · simpa using (moves.metadata id name h).elim (hs.metadata id name) fun new => new.issued
  · exact (moves.times id time h).elim (hs.times id time) fun new => new
  · by_cases own : other = caller
    · subst own
      rcases moves.scans row h with before | ⟨id, rfl⟩
      · exact hs.scans other row before time seen
      · exact hs.times id time seen
    · rw [(execute_others c own).1] at h
      exact hs.scans other row h time seen
  · rcases moves.claims name id h with before | new
    · exact moves.lasting.bound kept _ _ (hs.claimsBound kept _ _ before)
    · exact moves.bound kept new
  · rcases moves.metadata id name h with before | new
    · exact moves.lasting.bound kept _ _ (hs.metadataBound kept _ _ before)
    · exact moves.bound kept new
  · rw [execute_returned] at h
    by_cases own : other = caller
    · rw [own, running.returned] at h
      cases h
    · exact (others other own).honest (hs.results other outcome h)

end Registry

/-- The calls as a discipline: what they issue, and what they report. -/
def identityDiscipline (retain : Bool) : Discipline CallEffect Registry Nat where
  inv := Registry.Consistent retain
  keeps := Registry.Keeps retain
  keeps_refl _ := .refl
  keeps_trans _ _ _ _ := .trans
  ok _ _ _ := True
  pledge caller e s := (∃ op, Registry.Running caller op s) ∧
    (∀ c, e = .inner (.redis c) → s.Faithful retain caller c) ∧
    ∀ outcome, e = .outer outcome → s.Honest retain caller outcome

namespace Registry

variable {retain : Bool} {s s' : Registry} {caller other : Nat} {subreddit streamId : String}

/-- A generated id is none that any call knows. -/
theorem Consistent.issue (hs : Consistent retain s) (subreddit : String) (named : streamId ≠ "")
    (fresh : s.issued streamId = none) :
    Consistent retain { s with issued := Function.update s.issued streamId (some subreddit) } ∧
      ∀ other, Keeps retain other s
        { s with issued := Function.update s.issued streamId (some subreddit) } := by
  have grows (id name : String) (h : s.issued id = some name) :
      Function.update s.issued streamId (some subreddit) id = some name := by
    have ne : id ≠ streamId := by
      rintro rfl
      rw [fresh] at h
      cases h
    simpa [Function.update_of_ne ne] using h
  have others (other : Nat) : Keeps retain other s
      { s with issued := Function.update s.issued streamId (some subreddit) } :=
    ⟨⟨grows, fun _ _ _ h => h, fun _ _ _ h => h, fun _ _ h => h, fun _ _ h => h⟩, rfl, rfl, rfl, rfl⟩
  refine ⟨⟨hs.idle, ?_, fun name id h => grows _ _ (hs.identities name id h),
    fun name id h => grows _ _ (hs.claims name id h), fun id name h => grows _ _ (hs.metadata id name h),
    hs.times, hs.scans, hs.claimsBound, hs.metadataBound, hs.progress,
    fun other outcome h => (others other).honest (hs.results other outcome h)⟩, others⟩
  simpa [Function.update_of_ne named.symm] using hs.blank

/-- A result that is reported is an honest one. -/
theorem Consistent.report (hs : Consistent retain s) {op : Operation} (running : Running caller op s)
    {outcome : Except PyExc Reply} (honest : s.Honest retain caller outcome) :
    Consistent retain { s with returned := Function.update s.returned caller (some outcome) } ∧
      ∀ other, other ≠ caller → Keeps retain other s
        { s with returned := Function.update s.returned caller (some outcome) } := by
  have lasting : Lasting retain s
      { s with returned := Function.update s.returned caller (some outcome) } :=
    ⟨fun _ _ h => h, fun _ _ _ h => h, fun _ _ _ h => h, fun _ _ h => h, fun _ _ h => h⟩
  refine ⟨⟨fun other free => ?_, hs.blank, hs.identities, hs.claims, hs.metadata, hs.times,
    hs.scans, hs.claimsBound, hs.metadataBound, hs.progress, fun other outcome' h => ?_⟩,
    fun other ne => ⟨lasting, rfl, by simp [ne], rfl, rfl⟩⟩
  · have own : other ≠ caller := by
      rintro rfl
      change s.operation other = none at free
      rw [running.operation] at free
      cases free
    simpa [own] using hs.idle other free
  simp only [Function.update_apply] at h
  split at h
  · rename_i own
    cases h
    exact own ▸ honest.stays lasting rfl rfl rfl
  · exact (hs.results other outcome' h).stays lasting rfl rfl rfl

/-- A new call changes nothing for the others. -/
theorem Consistent.begin (hs : Consistent retain s) (op : Operation) (free : s.operation caller = none) :
    Consistent retain { s with operation := Function.update s.operation caller (some op) } ∧
      ∀ other, other ≠ caller → Keeps retain other s
        { s with operation := Function.update s.operation caller (some op) } := by
  have lasting : Lasting retain s
      { s with operation := Function.update s.operation caller (some op) } :=
    ⟨fun _ _ h => h, fun _ _ _ h => h, fun _ _ _ h => h, fun _ _ h => h, fun _ _ h => h⟩
  refine ⟨⟨fun other idle => ?_, hs.blank, hs.identities, hs.claims, hs.metadata, hs.times,
    hs.scans, hs.claimsBound, hs.metadataBound, hs.progress, fun other outcome h => ?_⟩,
    fun other ne => ⟨lasting, by simp [ne], rfl, rfl, rfl⟩⟩
  · by_cases own : other = caller
    · exact own ▸ hs.idle caller free
    · exact hs.idle other (by simpa [own] using idle)
  · have own : other ≠ caller := by
      rintro rfl
      change s.returned other = some outcome at h
      rw [(hs.idle other free).1] at h
      cases h
    exact (hs.results other outcome h).stays lasting (by simp [own]) rfl rfl

end Registry
end RedditKafka
