import RedditKafka.Registry.StreamRegistry

/-!
# The commands of the registry

Which Redis commands the registry and the cleanup task can issue at all, and
that none of them touches a lease.
-/
namespace RedditKafka
open Async Redis

/-- What a caller may do to the registration of a stream id, apart from reading it. -/
inductive Permission where
  | create
  | write (status : String)
  | requestStop
  /-- Deletion whatever the status. -/
  | delete
  deriving DecidableEq, Repr

/-- The commands of the registry and of the cleanup task, where `may` says what may be done to
which stream id. -/
inductive RegistryCommand (may : String → Permission → Prop) : RedisCmd → Prop
  | get (key : String) : RegistryCommand may (.get key)
  | keyExists (key : String) : RegistryCommand may (.keyExists key)
  | hgetall (key : String) : RegistryCommand may (.hgetall key)
  | hgetallEach (keys : List String) : RegistryCommand may (.hgetallEach keys)
  | smembers (key : String) : RegistryCommand may (.smembers key)
  | claim (subreddit value : String) : RegistryCommand may (.setNx (subredditKey subreddit) value none)
  | identity (subreddit value : String) : RegistryCommand may (.setNx (identityKey subreddit) value none)
  | stopRequest (streamId value : String) : may streamId .requestStop →
      RegistryCommand may (.set (stopRequestKey streamId) value)
  | metadata (streamId subreddit config instanceId createdAt updatedAt : String) :
      may streamId .create → RegistryCommand may (.hset (metaKey streamId)
        (StreamRegistry.newMeta streamId subreddit config instanceId createdAt updatedAt))
  | status (streamId status updatedAt : String) (instanceId : Option String) : may streamId (.write status) →
      RegistryCommand may (.hset (metaKey streamId)
        (StreamRegistry.statusMapping status updatedAt instanceId))
  | checkpoint (streamId : String) (mapping : List (String × String)) :
      mapping.lookup "status" = none → RegistryCommand may (.hset (checkpointKey streamId) mapping)
  | list (streamId : String) : RegistryCommand may (.sadd allKey streamId)
  | listInstance (instanceId streamId : String) :
      RegistryCommand may (.sadd (instanceKey instanceId) streamId)
  | unlist (streamIds : List String) : RegistryCommand may (.srem allKey streamIds)
  | unlistInstance (instanceId : String) (streamIds : List String) :
      RegistryCommand may (.srem (instanceKey instanceId) streamIds)
  | heartbeat (streamId instanceId now : String) :
      RegistryCommand may (.eval (.heartbeatIfActive (metaKey streamId) (instanceKey instanceId)
        instanceId now streamId))
  | delete (streamId subreddit expectedStatus expectedUpdatedAt purge : String) :
      expectedStatus ∈ DeadStreamCleanup.deadStatuses ∨ may streamId .delete →
      RegistryCommand may (.eval (.deleteStreamIfUnchanged (metaKey streamId) (checkpointKey streamId)
        (stopRequestKey streamId) (subredditKey subreddit) allKey (identityKey subreddit) streamId
        expectedStatus expectedUpdatedAt purge))

/-- No command of the registry changes a lease, whatever characters the names contain. -/
theorem RegistryCommand.lock_kept {may : String → Permission → Prop} {c : RedisCmd} (h : RegistryCommand may c) (s : Store)
    (subreddit : String) : (c.run s).2.entry (lockKey subreddit) = s.entry (lockKey subreddit) := by
  cases h with
  | claim | identity =>
      simp only [RedisCmd.run]
      split <;> simp
  | heartbeat =>
      simp only [RedisCmd.run, Script.run]
      split_ifs <;> simp
  | delete =>
      simp only [RedisCmd.run, Script.run]
      split_ifs <;> simp
  | _ => simp [RedisCmd.run]

theorem RegistryCommand.mono {may may' : String → Permission → Prop} {c : RedisCmd}
    (h : RegistryCommand may c) (imp : ∀ id permission, may id permission → may' id permission) :
    RegistryCommand may' c := by
  cases h with
  | stopRequest id value stops => exact .stopRequest id value (imp _ _ stops)
  | metadata id a b i t t' creates => exact .metadata id a b i t t' (imp _ _ creates)
  | status id status time i written => exact .status id status time i (imp _ _ written)
  | delete id a b t p guarded => exact .delete id a b t p (guarded.imp_right (imp _ _))
  | checkpoint id mapping other => exact .checkpoint id mapping other
  | _ => constructor

/-- Effects other than steps of asyncio, with the commands of the registry. -/
def RegistryEffect (may : String → Permission → Prop) : Effect → Prop
  | .redis c => RegistryCommand may c
  | .persist | .nowIso | .uuid4 => True
  | _ => False


variable {may : String → Permission → Prop}

theorem nowIso_uses : nowIso.Uses (RegistryEffect may) := Prog.Uses.perform trivial

theorem redis_uses {may : String → Permission → Prop} {c : RedisCmd} (h : RegistryCommand may c) : (redis c).Uses (RegistryEffect may) :=
  Prog.Uses.perform h

theorem persist_uses : persist.Uses (RegistryEffect may) :=
  exceptException_uses (Prog.Uses.perform trivial) fun _ => trivial

namespace StreamRegistry

theorem indexInstance_uses (instanceId : Option String) (streamId : String) :
    (indexInstance instanceId streamId).Uses (RegistryEffect may) := by
  unfold indexInstance
  split
  · trivial
  · exact redis_uses (.listInstance _ _)

/-- A creator registers under the id that it finds for its subreddit. -/
theorem register_uses (creates : ∀ id, may id .create) (streamId subreddit config : String)
    (instanceId : Option String) :
    (register streamId subreddit config instanceId).Uses (RegistryEffect may) :=
  nowIso_uses.bind fun _ => nowIso_uses.bind fun _ =>
    (redis_uses (.metadata _ _ _ _ _ _ (creates _))).bind fun _ =>
      (redis_uses (.list _)).bind fun _ => (indexInstance_uses _ _).bind fun _ =>
        persist_uses.bind fun _ => trivial

theorem claim_uses (creates : ∀ id, may id .create) (streamId subreddit config : String)
    (instanceId : Option String) :
    (claim streamId subreddit config instanceId).Uses (RegistryEffect may) := by
  refine (redis_uses (.claim _ _)).bind fun claimed => ?_
  split
  · exact register_uses creates _ _ _ _
  · exact (redis_uses (.get _)).bind fun _ => trivial

theorem resolveIdentity_uses (subreddit candidateId : String) :
    (resolveIdentity subreddit candidateId).Uses (RegistryEffect may) := by
  refine (redis_uses (.identity _ _)).bind fun created => ?_
  split
  · trivial
  · exact redis_uses (.get _)

theorem createStream_uses (creates : ∀ id, may id .create) (subreddit config : String) (instanceId : Option String) :
    (createStream subreddit config instanceId).Uses (RegistryEffect may) := by
  refine (redis_uses (.get _)).bind fun existing => ?_
  split
  · exact (redis_uses (.identity _ _)).bind fun _ => trivial
  refine (Prog.Uses.perform trivial).bind fun _ => (resolveIdentity_uses _ _).bind fun _ => ?_
  split
  · exact claim_uses creates _ _ _ _
  · trivial

theorem getStream_uses (streamId : String) : (getStream streamId).Uses (RegistryEffect may) := by
  refine (redis_uses (.hgetall _)).bind fun _ => ?_
  split <;> trivial

theorem getStreamBySubreddit_uses (subreddit : String) :
    (getStreamBySubreddit subreddit).Uses (RegistryEffect may) := by
  refine (redis_uses (.get _)).bind fun _ => ?_
  split
  · exact (getStream_uses _).bind fun _ => trivial
  · trivial

theorem dropStale_uses (staleStreamIds : List String) :
    (dropStale staleStreamIds).Uses (RegistryEffect may) := by
  unfold dropStale
  split
  · trivial
  · exact redis_uses (.unlist _)

theorem listStreams_uses : listStreams.Uses (RegistryEffect may) := by
  refine (redis_uses (.smembers _)).bind fun _ => ?_
  split
  · trivial
  · exact (redis_uses (.hgetallEach _)).bind fun _ => (dropStale_uses _).bind fun _ => trivial

theorem updateStatus_uses {streamId status : String} (written : may streamId (.write status))
    (instanceId : Option String) : (updateStatus streamId status instanceId).Uses (RegistryEffect may) := by
  refine nowIso_uses.bind fun _ => (redis_uses (.status _ _ _ _ written)).bind fun _ => ?_
  cases instanceId with
  | none => exact persist_uses
  | some instanceId => exact (redis_uses (.listInstance _ _)).bind fun _ => persist_uses

theorem heartbeat_uses (streamId instanceId : String) :
    (heartbeat streamId instanceId).Uses (RegistryEffect may) :=
  nowIso_uses.bind fun _ => redis_uses (.heartbeat _ _ _)

theorem requestStop_uses {streamId : String} (stops : may streamId .requestStop)
    (written : may streamId (.write "stopping")) :
    (requestStop streamId).Uses (RegistryEffect may) :=
  (getStream_uses _).bind fun _ => nowIso_uses.bind fun _ =>
    (redis_uses (.stopRequest _ _ stops)).bind fun _ => updateStatus_uses written _

theorem dropInstance_uses (deleted : Bool) (instanceId : Option String) (streamId : String) :
    (dropInstance deleted instanceId streamId).Uses (RegistryEffect may) := by
  unfold dropInstance
  split
  · exact redis_uses (.unlistInstance _ _)
  · trivial

theorem deleteStream_uses {streamId : String} {expectedStatus : Option String}
    (guarded : expectedStatus.getD "" ∈ DeadStreamCleanup.deadStatuses ∨ may streamId .delete)
    (expectedUpdatedAt : Option String) (purgeCheckpoint : Bool) :
    (deleteStream streamId expectedStatus expectedUpdatedAt purgeCheckpoint).Uses
      (RegistryEffect may) := by
  refine (redis_uses (.hgetall _)).bind fun _ => ?_
  split
  · trivial
  · exact (redis_uses (.delete _ _ _ _ _ guarded)).bind fun _ =>
      (dropInstance_uses _ _ _).bind fun _ => trivial

theorem setCheckpoint_uses (streamId : String) (lastCommentId lastProcessedAt : Option String) :
    (setCheckpoint streamId lastCommentId lastProcessedAt).Uses (RegistryEffect may) := by
  unfold setCheckpoint
  split
  · trivial
  · refine nowIso_uses.bind fun _ => redis_uses (.checkpoint _ _ ?_)
    cases lastCommentId <;> cases lastProcessedAt <;> simp [List.lookup_cons]

theorem getCheckpoint_uses (streamId : String) : (getCheckpoint streamId).Uses (RegistryEffect may) :=
  (redis_uses (.hgetall _)).bind fun _ => trivial

end StreamRegistry

namespace DeadStreamCleanup

/-- What the sweep takes for dead is one of the three statuses, and not an empty one. -/
theorem isDeadStream_status {stream : Hash} (dead : isDeadStream stream = true) :
    (StreamRegistry.orNone (stream.get "status")).getD "" ∈ deadStatuses := by
  cases status : stream.get "status" with
  | none => simp [isDeadStream, status, deadStatuses] at dead
  | some value =>
      have member : value ∈ deadStatuses := by simpa [isDeadStream, status] using dead
      have nonempty : value ≠ "" := by
        rintro rfl
        simp [deadStatuses] at member
      simpa [StreamRegistry.orNone, truthy, nonempty] using member

theorem retire_uses (stream : Hash) : (retire stream).Uses (RegistryEffect may) := by
  unfold retire
  split
  · rename_i dead _
    exact exceptException_uses ((StreamRegistry.deleteStream_uses
      (.inl (isDeadStream_status dead)) _ _).bind fun _ => trivial) fun _ => trivial
  · trivial

theorem cleanup_uses : cleanup.Uses (RegistryEffect may) :=
  exceptException_uses (StreamRegistry.listStreams_uses.bind fun _ =>
    Prog.Uses.forEach fun stream _ => retire_uses stream) fun _ => trivial

end DeadStreamCleanup
end RedditKafka
