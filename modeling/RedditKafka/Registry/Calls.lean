import RedditKafka.Async.Extension
import RedditKafka.Registry.Leases

/-!
# Calls of the registry and their results

Any number of callers issue operations of the registry and of the cleanup task,
interleaved between single Redis commands, and each reports how its call ended.
-/
namespace RedditKafka
open Async Redis StreamRegistry DeadStreamCleanup

/-- What a public method returns. -/
inductive Reply where
  | nothing
  | flag (result : Bool)
  | metadata (data : Hash)
  | rows (streams : List Hash)
  | checkpoint (checkpoint : Checkpoint)

namespace Operation

/-- The operation with its result. The methods of the lock manager are not called here. -/
def call : Operation → Program Reply
  | createStream subreddit config instanceId => do
      let data ← StreamRegistry.createStream subreddit config instanceId
      return .metadata data
  | getStream streamId => do
      let data ← StreamRegistry.getStream streamId
      return .metadata data
  | getStreamBySubreddit subreddit => do
      match ← StreamRegistry.getStreamBySubreddit subreddit with
      | some data => return .metadata data
      | none => return .nothing
  | listStreams => do
      let streams ← StreamRegistry.listStreams
      return .rows streams
  | updateStatus streamId status instanceId => do
      StreamRegistry.updateStatus streamId status instanceId
      return .nothing
  | heartbeat streamId instanceId => do
      let refreshed ← StreamRegistry.heartbeat streamId instanceId
      return .flag refreshed
  | requestStop streamId => do
      StreamRegistry.requestStop streamId
      return .nothing
  | isStopRequested streamId => do
      let requested ← StreamRegistry.isStopRequested streamId
      return .flag requested
  | deleteStream streamId expectedStatus expectedUpdatedAt purgeCheckpoint => do
      let deleted ←
        StreamRegistry.deleteStream streamId expectedStatus expectedUpdatedAt purgeCheckpoint
      return .flag deleted
  | setCheckpoint streamId lastCommentId lastProcessedAt => do
      StreamRegistry.setCheckpoint streamId lastCommentId lastProcessedAt
      return .nothing
  | getCheckpoint streamId => do
      let checkpoint ← StreamRegistry.getCheckpoint streamId
      return .checkpoint checkpoint
  | cleanup => do
      DeadStreamCleanup.cleanup
      return .nothing
  | _ => return .nothing

/-- The subreddit that a call of `create_stream` names. -/
def subreddit : Operation → Option String
  | createStream subreddit _ _ => some subreddit
  | _ => none

/-- A deletion that removes the checkpoint and the identity too. -/
def purges : Operation → Bool
  | deleteStream _ _ _ purgeCheckpoint => purgeCheckpoint
  | _ => false

end Operation

/-- The stored data, and after it what the development records about the calls. -/
structure Registry where
  redis : Store := {}
  /-- The operation that a caller has started; a caller starts one. -/
  operation : Nat → Option Operation := fun _ => none
  /-- The subreddit for which a stream id was generated. -/
  issued : String → Option String := fun _ => none
  /-- How the call ended. -/
  returned : Nat → Option (Except PyExc Reply) := fun _ => none
  /-- What `set_checkpoint` has written to the hash of a stream id. -/
  progress : String → Hash := fun _ => []
  /-- What had been written so when a `get_checkpoint` read the hash. -/
  resumed : Nat → Hash := fun _ => []
  /-- The rows that a caller has read in pipelines. -/
  scanned : Nat → List Hash := fun _ => []
  /-- The callers that claimed the subreddit of their `create_stream`, oldest first. -/
  claimed : List Nat := []
  /-- The callers whose deletions took effect, oldest first. -/
  removed : List Nat := []
  /-- Some command of the caller took effect. -/
  touched : Nat → Bool := fun _ => false

/-- The command is not a mere reading, nor a script that ends without an effect. -/
def RedisCmd.takesEffect (c : RedisCmd) (r : Store) : Bool :=
  match c with
  | .get _ | .keyExists _ | .hgetall _ | .hgetallEach _ | .smembers _ => false
  | .eval script => (script.run r).1
  | _ => true

abbrev CallEffect : Type := Extended Effect (Except PyExc Reply)

abbrev CallEffect.Answer : CallEffect → Type := Extended.Answer Effect.Answer fun _ => Unit

namespace Registry

/-- The call of the operation is running. -/
structure Running (caller : Nat) (op : Operation) (s : Registry) : Prop where
  operation : s.operation caller = some op
  returned : s.returned caller = none

/-- What is recorded about one executed command, in the state before it. -/
def note (caller : Nat) (c : RedisCmd) (s : Registry) : Registry :=
  match c with
  | .setNx key _ none =>
      if ((s.operation caller).bind Operation.subreddit).map subredditKey = some key ∧
          s.redis.get key = none then
        { s with claimed := s.claimed ++ [caller] }
      else s
  | .hset key mapping =>
      match s.operation caller with
      | some (.setCheckpoint streamId _ _) =>
          if key = checkpointKey streamId then
            { s with progress :=
                Function.update s.progress streamId ((s.progress streamId).setFields mapping) }
          else s
      | _ => s
  | .hgetall _ =>
      match s.operation caller with
      | some (.getCheckpoint streamId) =>
          { s with resumed := Function.update s.resumed caller (s.progress streamId) }
      | _ => s
  | .hgetallEach keys =>
      { s with scanned :=
          Function.update s.scanned caller (s.scanned caller ++ keys.map s.redis.hashes) }
  | .eval (.deleteStreamIfUnchanged metaKey checkpointKey stopKey subredditKey allKey identityKey
      streamId status updatedAt purge) =>
      if (Script.run (.deleteStreamIfUnchanged metaKey checkpointKey stopKey subredditKey allKey
          identityKey streamId status updatedAt purge) s.redis).1 then
        { s with removed := s.removed ++ [caller] }
      else s
  | _ => s

def execute (caller : Nat) (c : RedisCmd) (s : Registry) : Registry :=
  { s.note caller c with
    redis := (c.run s.redis).2
    touched := Function.update s.touched caller (s.touched caller || c.takesEffect s.redis) }

/-- With `faulty`, any command may fail, before or after its effect. Postgres may always fail. -/
def answer (faulty : Bool) (caller : Nat) : (c : CallEffect) → Fate → Registry →
    Option (Except PyExc c.Answer × Registry)
  | .inner (.redis c), .answered, s => some ((c.run s.redis).1, s.execute caller c)
  | .inner (.redis _), .failed e, s => if faulty then some (.error e, s) else none
  | .inner (.redis c), .failedAfter e, s =>
      if faulty then some (.error e, s.execute caller c) else none
  | .inner .persist, .answered, s => some (.ok (), s)
  | .inner .persist, .failed e, s =>
      if faulty || e.isException then some (.error e, s) else none
  | .inner .nowIso, .named text, s => if text = "" then none else some (.ok text, s)
  | .inner .uuid4, .named id, s =>
      if id = "" ∨ (s.issued id).isSome then none
      else some (.ok id, { s with
        issued := Function.update s.issued id
          (some (((s.operation caller).bind Operation.subreddit).getD "")) })
  | .outer outcome, .answered, s =>
      some (.ok (), { s with returned := Function.update s.returned caller (some outcome) })
  | _, _, _ => none

end Registry

/-- The calls that are studied are those that `permits` admits. -/
def registryMachine (faulty : Bool) (permits : Operation → Bool) :
    Machine CallEffect CallEffect.Answer PyExc Registry Nat Fate Operation where
  answer := Registry.answer faulty
  start caller op s :=
    if permits op ∧ s.operation caller = none then
      some (op.call.reported, { s with operation := Function.update s.operation caller (some op) })
    else none
  finish _ _ s := s
  tick _ _ := none

/-- A stream made before identity keys existed: the claim and complete metadata. -/
structure LegacyStream (r : Store) (subreddit streamId : String) : Prop where
  named : streamId ≠ ""
  claim : r.get (subredditKey subreddit) = some streamId
  identity : r.get (identityKey subreddit) = none
  metadata : ∃ status instanceId config createdAt updatedAt, updatedAt ≠ "" ∧
    (r.hashes (metaKey streamId)).get "id" = some streamId ∧
    (r.hashes (metaKey streamId)).get "subreddit" = some subreddit ∧
    (r.hashes (metaKey streamId)).get "status" = some status ∧
    (r.hashes (metaKey streamId)).get "instance_id" = some instanceId ∧
    (r.hashes (metaKey streamId)).get "config" = some config ∧
    (r.hashes (metaKey streamId)).get "created_at" = some createdAt ∧
    (r.hashes (metaKey streamId)).get "updated_at" = some updatedAt

/-- A store that holds such streams and no others. The empty store is one. -/
structure LegacyStore (r : Store) : Prop where
  identities : ∀ subreddit, r.get (identityKey subreddit) = none
  claims : ∀ subreddit streamId, r.get (subredditKey subreddit) = some streamId →
    LegacyStream r subreddit streamId
  metadata : ∀ streamId, r.hashes (metaKey streamId) ≠ [] →
    ∃ subreddit, LegacyStream r subreddit streamId

/-- The start of a history over what is stored: the ids in use have been generated. -/
def Registry.initial (r : Store) : Registry where
  redis := r
  issued streamId := r.hget (metaKey streamId) "subreddit"
  progress streamId := r.hashes (checkpointKey streamId)

theorem LegacyStore.empty : LegacyStore {} :=
  ⟨fun _ => rfl, fun _ _ held => (by cases held), fun _ held => absurd rfl held⟩

/-- A command without an effect leaves every key as it is. -/
theorem RedisCmd.run_inert {c : RedisCmd} {r : Store} (h : c.takesEffect r = false) :
    (c.run r).2 = r := by
  cases c with
  | get | keyExists | hgetall | hgetallEach | smembers => rfl
  | eval script =>
      simp only [takesEffect] at h
      simp only [run]
      cases script with
      | deleteStreamIfUnchanged =>
          revert h
          simp only [Script.run]
          split_ifs <;> simp
      | heartbeatIfActive =>
          revert h
          simp only [Script.run]
          split_ifs <;> simp
      | refreshIfOwner key token ttl =>
          revert h
          simp only [Script.run, Store.expire]
          split
          · split
            · simp
            · split <;> simp
          · simp
      | deleteIfOwner =>
          revert h
          simp only [Script.run]
          split_ifs <;> simp
  | set | setNx | hset | sadd | srem => cases h

theorem orNone_eq_some {value : Option String} {text : String} :
    orNone value = some text ↔ value = some text ∧ text ≠ "" := by
  cases value with
  | none => simp [orNone]
  | some held =>
      by_cases blank : held = ""
      · subst blank
        simp [orNone, truthy, eq_comm]
      · simp only [orNone, truthy, decide_not, blank, decide_false, Bool.not_false, if_true,
          Option.some.injEq]
        constructor
        · rintro rfl
          exact ⟨rfl, blank⟩
        · exact fun h => h.1

theorem orNone_eq_none {value : Option String} : orNone value = none ↔ value = none ∨ value = some "" := by
  cases value with
  | none => simp [orNone]
  | some text => by_cases blank : text = "" <;> simp [orNone, truthy, blank]

/-- A `SET NX` finds the key taken, or takes it. -/
theorem setNx_cases (key value : String) (r : Store) :
    r.get key ≠ none ∧ (RedisCmd.setNx key value none).run r = (.ok false, r) ∨
      r.get key = none ∧ (RedisCmd.setNx key value none).run r = (.ok true, r.set key value) := by
  by_cases taken : (r.get key).isSome
  · exact .inl ⟨by simpa [Option.isSome_iff_ne_none] using taken, by simp [RedisCmd.run, taken]⟩
  · exact .inr ⟨by simpa using taken, by simp [RedisCmd.run, taken]⟩

/-- The script of `delete_stream`, with its keys computed from the ids. -/
abbrev deleteScript (streamId subreddit status updatedAt purge : String) : Script :=
  .deleteStreamIfUnchanged (metaKey streamId) (checkpointKey streamId) (stopRequestKey streamId)
    (subredditKey subreddit) allKey (identityKey subreddit) streamId status updatedAt purge

/-- The guards of the script hold in `r`, and `r'` is what it leaves behind. -/
structure Removed (streamId subreddit status updatedAt purge : String) (r r' : Store) : Prop where
  status : status ≠ "" → r.hget (metaKey streamId) "status" = some status
  updatedAt : updatedAt ≠ "" → r.hget (metaKey streamId) "updated_at" = some updatedAt
  gone : r'.has (metaKey streamId) = false
  metadata : ∀ id, r'.hashes (metaKey id) = if id = streamId then [] else r.hashes (metaKey id)
  stopRequest : r'.has (stopRequestKey streamId) = false
  listed : r'.sets allKey = (r.sets allKey).filter fun id => id ≠ streamId
  checkpoint : ∀ id, r'.hashes (checkpointKey id) =
    if id = streamId ∧ purge = "1" then [] else r.hashes (checkpointKey id)
  identity : ∀ name, r'.get (identityKey name) = if name = subreddit then
    (if purge = "1" then none else some streamId) else r.get (identityKey name)
  claim : ∀ name, r'.get (subredditKey name) =
    if name = subreddit ∧ r.get (subredditKey name) = some streamId then none
    else r.get (subredditKey name)

/-- A deletion writes no claim, and creates no metadata. -/
theorem deleteScript_entries (streamId subreddit status updatedAt purge : String) (r : Store) :
    let r' := ((deleteScript streamId subreddit status updatedAt purge).run r).2
    (∀ name e, r'.entry (subredditKey name) = some e → r.entry (subredditKey name) = some e) ∧
      ∀ id, r.entry (metaKey id) = none ∧ r.sets (metaKey id) = [] →
        r'.entry (metaKey id) = none ∧ r'.sets (metaKey id) = [] := by
  simp only [Script.run]
  split_ifs <;> simp_all

/-- The script changes nothing, or it removes the stream whose guards hold. -/
theorem deleteScript_cases (streamId subreddit status updatedAt purge : String) (r : Store) :
    (deleteScript streamId subreddit status updatedAt purge).run r = (false, r) ∨
      ((deleteScript streamId subreddit status updatedAt purge).run r).1 = true ∧
      Removed streamId subreddit status updatedAt purge r
        ((deleteScript streamId subreddit status updatedAt purge).run r).2 := by
  simp only [Script.run]
  split
  · exact .inl rfl
  split
  · exact .inl rfl
  split
  · exact .inl rfl
  rename_i present statusKept timeKept
  refine .inr ⟨rfl, ?_⟩
  constructor
  · exact fun given => by_contra fun other => statusKept ⟨given, other⟩
  · exact fun given => by_contra fun other => timeKept ⟨given, other⟩
  · split_ifs <;> simp [Store.has]
  · intro id
    split_ifs <;> simp_all
  · split_ifs <;> simp [Store.has]
  · split_ifs <;> simp
  · intro id
    split_ifs <;> simp_all
  · intro name
    split_ifs <;> simp_all
  · intro name
    by_cases here : name = subreddit
    · subst here
      split_ifs <;> simp_all
    · split_ifs <;> simp_all

/-- The script of `heartbeat` changes nothing, or refreshes the metadata and the index. -/
theorem heartbeatScript_cases (streamId instanceId now : String) (r : Store) :
    ((Script.heartbeatIfActive (metaKey streamId) (instanceKey instanceId) instanceId now
        streamId).run r).2 = r ∨
      ((Script.heartbeatIfActive (metaKey streamId) (instanceKey instanceId) instanceId now
        streamId).run r).2 =
      (r.hset (metaKey streamId) [("updated_at", now)]).sadd (instanceKey instanceId) streamId := by
  simp only [Script.run]
  split_ifs
  · exact .inl rfl
  · exact .inl rfl
  · exact .inr rfl

namespace Registry

variable {faulty : Bool} {permits : Operation → Bool} {caller : Nat} {s s' : Registry}

/-- Records about commands leave the calls and the ids as they are. -/
theorem note_kept (c : RedisCmd) :
    (s.note caller c).operation = s.operation ∧ (s.note caller c).issued = s.issued ∧
      (s.note caller c).returned = s.returned := by
  unfold note
  split
  · split <;> exact ⟨rfl, rfl, rfl⟩
  · split
    · split <;> exact ⟨rfl, rfl, rfl⟩
    · exact ⟨rfl, rfl, rfl⟩
  · split <;> exact ⟨rfl, rfl, rfl⟩
  · exact ⟨rfl, rfl, rfl⟩
  · split <;> exact ⟨rfl, rfl, rfl⟩
  · exact ⟨rfl, rfl, rfl⟩

@[simp] theorem execute_redis (c : RedisCmd) : (s.execute caller c).redis = (c.run s.redis).2 := rfl

@[simp] theorem execute_operation (c : RedisCmd) :
    (s.execute caller c).operation = s.operation := (note_kept c).1

@[simp] theorem execute_issued (c : RedisCmd) : (s.execute caller c).issued = s.issued :=
  (note_kept c).2.1

@[simp] theorem execute_returned (c : RedisCmd) : (s.execute caller c).returned = s.returned :=
  (note_kept c).2.2

theorem execute_setNx (s : Registry) (caller : Nat) (key value : String) :
    (s.execute caller (.setNx key value none)).progress = s.progress ∧
      (s.execute caller (.setNx key value none)).scanned = s.scanned := by
  simp only [execute, note]
  split <;> exact ⟨rfl, rfl⟩

theorem execute_hset_scanned (s : Registry) (caller : Nat) (key : String) (mapping : List (String × String)) :
    (s.execute caller (.hset key mapping)).scanned = s.scanned := by
  simp only [execute, note]
  split
  · split <;> rfl
  · rfl

theorem execute_delete (s : Registry) (caller : Nat)
    (streamId subreddit status updatedAt purge : String) :
    (s.execute caller (.eval (deleteScript streamId subreddit status updatedAt purge))).progress =
        s.progress ∧
      (s.execute caller (.eval (deleteScript streamId subreddit status updatedAt purge))).scanned =
        s.scanned := by
  simp only [execute, note]
  split <;> exact ⟨rfl, rfl⟩

/-- Rows that were read stay recorded. -/
theorem execute_scanned (c : RedisCmd) {other : Nat} {row : Hash} (h : row ∈ s.scanned other) :
    row ∈ (s.execute caller c).scanned other := by
  simp only [execute, note]
  split
  · split <;> exact h
  · split
    · split <;> exact h
    · exact h
  · split <;> exact h
  · by_cases own : other = caller
    · subst own
      simp [h]
    · simpa [own] using h
  · split <;> exact h
  · exact h

/-- What one answered effect does to the state. -/
theorem answer_effect {e : CallEffect} {fate : Fate} {r : Except PyExc e.Answer}
    (answered : answer faulty caller e fate s = some (r, s')) :
    s' = s ∨ (∃ c, e = .inner (.redis c) ∧ s' = s.execute caller c) ∨
      (∃ id, e = .inner .uuid4 ∧ s.issued id = none ∧ s' = { s with
        issued := Function.update s.issued id
          (some (((s.operation caller).bind Operation.subreddit).getD "")) }) ∨
      ∃ outcome, e = .outer outcome ∧
        s' = { s with returned := Function.update s.returned caller (some outcome) } := by
  unfold answer at answered
  split at answered
  case h_1 c =>
      cases answered
      exact .inr (.inl ⟨c, rfl, rfl⟩)
  case h_3 c e =>
      split at answered <;> cases answered
      exact .inr (.inl ⟨c, rfl, rfl⟩)
  case h_7 id =>
      split at answered
      · cases answered
      · rename_i fresh
        cases answered
        exact .inr (.inr (.inl ⟨id, rfl, by simpa using (not_or.mp fresh).2, rfl⟩))
  case h_8 outcome =>
      cases answered
      exact .inr (.inr (.inr ⟨outcome, rfl, rfl⟩))
  all_goals
    try split at answered
    all_goals
      cases answered
      try exact .inl rfl

end Registry
end RedditKafka
