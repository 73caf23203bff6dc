import RedditKafka.Flusher.CheckpointFlusher
import RedditKafka.Registry.Calls
import RedditKafka.Registry.Footprint

/-!
# The indexes of the streams

`streams:all` and the set of each instance, beside the operations that fill them
and those that prune them after an earlier read: `list_streams`, `delete_stream`
and `flush`, on any number of instances. A registered stream stays in its indexes
in the runs in which a removal hits no entry that the metadata calls for.
-/
namespace RedditKafka
open Async Redis StreamRegistry

inductive IndexJob where
  | create (number : Nat)
  /-- The status write of `start_stream`. -/
  | activate (streamId instanceId : String) (number : Nat)
  | list (number : Nat)
  | delete (number : Nat)
  | sweep (number : Nat)
  | flush (instanceId : String) (number : Nat)
  deriving DecidableEq, Repr

/-- The stored data, and after it what the development records about a run. -/
structure Indexing where
  redis : Store := {}
  /-- The metadata was written by `create_stream`, and not deleted since. -/
  registered : String → Bool := fun _ => false
  /-- The entries of indexes, key and member, that writers of metadata are still to add. -/
  owed : List (IndexJob × String × String) := []

namespace Indexing

/-- The indexes that metadata which names the instance calls for. -/
def entries (streamId instanceId : String) : List (String × String) :=
  (allKey, streamId) :: if instanceId = "" then [] else [(instanceKey instanceId, streamId)]

def owe (t : IndexJob) (entries : List (String × String)) (s : Indexing) : Indexing :=
  { s with owed := s.owed ++ entries.map fun entry => (t, entry) }

/-- What is recorded about one executed command, in the state before it. -/
def note (t : IndexJob) (c : RedisCmd) (s : Indexing) : Indexing :=
  match c with
  | .hset key mapping =>
      match mapping.lookup "id", mapping.lookup "instance_id", t with
      | some streamId, some instanceId, _ =>
          if key = metaKey streamId then
            { s.owe t (entries streamId instanceId) with
              registered := Function.update s.registered streamId true }
          else s
      | none, some instanceId, .activate streamId _ _ =>
          if key = metaKey streamId then s.owe t [(instanceKey instanceId, streamId)] else s
      | _, _, _ => s
  | .sadd key member => { s with owed := s.owed.filter fun entry => entry ≠ (t, key, member) }
  | .eval (.deleteStreamIfUnchanged key checkpoint stop subreddit all identity streamId status time
      purge) =>
      if (Script.run (.deleteStreamIfUnchanged key checkpoint stop subreddit all identity streamId
        status time purge) s.redis).1 then
        { s with registered := Function.update s.registered streamId false }
      else s
  | _ => s

def execute (t : IndexJob) (c : RedisCmd) (s : Indexing) : Indexing :=
  { s.note t c with redis := (c.run s.redis).2 }

/-- Postgres may fail at any time. -/
def answer (t : IndexJob) : (c : Extended Effect FlushEff) → Turn → Indexing →
    Option (Except PyExc (FlushAnswer c) × Indexing)
  | .inner (.redis c), .answered, s => some ((c.run s.redis).1, s.execute t c)
  | .inner .nowIso, .named text, s => some (.ok text, s)
  | .inner .uuid4, .named id, s => some (.ok id, s)
  | .inner .persist, .answered, s => some (.ok (), s)
  | .inner .persist, .raised e, s => if e.isException then some (.error e, s) else none
  | .outer (.upsert _), .answered, s => some (.ok (), s)
  | .outer (.upsert _), .raised e, s => if e.isException then some (.error e, s) else none
  | _, _, _ => none

end Indexing

inductive IndexEvent where
  | createStream (subreddit config : String) (instanceId : Option String)
  | delete (streamId : String) (expectedStatus expectedUpdatedAt : Option String) (purge : Bool)
  | begin

def Indexing.start (fromIsoformat : String → Option String) : IndexJob → IndexEvent → Indexing →
    Option (FlushProgram Unit × Indexing)
  | .create _, .createStream subreddit config instanceId, s =>
      some (beside (ignoring (createStream subreddit config instanceId)), s)
  | .activate streamId instanceId _, .begin, s =>
      some (beside (updateStatus streamId "active" (some instanceId)), s)
  | .list _, .begin, s => some (beside (ignoring listStreams), s)
  | .delete _, .delete streamId expectedStatus expectedUpdatedAt purge, s =>
      some (beside (ignoring (deleteStream streamId expectedStatus expectedUpdatedAt purge)), s)
  | .sweep _, .begin, s => some (beside DeadStreamCleanup.cleanup, s)
  | .flush instanceId _, .begin, s => some (CheckpointFlusher.flush fromIsoformat instanceId, s)
  | _, _, _ => none

def indexMachine (fromIsoformat : String → Option String) :
    Machine (Extended Effect FlushEff) FlushAnswer PyExc Indexing IndexJob Turn IndexEvent where
  answer := Indexing.answer
  start := Indexing.start fromIsoformat
  finish _ _ s := s
  tick _ _ := none

abbrev IndexConfig : Type 1 := Config (Extended Effect FlushEff) FlushAnswer PyExc Indexing IndexJob

namespace Indexing

/-- The stream is registered, and belongs into the index: it is the one of all streams, or that
of the instance which the metadata names. -/
def needs (s : Indexing) (key streamId : String) : Bool :=
  s.registered streamId && (key = allKey ||
    (orNone (s.redis.hget (metaKey streamId) "instance_id")).map instanceKey = some key)

/-- A removal from an index hits no entry that is needed, unless its writer is still to add it. -/
def sparing : Extended Effect FlushEff → Indexing → Bool
  | .inner (.redis (.srem key members)), s =>
      members.all fun streamId => !s.needs key streamId ||
        s.owed.any fun entry => entry.2 = (key, streamId)
  | _, _ => true

/-- The entry is there, or its writer is still to add it. -/
def Due (s : Indexing) (key streamId : String) : Prop :=
  streamId ∈ s.redis.sets key ∨ ∃ t, (t, key, streamId) ∈ s.owed

def Indexed (s : Indexing) : Prop := ∀ key streamId, s.needs key streamId = true → s.Due key streamId

/-- What the thread is still to add. -/
def Owes (t : IndexJob) (entries : List (String × String)) (s : Indexing) : Prop :=
  ∀ entry, (t, entry) ∈ s.owed ↔ entry ∈ entries

/-- The others neither add nor settle what the thread owes. -/
def Leaves (t : IndexJob) (s s' : Indexing) : Prop :=
  ∀ entry, (t, entry) ∈ s'.owed ↔ (t, entry) ∈ s.owed

def discipline : Discipline (Extended Effect FlushEff) Indexing IndexJob where
  inv := Indexed
  keeps := Leaves
  keeps_refl _ _ _ := .rfl
  keeps_trans _ _ _ _ first second entry := (second entry).trans (first entry)
  ok _ c s := sparing c s = true
  pledge _ _ _ := True

variable {t : IndexJob} {s s' : Indexing}

theorem Owes.kept {entries : List (String × String)} (h : Owes t entries s) (left : Leaves t s s') :
    Owes t entries s' :=
  fun entry => (left entry).trans (h entry)

/-- What a step of the thread comes to, for the invariant and for the others. -/
structure Moved (t : IndexJob) (s s' : Indexing) : Prop where
  indexed : Indexed s'
  others : ∀ u, u ≠ t → Leaves u s s'

theorem mem_owe {u : IndexJob} {entry : String × String} {entries : List (String × String)} :
    (u, entry) ∈ (s.owe t entries).owed ↔ (u, entry) ∈ s.owed ∨ u = t ∧ entry ∈ entries := by
  obtain ⟨key, member⟩ := entry
  simp [owe, and_comm, eq_comm]

/-- No entry leaves an index, nobody's debt changes, and no stream is in need of a new entry. -/
theorem moved_of_grows (hs : Indexed s) (owed : s'.owed = s.owed)
    (needs : ∀ key id, s'.needs key id = true → s.needs key id = true)
    (sets : ∀ key id, id ∈ s.redis.sets key → id ∈ s'.redis.sets key) : Moved t s s' := by
  refine ⟨fun key id need => ?_, fun u _ entry => by rw [owed]⟩
  rcases hs key id (needs key id need) with there | ⟨u, due⟩
  · exact .inl (sets key id there)
  · exact .inr ⟨u, by rwa [owed]⟩

theorem needs_of_hashes (registered : s'.registered = s.registered)
    (named : ∀ id, s'.redis.hget (metaKey id) "instance_id" = s.redis.hget (metaKey id) "instance_id")
    (key id : String) (need : s'.needs key id = true) : s.needs key id = true := by
  simpa only [needs, registered, named] using need

/-! ## Commands -/

theorem sadd_moved (hs : Indexed s) (key member : String) :
    Moved t s (s.execute t (.sadd key member)) := by
  have owed (u : IndexJob) (entry : String × String) :
      (u, entry) ∈ (s.execute t (.sadd key member)).owed ↔
        (u, entry) ∈ s.owed ∧ (u, entry) ≠ (t, key, member) := by
    simp only [execute, note, List.mem_filter, decide_eq_true_eq]
  refine ⟨fun key' id need => ?_, fun u other entry => ?_⟩
  · have before := hs key' id (needs_of_hashes (by rfl)
      (fun _ => by simp [execute, RedisCmd.run, Store.hget]) key' id need)
    by_cases same : key' = key ∧ id = member
    · obtain ⟨rfl, rfl⟩ := same
      exact .inl (Store.mem_sadd_sets.mpr (.inr ⟨rfl, rfl⟩))
    · rcases before with there | ⟨u, due⟩
      · exact .inl (Store.mem_sadd_sets.mpr (.inl there))
      · refine .inr ⟨u, (owed u (key', id)).mpr ⟨due, fun hit => same ?_⟩⟩
        simp only [Prod.mk.injEq] at hit
        exact hit.2
  · rw [owed]
    exact and_iff_left fun hit => other (congrArg Prod.fst hit)

/-- What is removed is in nobody's need, or its writer adds it again. -/
theorem srem_moved (hs : Indexed s) {key : String} {members : List String}
    (spared : sparing (.inner (.redis (.srem key members))) s = true) :
    Moved t s (s.execute t (.srem key members)) := by
  refine ⟨fun key' id need => ?_, fun _ _ _ => .rfl⟩
  have needed : s.needs key' id = true :=
    needs_of_hashes (by rfl) (fun _ => by simp [execute, RedisCmd.run, Store.hget]) key' id need
  rcases hs key' id needed with there | due
  · by_cases hit : key' = key ∧ id ∈ members
    · obtain ⟨rfl, member⟩ := hit
      have kept := List.all_eq_true.mp spared id member
      simp only [needed, Bool.not_true, Bool.false_or, List.any_eq_true, decide_eq_true_eq] at kept
      obtain ⟨⟨u, entry⟩, due, same⟩ := kept
      exact .inr ⟨u, by cases same; exact due⟩
    · refine .inl ?_
      simp only [execute, RedisCmd.run, Store.srem_sets]
      split
      · rename_i same
        subst same
        exact List.mem_filter.mpr ⟨there, by simpa using fun member => hit ⟨rfl, member⟩⟩
      · exact there
  · exact .inr due

theorem delete_moved (hs : Indexed s) (streamId subreddit status updatedAt purge : String) :
    Moved t s (s.execute t (.eval (deleteScript streamId subreddit status updatedAt purge))) := by
  rcases deleteScript_cases streamId subreddit status updatedAt purge s.redis with same | ⟨done, removed⟩
  · have still : s.execute t (.eval (deleteScript streamId subreddit status updatedAt purge)) = s := by
      simp [execute, note, RedisCmd.run, same]
    rw [still]
    exact ⟨hs, fun _ _ _ => .rfl⟩
  · have instances (i : String) : ((deleteScript streamId subreddit status updatedAt purge).run
        s.redis).2.sets (instanceKey i) = s.redis.sets (instanceKey i) := by
      simp only [Script.run]
      split_ifs <;> simp
    have noted : s.execute t (.eval (deleteScript streamId subreddit status updatedAt purge)) =
        { s with
          registered := Function.update s.registered streamId false
          redis := ((deleteScript streamId subreddit status updatedAt purge).run s.redis).2 } := by
      simp [execute, note, RedisCmd.run, done]
    rw [noted]
    refine ⟨fun key id need => ?_, fun _ _ _ => .rfl⟩
    have other : id ≠ streamId := by
      rintro rfl
      simp [needs] at need
    have needed : s.needs key id = true := by
      simpa [needs, Store.hget, removed.metadata, other] using need
    refine (hs key id needed).imp_left fun there => ?_
    simp only [needs, Bool.and_eq_true, Bool.or_eq_true, decide_eq_true_eq, Option.map_eq_some_iff]
      at needed
    rcases needed.2 with rfl | ⟨i, -, rfl⟩
    · rw [removed.listed]
      exact List.mem_filter.mpr ⟨there, by simpa using other⟩
    · rwa [instances]

/-- The operations that write no metadata. -/
abbrev Pruning : String → Permission → Prop := fun _ permission => permission = .delete

theorem pruning_moved (hs : Indexed s) {c : RedisCmd} (allowed : RegistryCommand Pruning c)
    (spared : sparing (.inner (.redis c)) s = true) : Moved t s (s.execute t c) := by
  cases allowed with
  | get | keyExists | hgetall | hgetallEach | smembers => exact ⟨hs, fun _ _ _ => .rfl⟩
  | claim name value | identity name value =>
      refine moved_of_grows hs rfl (needs_of_hashes rfl fun id => ?_) fun key id there => ?_
      · simp only [execute, RedisCmd.run]
        split_ifs <;> rfl
      · simp only [execute, RedisCmd.run]
        split_ifs <;> exact there
  | stopRequest _ _ stops => cases stops
  | metadata _ _ _ _ _ _ creates => cases creates
  | status _ _ _ _ written => cases written
  | checkpoint id mapping =>
      have noted : s.note t (.hset (checkpointKey id) mapping) = s := by
        simp only [note]
        split
        · simp
        · simp
        · rfl
      refine moved_of_grows hs (by simp [execute, noted]) (needs_of_hashes (by simp [execute, noted])
        fun id' => ?_) fun key id' there => ?_
      · simp [execute, RedisCmd.run, Store.hget]
      · simpa [execute, RedisCmd.run] using there
  | list | listInstance => exact sadd_moved hs _ _
  | unlist | unlistInstance => exact srem_moved hs spared
  | heartbeat streamId instanceId now =>
      refine moved_of_grows hs rfl (needs_of_hashes rfl fun id => ?_) fun key id there => ?_
      · rcases heartbeatScript_cases streamId instanceId now s.redis with same | same
        · simp only [execute, RedisCmd.run, same]
        · by_cases own : id = streamId <;> simp [execute, RedisCmd.run, same, Store.hget, own]
      · rcases heartbeatScript_cases streamId instanceId now s.redis with same | same
        · simpa only [execute, RedisCmd.run, same] using there
        · simp only [execute, RedisCmd.run, same]
          exact Store.mem_sadd_sets.mpr (.inl there)
  | delete => exact delete_moved hs _ _ _ _ _

/-- What is written calls for the entries that its writer owes from now on. -/
theorem written_moved {new : List (String × String)} (hs : Indexed s)
    (owed : s'.owed = (s.owe t new).owed) (sets : s'.redis.sets = s.redis.sets)
    (needs : ∀ key id, s'.needs key id = true → s.needs key id = true ∨ (key, id) ∈ new) :
    Moved t s s' := by
  refine ⟨fun key id need => ?_, fun u other entry => ?_⟩
  · rcases needs key id need with needed | called
    · rcases hs key id needed with there | ⟨u, due⟩
      · exact .inl (sets ▸ there)
      · exact .inr ⟨u, owed ▸ mem_owe.mpr (.inl due)⟩
    · exact .inr ⟨t, owed ▸ mem_owe.mpr (.inr ⟨rfl, called⟩)⟩
  · rw [owed, mem_owe]
    exact or_iff_left fun own => other own.1

theorem owes_of_owed {new : List (String × String)} (free : Owes t [] s)
    (owed : s'.owed = (s.owe t new).owed) : Owes t new s' := by
  intro entry
  rw [owed, mem_owe, free entry]
  simp

theorem needs_iff {key streamId : String} : s.needs key streamId = true ↔
    s.registered streamId = true ∧ (key = allKey ∨ ∃ instanceId,
      s.redis.hget (metaKey streamId) "instance_id" = some instanceId ∧ instanceId ≠ "" ∧
        instanceKey instanceId = key) := by
  simp only [needs, Bool.and_eq_true, Bool.or_eq_true, decide_eq_true_eq, Option.map_eq_some_iff,
    orNone_eq_some, and_assoc]

theorem metadata_moved (hs : Indexed s) (free : Owes t [] s)
    (streamId subreddit config instanceId createdAt updatedAt : String) :
    let s' := s.execute t (.hset (metaKey streamId)
      (newMeta streamId subreddit config instanceId createdAt updatedAt))
    Moved t s s' ∧ Owes t (entries streamId instanceId) s' := by
  intro s'
  have id : (newMeta streamId subreddit config instanceId createdAt updatedAt).lookup "id" =
      some streamId := rfl
  have instance_ : (newMeta streamId subreddit config instanceId createdAt updatedAt).lookup
      "instance_id" = some instanceId := rfl
  have noted : s' = { s.owe t (entries streamId instanceId) with
      registered := Function.update s.registered streamId true
      redis := s.redis.hset (metaKey streamId)
        (newMeta streamId subreddit config instanceId createdAt updatedAt) } := by
    simp only [s', execute, note, id, instance_, if_true, RedisCmd.run]
  have named (id : String) : s'.redis.hget (metaKey id) "instance_id" =
      if id = streamId then some instanceId else s.redis.hget (metaKey id) "instance_id" := by
    rw [noted]
    simp only [Store.hget, Store.hset_hashes, Layout.key_inj, true_and]
    split <;> simp [newMeta]
  have owed : s'.owed = (s.owe t (entries streamId instanceId)).owed := by rw [noted]
  refine ⟨written_moved hs owed (by rw [noted, Store.hset_sets]) fun key id need => ?_,
    owes_of_owed free owed⟩
  by_cases own : id = streamId
  · subst own
    simp only [needs_iff, named, if_true, Option.some.injEq] at need
    rcases need.2 with rfl | ⟨i, rfl, nonempty, rfl⟩
    · exact .inr (List.mem_cons_self ..)
    · exact .inr (by simp [entries, nonempty])
  · have kept : s'.registered id = s.registered id := by
      rw [noted]
      exact Function.update_of_ne own _ _
    exact .inl (by simpa only [needs, kept, named, if_neg own] using need)

/-- The status write of `start_stream` names its instance in the metadata. -/
theorem status_moved (hs : Indexed s) {streamId instanceId : String} {number : Nat}
    (free : Owes (.activate streamId instanceId number) [] s) (status updatedAt : String) :
    let s' := s.execute (.activate streamId instanceId number)
      (.hset (metaKey streamId) (statusMapping status updatedAt (some instanceId)))
    Moved (.activate streamId instanceId number) s s' ∧
      Owes (.activate streamId instanceId number) [(instanceKey instanceId, streamId)] s' := by
  intro s'
  have id : (statusMapping status updatedAt (some instanceId)).lookup "id" = none := rfl
  have instance_ : (statusMapping status updatedAt (some instanceId)).lookup "instance_id" =
      some instanceId := rfl
  have noted : s' = {
      s.owe (.activate streamId instanceId number) [(instanceKey instanceId, streamId)] with
      redis := s.redis.hset (metaKey streamId)
        (statusMapping status updatedAt (some instanceId)) } := by
    simp only [s', execute, note, id, instance_, if_true, RedisCmd.run]
  have named (id : String) : s'.redis.hget (metaKey id) "instance_id" =
      if id = streamId then some instanceId else s.redis.hget (metaKey id) "instance_id" := by
    rw [noted]
    simp only [Store.hget, Store.hset_hashes, Layout.key_inj, true_and]
    split <;> simp [statusMapping]
  have owed : s'.owed = (s.owe (.activate streamId instanceId number)
      [(instanceKey instanceId, streamId)]).owed := by rw [noted]
  have kept : s'.registered = s.registered := by
    rw [noted]
    rfl
  refine ⟨written_moved hs owed (by rw [noted, Store.hset_sets]) fun key id need => ?_,
    owes_of_owed free owed⟩
  by_cases own : id = streamId
  · subst own
    simp only [needs_iff, named, kept, if_true, Option.some.injEq] at need
    rcases need with ⟨known, rfl | ⟨i, rfl, -, rfl⟩⟩
    · exact .inl (by simp [needs, known])
    · exact .inr (List.mem_singleton_self _)
  · exact .inl (by simpa only [needs, kept, named, if_neg own] using need)

/-! ## Operations -/

section operations

variable {fromIsoformat : String → Option String} {α : Type}

/-- A coroutine of the service among the operations. -/
abbrev IndexSafe (fromIsoformat : String → Option String) (t : IndexJob) (p : Program α)
    (Q : Except PyExc α → Indexing → Prop) (s : Indexing) : Prop :=
  Safe (indexMachine fromIsoformat).inner discipline.inner t p Q s

theorem pruning_owed {c : RedisCmd} (allowed : RegistryCommand Pruning c) :
    ∀ entry ∈ (s.execute t c).owed, entry ∈ s.owed := by
  intro entry due
  cases allowed with
  | list | listInstance => exact (List.mem_filter.mp due).1
  | metadata _ _ _ _ _ _ creates => cases creates
  | status _ _ _ _ written => cases written
  | checkpoint id mapping =>
      simp only [execute, note, Layout.key_inj, reduceCtorEq, false_and, if_false] at due
      split at due <;> exact due
  | delete =>
      simp only [execute, note] at due
      split at due <;> exact due
  | _ => exact due

theorem pruning_answer (hs : Indexed s) {c : Effect} (allowed : RegistryEffect Pruning c) {turn : Turn}
    {r : Except PyExc c.Answer} (spared : sparing (.inner c) s = true)
    (answered : Indexing.answer t (.inner c) turn s = some (r, s')) :
    Moved t s s' ∧ (Owes t [] s → Owes t [] s') := by
  have still : Moved t s s ∧ (Owes t [] s → Owes t [] s) := ⟨⟨hs, fun _ _ _ => .rfl⟩, fun h => h⟩
  cases c with
  | redis c =>
      cases turn <;> cases answered
      refine ⟨pruning_moved hs allowed spared, fun free entry => iff_of_false (fun due => ?_) nofun⟩
      exact List.not_mem_nil ((free entry).mp (pruning_owed allowed _ due))
  | persist =>
      cases turn with
      | answered => cases answered; exact still
      | raised e =>
          simp only [Indexing.answer] at answered
          split at answered <;> cases answered
          exact still
      | _ => cases answered
  | nowIso | uuid4 =>
      cases turn <;> cases answered
      exact still
  | _ => cases allowed

/-- An operation that writes no metadata owes nothing at any time. -/
theorem pruning_safe {p : Program α} (uses : p.Uses (RegistryEffect Pruning)) (free : Owes t [] s) :
    IndexSafe fromIsoformat t p (fun _ => Owes t []) s := by
  refine Safe.of_uses uses _ free (fun a b moved _ free => free.kept moved)
    fun c s₁ allowed hs₁ free => ⟨trivial, fun spared turn r s₂ answered => ?_⟩
  obtain ⟨moved, still⟩ := pruning_answer hs₁ allowed spared answered
  exact ⟨moved.indexed, moved.others, still free⟩

/-- One command that is answered, with what its thread owes before and after it. -/
theorem redis_safe {c : RedisCmd} {before after : List (String × String)} (owes : Owes t before s)
    (works : ∀ store, ∃ reply, (c.run store).1 = .ok reply)
    (step : ∀ s₁, Indexed s₁ → Owes t before s₁ →
      Moved t s₁ (s₁.execute t c) ∧ Owes t after (s₁.execute t c)) :
    IndexSafe fromIsoformat t (RedditKafka.redis c)
      (fun r s => (∃ reply, r = .ok reply) ∧ Owes t after s) s := by
  intro s₁ left hs₁
  refine ⟨trivial, fun _ turn r s₂ answered => ?_⟩
  have answered : Indexing.answer t (.inner (.redis c)) turn s₁ = some (r, s₂) := answered
  cases turn with
  | answered =>
      obtain ⟨moved, owes⟩ := step s₁ hs₁ (owes.kept left)
      obtain ⟨same, rfl⟩ := Prod.mk.inj (Option.some.inj answered)
      obtain ⟨reply, worked⟩ := works s₁.redis
      obtain rfl : .ok reply = r := worked.symm.trans same
      exact ⟨moved.indexed, moved.others, ⟨reply, rfl⟩, owes⟩
  | _ => cases answered

theorem sadd_safe {key member : String} {rest : List (String × String)}
    (owes : Owes t ((key, member) :: rest) s) (fresh : (key, member) ∉ rest) :
    IndexSafe fromIsoformat t (RedditKafka.redis (.sadd key member))
      (fun r s => (∃ reply, r = .ok reply) ∧ Owes t rest s) s := by
  refine redis_safe owes (fun _ => ⟨(), rfl⟩)
    fun s₁ hs₁ owes => ⟨sadd_moved hs₁ key member, fun entry => ?_⟩
  simp only [execute, note, List.mem_filter, decide_eq_true_eq, owes entry, List.mem_cons, ne_eq,
    Prod.mk.injEq, true_and]
  constructor
  · rintro ⟨same | there, other⟩
    · exact (other same).elim
    · exact there
  · exact fun there => ⟨.inr there, fun same => fresh (same ▸ there)⟩

theorem indexInstance_safe {instanceId : Option String} {streamId : String}
    (owes : Owes t ((entries streamId (instanceId.getD "")).tail) s) :
    IndexSafe fromIsoformat t (indexInstance instanceId streamId)
      (fun r s => (∃ reply, r = .ok reply) ∧ Owes t [] s) s := by
  unfold indexInstance
  split
  · rename_i unnamed
    have blank : instanceId.getD "" = "" := by
      rcases orNone_eq_none.mp unnamed with rfl | rfl <;> rfl
    exact ⟨⟨(), rfl⟩, by simpa [entries, blank] using owes⟩
  · rename_i named
    obtain ⟨rfl, nonempty⟩ := orNone_eq_some.mp named
    exact sadd_safe (by simpa [entries, nonempty] using owes) List.not_mem_nil

theorem register_safe (hs : Indexed s) (free : Owes t [] s) (streamId subreddit config : String)
    (instanceId : Option String) :
    IndexSafe fromIsoformat t (register streamId subreddit config instanceId)
      (fun _ => Owes t []) s := by
  refine Safe.bind hs (pruning_safe nowIso_uses free) (fun createdAt s hs free => ?_)
    fun _ _ _ free => free
  refine Safe.bind hs (pruning_safe nowIso_uses free) (fun updatedAt s hs free => ?_)
    fun _ _ _ free => free
  refine Safe.bind hs (redis_safe free (fun _ => ⟨(), rfl⟩)
    fun s₁ hs₁ free => metadata_moved hs₁ free ..) (fun _ s hs owes => ?_)
    fun e s _ failed => by simp at failed
  refine Safe.bind hs (sadd_safe owes.2 (by split <;> simp)) (fun _ s hs owes => ?_)
    fun e s _ failed => by simp at failed
  refine Safe.bind hs (indexInstance_safe owes.2) (fun _ s hs owes => ?_)
    fun e s _ failed => by simp at failed
  exact Safe.bind hs (pruning_safe persist_uses owes.2) (fun _ s _ free => free)
    fun _ _ _ free => free

theorem createStream_safe (hs : Indexed s) (free : Owes t [] s) (subreddit config : String)
    (instanceId : Option String) :
    IndexSafe fromIsoformat t (createStream subreddit config instanceId)
      (fun _ => Owes t []) s := by
  refine Safe.bind hs (pruning_safe (redis_uses (.get _)) free) (fun existing s hs free => ?_)
    fun _ _ _ free => free
  split
  · exact pruning_safe ((redis_uses (.identity _ _)).bind fun _ => trivial) free
  refine Safe.bind hs (pruning_safe (Prog.Uses.perform trivial) free)
    (fun candidateId s hs free => ?_) fun _ _ _ free => free
  refine Safe.bind hs (pruning_safe (resolveIdentity_uses _ _) free) (fun streamId s hs free => ?_)
    fun _ _ _ free => free
  split
  · refine Safe.bind hs (pruning_safe (redis_uses (.claim _ _)) free)
      (fun claimed s hs free => ?_) fun _ _ _ free => free
    split
    · exact register_safe hs free ..
    · exact pruning_safe ((redis_uses (.get _)).bind fun _ => trivial) free
  · exact free

theorem activate_safe {streamId instanceId : String} {number : Nat} (hs : Indexed s)
    (free : Owes (.activate streamId instanceId number) [] s) :
    IndexSafe fromIsoformat (.activate streamId instanceId number)
      (updateStatus streamId "active" (some instanceId)) (fun _ => Owes (.activate streamId instanceId number) []) s := by
  refine Safe.bind hs (pruning_safe nowIso_uses free) (fun updatedAt s hs free => ?_)
    fun _ _ _ free => free
  refine Safe.bind hs (redis_safe free (fun _ => ⟨(), rfl⟩)
    fun s₁ hs₁ free => status_moved hs₁ free ..) (fun _ s hs owes => ?_)
    fun e s _ failed => by simp at failed
  refine Safe.bind hs (sadd_safe owes.2 List.not_mem_nil) (fun _ s hs owes => ?_)
    fun e s _ failed => by simp at failed
  exact pruning_safe persist_uses owes.2

/-- What a flush awaits. -/
def Flushes : Extended Effect FlushEff → Prop
  | .inner c => RegistryEffect Pruning c
  | .outer (.upsert _) => True
  | _ => False

theorem flush_uses (instanceId : String) :
    (CheckpointFlusher.flush fromIsoformat instanceId).Uses Flushes := by
  refine exceptException_uses ((Prog.Uses.perform (.smembers _)).bind fun streamIds => ?_)
    fun _ => trivial
  split
  · trivial
  refine (Prog.Uses.perform (.hgetallEach _)).bind fun results => ?_
  refine Prog.Uses.bind ?_ fun _ => ?_
  · unfold CheckpointFlusher.dropStale
    split
    · trivial
    · exact Prog.Uses.perform (.unlistInstance _ _)
  · unfold CheckpointFlusher.upsertCheckpoints
    split
    · trivial
    · exact Prog.Uses.perform trivial

theorem flush_safe {p : FlushProgram α} (uses : p.Uses Flushes) (free : Owes t [] s) :
    Safe (indexMachine fromIsoformat) discipline t p (fun _ => Owes t []) s := by
  refine Safe.of_uses uses _ free (fun a b moved _ free => free.kept moved)
    fun c s₁ allowed hs₁ free => ⟨trivial, fun spared turn r s₂ answered => ?_⟩
  cases c with
  | inner c =>
      obtain ⟨moved, still⟩ := pruning_answer hs₁ allowed spared answered
      exact ⟨moved.indexed, moved.others, still free⟩
  | outer c =>
      cases c with
      | upsert rows =>
          have answered : Indexing.answer t (.outer (.upsert rows)) turn s₁ = some (r, s₂) := answered
          have same : s₂ = s₁ := by
            cases turn with
            | answered => cases answered; rfl
            | raised e =>
                simp only [Indexing.answer] at answered
                split at answered <;> cases answered
                rfl
            | _ => cases answered
          subst same
          exact ⟨hs₁, fun _ _ _ => .rfl, free⟩
      | _ => cases allowed

/-- Every operation starts and ends without debts. -/
theorem index_resting : Resting (indexMachine fromIsoformat) discipline (fun t _ => Owes t [])
    (fun t => Owes t []) where
  post_stable t r a b left _ free := free.kept left
  rest_stable t a b left _ free := free.kept left
  start t event s p s' hs free started := by
    have service {t : IndexJob} {p : Program Unit}
        (safe : IndexSafe fromIsoformat t p (fun _ => Owes t []) s) :
        Indexed s ∧ (∀ u, u ≠ t → Leaves u s s) ∧
          Safe (indexMachine fromIsoformat) discipline t (beside p) (fun _ => Owes t []) s :=
      ⟨hs, fun _ _ _ => .rfl, safe.lift⟩
    have started : Indexing.start fromIsoformat t event s = some (p, s') := started
    cases t <;> cases event <;> cases started
    · exact service (Safe.bind hs (createStream_safe hs free ..) (fun _ s _ free => free)
        fun _ _ _ free => free)
    · exact service (activate_safe hs free)
    · exact service (pruning_safe (listStreams_uses.bind fun _ => trivial) free)
    · exact service (pruning_safe ((deleteStream_uses (.inr rfl) _ _).bind fun _ => trivial) free)
    · exact service (pruning_safe DeadStreamCleanup.cleanup_uses free)
    · exact ⟨hs, fun _ _ _ => .rfl, flush_safe (flush_uses _) free⟩
  finish t r s hs free := ⟨hs, fun _ _ _ => .rfl, free⟩
  tick event s s' hs ticked := by cases ticked

end operations

end Indexing

open Indexing

namespace Indexing

/-- The answers of a `create_stream` that finds its subreddit free. -/
def creation (identity : List Turn) : List Turn :=
  [.answered, .named "new"] ++ identity ++ [.answered, .named "now", .named "now"] ++
    List.replicate 4 .answered

def calls (t : IndexJob) (turns : List Turn) : List (Action IndexJob Turn IndexEvent) :=
  turns.map (.call t)

/-- The stream is created once, and its status written. -/
def createdOnce : List (Action IndexJob Turn IndexEvent) :=
  .start (.create 0) (.createStream "news" "config" (some "i")) ::
    calls (.create 0) (creation [.answered]) ++ .finish (.create 0) ::
    .start (.activate "new" "i" 0) .begin ::
    calls (.activate "new" "i" 0) [.named "now", .answered, .answered, .answered] ++
    [.finish (.activate "new" "i" 0)]

/-- A listing reads the id before the deletion and the metadata after it. -/
def listedAmid : List (Action IndexJob Turn IndexEvent) :=
  .start (.list 0) .begin :: .call (.list 0) .answered ::
    .start (.delete 0) (.delete "new" none none false) ::
    calls (.delete 0) [.answered, .answered, .answered] ++
    .finish (.delete 0) :: .call (.list 0) .answered ::
    .start (.create 1) (.createStream "news" "config" (some "i")) ::
    calls (.create 1) (creation [.answered, .answered]) ++
    [.finish (.create 1), .call (.list 0) .answered, .finish (.list 0)]

end Indexing

end RedditKafka
