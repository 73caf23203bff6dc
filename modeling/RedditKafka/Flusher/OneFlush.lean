import RedditKafka.Async.Interference
import RedditKafka.Flusher.FlushJobs

/-!
# One flush

A flush by itself, without failures: what it upserts, and what it takes out of
the index, stream by stream.
-/
namespace RedditKafka
open Async Redis CheckpointFlusher

namespace Flushing

variable {fromIsoformat : String → Option String} {instanceId : String} {t : Job}
  {s s' : Flushing} {trace : List (Extended Effect FlushEff × Turn)} {out : Except PyExc Unit}

/-- The rows of the statements that a run has executed, one after the other. -/
def upserted (trace : List (Extended Effect FlushEff × Turn)) : List (String × CheckpointRow) :=
  trace.flatMap fun entry => match entry.1 with
    | .outer (.upsert checkpoints) => checkpoints
    | _ => []

/-- The stream is in the index of its owner, and its checkpoint is that of the row. -/
structure Persists (fromIsoformat : String → Option String) (instanceId : String) (s : Flushing)
    (streamId : String) (row : CheckpointRow) : Prop where
  indexed : streamId ∈ s.redis.sets (instanceKey instanceId)
  owned : s.ownerOf streamId = some instanceId
  nonempty : s.redis.hashes (checkpointKey streamId) ≠ []
  parsed : parseCheckpointData fromIsoformat (s.redis.hashes (checkpointKey streamId)) = some row

/-- The same state with another checkpoint of a stream. -/
def withCheckpoint (s : Flushing) (streamId : String) (checkpointData : Hash) : Flushing :=
  { s with redis := { s.redis with
      hashes := Function.update s.redis.hashes (checkpointKey streamId) checkpointData } }

/-! ## Entries, by stream id -/

theorem isStale_eq_false {streamMeta : Hash} :
    isStale instanceId streamMeta = false ↔ streamMeta.get "instance_id" = some instanceId := by
  constructor
  · intro fresh
    simp only [isStale, Bool.or_eq_false_iff, decide_eq_false_iff_not, not_not] at fresh
    exact fresh.2
  · intro owner
    simp [isStale, owner, Hash.ne_nil_of_get owner]

theorem rowFor_eq_some_iff {streamId : String} {row : CheckpointRow} :
    s.rowFor fromIsoformat instanceId streamId = some row ↔
      s.ownerOf streamId = some instanceId ∧ s.redis.hashes (checkpointKey streamId) ≠ [] ∧
        parseCheckpointData fromIsoformat (s.redis.hashes (checkpointKey streamId)) = some row := by
  unfold rowFor rowOf
  constructor
  · intro found
    split at found
    · cases found
    · rename_i fresh
      split at found
      · cases found
      · exact ⟨isStale_eq_false.mp (by simpa using fresh), ‹_›, found⟩
  · rintro ⟨owner, nonempty, parsed⟩
    rw [if_neg (by simpa using isStale_eq_false.mpr owner), if_neg nonempty]
    exact parsed

theorem mem_staleStreamIds {f g : String → Hash} {ids : List String} {streamId : String} :
    streamId ∈ staleStreamIds instanceId (ids.map fun id => (id, f id, g id)) ↔
      streamId ∈ ids ∧ (f streamId).get "instance_id" ≠ some instanceId := by
  have stale : isStale instanceId (f streamId) = true ↔
      (f streamId).get "instance_id" ≠ some instanceId := by
    rw [ne_eq, ← isStale_eq_false, Bool.not_eq_false]
  simp only [staleStreamIds, List.mem_map, List.mem_filter]
  constructor
  · rintro ⟨_, ⟨⟨id, member, rfl⟩, found⟩, rfl⟩
    exact ⟨member, stale.mp found⟩
  · rintro ⟨member, other⟩
    exact ⟨_, ⟨⟨streamId, member, rfl⟩, stale.mpr other⟩, rfl⟩

/-- No stream gets two rows. -/
theorem nodup_checkpointsToUpsert {ids : List String} (nodup : ids.Nodup) (f g : String → Hash) :
    ((checkpointsToUpsert fromIsoformat instanceId
      (ids.map fun id => (id, f id, g id))).map Prod.fst).Nodup := by
  have kept : (checkpointsToUpsert fromIsoformat instanceId
      (ids.map fun id => (id, f id, g id))).map Prod.fst =
        ids.filter fun id => (rowOf fromIsoformat instanceId (f id) (g id)).isSome := by
    induction ids with
    | nil => rfl
    | cons id ids ih =>
        have rest := ih nodup.of_cons
        simp only [checkpointsToUpsert, List.map_cons] at rest ⊢
        cases found : rowOf fromIsoformat instanceId (f id) (g id) with
        | none =>
            rw [List.filterMap_cons_none (by simp [found]), rest]
            simp [found]
        | some row =>
            rw [List.filterMap_cons_some (b := (id, row)) (by simp [found]), List.map_cons, rest]
            simp [found]
  rw [kept]
  exact nodup.filter _

/-! ## The parts of a flush -/

theorem execute_rows (c : RedisCmd) (s : Flushing) :
    (s.execute fromIsoformat t c).rows = s.rows := by
  unfold execute note noteIndexed
  split <;> try rfl
  split
  · split <;> rfl
  · rfl

theorem redis_inv {c : RedisCmd} {out : Except PyExc c.Reply}
    (h : Runs (answer false fromIsoformat t) (CheckpointFlusher.redis c) s trace out s') :
    upserted trace = [] ∧ out = (c.run s.redis).1 ∧ s'.redis = (c.run s.redis).2 ∧
      s'.rows = s.rows := by
  obtain ⟨choice, rfl, answered⟩ := h.perform_inv
  cases choice with
  | answered =>
      cases answered
      exact ⟨rfl, rfl, rfl, execute_rows c s⟩
  | _ => cases answered

theorem dropStale_inv {ids : List String}
    (h : Runs (answer false fromIsoformat t) (dropStale instanceId ids) s trace out s') :
    upserted trace = [] ∧ out = .ok () ∧ s'.redis = s.redis.srem (instanceKey instanceId) ids ∧
      s'.rows = s.rows := by
  unfold dropStale at h
  split at h
  · rename_i none_
    obtain ⟨rfl, rfl, rfl⟩ := h.ret_inv
    refine ⟨rfl, rfl, ?_, rfl⟩
    rw [none_, Store.srem]
    simp
  · exact redis_inv h

theorem upsertCheckpoints_inv {checkpoints : List (String × CheckpointRow)}
    (h : Runs (answer false fromIsoformat t) (upsertCheckpoints checkpoints) s trace out s') :
    upserted trace = checkpoints ∧ out = .ok () ∧ s'.redis = s.redis ∧
      s'.rows = (s.upsert t checkpoints).rows := by
  unfold upsertCheckpoints at h
  split at h
  · rename_i none_
    obtain ⟨rfl, rfl, rfl⟩ := h.ret_inv
    exact ⟨none_.symm, rfl, rfl, by rw [none_]; rfl⟩
  · obtain ⟨choice, rfl, answered⟩ := h.perform_inv
    cases choice with
    | answered =>
        cases answered
        exact ⟨by simp [upserted], rfl, rfl, rfl⟩
    | _ => cases answered

/-- What a flush has read of the streams of its index. -/
def entries (instanceId : String) (s : Flushing) : List (String × Hash × Hash) :=
  (s.redis.sets (instanceKey instanceId)).map fun id =>
    (id, s.redis.hashes (metaKey id), s.redis.hashes (checkpointKey id))

/-- All that a flush does comes from what it has read. -/
theorem flushBatch_inv
    (h : Runs (answer false fromIsoformat t) (flushBatch fromIsoformat instanceId) s trace out s') :
    let checkpoints := checkpointsToUpsert fromIsoformat instanceId (s.entries instanceId)
    upserted trace = checkpoints ∧ out = .ok () ∧
      s'.redis = s.redis.srem (instanceKey instanceId)
        (staleStreamIds instanceId (s.entries instanceId)) ∧
      s'.rows = (s.upsert t checkpoints).rows := by
  intro checkpoints
  obtain ⟨e, rfl, failed⟩ | ⟨trace₁, rest, ids, s₁, rfl, listed, h⟩ := h.bind_inv
  · cases (redis_inv failed).2.1
  obtain ⟨quiet₁, same, redis₁, rows₁⟩ := redis_inv listed
  cases same
  split at h
  · rename_i none_
    obtain ⟨rfl, rfl, rfl⟩ := h.ret_inv
    have nothing : s.entries instanceId = [] := by simp only [entries, none_, List.map_nil]
    have empty : checkpoints = [] := by
      simp only [checkpoints, nothing]
      rfl
    refine ⟨?_, rfl, ?_, ?_⟩
    · rw [List.append_nil, quiet₁, empty]
    · rw [redis₁, nothing, Store.srem]
      simp [staleStreamIds, RedisCmd.run]
    · rw [rows₁, empty]
      rfl
  obtain ⟨e, rfl, failed⟩ | ⟨trace₂, rest, results, s₂, rfl, read, h⟩ := h.bind_inv
  · cases (redis_inv failed).2.1
  obtain ⟨quiet₂, same, redis₂, rows₂⟩ := redis_inv read
  cases same
  rw [redis₁] at redis₂
  have same : (s.redis.sets (instanceKey instanceId)).zip
      (pairs ((pipelineKeys (s.redis.sets (instanceKey instanceId))).map s₁.redis.hashes)) =
        s.entries instanceId := by
    rw [pairs_pipeline, redis₁]
    rfl
  simp only [same] at h
  obtain ⟨e, rfl, failed⟩ | ⟨trace₃, trace₄, _, s₃, rfl, dropped, h⟩ := h.bind_inv
  · cases (dropStale_inv failed).2.1
  obtain ⟨quiet₃, -, redis₃, rows₃⟩ := dropStale_inv dropped
  obtain ⟨written, rfl, redis₄, rows₄⟩ := upsertCheckpoints_inv h
  refine ⟨?_, rfl, ?_, ?_⟩
  · simp only [upserted, List.flatMap_append] at quiet₁ quiet₂ quiet₃ written ⊢
    rw [quiet₁, quiet₂, quiet₃, written]
    rfl
  · rw [redis₄, redis₃, redis₂]
    rfl
  · rw [rows₄]
    simp only [upsert, rows₃, rows₂, rows₁]
    rfl

theorem flush_inv
    (h : Runs (answer false fromIsoformat t) (flush fromIsoformat instanceId) s trace out s') :
    Runs (answer false fromIsoformat t) (flushBatch fromIsoformat instanceId) s trace out s' := by
  obtain ⟨_, rfl, done⟩ | ⟨e, before, after, s₁, rfl, failed, -⟩ := h.rescue_inv
  · exact done
  · cases (flushBatch_inv failed).2.1

/-- The effects of a flush, which all have an answer. -/
def Persisting : Extended Effect FlushEff → Prop
  | .inner (.redis _) | .outer (.upsert _) => True
  | _ => False

theorem Persisting.answered {e : Extended Effect FlushEff} (h : Persisting e) (s : Flushing) :
    ∃ r s', answer false fromIsoformat t e .answered s = some (r, s') := by
  match e with
  | .inner (.redis c) => exact ⟨_, _, rfl⟩
  | .outer (.upsert checkpoints) => exact ⟨_, _, rfl⟩

theorem straight_ends {p : FlushProgram Unit} (straight : p.Straight Persisting) (s : Flushing) :
    ∃ trace out s', Runs (answer false fromIsoformat t) p s trace out s' := by
  have answers (e : Extended Effect FlushEff) (s : Flushing) (h : Persisting e) (_ : True) :
      ∃ choice r s', True ∧ answer false fromIsoformat t e choice s = some (r, s') ∧ True := by
    obtain ⟨r, s', answered⟩ := h.answered s
    exact ⟨_, r, s', trivial, answered, trivial⟩
  obtain ⟨trace, out, s', ran, -⟩ := Runs.of_straight (fun _ => True) answers straight trivial
  exact ⟨trace, out, s', ran⟩

theorem upsertCheckpoints_straight (checkpoints : List (String × CheckpointRow)) :
    (upsertCheckpoints checkpoints).Straight Persisting := by
  unfold upsertCheckpoints
  split
  · trivial
  · exact .perform trivial

theorem flush_ends (fromIsoformat : String → Option String) (instanceId : String) (t : Job)
    (s : Flushing) : ∃ trace out s',
      Runs (answer false fromIsoformat t) (flush fromIsoformat instanceId) s trace out s' := by
  have straight : (flush fromIsoformat instanceId).Straight Persisting := by
    refine .rescue (.bind (.perform trivial) fun ids => ?_) fun e => ?_
    · split
      · trivial
      · refine .bind (.perform trivial) fun results => .bind ?_ fun _ => upsertCheckpoints_straight _
        unfold dropStale
        split
        · trivial
        · exact .perform trivial
    · split <;> trivial
  exact straight_ends straight s

/-! ## What a flush does -/

theorem mem_upserted (h : Runs (answer false fromIsoformat t) (flush fromIsoformat instanceId) s trace
      out s') {streamId : String} {row : CheckpointRow} :
    (streamId, row) ∈ upserted trace ↔ s.Persists fromIsoformat instanceId streamId row := by
  obtain ⟨written, -⟩ := flushBatch_inv (flush_inv h)
  rw [written, entries, ← pairs_pipeline, mem_checkpointsToUpsert, rowFor_eq_some_iff]
  exact ⟨fun ⟨indexed, owned, nonempty, parsed⟩ => ⟨indexed, owned, nonempty, parsed⟩,
    fun ⟨indexed, owned, nonempty, parsed⟩ => ⟨indexed, owned, nonempty, parsed⟩⟩

/-- The row of a stream afterwards. -/
theorem rows_flush (h : Runs (answer false fromIsoformat t) (flush fromIsoformat instanceId) s trace
      out s') (streamId : String) :
    (∀ row, s.Persists fromIsoformat instanceId streamId row → s'.rows streamId = some row) ∧
      ((∀ row, ¬ s.Persists fromIsoformat instanceId streamId row) →
        s'.rows streamId = s.rows streamId) := by
  obtain ⟨written, -, -, rows⟩ := flushBatch_inv (flush_inv h)
  rw [← written] at rows
  obtain ⟨there, absent⟩ := upserted_rows (upserted trace) s.rows streamId
  rw [rows]
  constructor
  · intro row persists
    obtain ⟨row', member, found⟩ := there (List.mem_map.mpr ⟨_, (mem_upserted h).mpr persists, rfl⟩)
    refine found.trans (congrArg some ?_)
    exact Option.some.inj (((mem_upserted h).mp member).parsed.symm.trans persists.parsed)
  · intro none_
    apply absent
    intro member
    obtain ⟨⟨id, row⟩, found, rfl⟩ := List.mem_map.mp member
    exact none_ row ((mem_upserted h).mp found)

/-- The index afterwards. -/
theorem index_flush (h : Runs (answer false fromIsoformat t) (flush fromIsoformat instanceId) s trace
      out s') (streamId : String) : streamId ∈ s'.redis.sets (instanceKey instanceId) ↔
    streamId ∈ s.redis.sets (instanceKey instanceId) ∧ s.ownerOf streamId = some instanceId := by
  obtain ⟨-, -, redis, -⟩ := flushBatch_inv (flush_inv h)
  rw [redis, Store.srem_sets, if_pos rfl, List.mem_filter, entries, decide_eq_true_eq,
    mem_staleStreamIds]
  constructor
  · rintro ⟨member, kept⟩
    exact ⟨member, by_contra fun other => kept ⟨member, other⟩⟩
  · rintro ⟨member, owner⟩
    exact ⟨member, fun stale => stale.2 owner⟩

@[simp] theorem ownerOf_withCheckpoint (s : Flushing) (bad : String) (checkpointData : Hash)
    (streamId : String) :
    (s.withCheckpoint bad checkpointData).ownerOf streamId = s.ownerOf streamId := by
  have other : metaKey streamId ≠ checkpointKey bad := by simp
  simp only [ownerOf, Store.hget, withCheckpoint, Function.update_of_ne other]

theorem Persists.withCheckpoint_iff {bad streamId : String} {checkpointData : Hash} {row : CheckpointRow}
    (other : streamId ≠ bad) :
    (s.withCheckpoint bad checkpointData).Persists fromIsoformat instanceId streamId row ↔
      s.Persists fromIsoformat instanceId streamId row := by
  have checkpoint : (s.withCheckpoint bad checkpointData).redis.hashes (checkpointKey streamId) =
      s.redis.hashes (checkpointKey streamId) := Function.update_of_ne (by simpa using other) _ _
  have owner := ownerOf_withCheckpoint s bad checkpointData streamId
  constructor
  · rintro ⟨indexed, owned, nonempty, parsed⟩
    exact ⟨indexed, owner ▸ owned, checkpoint ▸ nonempty, checkpoint ▸ parsed⟩
  · rintro ⟨indexed, owned, nonempty, parsed⟩
    exact ⟨indexed, owner.symm ▸ owned, checkpoint.symm ▸ nonempty, checkpoint.symm ▸ parsed⟩

/-- A flush without failures ends, upserts one row for each stream of the index that the metadata
gives to the instance and whose checkpoint can be parsed, each from that checkpoint, and no other
row; and it takes from the index the streams that are not the instance's. What a stream's checkpoint
holds makes no difference to any other row, nor to the index. -/
theorem flush_persists_owned (fromIsoformat : String → Option String) (instanceId : String) (t : Job)
    (s : Flushing) (nodup : (s.redis.sets (instanceKey instanceId)).Nodup) :
    (∃ trace out s', Runs (answer false fromIsoformat t) (flush fromIsoformat instanceId) s trace
      out s') ∧
    ∀ trace out s', Runs (answer false fromIsoformat t) (flush fromIsoformat instanceId) s trace
        out s' →
      out = .ok () ∧
      ((upserted trace).map Prod.fst).Nodup ∧
      (∀ streamId row, (streamId, row) ∈ upserted trace ↔
        s.Persists fromIsoformat instanceId streamId row) ∧
      (∀ streamId,
        (∀ row, s.Persists fromIsoformat instanceId streamId row →
          s'.rows streamId = some row) ∧
        ((∀ row, ¬ s.Persists fromIsoformat instanceId streamId row) →
          s'.rows streamId = s.rows streamId)) ∧
      (∀ streamId, streamId ∈ s'.redis.sets (instanceKey instanceId) ↔
        streamId ∈ s.redis.sets (instanceKey instanceId) ∧ s.ownerOf streamId = some instanceId) ∧
      (s'.redis.hashes = s.redis.hashes ∧ s'.redis.strings = s.redis.strings ∧
        ∀ key, key ≠ instanceKey instanceId → s'.redis.sets key = s.redis.sets key) ∧
      ∀ bad checkpointData trace₂ out₂ s₂, Runs (answer false fromIsoformat t)
          (flush fromIsoformat instanceId) (s.withCheckpoint bad checkpointData) trace₂ out₂ s₂ →
        (∀ streamId, streamId ≠ bad → s₂.rows streamId = s'.rows streamId) ∧
        ∀ streamId, streamId ∈ s₂.redis.sets (instanceKey instanceId) ↔
          streamId ∈ s'.redis.sets (instanceKey instanceId) := by
  refine ⟨flush_ends fromIsoformat instanceId t s, fun trace out s' h => ?_⟩
  obtain ⟨written, ok, redis, -⟩ := flushBatch_inv (flush_inv h)
  refine ⟨ok, ?_, fun _ _ => mem_upserted h, rows_flush h, index_flush h, ?_, ?_⟩
  · rw [written]
    exact nodup_checkpointsToUpsert nodup _ _
  · rw [redis]
    exact ⟨rfl, rfl, fun key other => Function.update_of_ne other _ _⟩
  · intro bad checkpointData trace₂ out₂ s₂ h₂
    constructor
    · intro streamId other
      obtain ⟨some₁, none₁⟩ := rows_flush h streamId
      obtain ⟨some₂, none₂⟩ := rows_flush h₂ streamId
      by_cases persists : ∃ row, s.Persists fromIsoformat instanceId streamId row
      · obtain ⟨row, persists⟩ := persists
        rw [some₁ row persists, some₂ row ((Persists.withCheckpoint_iff other).mpr persists)]
      · rw [none₁ (not_exists.mp persists), none₂ fun row persists₂ =>
          persists ⟨row, (Persists.withCheckpoint_iff other).mp persists₂⟩]
        rfl
    · intro streamId
      rw [index_flush h₂, index_flush h, ownerOf_withCheckpoint]
      rfl

/-- A stream of the instance, one with an unparseable checkpoint, and one of another instance. -/
def mixedIndex : Flushing :=
  { redis :=
      { hashes := fun key =>
          if key = metaKey "a" ∨ key = metaKey "b" then [("instance_id", "i")]
          else if key = metaKey "c" then [("instance_id", "j")]
          else if key = checkpointKey "b" then [("last_processed_at", "soon")]
          else if key = checkpointKey "a" ∨ key = checkpointKey "c" then
            [("last_comment_id", "t1"), ("last_processed_at", "2026-01-01T00:00:00Z")]
          else []
        sets := fun key => if key = instanceKey "i" then ["c", "b", "a"] else [] } }

def newYear (text : String) : Option String :=
  if text = "2026-01-01T00:00:00" then some text else none

theorem mixedIndex_flushed : ∃ trace out s',
    Runs (answer false newYear (.flush "i" 0)) (flush newYear "i") mixedIndex trace out s' ∧
      s'.rows "a" = some ⟨some "t1", some "2026-01-01T00:00:00"⟩ ∧ s'.rows "b" = none ∧
      "a" ∈ s'.redis.sets (instanceKey "i") ∧ "c" ∉ s'.redis.sets (instanceKey "i") := by
  obtain ⟨⟨trace, out, s', h⟩, all⟩ :=
    flush_persists_owned newYear "i" (.flush "i" 0) mixedIndex (by decide)
  obtain ⟨-, -, -, rows, index, -⟩ := all trace out s' h
  refine ⟨trace, out, s', h, (rows "a").1 _ ⟨?_, rfl, ?_, rfl⟩, (rows "b").2 ?_,
    (index "a").mpr ⟨?_, rfl⟩, fun there => ?_⟩
  · decide
  · decide
  · intro row persists
    cases persists.parsed
  · decide
  · exact absurd ((index "c").mp there).2 (by decide)

end Flushing
end RedditKafka
