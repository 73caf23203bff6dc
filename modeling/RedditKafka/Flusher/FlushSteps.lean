import RedditKafka.Flusher.CheckpointFlusher
import RedditKafka.Registry.Footprint

/-!
# Steps of the flushers

What is recorded about a run agrees with both stores after every step, whatever
is awaited and whatever fails, as long as upserts land in the order of their
reads. What no step takes back is a relation between two states of a run.
-/
namespace RedditKafka
open Async Redis StreamRegistry CheckpointFlusher

namespace Flushing

variable {fromIsoformat : String → Option String}

/-- The value at a position of the history gives the row. -/
def RowAt (fromIsoformat : String → Option String) (s : Flushing) (streamId : String)
    (position : Nat) (row : CheckpointRow) : Prop :=
  ∃ value, (s.history streamId)[position]? = some value ∧
    parseCheckpointData fromIsoformat value = some row

/-- A registration in flight has written the metadata, and not the index. -/
def Unlisted (s : Flushing) (streamId instanceId : String) : Prop :=
  ∃ number, s.pending number = some (streamId, instanceId)

/-- The records of a run agree with the stores. -/
structure Tracked (fromIsoformat : String → Option String) (s : Flushing) : Prop where
  checkpoint : ∀ id, s.redis.hashes (checkpointKey id) = (s.history id).getLast?.getD []
  written : ∀ id, ∀ value ∈ s.history id,
    value ≠ [] ∧ (parseCheckpointData fromIsoformat value).isSome = true
  rows : ∀ id, s.source id = none ∧ s.rows id = none ∧ s.wroteAt id = 0 ∨
    ∃ k row, s.source id = some k ∧ s.rows id = some row ∧ s.RowAt fromIsoformat id k row
  readAt_le : ∀ t, s.readAt t ≤ s.reads
  wroteAt_le : ∀ id, s.wroteAt id ≤ s.reads
  due_lt : ∀ t id k, s.due t id = some k → k < (s.history id).length
  due_flusher : ∀ t id k, s.due t id = some k → t.flusher.isSome = true
  /-- What a later read is to upsert is no older than the row. -/
  due_newer : ∀ t id k m, s.due t id = some k → s.source id = some m → s.wroteAt id ≤ s.readAt t → m ≤ k
  due_older : ∀ t id k m, s.due t id = some k → s.source id = some m → s.readAt t ≤ s.wroteAt id → k ≤ m
  due_ordered : ∀ t u id k m, s.due t id = some k → s.due u id = some m → s.readAt t ≤ s.readAt u → k ≤ m
  listed : ∀ id i, s.ownerOf id = some i →
    id ∈ s.redis.sets (instanceKey i) ∨ s.Unlisted id i ∨ s.lost i = true

/-- What no step takes back. -/
structure Onward (a b : Flushing) : Prop where
  history : ∀ id, a.history id <+: b.history id
  source : ∀ id k, a.source id = some k → ∃ m, b.source id = some m ∧ k ≤ m
  closing : ∀ i, a.closing i = true → b.closing i = true
  late : ∀ i, a.late i = true → b.late i = true
  lost : ∀ i, a.lost i = true → b.lost i = true
  failed : ∀ i, a.failed i = true → b.failed i = true
  /-- From the shutdown flush on, an instance only gives streams away. -/
  owned : ∀ i, a.closing i = true → b.late i = false → b.lost i = false → ∀ id, b.ownerOf id = some i →
    a.ownerOf id = some i ∧ b.history id = a.history id ∧ (a.Unlisted id i → b.Unlisted id i)

theorem Onward.refl (a : Flushing) : Onward a a :=
  ⟨fun _ => List.prefix_rfl, fun _ k held => ⟨k, held, le_rfl⟩, fun _ => id, fun _ => id,
    fun _ => id, fun _ => id, fun _ _ _ _ _ owner => ⟨owner, rfl, id⟩⟩

theorem Onward.trans {a b c : Flushing} (first : Onward a b) (then_ : Onward b c) : Onward a c where
  history id := (first.history id).trans (then_.history id)
  source id k held := by
    obtain ⟨m, held', le⟩ := first.source id k held
    obtain ⟨n, held'', le'⟩ := then_.source id m held'
    exact ⟨n, held'', le.trans le'⟩
  closing i h := then_.closing i (first.closing i h)
  late i h := then_.late i (first.late i h)
  lost i h := then_.lost i (first.lost i h)
  failed i h := then_.failed i (first.failed i h)
  owned i closing onTime kept id owner := by
    have onTime' : b.late i = false := by
      by_contra h
      exact absurd (then_.late i (by simpa using h)) (by simp [onTime])
    have kept' : b.lost i = false := by
      by_contra h
      exact absurd (then_.lost i (by simpa using h)) (by simp [kept])
    obtain ⟨owner', same', unlisted'⟩ := then_.owned i (first.closing i closing) onTime kept id owner
    obtain ⟨owner'', same'', unlisted''⟩ := first.owned i closing onTime' kept' id owner'
    exact ⟨owner'', same'.trans same'', fun h => unlisted' (unlisted'' h)⟩

theorem RowAt.onward {a b : Flushing} (h : Onward a b) {id : String} {k : Nat} {row : CheckpointRow}
    (held : a.RowAt fromIsoformat id k row) : b.RowAt fromIsoformat id k row := by
  obtain ⟨value, at_k, parsed⟩ := held
  obtain ⟨rest, same⟩ := h.history id
  have lt := (List.getElem?_eq_some_iff.mp at_k).1
  exact ⟨value, by rw [← same, List.getElem?_append_left lt, at_k], parsed⟩

/-- One step of `t`, for the records and for every other job. -/
structure Moved (fromIsoformat : String → Option String) (t : Job) (a b : Flushing) : Prop where
  tracked : b.Tracked fromIsoformat
  onward : Onward a b
  due : ∀ u, u ≠ t → b.due u = a.due u
  readAt : ∀ u, u ≠ t → b.readAt u = a.readAt u
  pending : ∀ n, .create n ≠ t → b.pending n = a.pending n
  completed : b.completed = a.completed

section steps

variable {t : Job} {a b c : Flushing}

theorem Moved.refl (h : a.Tracked fromIsoformat) : Moved fromIsoformat t a a :=
  ⟨h, Onward.refl a, fun _ _ => rfl, fun _ _ => rfl, fun _ _ => rfl, rfl⟩

theorem Moved.trans (first : Moved fromIsoformat t a b) (then_ : Moved fromIsoformat t b c) :
    Moved fromIsoformat t a c where
  tracked := then_.tracked
  onward := first.onward.trans then_.onward
  due u other := (then_.due u other).trans (first.due u other)
  readAt u other := (then_.readAt u other).trans (first.readAt u other)
  pending n other := (then_.pending n other).trans (first.pending n other)
  completed := then_.completed.trans first.completed

/-- Only Redis changes, and in it no checkpoint; no stream gets an owner, and no index shrinks. -/
theorem Moved.of_redis (h : a.Tracked fromIsoformat) {r : Store}
    (checkpoints : ∀ id, r.hashes (checkpointKey id) = a.redis.hashes (checkpointKey id))
    (owners : ∀ id i, r.hget (metaKey id) "instance_id" = some i → a.ownerOf id = some i)
    (indexes : ∀ id i, id ∈ a.redis.sets (instanceKey i) → id ∈ r.sets (instanceKey i)) :
    Moved fromIsoformat t a { a with redis := r } where
  tracked := { h with
    checkpoint := fun id => (checkpoints id).trans (h.checkpoint id)
    listed := fun id i owner => (h.listed id i (owners id i owner)).imp_left (indexes id i) }
  onward := { Onward.refl a with
    owned := fun i _ _ _ id owner => ⟨owners id i owner, rfl, fun h => h⟩ }
  due _ _ := rfl
  readAt _ _ := rfl
  pending _ _ := rfl
  completed := rfl

theorem note_srem (key : String) (members : List String) (s : Flushing) :
    s.note fromIsoformat t (.srem key members) = s.noteUnlisted key members := by
  cases t <;> rfl

/-- An index that loses ids is known to have lost them, if its instance still owns one. -/
theorem moved_srem (h : a.Tracked fromIsoformat) (instanceId : String) (members : List String) :
    Moved fromIsoformat t a (a.execute fromIsoformat t (.srem (instanceKey instanceId) members)) := by
  unfold execute
  rw [note_srem]
  refine ⟨{ h with checkpoint := h.checkpoint, listed := ?_ }, { Onward.refl a with lost := ?_, owned := ?_ },
    fun _ _ => rfl, fun _ _ => rfl, fun _ _ => rfl, rfl⟩
  · intro id i owner
    have owned : a.ownerOf id = some i := owner
    rcases h.listed id i owned with there | unlisted | lost
    · by_cases removed : i = instanceId ∧ id ∈ members
      · obtain ⟨rfl, member⟩ := removed
        refine .inr (.inr ?_)
        simp only [noteUnlisted, decide_true, Bool.true_and, Bool.or_eq_true, List.any_eq_true]
        exact .inr ⟨id, member, by simpa using owned⟩
      · refine .inl ?_
        simp only [RedisCmd.run, Store.srem_sets, Layout.key_inj, true_and]
        split
        · rename_i same
          subst same
          exact List.mem_filter.mpr ⟨there, by simpa using fun member => removed ⟨rfl, member⟩⟩
        · exact there
    · exact .inr (.inl unlisted)
    · exact .inr (.inr (by simp [noteUnlisted, lost]))
  · intro i lost
    simp [noteUnlisted, lost]
  · intro i _ _ _ id owner
    exact ⟨owner, rfl, fun h => h⟩

/-- A registration is complete once its id is in the index. -/
theorem moved_index (h : a.Tracked fromIsoformat) {n : Nat} {id i : String}
    (pending : a.pending n = some (id, i)) :
    Moved fromIsoformat (.create n) a
      (a.execute fromIsoformat (.create n) (.sadd (instanceKey i) id)) := by
  have noted : a.note fromIsoformat (.create n) (.sadd (instanceKey i) id) = { a with
      pending := Function.update a.pending n none
      late := Function.update a.late i (a.late i || a.closing i) } := by
    simp [note, noteIndexed, pending]
  have others {m : Nat} {id' i' : String} (held : a.pending m = some (id', i'))
      (other : ¬ (id' = id ∧ i' = i)) : Function.update a.pending n none m = some (id', i') := by
    have ne : m ≠ n := by
      rintro rfl
      exact other (by simpa using (Option.some.inj (held.symm.trans pending)))
    rw [Function.update_of_ne ne, held]
  unfold execute
  rw [noted]
  refine ⟨{ h with checkpoint := ?_, listed := ?_ }, { Onward.refl a with late := ?_, owned := ?_ },
    fun _ _ => rfl, fun _ _ => rfl, ?_, rfl⟩
  · intro id'
    simpa [RedisCmd.run] using h.checkpoint id'
  · intro id' i' owner
    have owned : a.ownerOf id' = some i' := by simpa [ownerOf, RedisCmd.run, Store.hget] using owner
    by_cases this : id' = id ∧ i' = i
    · obtain ⟨rfl, rfl⟩ := this
      exact .inl (Store.mem_sadd_sets.mpr (.inr ⟨rfl, rfl⟩))
    · rcases h.listed id' i' owned with there | ⟨m, held⟩ | lost
      · exact .inl (Store.mem_sadd_sets.mpr (.inl there))
      · exact .inr (.inl ⟨m, others held this⟩)
      · exact .inr (.inr lost)
  · intro i' late
    simp only [Function.update_apply]
    split
    · rename_i same
      simp [← same, late]
    · exact late
  · intro i' closing onTime _ id' owner
    have ne : i' ≠ i := by
      rintro rfl
      simp [closing] at onTime
    refine ⟨by simpa [ownerOf, RedisCmd.run, Store.hget] using owner, rfl, ?_⟩
    rintro ⟨m, held⟩
    exact ⟨m, others held fun this => ne this.2⟩
  · intro m other
    exact Function.update_of_ne (by simpa using other) _ _

/-- The owner of a stream whose metadata is written anew. -/
theorem ownerOf_hset_newMeta (r : Store) (id subreddit config i at₁ at₂ id' : String) :
    (r.hset (metaKey id) (newMeta id subreddit config i at₁ at₂)).hget (metaKey id') "instance_id" =
      if id' = id then some i else r.hget (metaKey id') "instance_id" := by
  simp only [Store.hget, Store.hset_hashes, Layout.key_inj, true_and]
  split
  · simp [newMeta]
  · rfl

theorem ownerOf_hset_status (r : Store) (id status at₁ id' : String) :
    (r.hset (metaKey id) (statusMapping status at₁ none)).hget (metaKey id') "instance_id" =
      r.hget (metaKey id') "instance_id" := by
  simp only [Store.hget, Store.hset_hashes, Layout.key_inj, true_and]
  split
  · rename_i same
    simp [statusMapping, same]
  · rfl

theorem moved_metadata (h : a.Tracked fromIsoformat) {n : Nat} (free : a.pending n = none)
    (id subreddit config i at₁ at₂ : String) :
    Moved fromIsoformat (.create n) a (a.execute fromIsoformat (.create n)
      (.hset (metaKey id) (newMeta id subreddit config i at₁ at₂))) := by
  have noted : a.note fromIsoformat (.create n)
      (.hset (metaKey id) (newMeta id subreddit config i at₁ at₂)) = a.noteMetadata n id i := rfl
  have others {m : Nat} {entry : String × String} (held : a.pending m = some entry) :
      Function.update a.pending n (some (id, i)) m = some entry := by
    have ne : m ≠ n := by
      rintro rfl
      rw [free] at held
      cases held
    rw [Function.update_of_ne ne, held]
  unfold execute
  rw [noted]
  refine ⟨{ h with checkpoint := ?_, listed := ?_ }, { Onward.refl a with late := ?_, owned := ?_ },
    fun _ _ => rfl, fun _ _ => rfl, ?_, rfl⟩
  · intro id'
    simpa [RedisCmd.run, noteMetadata] using h.checkpoint id'
  · intro id' i' owner
    simp only [ownerOf, RedisCmd.run, ownerOf_hset_newMeta] at owner
    split at owner
    · rename_i same
      cases owner
      subst same
      exact .inr (.inl ⟨n, by simp [noteMetadata]⟩)
    · rcases h.listed id' i' owner with there | ⟨m, held⟩ | lost
      · exact .inl there
      · exact .inr (.inl ⟨m, others held⟩)
      · exact .inr (.inr lost)
  · intro i' late
    simp only [noteMetadata, Function.update_apply]
    split
    · rename_i same
      simp [← same, late]
    · exact late
  · intro i' closing onTime _ id' owner
    simp only [ownerOf, RedisCmd.run, ownerOf_hset_newMeta] at owner
    split at owner
    · cases owner
      simp [noteMetadata, closing] at onTime
    · refine ⟨owner, rfl, fun waiting => ?_⟩
      obtain ⟨m, held⟩ := waiting
      exact ⟨m, others held⟩
  · intro m other
    exact Function.update_of_ne (by simpa using other) _ _

/-- What a worker writes can be read back as a row. -/
theorem written_checkpoint (value : Hash) (commentId : String) {at₁ : String} (at₂ : String)
    (possible : (parseTime fromIsoformat at₁).isSome = true) :
    let written := value.setFields
      [("last_comment_id", commentId), ("last_processed_at", at₁), ("updated_at", at₂)]
    written ≠ [] ∧ (parseCheckpointData fromIsoformat written).isSome = true := by
  intro written
  have held : written.get "last_processed_at" = some at₁ := by simp [written]
  refine ⟨List.cons_ne_nil _ _, ?_⟩
  unfold parseCheckpointData
  rw [held]
  split
  · rfl
  · rename_i text present
    have same : at₁ = text := by
      unfold orNone at present
      split at present
      · exact Option.some.inj present
      · cases present
    simpa [← same] using possible

theorem moved_checkpoint (h : a.Tracked fromIsoformat) {id : String} {n : Nat}
    {mapping : List (String × String)}
    (readable : ∀ value : Hash, value.setFields mapping ≠ [] ∧
      (parseCheckpointData fromIsoformat (value.setFields mapping)).isSome = true) :
    Moved fromIsoformat (.save id n) a
      (a.execute fromIsoformat (.save id n) (.hset (checkpointKey id) mapping)) := by
  have noted : a.note fromIsoformat (.save id n) (.hset (checkpointKey id) mapping) =
      a.noteCheckpoint id mapping := rfl
  unfold execute
  rw [noted]
  have grown : ∀ id', a.history id' <+: (a.noteCheckpoint id mapping).history id' := by
    intro id'
    simp only [noteCheckpoint, Function.update_apply]
    split
    · rename_i same
      rw [same]
      exact List.prefix_append _ _
    · exact List.prefix_rfl
  have onward : Onward a { a.noteCheckpoint id mapping with
      redis := ((RedisCmd.hset (checkpointKey id) mapping).run a.redis).2 } := by
    refine { Onward.refl a with history := grown, late := ?_, owned := ?_ }
    · intro i late
      simp [noteCheckpoint, late]
    · intro i closing onTime _ id' owner
      have owned : a.ownerOf id' = some i := by
        simpa [ownerOf, RedisCmd.run, Store.hget] using owner
      refine ⟨owned, Function.update_of_ne ?_ _ _, fun h => h⟩
      rintro rfl
      simp [noteCheckpoint, closing, owned] at onTime
  refine ⟨{ h with checkpoint := ?_, written := ?_, rows := ?_, due_lt := ?_, listed := ?_ }, onward,
    fun _ _ => rfl, fun _ _ => rfl, fun _ _ => rfl, rfl⟩
  · intro id'
    simp only [RedisCmd.run, Store.hset_hashes, Layout.key_inj, true_and, noteCheckpoint,
      Function.update_apply]
    split
    · simp
    · exact h.checkpoint id'
  · intro id' value member
    simp only [noteCheckpoint, Function.update_apply] at member
    split at member
    · rename_i same
      rcases List.mem_append.mp member with before | new
      · exact h.written id value before
      · rw [List.mem_singleton.mp new]
        exact readable _
    · exact h.written id' value member
  · intro id'
    refine (h.rows id').imp_right ?_
    rintro ⟨k, row, source, held, found⟩
    exact ⟨k, row, source, held, found.onward onward⟩
  · intro u id' k due
    exact (h.due_lt u id' k due).trans_le (grown id').length_le
  · intro id' i owner
    refine h.listed id' i ?_
    simpa [ownerOf, RedisCmd.run, Store.hget] using owner

theorem moved_closing (h : a.Tracked fromIsoformat) (i key : String) :
    Moved fromIsoformat (.shutdown i) a (a.execute fromIsoformat (.shutdown i) (.smembers key)) := by
  refine ⟨{ h with }, { Onward.refl a with closing := ?_ }, fun _ _ => rfl, fun _ _ => rfl,
    fun _ _ => rfl, rfl⟩
  intro i' closing
  show Function.update a.closing i true i' = true
  simp only [Function.update_apply]
  split
  · rfl
  · exact closing

/-- Only what Redis holds at the time can be due after a read. -/
theorem due_of_read {u : Job} {i : String} {keys : List String} {id : String} {k : Nat}
    (due : (a.noteRead fromIsoformat u i keys).due u id = some k) :
    metaKey id ∈ keys ∧ (a.rowFor fromIsoformat i id).isSome = true ∧
      k = (a.history id).length - 1 := by
  simp only [noteRead, Function.update_self] at due
  split at due
  · rename_i read
    exact ⟨read.1, read.2, (Option.some.inj due).symm⟩
  · cases due

/-- A stream that gives a row has had a checkpoint. -/
theorem history_of_rowFor (h : a.Tracked fromIsoformat) {i id : String}
    (row : (a.rowFor fromIsoformat i id).isSome = true) : a.history id ≠ [] := by
  intro none
  have empty : a.redis.hashes (checkpointKey id) = [] := by simp [h.checkpoint id, none]
  simp only [rowFor, rowOf, empty] at row
  split at row <;> simp at row

theorem note_hgetallEach {i : String} (flusher : t.flusher = some i) (keys : List String)
    (s : Flushing) :
    s.note fromIsoformat t (.hgetallEach keys) = s.noteRead fromIsoformat t i keys := by
  cases t <;> cases flusher <;> rfl

theorem moved_read (h : a.Tracked fromIsoformat) {i : String} (flusher : t.flusher = some i)
    (keys : List String) :
    Moved fromIsoformat t a (a.execute fromIsoformat t (.hgetallEach keys)) := by
  unfold execute
  rw [note_hgetallEach flusher]
  have last {id : String} {k : Nat} (due : (a.noteRead fromIsoformat t i keys).due t id = some k) :
      k < (a.history id).length ∧ ∀ m < (a.history id).length, m ≤ k := by
    obtain ⟨-, row, rfl⟩ := due_of_read due
    have := List.length_pos_iff.mpr (history_of_rowFor h row)
    exact ⟨by omega, fun m lt => by omega⟩
  have dueOf {u : Job} (other : u ≠ t) : (a.noteRead fromIsoformat t i keys).due u = a.due u :=
    Function.update_of_ne other _ _
  have readAtOf {u : Job} (other : u ≠ t) : (a.noteRead fromIsoformat t i keys).readAt u = a.readAt u :=
    Function.update_of_ne other _ _
  have readAtSelf : (a.noteRead fromIsoformat t i keys).readAt t = a.reads + 1 :=
    Function.update_self _ _ _
  refine ⟨{ h with readAt_le := ?_, wroteAt_le := ?_, due_lt := ?_, due_flusher := ?_, due_newer := ?_, due_older := ?_, due_ordered := ?_ },
    { Onward.refl a with }, fun u other => dueOf other, fun u other => readAtOf other,
    fun _ _ => rfl, rfl⟩
  · intro u
    show (a.noteRead fromIsoformat t i keys).readAt u ≤ a.reads + 1
    by_cases same : u = t
    · rw [same, readAtSelf]
    · rw [readAtOf same]
      exact (h.readAt_le u).trans (Nat.le_succ _)
  · exact fun id => (h.wroteAt_le id).trans (Nat.le_succ _)
  · intro u id k due
    by_cases same : u = t
    · subst same
      exact (last due).1
    · exact h.due_lt u id k (dueOf same ▸ due)
  · intro u id k due
    by_cases same : u = t
    · rw [same, flusher]
      rfl
    · exact h.due_flusher u id k (dueOf same ▸ due)
  · intro u id k m due source wrote
    by_cases same : u = t
    · subst same
      refine (last due).2 m ?_
      rcases h.rows id with ⟨none, -⟩ | ⟨k', row, source', -, value, found, -⟩
      · cases none.symm.trans source
      · cases source'.symm.trans source
        exact (List.getElem?_eq_some_iff.mp found).1
    · exact h.due_newer u id k m (dueOf same ▸ due) source (readAtOf same ▸ wrote)
  · intro u id k m due source wrote
    by_cases same : u = t
    · subst same
      have early : a.reads + 1 ≤ a.wroteAt id := readAtSelf ▸ wrote
      have := h.wroteAt_le id
      omega
    · exact h.due_older u id k m (dueOf same ▸ due) source (readAtOf same ▸ wrote)
  · intro u v id k m dueU dueV before
    by_cases sameV : v = t
    · subst sameV
      by_cases sameU : u = v
      · subst sameU
        exact (Option.some.inj (dueU.symm.trans dueV)).le
      · exact (last dueV).2 k (h.due_lt u id k (dueOf sameU ▸ dueU))
    · by_cases sameU : u = t
      · subst sameU
        have := h.readAt_le v
        have late : a.reads + 1 ≤ a.readAt v := by
          rw [← readAtSelf, ← readAtOf sameV]
          exact before
        omega
      · exact h.due_ordered u v id k m (dueOf sameU ▸ dueU) (dueOf sameV ▸ dueV)
          (readAtOf sameU ▸ readAtOf sameV ▸ before)

/-- The rows of a statement are the ones that a flush has read and is to upsert. -/
structure Matches (fromIsoformat : String → Option String) (t : Job)
    (checkpoints : List (String × CheckpointRow)) (s : Flushing) : Prop where
  row : ∀ id row, (id, row) ∈ checkpoints →
    ∃ k, s.due t id = some k ∧ s.RowAt fromIsoformat id k row
  all : ∀ id k, s.due t id = some k → id ∈ checkpoints.map Prod.fst

/-- An upsert does not come after one of a flush that read later, unless both have found the
same value. -/
def inReadOrder (t : Job) : Extended Effect FlushEff → Flushing → Bool
  | .outer (.upsert checkpoints), s => checkpoints.all fun entry =>
      decide (s.wroteAt entry.1 ≤ s.readAt t) || decide (s.source entry.1 = s.due t entry.1)
  | _, _ => true

/-- The rows that a statement leaves behind. -/
theorem upserted_rows (checkpoints : List (String × CheckpointRow))
    (rows : String → Option CheckpointRow) (id : String) :
    let after := checkpoints.foldl
      (fun (rows : String → Option CheckpointRow) entry => Function.update rows entry.1 (some entry.2)) rows
    (id ∈ checkpoints.map Prod.fst → ∃ row, (id, row) ∈ checkpoints ∧ after id = some row) ∧
      (id ∉ checkpoints.map Prod.fst → after id = rows id) := by
  induction checkpoints generalizing rows with
  | nil => simp
  | cons entry rest ih =>
      obtain ⟨later, never⟩ := ih (Function.update rows entry.1 (some entry.2))
      by_cases again : id ∈ rest.map Prod.fst
      · refine ⟨fun _ => ?_, fun absent => absurd (List.mem_cons_of_mem _ again) absent⟩
        obtain ⟨row, member, found⟩ := later again
        exact ⟨row, List.mem_cons_of_mem _ member, found⟩
      · by_cases here : id = entry.1
        · refine ⟨fun _ => ⟨entry.2, by simp [here], ?_⟩, fun absent => absurd (by simp [here]) absent⟩
          exact (never again).trans (by simp [here])
        · refine ⟨fun member => absurd member (by simpa [here] using again), fun _ => ?_⟩
          exact (never again).trans (Function.update_of_ne here _ _)

theorem moved_upsert (h : a.Tracked fromIsoformat) {checkpoints : List (String × CheckpointRow)}
    (found : Matches fromIsoformat t checkpoints a)
    (inOrder : inReadOrder t (.outer (.upsert checkpoints)) a = true) :
    Moved fromIsoformat t a (a.upsert t checkpoints) := by
  have dueOf {u : Job} {id : String} {k : Nat} (due : (a.upsert t checkpoints).due u id = some k) :
      u ≠ t ∧ a.due u id = some k := by
    by_cases same : u = t
    · simp [upsert, same] at due
    · exact ⟨same, by simpa [upsert, same] using due⟩
  -- the position of an upserted row, from the read of the same flush
  have position {id : String} (member : id ∈ checkpoints.map Prod.fst) :
      ∃ k, a.due t id = some k ∧ (a.upsert t checkpoints).source id = some k := by
    obtain ⟨⟨_, row⟩, there, rfl⟩ := List.mem_map.mp member
    obtain ⟨k, due, -⟩ := found.row _ row there
    exact ⟨k, due, by simp only [upsert, if_pos member, due]⟩
  refine ⟨{ h with rows := ?_, wroteAt_le := ?_, due_lt := ?_, due_flusher := ?_, due_newer := ?_, due_older := ?_, due_ordered := ?_ },
    { Onward.refl a with source := ?_ }, ?_, fun _ _ => rfl, fun _ _ => rfl, rfl⟩
  · intro id
    by_cases member : id ∈ checkpoints.map Prod.fst
    · right
      obtain ⟨row, there, now⟩ := (upserted_rows checkpoints a.rows id).1 member
      obtain ⟨k, due, value⟩ := found.row id row there
      exact ⟨k, row, by simp only [upsert, if_pos member, due], now, value⟩
    · have same := (upserted_rows checkpoints a.rows id).2 member
      simp only [upsert, if_neg member, same]
      exact h.rows id
  · intro id
    simp only [upsert]
    split
    · exact h.readAt_le t
    · exact h.wroteAt_le id
  · intro u id k due
    exact h.due_lt u id k (dueOf due).2
  · intro u id k due
    exact h.due_flusher u id k (dueOf due).2
  · intro u id k m due source wrote
    obtain ⟨-, due⟩ := dueOf due
    by_cases member : id ∈ checkpoints.map Prod.fst
    · obtain ⟨m', due', source'⟩ := position member
      cases source'.symm.trans source
      refine h.due_ordered t u id m k due' due ?_
      simpa only [upsert, if_pos member] using wrote
    · simp only [upsert, if_neg member] at source wrote
      exact h.due_newer u id k m due source wrote
  · intro u id k m due source wrote
    obtain ⟨-, due⟩ := dueOf due
    by_cases member : id ∈ checkpoints.map Prod.fst
    · obtain ⟨m', due', source'⟩ := position member
      cases source'.symm.trans source
      refine h.due_ordered u t id k m due due' ?_
      simpa only [upsert, if_pos member] using wrote
    · simp only [upsert, if_neg member] at source wrote
      exact h.due_older u id k m due source wrote
  · intro u v id k m dueU dueV before
    exact h.due_ordered u v id k m (dueOf dueU).2 (dueOf dueV).2 before
  · intro id k source
    by_cases member : id ∈ checkpoints.map Prod.fst
    · obtain ⟨m, due, source'⟩ := position member
      obtain ⟨entry, there, rfl⟩ := List.mem_map.mp member
      refine ⟨m, source', ?_⟩
      have allowed := List.all_eq_true.mp inOrder entry there
      simp only [Bool.or_eq_true, decide_eq_true_eq] at allowed
      rcases allowed with later | same
      · exact h.due_newer t entry.1 m k due source later
      · exact (Option.some.inj (source.symm.trans (same.trans due))).le
    · exact ⟨k, by simpa only [upsert, if_neg member] using source, le_rfl⟩
  · intro u other
    exact Function.update_of_ne other _ _

theorem moved_fail (h : a.Tracked fromIsoformat) : Moved fromIsoformat t a (a.fail t) := by
  have refl : Moved fromIsoformat t a a := Moved.refl h
  unfold fail
  split
  · rename_i i
    refine { refl with
      tracked := { h with }
      onward := { Onward.refl a with failed := fun i' failed => ?_ } }
    simp only [Function.update_apply]
    split
    · rfl
    · exact failed
  · rename_i n
    split
    · rename_i id i pending
      have others {m : Nat} {id' i' : String} (held : a.pending m = some (id', i'))
          (ne : i' ≠ i) : Function.update a.pending n none m = some (id', i') := by
        have ne : m ≠ n := by
          rintro rfl
          exact ne (by simpa using (congrArg Prod.snd (Option.some.inj (held.symm.trans pending))))
        rw [Function.update_of_ne ne, held]
      refine { refl with tracked := { h with listed := ?_ }, onward := { Onward.refl a with lost := ?_, owned := ?_ }, pending := ?_ }
      · intro id' i' owner
        by_cases same : i' = i
        · exact .inr (.inr (by simp [same]))
        · rcases h.listed id' i' owner with there | ⟨m, held⟩ | lost
          · exact .inl there
          · exact .inr (.inl ⟨m, others held same⟩)
          · exact .inr (.inr (by simpa [Function.update_of_ne same] using lost))
      · intro i' lost
        simp only [Function.update_apply]
        split
        · rfl
        · exact lost
      · intro i' _ _ kept id' owner
        have ne : i' ≠ i := by
          rintro rfl
          simp at kept
        exact ⟨owner, rfl, fun ⟨m, held⟩ => ⟨m, others held ne⟩⟩
      · intro m other
        exact Function.update_of_ne (by simpa using other) _ _
    · exact refl
  · exact refl

/-- A deletion takes the owner of one stream, if it takes effect. -/
theorem ownerOf_delete (r : Store) (id subreddit status time purge id' : String) :
    let script : Script := .deleteStreamIfUnchanged (metaKey id) (checkpointKey id)
      (stopRequestKey id) (subredditKey subreddit) allKey (identityKey subreddit) id status time purge
    (script.run r).2.hget (metaKey id') "instance_id" =
      if id' = id ∧ (script.run r).1 = true then none else r.hget (metaKey id') "instance_id" := by
  intro script
  by_cases same : id' = id
  · simp only [script, Script.run]
    split_ifs <;> simp_all [Store.hget, Hash.get]
  · simp only [script, Script.run]
    split_ifs <;> simp_all [Store.hget]

/-- A deletion that keeps the checkpoint. -/
theorem moved_delete (h : a.Tracked fromIsoformat) (id subreddit status time : String) :
    Moved fromIsoformat t a { a with redis := (Script.run (.deleteStreamIfUnchanged (metaKey id)
      (checkpointKey id) (stopRequestKey id) (subredditKey subreddit) allKey (identityKey subreddit)
      id status time "0") a.redis).2 } := by
  refine Moved.of_redis h ?_ ?_ ?_
  · intro id'
    simp only [Script.run]
    split_ifs <;> simp_all
  · intro id' i owner
    rw [ownerOf_delete] at owner
    split at owner
    · cases owner
    · exact owner
  · intro id' i member
    simp only [Script.run]
    split_ifs <;> simp_all

end steps

end Flushing
end RedditKafka
