import RedditKafka.Flusher.DurableCheckpoints

/-!
# Write-behind

A deletion gives up the id of a stream without looking at its row. The row is
left equal to Redis in every run in which a deletion takes effect only when the
last checkpoint is in the row or on its way, and an id leaves an index only
when its metadata does not name the instance.
-/
namespace RedditKafka
open Async Redis StreamRegistry CheckpointFlusher Flushing

namespace Flushing

/-- The last checkpoint of the stream is in its row, or a flush has read it. -/
def Persisted (s : Flushing) (id : String) : Prop :=
  s.UpToDate id ∨ ∃ t, s.due t id = some ((s.history id).length - 1)

/-- A deletion takes effect once the last checkpoint is persisted, a checkpoint is written for a
registered stream, and an id leaves an index that is not its owner's. -/
def writtenBehind (t : Job) : Extended Effect FlushEff → Flushing → Prop
  | .inner (.redis (.eval (.deleteStreamIfUnchanged key checkpoint stop subreddit all identity streamId
      status time purge))), s =>
      (Script.run (.deleteStreamIfUnchanged key checkpoint stop subreddit all identity streamId
        status time purge) s.redis).1 = true → s.Persisted streamId
  | .inner (.redis (.hset _ _)), s =>
      ∀ streamId number, t = .save streamId number → s.ownerOf streamId ≠ none
  | .inner (.redis (.srem key members)), s =>
      ∀ i, key = instanceKey i → ∀ id ∈ members, s.ownerOf id ≠ some i
  | e, s => inReadOrder t e s = true

/-- No id was lost, and every checkpoint of a stream without an owner is persisted. -/
structure Behind (s : Flushing) : Prop where
  lost : ∀ i, s.lost i = false
  persisted : ∀ id, s.ownerOf id = none → s.Persisted id

variable {fromIsoformat : String → Option String} {t : Job} {s s' a b : Flushing}

theorem writtenBehind_inReadOrder {e : Extended Effect FlushEff} (h : writtenBehind t e s) :
    inReadOrder t e s = true := by
  cases e with
  | inner e => rfl
  | outer e => exact h

/-- Only owners, checkpoints and rows matter. -/
theorem Behind.same (h : a.Behind) (lost : b.lost = a.lost) (history : b.history = a.history)
    (source : b.source = a.source) (due : b.due = a.due)
    (owners : ∀ id, b.ownerOf id = none → a.ownerOf id = none) : b.Behind := by
  refine ⟨fun i => by rw [lost]; exact h.lost i, fun id unowned => ?_⟩
  have persisted := h.persisted id (owners id unowned)
  simpa only [Persisted, UpToDate, history, source, due] using persisted

theorem Behind.execute {c : RedisCmd} (h : s.Behind)
    (expected : Expects false fromIsoformat t s (.inner (.redis c)))
    (allowed : writtenBehind t (.inner (.redis c)) s) : (s.execute fromIsoformat t c).Behind := by
  cases expected with
  | quiet quiet =>
      unfold Flushing.execute
      rw [quiet.note]
      refine h.same rfl rfl rfl rfl fun id unowned => ?_
      simpa only [ownerOf, Store.hget, quiet.hashes] using unowned
  | metadata id subreddit config i at₁ at₂ job =>
      subst job
      refine h.same rfl rfl rfl rfl fun id' unowned => ?_
      have owner := (ownerOf_hset_newMeta s.redis id subreddit config i at₁ at₂ id').symm.trans unowned
      split at owner
      · cases owner
      · exact owner
  | index job pending =>
      subst job
      refine h.same ?_ ?_ ?_ ?_ fun id' unowned => ?_
      · simp [Flushing.execute, note, noteIndexed, pending]
      · simp [Flushing.execute, note, noteIndexed, pending]
      · simp [Flushing.execute, note, noteIndexed, pending]
      · simp [Flushing.execute, note, noteIndexed, pending]
      · simpa [Flushing.execute, ownerOf, Store.hget, RedisCmd.run] using unowned
  | status id status at₁ job =>
      subst job
      exact h.same rfl rfl rfl rfl fun id' unowned =>
        (ownerOf_hset_status _ id status at₁ id').symm.trans unowned
  | @checkpoint id n mapping job readable =>
      subst job
      refine ⟨h.lost, fun id' unowned => ?_⟩
      have unowned' : s.ownerOf id' = none := by
        simpa [Flushing.execute, ownerOf, Store.hget, RedisCmd.run] using unowned
      have other : id' ≠ id := by
        rintro rfl
        exact allowed _ _ rfl unowned'
      have same : (s.execute fromIsoformat (.save id n) (.hset (checkpointKey id) mapping)).history id' =
          s.history id' := Function.update_of_ne other _ _
      simp only [Persisted, UpToDate, same]
      exact h.persisted id' unowned'
  | delete id subreddit status time =>
      have noted : s.note fromIsoformat t (.eval (.deleteStreamIfUnchanged (metaKey id)
          (checkpointKey id) (stopRequestKey id) (subredditKey subreddit) allKey
          (identityKey subreddit) id status time "0")) = s := by cases t <;> rfl
      unfold Flushing.execute
      rw [noted]
      refine ⟨h.lost, fun id' unowned => ?_⟩
      have owner := (ownerOf_delete s.redis id subreddit status time "0" id').symm.trans unowned
      split at owner
      · rename_i gone
        rw [gone.1]
        exact allowed gone.2
      · exact h.persisted id' owner
  | unindex i ids =>
      unfold Flushing.execute
      rw [note_srem]
      refine h.same ?_ rfl rfl rfl fun _ unowned => unowned
      funext i'
      simp only [noteUnlisted, Layout.key_inj, true_and, Bool.or_eq_left_iff_imp, Bool.and_eq_true,
        List.any_eq_true, decide_eq_true_eq]
      rintro ⟨rfl, id, member, owner⟩
      exact absurd owner (allowed i rfl id member)
  | members =>
      cases t <;> exact h.same rfl rfl rfl rfl fun _ unowned => unowned
  | read ids flusher done =>
      unfold Flushing.execute
      rw [note_hgetallEach flusher]
      refine ⟨h.lost, fun id unowned => (h.persisted id unowned).imp_right ?_⟩
      rintro ⟨u, due⟩
      have other : u ≠ t := by
        rintro rfl
        cases (done rfl id).symm.trans due
      exact ⟨u, (congrFun (Function.update_of_ne other _ _) id).trans due⟩

theorem Behind.upsert {checkpoints : List (String × CheckpointRow)} (h : s.Behind)
    (tracked : s.Tracked fromIsoformat) (found : Matches fromIsoformat t checkpoints s)
    (inOrder : inReadOrder t (.outer (.upsert checkpoints)) s = true) :
    (s.upsert t checkpoints).Behind := by
  have moved := moved_upsert tracked found inOrder
  refine ⟨h.lost, fun id unowned => ?_⟩
  rcases h.persisted id unowned with done | ⟨u, due⟩
  · exact .inl (done.onward moved.tracked moved.onward rfl)
  · by_cases own : u = t
    · subst own
      refine .inl (.inr ?_)
      simp only [upsert, if_pos (found.all id _ due), due]
    · exact .inr ⟨u, (congrFun (moved.due u own) id).trans due⟩

/-- Whatever is answered, without failures. -/
theorem Behind.answered {e : Extended Effect FlushEff} {turn : Turn}
    {r : Except PyExc (FlushAnswer e)} (h : s.Behind) (tracked : s.Tracked fromIsoformat)
    (expected : Expects false fromIsoformat t s e) (allowed : writtenBehind t e s)
    (answered : answer false fromIsoformat t e turn s = some (r, s')) : s'.Behind := by
  cases e with
  | inner e =>
      cases e with
      | redis c =>
          rcases answer_redis answered with ⟨-, rfl⟩ | ⟨fault, -⟩
          · exact h.execute expected allowed
          · cases fault
      | nowIso => exact answer_name (.inl rfl) answered ▸ h
      | uuid4 => exact answer_name (.inr rfl) answered ▸ h
      | persist =>
          rcases answer_persist answered with ⟨-, rfl⟩ | ⟨fault, -⟩
          · exact h
          · cases fault
      | sleep =>
          rcases answer_sleep answered with ⟨-, rfl⟩ | ⟨fault, -⟩
          · exact h
          · cases fault
      | _ => cases expected
  | outer e =>
      cases e with
      | upsert checkpoints =>
          cases expected with
          | upsert found =>
              rcases answer_upsert answered with ⟨-, rfl⟩ | ⟨fault, -⟩
              · exact h.upsert tracked found allowed
              · cases fault
      | isRunning i => exact (answer_isRunning answered).2 ▸ h
      | setRunning i running =>
          obtain ⟨-, rfl⟩ := answer_setRunning answered
          exact ⟨h.lost, h.persisted⟩
      | awaitLoop i =>
          rcases answer_awaitLoop answered with ⟨-, rfl⟩ | ⟨fault, -⟩
          · exact h
          · cases fault

end Flushing

section behind

variable {fromIsoformat : String → Option String} {c : FlushConfig}

/-- Runs of the service and its flushers, without failures, in which nothing is left behind. -/
abbrev BehindRun (fromIsoformat : String → Option String) (c d : FlushConfig) : Prop :=
  (flushMachine false fromIsoformat).ReachesUnder writtenBehind c d

theorem BehindRun.rested (reached : BehindRun fromIsoformat flushConfig c) :
    Rested (flushMachine false fromIsoformat) (flushDiscipline false fromIsoformat)
      (flushPost false) (AtRest false) c :=
  OrderedRun.rested (Machine.ReachesUnder.mono reached fun _ _ _ => writtenBehind_inReadOrder)

theorem BehindRun.behind (reached : BehindRun fromIsoformat flushConfig c) : c.state.Behind := by
  induction reached with
  | refl => exact ⟨fun _ => rfl, fun _ _ => .inl (.inl rfl)⟩
  | @step a c d before allowed moved ih =>
      have rested := BehindRun.rested before
      cases a with
      | call t choice =>
          obtain ⟨e, k, r, s, waits, answered, rfl⟩ := Machine.next_call moved
          exact ih.answered rested.inv.1 (rested.pledged ⟨k, waits⟩)
            (allowed t choice e rfl ⟨k, waits⟩) answered
      | unroll t =>
          obtain ⟨β, body, k, -, rfl⟩ := Machine.next_unroll moved
          exact ih
      | finish t =>
          obtain ⟨r, -, rfl⟩ := Machine.next_finish moved
          simp only [Config.put_state, flushMachine, Flushing.finish]
          split <;> exact ⟨ih.lost, ih.persisted⟩
      | start t event =>
          obtain ⟨p, s, -, started, rfl⟩ := Machine.next_start moved
          have same : s.Behind := by
            simp only [flushMachine, Flushing.start] at started
            split at started <;> (try split at started) <;> cases started <;>
              exact ⟨ih.lost, ih.persisted⟩
          exact same
      | tick event =>
          obtain ⟨s, ticked, rfl⟩ := Machine.next_tick moved
          cases event with
          | elapse n =>
              cases ticked
              exact ⟨ih.lost, ih.persisted⟩
          | _ => cases ticked

/-- In every run in which deletions take effect only on streams whose last checkpoint is
persisted, checkpoints are written for registered streams, and ids leave only indexes of
instances that do not own them: once every operation has ended, a stream that is in no index has the
row that its checkpoint in Redis gives. -/
theorem unindexed_checkpoints_persisted (reached : BehindRun fromIsoformat flushConfig c)
    (idle : ∀ t, c.threads t = none) (id : String)
    (unindexed : ∀ i, id ∉ c.state.redis.sets (instanceKey i))
    (checkpoint : c.state.redis.hashes (checkpointKey id) ≠ []) :
    c.state.rows id =
      parseCheckpointData fromIsoformat (c.state.redis.hashes (checkpointKey id)) := by
  have rested := reached.rested
  have tracked := rested.inv.1
  have behind := reached.behind
  have unowned : c.state.ownerOf id = none := by
    cases owner : c.state.ownerOf id with
    | none => rfl
    | some i =>
        rcases tracked.listed id i owner with there | ⟨n, pending⟩ | lost
        · exact absurd there (unindexed i)
        · cases ((rested.idle _ (idle (.create n))).pending n rfl).symm.trans pending
        · cases (behind.lost i).symm.trans lost
  have current : c.state.UpToDate id := by
    refine (behind.persisted id unowned).resolve_right ?_
    rintro ⟨t, due⟩
    have flusher := tracked.due_flusher t id _ due
    cases ((rested.idle t (idle t)).due rfl flusher id).symm.trans due
  rw [current.row tracked, redisRow, if_neg checkpoint]

end behind

/-! ## Runs -/

/-- The worker has finished, and the stream is stopped. -/
def stopped : List (Action Job Turn FlushEvent) :=
  .start (.status 0) (.updateStatus "s" "stopped") ::
    (Job.status 0).turns [.named "now", .answered, .answered] ++ [.finish (.status 0)]

/-- A sweep that deletes the one listed stream. -/
def swept : List (Action Job Turn FlushEvent) :=
  .start (.sweep 0) .cleanup ::
    (Job.sweep 0).turns [.answered, .answered, .answered, .answered, .answered] ++ [.finish (.sweep 0)]

def flushed : List (Action Job Turn FlushEvent) :=
  .start (.flush "i" 0) .flush :: (Job.flush "i" 0).turns [.answered, .answered, .answered] ++
    [.finish (.flush "i" 0)]

def sweptJobs : List Job := [.create 0, .save "s" 0, .status 0, .sweep 0, .flush "i" 0]

/-- The sets after the stream has been registered and deleted. -/
def sweptSets : String → List String :=
  Function.update (Function.update (Function.update (Function.update (Function.update
    (Function.update (Function.update (fun _ => []) allKey ["s"]) (instanceKey "i") ["s"])
      (subredditKey "news") []) (metaKey "s") []) (stopRequestKey "s") []) allKey [])
        (instanceKey "i") []

theorem not_mem_sweptSets (i : String) : "s" ∉ sweptSets (instanceKey i) := by
  by_cases own : i = "i" <;> simp [sweptSets, own]

def sweptEnd (c : FlushConfig) :
    Bool × (String → List String) × Option CheckpointRow × Hash :=
  (sweptJobs.all fun t => (c.threads t).isNone, c.state.redis.sets, c.state.rows "s",
    c.state.redis.hashes (checkpointKey "s"))

/-- The stream stops and is swept before any flush: its checkpoint never becomes a row. -/
theorem swept_checkpoint_unpersisted :
    ∃ c, (flushMachine false some).Reaches flushConfig c ∧ (∀ t, c.threads t = none) ∧
      (∀ i, "s" ∉ c.state.redis.sets (instanceKey i)) ∧
      c.state.redis.hashes (checkpointKey "s") =
        [("updated_at", "now"), ("last_processed_at", "now"), ("last_comment_id", "t1")] ∧
      c.state.rows "s" = none := by
  have run : ((flushMachine false some).exec (registered ++ saved 0 "t1" ++ stopped ++ swept)
      flushConfig).map sweptEnd = some (true, sweptSets, none,
        [("updated_at", "now"), ("last_processed_at", "now"), ("last_comment_id", "t1")]) := rfl
  obtain ⟨c, ran, seen⟩ := Option.map_eq_some_iff.mp run
  simp only [sweptEnd, Prod.mk.injEq] at seen
  obtain ⟨ended, sets, row, checkpoint⟩ := seen
  refine ⟨c, .of_exec ran, Machine.exec_idle ran (fun _ => rfl) (by decide) ended, fun i => ?_,
    checkpoint, row⟩
  rw [sets]
  exact not_mem_sweptSets i

/-- A check that is enough for `writtenBehind`: the last checkpoint has its row already. -/
def flushedFirst (t : Job) : Extended Effect FlushEff → Flushing → Bool
  | .inner (.redis (.eval (.deleteStreamIfUnchanged _ _ _ _ _ _ streamId _ _ _))), s =>
      s.source streamId = some ((s.history streamId).length - 1)
  | .inner (.redis (.hset _ _)), s =>
      match t with
      | .save streamId _ => (s.ownerOf streamId).isSome
      | _ => true
  | .inner (.redis (.srem _ members)), s => members.all fun id => (s.ownerOf id).isNone
  | e, s => inReadOrder t e s

theorem writtenBehind_of_flushedFirst (t : Job) (e : Extended Effect FlushEff) (s : Flushing)
    (h : flushedFirst t e s = true) : writtenBehind t e s := by
  unfold flushedFirst at h
  split at h
  · exact fun _ => .inl (.inr (by simpa using h))
  · rintro streamId number rfl
    simpa [Option.isSome_iff_ne_none] using h
  · intro i _ id member
    have unowned := List.all_eq_true.mp h id member
    simp only [Option.isNone_iff_eq_none] at unowned
    simp [unowned]
  · rename_i delete hset srem
    unfold writtenBehind
    split
    · exact absurd rfl (delete _ _ _ _ _ _ _ _ _ _)
    · exact absurd rfl (hset _ _)
    · exact absurd rfl (srem _ _)
    · exact h

/-- The stream is flushed before the sweep, and its row stays. -/
theorem swept_checkpoint_persisted :
    ∃ c, BehindRun some flushConfig c ∧
      c.state.redis.hashes (checkpointKey "s") =
        [("updated_at", "now"), ("last_processed_at", "now"), ("last_comment_id", "t1")] ∧
      c.state.rows "s" = some ⟨some "t1", some "now"⟩ := by
  have run : ((flushMachine false some).execUnder flushedFirst
      (registered ++ saved 0 "t1" ++ stopped ++ flushed ++ swept) flushConfig).map
        (fun c => (sweptJobs.all fun t => (c.threads t).isNone, c.state.redis.sets,
          c.state.redis.hashes (checkpointKey "s"))) = some (true, sweptSets,
        [("updated_at", "now"), ("last_processed_at", "now"), ("last_comment_id", "t1")]) := rfl
  obtain ⟨c, ran, seen⟩ := Option.map_eq_some_iff.mp run
  simp only [Prod.mk.injEq] at seen
  obtain ⟨ended, sets, checkpoint⟩ := seen
  have reached : BehindRun some flushConfig c :=
    (Machine.ReachesUnder.execUnder .refl ran).mono writtenBehind_of_flushedFirst
  have idle : ∀ t, c.threads t = none :=
    Machine.exec_idle (Machine.exec_of_execUnder ran) (fun _ => rfl) (by decide) ended
  have row := unindexed_checkpoints_persisted reached idle "s"
    (fun i => by rw [sets]; exact not_mem_sweptSets i) (by simp [checkpoint])
  exact ⟨c, reached, checkpoint, row.trans (by rw [checkpoint]; decide)⟩

end RedditKafka
