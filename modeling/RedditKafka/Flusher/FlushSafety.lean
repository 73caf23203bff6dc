import RedditKafka.Flusher.FlushSteps
import RedditKafka.Stream.WorkerEffects

/-!
# What the jobs may be doing

Which effect each job can wait for, and in which states, while upserts land in
the order of their reads. A shutdown that has completed has covered what its
instance owns.
-/
namespace RedditKafka
open Async Redis StreamRegistry CheckpointFlusher

namespace Flushing

variable {faulty : Bool} {fromIsoformat : String → Option String} {t : Job} {s a b : Flushing}

/-! ## What a shutdown has covered -/

/-- `P` holds of every registered stream of the instance, unless one came too late or was lost. -/
def ForOwned (instanceId : String) (P : String → Prop) (s : Flushing) : Prop :=
  s.late instanceId = false → s.lost instanceId = false → ∀ id, s.ownerOf id = some instanceId →
    s.Unlisted id instanceId ∨ P id

/-- The row of the stream is made from its last checkpoint, if it has one. -/
def UpToDate (s : Flushing) (id : String) : Prop :=
  s.history id = [] ∨ s.source id = some ((s.history id).length - 1)

/-- The shutdown of the instance failed at some step, or it has covered what the instance owns. -/
def Secured (s : Flushing) (instanceId : String) : Prop :=
  s.failed instanceId = true ∨
    s.closing instanceId = true ∧ s.ForOwned instanceId s.UpToDate

theorem ForOwned.onward {i : String} {P P' : String → Prop} (onward : Onward a b)
    (closing : a.closing i = true) (h : a.ForOwned i P)
    (stable : ∀ id, a.ownerOf id = some i → b.history id = a.history id → P id → P' id) :
    b.ForOwned i P' := by
  intro onTime kept id owner
  obtain ⟨owner', same, unlisted⟩ := onward.owned i closing onTime kept id owner
  have onTime' : a.late i = false := by
    by_contra late
    exact absurd (onward.late i (by simpa using late)) (by simp [onTime])
  have kept' : a.lost i = false := by
    by_contra lost
    exact absurd (onward.lost i (by simpa using lost)) (by simp [kept])
  exact (h onTime' kept' id owner').imp unlisted (stable id owner' same)

/-- A position of a row is one of the history. -/
theorem Tracked.source_lt (h : s.Tracked fromIsoformat) {id : String} {k : Nat}
    (source : s.source id = some k) : k < (s.history id).length := by
  rcases h.rows id with ⟨none, -⟩ | ⟨k', row, source', -, value, found, -⟩
  · cases none.symm.trans source
  · cases source'.symm.trans source
    exact (List.getElem?_eq_some_iff.mp found).1

theorem UpToDate.onward {id : String} (tracked : b.Tracked fromIsoformat) (onward : Onward a b)
    (same : b.history id = a.history id) (h : a.UpToDate id) : b.UpToDate id := by
  rcases h with none | last
  · exact .inl (same.trans none)
  · obtain ⟨m, source, le⟩ := onward.source id _ last
    have lt := tracked.source_lt source
    rw [same] at lt
    refine .inr ?_
    rw [source, same]
    congr 1
    omega

theorem Secured.onward {i : String} (tracked : b.Tracked fromIsoformat) (onward : Onward a b)
    (h : a.Secured i) : b.Secured i :=
  h.imp (onward.failed i) fun ⟨closing, covered⟩ =>
    ⟨onward.closing i closing, covered.onward onward closing fun _ _ same =>
      UpToDate.onward tracked onward same⟩

/-! ## The discipline -/

/-- Commands that nothing is recorded about. They change no hash and no index of an instance. -/
inductive QuietCommand (t : Job) : RedisCmd → Prop
  | get (key : String) : QuietCommand t (.get key)
  | hgetall (key : String) : QuietCommand t (.hgetall key)
  | claim (subreddit value : String) : QuietCommand t (.setNx (subredditKey subreddit) value none)
  | identity (subreddit value : String) : QuietCommand t (.setNx (identityKey subreddit) value none)
  | list (id : String) : QuietCommand t (.sadd allKey id)
  | unlist (ids : List String) : QuietCommand t (.srem allKey ids)
  | listed (key : String) (other : t.flusher = none) : QuietCommand t (.smembers key)
  | listedRows (keys : List String) (other : t.flusher = none) : QuietCommand t (.hgetallEach keys)

/-- What a job may be waiting for, in which state. -/
inductive Expects (faulty : Bool) (fromIsoformat : String → Option String) (t : Job) (s : Flushing) :
    Extended Effect FlushEff → Prop
  | quiet {c : RedisCmd} (h : QuietCommand t c) : Expects faulty fromIsoformat t s (.inner (.redis c))
  | metadata {n : Nat} (id subreddit config i at₁ at₂ : String) (job : t = .create n)
      (free : s.pending n = none) : Expects faulty fromIsoformat t s
        (.inner (.redis (.hset (metaKey id) (newMeta id subreddit config i at₁ at₂))))
  | index {n : Nat} {id i : String} (job : t = .create n) (pending : s.pending n = some (id, i)) :
      Expects faulty fromIsoformat t s (.inner (.redis (.sadd (instanceKey i) id)))
  | status {n : Nat} (id status at₁ : String) (job : t = .status n) :
      Expects faulty fromIsoformat t s
        (.inner (.redis (.hset (metaKey id) (statusMapping status at₁ none))))
  | checkpoint {id : String} {n : Nat} {mapping : List (String × String)} (job : t = .save id n)
      (readable : ∀ value : Hash, value.setFields mapping ≠ [] ∧
        (parseCheckpointData fromIsoformat (value.setFields mapping)).isSome = true) :
      Expects faulty fromIsoformat t s (.inner (.redis (.hset (checkpointKey id) mapping)))
  | delete (id subreddit status time : String) : Expects faulty fromIsoformat t s
      (.inner (.redis (.eval (.deleteStreamIfUnchanged (metaKey id) (checkpointKey id)
        (stopRequestKey id) (subredditKey subreddit) allKey (identityKey subreddit) id status time "0"))))
  | unindex (i : String) (ids : List String) :
      Expects faulty fromIsoformat t s (.inner (.redis (.srem (instanceKey i) ids)))
  | members {i : String} (flusher : t.flusher = some i) :
      Expects faulty fromIsoformat t s (.inner (.redis (.smembers (instanceKey i))))
  | read {i : String} (ids : List String) (flusher : t.flusher = some i)
      (done : faulty = false → ∀ id, s.due t id = none) :
      Expects faulty fromIsoformat t s (.inner (.redis (.hgetallEach (pipelineKeys ids))))
  | upsert {checkpoints : List (String × CheckpointRow)}
      (found : Matches fromIsoformat t checkpoints s) :
      Expects faulty fromIsoformat t s (.outer (.upsert checkpoints))
  | nowIso : Expects faulty fromIsoformat t s (.inner .nowIso)
  | uuid4 : Expects faulty fromIsoformat t s (.inner .uuid4)
  | persist : Expects faulty fromIsoformat t s (.inner .persist)
  | sleep : Expects faulty fromIsoformat t s (.inner .sleep)
  | isRunning (i : String) : Expects faulty fromIsoformat t s (.outer (.isRunning i))
  | setRunning (i : String) (running : Bool) :
      Expects faulty fromIsoformat t s (.outer (.setRunning i running))
  | awaitLoop (i : String) : Expects faulty fromIsoformat t s (.outer (.awaitLoop i))

end Flushing

/-- Upserts land in the order of their reads. -/
def flushDiscipline (faulty : Bool) (fromIsoformat : String → Option String) :
    Discipline (Extended Effect FlushEff) Flushing Job where
  inv s := s.Tracked fromIsoformat ∧ ∀ i, s.completed i = true → s.Secured i
  keeps t a b := Flushing.Onward a b ∧ b.due t = a.due t ∧ b.readAt t = a.readAt t ∧
    ∀ n, t = .create n → b.pending n = a.pending n
  keeps_refl _ a := ⟨Flushing.Onward.refl a, rfl, rfl, fun _ _ => rfl⟩
  keeps_trans _ _ _ _ := fun ⟨onward, due, readAt, pending⟩ ⟨onward', due', readAt', pending'⟩ =>
    ⟨onward.trans onward', due'.trans due, readAt'.trans readAt, fun n same =>
      (pending' n same).trans (pending n same)⟩
  ok t e s := Flushing.inReadOrder t e s = true
  pledge t e s := Flushing.Expects faulty fromIsoformat t s e

namespace Flushing

variable {faulty : Bool} {fromIsoformat : String → Option String} {t : Job} {s s' a b : Flushing}

/-- What a step of one job means for the invariant and for the others. -/
theorem Moved.disciplined (h : (flushDiscipline faulty fromIsoformat).inv a)
    (moved : Moved fromIsoformat t a b) : (flushDiscipline faulty fromIsoformat).inv b ∧
      ∀ u, u ≠ t → (flushDiscipline faulty fromIsoformat).keeps u a b := by
  refine ⟨⟨moved.tracked, fun i completed => ?_⟩, fun u other =>
    ⟨moved.onward, moved.due u other, moved.readAt u other, fun n same => ?_⟩⟩
  · exact (h.2 i (moved.completed ▸ completed)).onward moved.tracked moved.onward
  · exact moved.pending n (same ▸ other)

theorem QuietCommand.note {c : RedisCmd} (h : QuietCommand t c) (s : Flushing) :
    s.note fromIsoformat t c = s := by
  cases h with
  | get | hgetall | claim | identity => cases t <;> rfl
  | list id =>
      cases t with
      | create n =>
          simp only [Flushing.note, noteIndexed, Layout.key_inj]
          split <;> simp
      | _ => rfl
  | unlist ids =>
      rw [note_srem]
      simp [noteUnlisted]
  | listed key other => cases t <;> first | rfl | cases other
  | listedRows keys other => cases t <;> first | rfl | cases other

theorem QuietCommand.hashes {c : RedisCmd} (h : QuietCommand t c) (r : Store) :
    (c.run r).2.hashes = r.hashes := by
  cases h with
  | claim | identity =>
      simp only [RedisCmd.run]
      split <;> rfl
  | list => simp [RedisCmd.run]
  | _ => rfl

theorem QuietCommand.indexes {c : RedisCmd} (h : QuietCommand t c) (r : Store) (i : String) :
    (c.run r).2.sets (instanceKey i) = r.sets (instanceKey i) := by
  cases h with
  | claim | identity =>
      simp only [RedisCmd.run]
      split <;> rfl
  | list =>
      simp only [RedisCmd.run, Store.sadd]
      split <;> simp
  | unlist => simp [RedisCmd.run]
  | _ => rfl

theorem moved_quiet {c : RedisCmd} (tracked : s.Tracked fromIsoformat) (quiet : QuietCommand t c) :
    Moved fromIsoformat t s (s.execute fromIsoformat t c) := by
  unfold execute
  rw [quiet.note]
  refine Moved.of_redis tracked (fun id => by rw [quiet.hashes]) (fun id i owner => ?_)
    (fun id i member => by rw [quiet.indexes]; exact member)
  simpa only [ownerOf, Store.hget, quiet.hashes] using owner

/-- Every command that a job may be waiting for keeps the records. -/
theorem Expects.moved {c : RedisCmd} (h : Expects faulty fromIsoformat t s (.inner (.redis c)))
    (tracked : s.Tracked fromIsoformat) :
    Moved fromIsoformat t s (s.execute fromIsoformat t c) := by
  cases h with
  | quiet h => exact moved_quiet tracked h
  | metadata id subreddit config i at₁ at₂ job free =>
      subst job
      exact moved_metadata tracked free _ _ _ _ _ _
  | index job pending =>
      subst job
      exact moved_index tracked pending
  | status id status at₁ job =>
      subst job
      refine Moved.of_redis tracked (fun id' => by simp [RedisCmd.run]) (fun id' i owner => ?_)
        fun _ _ member => member
      exact (ownerOf_hset_status _ id status at₁ id').symm.trans owner
  | checkpoint job readable =>
      subst job
      exact moved_checkpoint tracked readable
  | delete id subreddit status time =>
      have noted : s.note fromIsoformat t (.eval (.deleteStreamIfUnchanged (metaKey id)
          (checkpointKey id) (stopRequestKey id) (subredditKey subreddit) allKey
          (identityKey subreddit) id status time "0")) = s := by cases t <;> rfl
      unfold execute
      rw [noted]
      exact moved_delete tracked id subreddit status time
  | unindex i ids => exact moved_srem tracked i ids
  | members flusher =>
      cases t with
      | shutdown i => exact moved_closing tracked _ _
      | _ => exact Moved.of_redis tracked (fun _ => rfl) (fun _ _ owner => owner) fun _ _ there => there
  | read ids flusher done => exact moved_read tracked flusher _

/-- What the environment can answer to a command. -/
theorem answer_redis {c : RedisCmd} {turn : Turn} {r : Except PyExc c.Reply}
    (h : answer faulty fromIsoformat t (.inner (.redis c)) turn s = some (r, s')) :
    r = (c.run s.redis).1 ∧ s' = s.execute fromIsoformat t c ∨
      faulty = true ∧ (∃ e, r = .error e) ∧
        (s' = (s.execute fromIsoformat t c).fail t ∨ s' = s.fail t) := by
  cases turn with
  | answered =>
      cases h
      exact .inl ⟨rfl, rfl⟩
  | raised e =>
      simp only [answer] at h
      split at h <;> cases h
      exact .inr ⟨‹_›, ⟨e, rfl⟩, .inr rfl⟩
  | raisedAfter e =>
      simp only [answer] at h
      split at h <;> cases h
      exact .inr ⟨‹_›, ⟨e, rfl⟩, .inl rfl⟩
  | named | worker => cases h

theorem answer_upsert {checkpoints : List (String × CheckpointRow)} {turn : Turn}
    {r : Except PyExc Unit}
    (h : answer faulty fromIsoformat t (.outer (.upsert checkpoints)) turn s = some (r, s')) :
    r = .ok () ∧ s' = s.upsert t checkpoints ∨
      faulty = true ∧ (∃ e, r = .error e) ∧
        (s' = (s.upsert t checkpoints).fail t ∨ s' = s.fail t) := by
  cases turn with
  | answered =>
      cases h
      exact .inl ⟨rfl, rfl⟩
  | raised e =>
      simp only [answer] at h
      split at h <;> cases h
      exact .inr ⟨‹_›, ⟨e, rfl⟩, .inr rfl⟩
  | raisedAfter e =>
      simp only [answer] at h
      split at h <;> cases h
      exact .inr ⟨‹_›, ⟨e, rfl⟩, .inl rfl⟩
  | named | worker => cases h

theorem answer_isRunning {i : String} {turn : Turn} {r : Except PyExc Bool}
    (h : answer faulty fromIsoformat t (.outer (.isRunning i)) turn s = some (r, s')) :
    r = .ok (s.running i) ∧ s' = s := by
  cases turn with
  | answered => cases h; exact ⟨rfl, rfl⟩
  | _ => cases h

theorem answer_setRunning {i : String} {running : Bool} {turn : Turn} {r : Except PyExc Unit}
    (h : answer faulty fromIsoformat t (.outer (.setRunning i running)) turn s = some (r, s')) :
    r = .ok () ∧ s' = { s with running := Function.update s.running i running } := by
  cases turn with
  | answered => cases h; exact ⟨rfl, rfl⟩
  | _ => cases h

theorem answer_sleep {turn : Turn} {r : Except PyExc Unit}
    (h : answer faulty fromIsoformat t (.inner .sleep) turn s = some (r, s')) :
    r = .ok () ∧ s' = s ∨ faulty = true ∧ (∃ e, r = .error e) ∧ s' = s.fail t := by
  cases turn with
  | answered => cases h; exact .inl ⟨rfl, rfl⟩
  | raised e =>
      simp only [answer] at h
      split at h <;> cases h
      exact .inr ⟨‹_›, ⟨e, rfl⟩, rfl⟩
  | _ => cases h

theorem answer_persist {turn : Turn} {r : Except PyExc Unit}
    (h : answer faulty fromIsoformat t (.inner .persist) turn s = some (r, s')) :
    r = .ok () ∧ s' = s ∨ faulty = true ∧ (∃ e, r = .error e) ∧ s' = s.fail t := by
  cases turn with
  | answered => cases h; exact .inl ⟨rfl, rfl⟩
  | raised e =>
      simp only [answer] at h
      split at h <;> cases h
      exact .inr ⟨‹_›, ⟨e, rfl⟩, rfl⟩
  | _ => cases h

theorem answer_awaitLoop {i : String} {turn : Turn} {r : Except PyExc Unit}
    (h : answer faulty fromIsoformat t (.outer (.awaitLoop i)) turn s = some (r, s')) :
    r = .ok () ∧ s' = s ∨ faulty = true ∧ (∃ e, r = .error e) ∧ s' = s.fail t := by
  cases turn with
  | answered =>
      simp only [answer] at h
      split at h <;> cases h
      exact .inl ⟨rfl, rfl⟩
  | raised e =>
      simp only [answer] at h
      split at h <;> cases h
      exact .inr ⟨‹_›, ⟨e, rfl⟩, rfl⟩
  | _ => cases h

/-- Names leave the state alone. -/
theorem answer_name {c : Effect} (name : c = .nowIso ∨ c = .uuid4) {turn : Turn}
    {r : Except PyExc c.Answer}
    (h : answer faulty fromIsoformat t (.inner c) turn s = some (r, s')) : s' = s := by
  rcases name with rfl | rfl
  · cases turn with
    | named text =>
        simp only [answer] at h
        split at h <;> cases h
        rfl
    | _ => cases h
  · cases turn with
    | named text => cases h; rfl
    | _ => cases h

/-- Whatever is answered to what a job may be waiting for keeps the records. -/
theorem Expects.answered {e : Extended Effect FlushEff} {turn : Turn}
    {r : Except PyExc (FlushAnswer e)} (h : Expects faulty fromIsoformat t s e)
    (tracked : s.Tracked fromIsoformat) (inOrder : inReadOrder t e s = true)
    (answered : answer faulty fromIsoformat t e turn s = some (r, s')) :
    Moved fromIsoformat t s s' := by
  have failed : Moved fromIsoformat t s (s.fail t) := moved_fail tracked
  have refl : Moved fromIsoformat t s s := Moved.refl tracked
  cases e with
  | inner e =>
      cases e with
      | redis c =>
          have moved := h.moved tracked
          rcases answer_redis answered with ⟨-, rfl⟩ | ⟨-, -, rfl | rfl⟩
          · exact moved
          · exact moved.trans (moved_fail moved.tracked)
          · exact failed
      | nowIso => exact answer_name (.inl rfl) answered ▸ refl
      | uuid4 => exact answer_name (.inr rfl) answered ▸ refl
      | persist =>
          rcases answer_persist answered with ⟨-, rfl⟩ | ⟨-, -, rfl⟩
          · exact refl
          · exact failed
      | sleep =>
          rcases answer_sleep answered with ⟨-, rfl⟩ | ⟨-, -, rfl⟩
          · exact refl
          · exact failed
      | _ => cases h
  | outer e =>
      cases e with
      | upsert checkpoints =>
          cases h with
          | upsert found =>
              have moved := moved_upsert tracked found inOrder
              rcases answer_upsert answered with ⟨-, rfl⟩ | ⟨-, -, rfl | rfl⟩
              · exact moved
              · exact moved.trans (moved_fail moved.tracked)
              · exact failed
      | isRunning i => exact (answer_isRunning answered).2 ▸ refl
      | setRunning i running =>
          obtain ⟨-, rfl⟩ := answer_setRunning answered
          exact { refl with tracked := { tracked with }, onward := { Onward.refl s with } }
      | awaitLoop i =>
          rcases answer_awaitLoop answered with ⟨-, rfl⟩ | ⟨-, -, rfl⟩
          · exact refl
          · exact failed

end Flushing
end RedditKafka
