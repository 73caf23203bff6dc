import RedditKafka.Flusher.FlushSafety

/-!
# The jobs, one by one

Each job is safe from its start on. A job at rest has nothing to upsert and no
registration in flight, and a shutdown leaves its instance secured.
-/
namespace RedditKafka
open Async Redis StreamRegistry CheckpointFlusher Flushing

variable {faulty : Bool} {fromIsoformat : String → Option String} {t : Job} {s : Flushing}
  {α : Type} {Q : Except PyExc α → Flushing → Prop}

/-- What is left of a job that is not running. -/
structure AtRest (faulty : Bool) (t : Job) (s : Flushing) : Prop where
  due : faulty = false → t.flusher.isSome = true → ∀ id, s.due t id = none
  pending : ∀ n, t = .create n → s.pending n = none

/-- What a job leaves behind at its end. -/
def flushPost (faulty : Bool) (t : Job) (_ : Except PyExc Unit) (s : Flushing) : Prop :=
  AtRest faulty t s ∧ ∀ i, t = .shutdown i → s.Secured i

section awaits

variable {M : Machine (Extended Effect FlushEff) FlushAnswer PyExc Flushing Job Turn FlushEvent}

/-- One await of a flusher. -/
theorem Safe.job {e : Extended Effect FlushEff}
    {next : Except PyExc (FlushAnswer e) → FlushProgram α}
    (h : ∀ s₁, (flushDiscipline faulty fromIsoformat).keeps t s s₁ →
      (flushDiscipline faulty fromIsoformat).inv s₁ → Expects faulty fromIsoformat t s₁ e ∧
      ∀ turn r s₂, answer faulty fromIsoformat t e turn s₁ = some (r, s₂) →
        (flushDiscipline faulty fromIsoformat).inv s₂ →
        Moved fromIsoformat t s₁ s₂ →
        Safe (flushMachine faulty fromIsoformat) (flushDiscipline faulty fromIsoformat) t (next r) Q s₂) :
    Safe (flushMachine faulty fromIsoformat) (flushDiscipline faulty fromIsoformat) t
      (.call e next) Q s := by
  intro s₁ kept hs₁
  obtain ⟨expected, rest⟩ := h s₁ kept hs₁
  refine ⟨expected, fun inOrder turn r s₂ answered => ?_⟩
  have moved := expected.answered hs₁.1 inOrder answered
  obtain ⟨hs₂, others⟩ := moved.disciplined hs₁
  exact ⟨hs₂, others, rest turn r s₂ answered hs₂ moved⟩

/-- One await of the service, among the flushers. -/
theorem Safe.service {c : Effect} {next : Except PyExc c.Answer → Program α}
    (h : ∀ s₁, (flushDiscipline faulty fromIsoformat).keeps t s s₁ →
      (flushDiscipline faulty fromIsoformat).inv s₁ → Expects faulty fromIsoformat t s₁ (.inner c) ∧
      ∀ turn r s₂, answer faulty fromIsoformat t (.inner c) turn s₁ = some (r, s₂) →
        (flushDiscipline faulty fromIsoformat).inv s₂ →
        Safe (flushMachine faulty fromIsoformat).inner (flushDiscipline faulty fromIsoformat).inner t
          (next r) Q s₂) :
    Safe (flushMachine faulty fromIsoformat).inner (flushDiscipline faulty fromIsoformat).inner t
      (.call c next) Q s := by
  intro s₁ kept hs₁
  obtain ⟨expected, rest⟩ := h s₁ kept hs₁
  refine ⟨expected, fun inOrder turn r s₂ answered => ?_⟩
  have moved := expected.answered hs₁.1 inOrder answered
  obtain ⟨hs₂, others⟩ := moved.disciplined hs₁
  exact ⟨hs₂, others, rest turn r s₂ answered hs₂⟩

/-- A coroutine of the service that may wait for its effects in every state. -/
theorem Safe.anytime {p : Program α}
    (uses : p.Uses fun c => ∀ s, Expects faulty fromIsoformat t s (.inner c)) :
    Safe (flushMachine faulty fromIsoformat) (flushDiscipline faulty fromIsoformat) t
      (beside p) (fun _ _ => True) s := by
  refine Safe.lift (Safe.of_uses uses (fun _ => True) trivial (fun _ _ _ _ _ => trivial) ?_)
  intro c s₁ expected hs₁ _
  refine ⟨expected s₁, fun inOrder turn r s₂ answered => ?_⟩
  have moved := (expected s₁).answered hs₁.1 inOrder answered
  have hs : (flushDiscipline faulty fromIsoformat).inv s₁ := hs₁
  obtain ⟨hs₂, others⟩ := moved.disciplined hs
  exact ⟨hs₂, others, trivial⟩

end awaits

/-! ## The operations of the registry -/

section registry

/-- What a coroutine may wait for in every state. -/
abbrev Anytime (faulty : Bool) (fromIsoformat : String → Option String) (t : Job) (c : Effect) : Prop :=
  ∀ s, Expects faulty fromIsoformat t s (.inner c)

theorem persist_anytime : persist.Uses (Anytime faulty fromIsoformat t) :=
  exceptException_uses (Prog.Uses.perform fun _ => .persist) fun _ => trivial

theorem updateStatus_anytime (n : Nat) (streamId status : String) :
    (updateStatus streamId status none).Uses (Anytime faulty fromIsoformat (.status n)) :=
  (Prog.Uses.perform fun _ => .nowIso).bind fun _ =>
    (Prog.Uses.perform fun _ => .status _ _ _ rfl).bind fun _ => persist_anytime

theorem deleteStream_anytime (streamId : String) (status time : Option String) :
    (deleteStream streamId status time false).Uses (Anytime faulty fromIsoformat t) := by
  refine (Prog.Uses.perform fun _ => .quiet (.hgetall _)).bind fun data => ?_
  split
  · trivial
  · refine (Prog.Uses.perform fun _ => .delete _ _ _ _).bind fun deleted => ?_
    refine Prog.Uses.bind ?_ fun _ => trivial
    unfold dropInstance
    split
    · exact Prog.Uses.perform fun _ => .unindex _ _
    · trivial

theorem delete_anytime (streamId : String) :
    (ignoring (deleteStream streamId none none false)).Uses (Anytime faulty fromIsoformat t) :=
  (deleteStream_anytime _ _ _).bind fun _ => trivial

theorem cleanup_anytime (other : t.flusher = none) :
    DeadStreamCleanup.cleanup.Uses (Anytime faulty fromIsoformat t) := by
  refine exceptException_uses (Prog.Uses.bind ?_ fun streams => ?_) fun _ => trivial
  · refine (Prog.Uses.perform fun _ => .quiet (.listed _ other)).bind fun ids => ?_
    split
    · trivial
    · refine (Prog.Uses.perform fun _ => .quiet (.listedRows _ other)).bind fun rows => ?_
      refine Prog.Uses.bind ?_ fun _ => trivial
      unfold StreamRegistry.dropStale
      split
      · trivial
      · exact Prog.Uses.perform fun _ => .quiet (.unlist _)
  · refine Prog.Uses.forEach fun stream _ => ?_
    unfold DeadStreamCleanup.retire
    split
    · exact exceptException_uses ((deleteStream_anytime _ _ _).bind fun _ => trivial) fun _ => trivial
    · trivial

/-- What a worker saves can be read back, since its times can. -/
theorem save_safe {w : StreamWorker} {n : Nat} (commentId : String) (hs : (flushDiscipline faulty fromIsoformat).inv s) :
    Safe (flushMachine faulty fromIsoformat) (flushDiscipline faulty fromIsoformat)
      (.save w.streamId n) (beside (w.served (StreamWorker.saveCheckpointForCommentId commentId)))
      (fun _ _ => True) s := by
  refine Safe.lift ?_
  rw [StreamWorker.saveCheckpointForCommentId, StreamWorker.served_exceptException]
  refine Safe.exceptException (P := fun _ _ => True) hs ?_ (fun _ _ _ _ => trivial)
    (fun _ _ _ _ _ => trivial) fun _ _ _ _ _ => trivial
  rw [StreamWorker.served_bind, StreamWorker.served_await]
  refine Safe.service fun s₁ _ _ => ⟨.nowIso, fun turn r s₂ answered _ => ?_⟩
  cases r with
  | error e => trivial
  | ok now =>
      have readable : (parseTime fromIsoformat now).isSome = true := by
        cases turn with
        | named text =>
            simp only [answer] at answered
            split at answered <;> cases answered
            assumption
        | _ => cases answered
      show Safe _ _ _ (w.served (await (.setCheckpoint commentId now))) _ _
      rw [StreamWorker.served_await]
      refine Safe.service fun s₃ _ _ => ⟨.nowIso, fun turn r s₄ _ _ => ?_⟩
      cases r with
      | error e => trivial
      | ok updatedAt =>
          refine Safe.service fun s₅ _ _ => ⟨?_, fun turn r s₆ _ _ => ?_⟩
          · exact .checkpoint rfl fun value => written_checkpoint value commentId updatedAt readable
          · cases r <;> trivial

end registry

/-! ## Registrations -/

section creation

variable {n : Nat}

theorem fail_pending (s : Flushing) : (s.fail (.create n)).pending n = none := by
  unfold fail
  cases h : s.pending n with
  | none => simp [h]
  | some entry => simp [h]

/-- An effect of a creator that has no registration in flight. -/
theorem Safe.unregistered {c : Effect} {next : Except PyExc c.Answer → Program α}
    (free : s.pending n = none)
    (expected : ∀ s₁, Expects faulty fromIsoformat (.create n) s₁ (.inner c))
    (plain : ∀ c' (s₁ : Flushing), c = .redis c' → s₁.pending n = none →
      (s₁.note fromIsoformat (.create n) c').pending n = none)
    (rest : ∀ r s₂, (flushDiscipline faulty fromIsoformat).inv s₂ → s₂.pending n = none →
      Safe (flushMachine faulty fromIsoformat).inner (flushDiscipline faulty fromIsoformat).inner
        (.create n) (next r) Q s₂) :
    Safe (flushMachine faulty fromIsoformat).inner (flushDiscipline faulty fromIsoformat).inner
      (.create n) (.call c next) Q s := by
  refine Safe.service fun s₁ kept _ => ⟨expected s₁, fun turn r s₂ answered hs₂ => ?_⟩
  have free₁ : s₁.pending n = none := (kept.2.2.2 n rfl).trans free
  refine rest r s₂ hs₂ ?_
  cases c with
  | redis c =>
      have free₂ := plain c s₁ rfl free₁
      rcases answer_redis answered with ⟨-, rfl⟩ | ⟨-, -, rfl | rfl⟩
      · exact free₂
      · exact fail_pending _
      · exact fail_pending _
  | nowIso => exact answer_name (.inl rfl) answered ▸ free₁
  | uuid4 => exact answer_name (.inr rfl) answered ▸ free₁
  | persist =>
      rcases answer_persist answered with ⟨-, rfl⟩ | ⟨-, -, rfl⟩
      · exact free₁
      · exact fail_pending _
  | sleep =>
      rcases answer_sleep answered with ⟨-, rfl⟩ | ⟨-, -, rfl⟩
      · exact free₁
      · exact fail_pending _
  | _ => cases expected s₁

/-- The creator of an instance indexes the stream that it has registered. -/
theorem register_flushing {streamId subreddit config i : String} (given : i ≠ "")
    (free : s.pending n = none) :
    Safe (flushMachine faulty fromIsoformat).inner (flushDiscipline faulty fromIsoformat).inner
      (.create n) (register streamId subreddit config (some i)) (fun _ s => s.pending n = none) s := by
  refine Safe.unregistered free (fun _ => .nowIso) (fun _ _ same => by cases same) ?_
  rintro (e | createdAt) s _ free
  · exact free
  refine Safe.unregistered free (fun _ => .nowIso) (fun _ _ same => by cases same) ?_
  rintro (e | updatedAt) s _ free
  · exact free
  refine Safe.service fun s₁ kept _ => ⟨.metadata streamId subreddit config i createdAt updatedAt rfl
    ((kept.2.2.2 n rfl).trans free), fun turn r s₂ answered _ => ?_⟩
  rcases answer_redis answered with ⟨rfl, rfl⟩ | ⟨-, ⟨e, rfl⟩, rfl | rfl⟩
  rotate_left
  · exact fail_pending _
  · exact fail_pending _
  have pending : (s₁.execute fromIsoformat (.create n) (.hset (metaKey streamId)
      (newMeta streamId subreddit config i createdAt updatedAt))).pending n = some (streamId, i) :=
    Function.update_self _ _ _
  refine Safe.service fun s₃ kept _ => ⟨.quiet (.list streamId), fun turn r s₄ answered _ => ?_⟩
  have pending₃ := (kept.2.2.2 n rfl).trans pending
  rcases answer_redis answered with ⟨rfl, rfl⟩ | ⟨-, ⟨e, rfl⟩, rfl | rfl⟩
  rotate_left
  · exact fail_pending _
  · exact fail_pending _
  have pending₄ : (s₃.execute fromIsoformat (.create n) (.sadd allKey streamId)).pending n =
      some (streamId, i) := by
    simp [execute, note, noteIndexed, pending₃]
  show Safe _ _ _ (indexInstance (some i) streamId >>= _) _ _
  have index : indexInstance (some i) streamId = redis (.sadd (instanceKey i) streamId) := by
    simp [indexInstance, orNone, truthy, given]
  rw [index]
  refine Safe.service fun s₅ kept _ =>
    have pending₅ := (kept.2.2.2 n rfl).trans pending₄
    ⟨.index rfl pending₅, fun turn r s₆ answered hs₆ => ?_⟩
  have pending₅ := (kept.2.2.2 n rfl).trans pending₄
  rcases answer_redis answered with ⟨rfl, rfl⟩ | ⟨-, ⟨e, rfl⟩, rfl | rfl⟩
  rotate_left
  · exact fail_pending _
  · exact fail_pending _
  have done : (s₅.execute fromIsoformat (.create n) (.sadd (instanceKey i) streamId)).pending n =
      none := by
    simp [execute, note, noteIndexed, pending₅]
  show Safe _ _ _ (persist >>= fun _ => pure _) _ _
  refine Safe.bind (P := fun _ s => s.pending n = none) hs₆ ?_ (fun _ _ _ left => by exact left)
    fun _ _ _ left => by exact left
  refine Safe.exceptException (P := fun _ s => s.pending n = none) hs₆ ?_
    (fun _ _ _ left => by exact left) (fun _ _ _ _ left => by exact left)
    fun _ _ _ _ left => by exact left
  refine Safe.unregistered done (fun _ => .persist) (fun _ _ same => by cases same) ?_
  rintro (e | _) s _ left <;> exact left

theorem claim_flushing {streamId subreddit config i : String} (given : i ≠ "")
    (free : s.pending n = none) :
    Safe (flushMachine faulty fromIsoformat).inner (flushDiscipline faulty fromIsoformat).inner
      (.create n) (claim streamId subreddit config (some i)) (fun _ s => s.pending n = none) s := by
  refine Safe.unregistered free (fun _ => .quiet (.claim _ _)) (fun _ _ same left => by cases same; exact left) ?_
  rintro (e | claimed) s _ free
  · exact free
  cases claimed with
  | true => exact register_flushing given free
  | false =>
      refine Safe.unregistered free (fun _ => .quiet (.get _)) (fun _ _ same left => by cases same; exact left) ?_
      rintro (e | existing) s _ free <;> exact free

theorem createStream_flushing {subreddit config i : String} (given : i ≠ "")
    (free : s.pending n = none) :
    Safe (flushMachine faulty fromIsoformat).inner (flushDiscipline faulty fromIsoformat).inner
      (.create n) (createStream subreddit config (some i)) (fun _ s => s.pending n = none) s := by
  refine Safe.unregistered free (fun _ => .quiet (.get _)) (fun _ _ same left => by cases same; exact left) ?_
  rintro (e | existing) s _ free
  · exact free
  simp only [Prog.ofExcept, Prog.bindE, Prog.andThen]
  split
  · refine Safe.unregistered free (fun _ => .quiet (.identity _ _))
      (fun _ _ same left => by cases same; exact left) ?_
    rintro (e | _) s _ free <;> exact free
  refine Safe.unregistered free (fun _ => .uuid4) (fun _ _ same => by cases same) ?_
  rintro (e | candidateId) s _ free
  · exact free
  refine Safe.unregistered free (fun _ => .quiet (.identity _ _))
    (fun _ _ same left => by cases same; exact left) ?_
  rintro (e | created) s _ free
  · exact free
  cases created with
  | true =>
      simp only [Prog.ofExcept, Prog.bindE, Prog.andThen, if_true, Prog.pure_eq]
      split
      · exact claim_flushing given free
      · exact free
  | false =>
      refine Safe.unregistered free (fun _ => .quiet (.get _)) (fun _ _ same left => by cases same; exact left) ?_
      rintro (e | streamId) s _ free
      · exact free
      simp only [Prog.ofExcept, Prog.bindE, Prog.andThen]
      split
      · exact claim_flushing given free
      · exact free

theorem create_flushing {subreddit config i : String} (hs : (flushDiscipline faulty fromIsoformat).inv s)
    (given : i ≠ "") (free : s.pending n = none) :
    Safe (flushMachine faulty fromIsoformat) (flushDiscipline faulty fromIsoformat) (.create n)
      (beside (ignoring (createStream subreddit config (some i)))) (fun _ s => s.pending n = none) s :=
  Safe.lift (Safe.bind hs (createStream_flushing given free) (fun _ _ _ left => by exact left)
    fun _ _ _ left => by exact left)

end creation

/-! ## Flushes -/

section flushing

variable {i : String} {a b : Flushing} {checkpoints : List (String × CheckpointRow)}

/-- What a flush leaves behind. -/
structure Flushed (faulty : Bool) (t : Job) (s : Flushing) : Prop where
  due : faulty = false → ∀ id, s.due t id = none
  secured : ∀ i, t = .shutdown i → s.Secured i

/-- A flush has read, and what it is to upsert covers the instance that shuts down. -/
structure HasRead (fromIsoformat : String → Option String) (t : Job)
    (checkpoints : List (String × CheckpointRow)) (s : Flushing) : Prop where
  found : Matches fromIsoformat t checkpoints s
  covers : ∀ i, t = .shutdown i → s.closing i = true ∧ s.ForOwned i fun id =>
    s.history id = [] ∨ s.due t id = some ((s.history id).length - 1)

theorem Flushed.onward (tracked : b.Tracked fromIsoformat) (onward : Onward a b)
    (due : b.due t = a.due t) (h : Flushed faulty t a) : Flushed faulty t b :=
  ⟨fun fault id => by rw [due]; exact h.due fault id, fun i same =>
    (h.secured i same).onward tracked onward⟩

theorem HasRead.onward (onward : Onward a b) (due : b.due t = a.due t)
    (h : HasRead fromIsoformat t checkpoints a) : HasRead fromIsoformat t checkpoints b := by
  refine ⟨⟨fun id row member => ?_, fun id k held => h.found.all id k (due ▸ held)⟩, fun i same => ?_⟩
  · obtain ⟨k, held, value⟩ := h.found.row id row member
    exact ⟨k, due ▸ held, value.onward onward⟩
  · obtain ⟨closing, covered⟩ := h.covers i same
    refine ⟨onward.closing i closing, covered.onward onward closing fun id _ unchanged holds => ?_⟩
    rw [unchanged, due]
    exact holds

theorem flushed_fail (fault : faulty = true) (s : Flushing) : Flushed faulty t (s.fail t) := by
  refine ⟨fun no => absurd (fault.symm.trans no) (by simp), ?_⟩
  rintro i rfl
  exact .inl (by simp [fail])

/-- Every owned stream is listed when a shutdown lists the streams of its instance. -/
theorem listed_members (tracked : s.Tracked fromIsoformat) :
    (s.execute fromIsoformat (.shutdown i) (.smembers (instanceKey i))).ForOwned i
      (· ∈ s.redis.sets (instanceKey i)) := by
  intro _ kept id owner
  rcases tracked.listed id i owner with there | unlisted | lost
  · exact .inr there
  · exact .inl unlisted
  · exact absurd (lost.symm.trans kept) (by simp)

theorem pairs_pipeline (f : String → Hash) (ids : List String) :
    ids.zip (pairs ((pipelineKeys ids).map f)) =
      ids.map fun id => (id, f (metaKey id), f (checkpointKey id)) := by
  induction ids with
  | nil => rfl
  | cons id ids ih =>
      simp only [pipelineKeys, List.flatMap_cons, List.map_cons, List.cons_append,
        List.nil_append, pairs, List.zip_cons_cons] at ih ⊢
      rw [ih]

theorem mem_pipelineKeys {id : String} {ids : List String} :
    metaKey id ∈ pipelineKeys ids ↔ id ∈ ids := by
  simp [pipelineKeys]

/-- The rows of a flush, from what it has read. -/
theorem mem_checkpointsToUpsert {ids : List String} {entry : String × CheckpointRow} :
    entry ∈ checkpointsToUpsert fromIsoformat i
        (ids.zip (pairs ((pipelineKeys ids).map s.redis.hashes))) ↔
      entry.1 ∈ ids ∧ s.rowFor fromIsoformat i entry.1 = some entry.2 := by
  rw [pairs_pipeline]
  simp only [checkpointsToUpsert, List.mem_filterMap, List.mem_map, Option.map_eq_some_iff]
  constructor
  · rintro ⟨_, ⟨id, member, rfl⟩, row, found, rfl⟩
    exact ⟨member, found⟩
  · rintro ⟨member, found⟩
    exact ⟨_, ⟨entry.1, member, rfl⟩, entry.2, found, rfl⟩

/-- A row that the flusher of the owner would make is one of the last checkpoint. -/
theorem rowFor_eq_some (tracked : s.Tracked fromIsoformat) {id : String} {row : CheckpointRow}
    (h : s.rowFor fromIsoformat i id = some row) :
    s.RowAt fromIsoformat id ((s.history id).length - 1) row := by
  have some_ := history_of_rowFor tracked (i := i) (by rw [h]; rfl)
  unfold rowFor rowOf at h
  split at h
  · cases h
  split at h
  · cases h
  refine ⟨(s.history id).getLast some_, ?_, ?_⟩
  · rw [← List.getLast?_eq_getElem?, List.getLast?_eq_some_getLast some_]
  · rw [tracked.checkpoint id, List.getLast?_eq_some_getLast some_] at h
    exact h

/-- The flusher of the owner makes a row of every stream that has a checkpoint. -/
theorem rowFor_isSome (tracked : s.Tracked fromIsoformat) {id : String}
    (owner : s.ownerOf id = some i) (some_ : s.history id ≠ []) :
    (s.rowFor fromIsoformat i id).isSome = true := by
  have last := List.getLast?_eq_some_getLast some_
  have written := tracked.written id _ (List.getLast_mem some_)
  have fresh : isStale i (s.redis.hashes (metaKey id)) = false := by
    have held : (s.redis.hashes (metaKey id)).get "instance_id" = some i := owner
    simp [isStale, held, Hash.ne_nil_of_get held]
  simp only [rowFor, rowOf, fresh, tracked.checkpoint id, last, Option.getD_some]
  simpa [written.1] using written.2

theorem due_execute {c : RedisCmd} (other : ∀ keys, c ≠ .hgetallEach keys) (s : Flushing) :
    (s.execute fromIsoformat t c).due = s.due := by
  show (s.note fromIsoformat t c).due = s.due
  cases c with
  | hgetallEach keys => exact absurd rfl (other keys)
  | sadd key member =>
      cases t with
      | create n =>
          simp only [note, noteIndexed]
          split
          · split <;> rfl
          · rfl
      | _ => rfl
  | _ => cases t <;> rfl

/-- After its read, a flush has all rows that it is to upsert. -/
theorem hasRead (tracked : s.Tracked fromIsoformat) (flusher : t.flusher = some i)
    {ids : List String}
    (listed : ∀ i, t = .shutdown i → s.closing i = true ∧ s.ForOwned i (· ∈ ids)) :
    HasRead fromIsoformat t (checkpointsToUpsert fromIsoformat i
        (ids.zip (pairs ((pipelineKeys ids).map s.redis.hashes))))
      (s.execute fromIsoformat t (.hgetallEach (pipelineKeys ids))) := by
  unfold execute
  rw [note_hgetallEach flusher]
  have due {id : String} : (s.noteRead fromIsoformat t i (pipelineKeys ids)).due t id =
      if id ∈ ids ∧ (s.rowFor fromIsoformat i id).isSome then some ((s.history id).length - 1)
      else none := by
    simp only [noteRead, Function.update_self, mem_pipelineKeys]
  refine ⟨⟨fun id row member => ?_, fun id k held => ?_⟩, ?_⟩
  · obtain ⟨there, found⟩ := mem_checkpointsToUpsert.mp member
    simp only at there found
    exact ⟨(s.history id).length - 1, by simp [due, there, found], rowFor_eq_some tracked found⟩
  · replace held : (s.noteRead fromIsoformat t i (pipelineKeys ids)).due t id = some k := held
    rw [due] at held
    split at held
    · rename_i read
      obtain ⟨row, found⟩ := Option.isSome_iff_exists.mp read.2
      exact List.mem_map.mpr ⟨(id, row), mem_checkpointsToUpsert.mpr ⟨read.1, found⟩, rfl⟩
    · cases held
  · rintro i' rfl
    cases flusher
    obtain ⟨closing, covered⟩ := listed i rfl
    refine ⟨closing, fun onTime kept id owner => ?_⟩
    refine (covered onTime kept id owner).imp_right fun member => ?_
    by_cases empty : s.history id = []
    · exact .inl empty
    · refine .inr ?_
      show (s.noteRead fromIsoformat (.shutdown i) i (pipelineKeys ids)).due (.shutdown i) id = _
      rw [due, if_pos ⟨member, rowFor_isSome tracked owner empty⟩]
      rfl

/-- The rows that were due are up to date after the upsert. -/
theorem HasRead.upserted (h : HasRead fromIsoformat t checkpoints s)
    (moved : Moved fromIsoformat t s (s.upsert t checkpoints)) :
    Flushed faulty t (s.upsert t checkpoints) := by
  refine ⟨fun _ id => by simp [upsert], fun i same => .inr ?_⟩
  obtain ⟨closing, covered⟩ := h.covers i same
  refine ⟨moved.onward.closing i closing, covered.onward moved.onward closing ?_⟩
  rintro id - - (empty | last)
  · exact .inl empty
  · refine .inr ?_
    simp only [upsert, if_pos (h.found.all id _ last), last]

/-- Nothing was due. -/
theorem HasRead.nothing (h : HasRead fromIsoformat t [] s) : Flushed faulty t s := by
  have none_due : ∀ id, s.due t id = none := by
    intro id
    cases held : s.due t id with
    | none => rfl
    | some k => simpa using h.found.all id k held
  refine ⟨fun _ => none_due, fun i same => .inr ?_⟩
  obtain ⟨closing, covered⟩ := h.covers i same
  refine ⟨closing, fun onTime kept id owner => (covered onTime kept id owner).imp_right ?_⟩
  rintro (empty | last)
  · exact .inl empty
  · rw [none_due id] at last
    cases last

theorem upsertCheckpoints_safe (h : HasRead fromIsoformat t checkpoints s) :
    Safe (flushMachine faulty fromIsoformat) (flushDiscipline faulty fromIsoformat) t
      (upsertCheckpoints checkpoints) (fun _ => Flushed faulty t) s := by
  unfold upsertCheckpoints
  split
  · rename_i nothing
    subst nothing
    exact h.nothing
  · refine Safe.job fun s₁ kept _ => ?_
    have h₁ := h.onward kept.1 kept.2.1
    refine ⟨.upsert h₁.found, fun turn r s₂ answered _ moved => ?_⟩
    rcases answer_upsert answered with ⟨rfl, rfl⟩ | ⟨fault, ⟨e, rfl⟩, rfl | rfl⟩
    · exact h₁.upserted moved
    · exact flushed_fail fault _
    · exact flushed_fail fault _

theorem dropStale_safe (h : HasRead fromIsoformat t checkpoints s) (ids : List String) :
    Safe (flushMachine faulty fromIsoformat) (flushDiscipline faulty fromIsoformat) t
      (CheckpointFlusher.dropStale i ids) (fun r s => match r with
        | .ok _ => HasRead fromIsoformat t checkpoints s
        | .error _ => Flushed faulty t s) s := by
  unfold CheckpointFlusher.dropStale
  split
  · exact h
  · refine Safe.job fun s₁ kept _ => ⟨.unindex i ids, fun turn r s₂ answered _ moved => ?_⟩
    have h₁ := h.onward kept.1 kept.2.1
    rcases answer_redis answered with ⟨rfl, rfl⟩ | ⟨fault, ⟨e, rfl⟩, rfl | rfl⟩
    · exact h₁.onward moved.onward (congrFun (due_execute (by simp) s₁) t)
    · exact flushed_fail fault _
    · exact flushed_fail fault _

theorem flushBatch_safe (flusher : t.flusher = some i) (rest : faulty = false → ∀ id, s.due t id = none) :
    Safe (flushMachine faulty fromIsoformat) (flushDiscipline faulty fromIsoformat) t
      (flushBatch fromIsoformat i) (fun _ => Flushed faulty t) s := by
  refine Safe.job fun s₁ kept hs₁ => ⟨.members flusher, fun turn r s₂ answered hs₂ _ => ?_⟩
  rcases answer_redis answered with ⟨rfl, rfl⟩ | ⟨fault, ⟨e, rfl⟩, rfl | rfl⟩
  rotate_left
  · exact flushed_fail fault _
  · exact flushed_fail fault _
  have rest₂ : faulty = false → ∀ id,
      (s₁.execute fromIsoformat t (.smembers (instanceKey i))).due t id = none := by
    intro fault id
    rw [due_execute (by simp), kept.2.1]
    exact rest fault id
  have listed : ∀ i', t = .shutdown i' →
      (s₁.execute fromIsoformat t (.smembers (instanceKey i))).closing i' = true ∧
      (s₁.execute fromIsoformat t (.smembers (instanceKey i))).ForOwned i'
        (· ∈ s₁.redis.sets (instanceKey i)) := by
    rintro i' rfl
    cases flusher
    exact ⟨Function.update_self _ _ _, listed_members hs₁.1⟩
  show Safe _ _ _ (if s₁.redis.sets (instanceKey i) = [] then Prog.ret () else _) _ _
  generalize s₁.redis.sets (instanceKey i) = ids at listed
  generalize s₁.execute fromIsoformat t (.smembers (instanceKey i)) = s₂ at hs₂ rest₂ listed
  split
  · rename_i nobody
    refine ⟨rest₂, fun i' same => .inr ?_⟩
    obtain ⟨closing, covered⟩ := listed i' same
    exact ⟨closing, fun onTime kept id owner => (covered onTime kept id owner).imp_right
      fun member => by simp [nobody] at member⟩
  refine Safe.job fun s₃ kept hs₃ => ⟨.read ids flusher fun fault id => ?_,
    fun turn r s₄ answered hs₄ _ => ?_⟩
  · rw [kept.2.1]
    exact rest₂ fault id
  rcases answer_redis answered with ⟨rfl, rfl⟩ | ⟨fault, ⟨e, rfl⟩, rfl | rfl⟩
  rotate_left
  · exact flushed_fail fault _
  · exact flushed_fail fault _
  have read : HasRead fromIsoformat t _ _ := hasRead hs₃.1 flusher fun i' same => by
    obtain ⟨closing, covered⟩ := listed i' same
    exact ⟨kept.1.closing i' closing, covered.onward kept.1 closing fun _ _ _ member => member⟩
  show Safe _ _ _ (CheckpointFlusher.dropStale i _ >>= fun _ => upsertCheckpoints
    (checkpointsToUpsert fromIsoformat i (ids.zip (pairs ((pipelineKeys ids).map s₃.redis.hashes))))) _ _
  exact Safe.bind hs₄ (dropStale_safe read _) (fun _ _ _ done => upsertCheckpoints_safe done)
    fun _ _ _ failed => failed

theorem flush_safe (hs : (flushDiscipline faulty fromIsoformat).inv s) (flusher : t.flusher = some i)
    (rest : faulty = false → ∀ id, s.due t id = none) :
    Safe (flushMachine faulty fromIsoformat) (flushDiscipline faulty fromIsoformat) t
      (flush fromIsoformat i) (fun _ => Flushed faulty t) s :=
  Safe.exceptException hs (flushBatch_safe flusher rest) (fun _ _ _ done => done)
    (fun _ _ _ _ done => done) fun _ _ _ _ done => done

theorem flushLoop_safe (flusher : t.flusher = some i) (rest : faulty = false → ∀ id, s.due t id = none) :
    Safe (flushMachine faulty fromIsoformat) (flushDiscipline faulty fromIsoformat) t
      (flushLoop fromIsoformat i) (fun _ s => faulty = false → ∀ id, s.due t id = none) s := by
  refine Safe.forever (fun s => faulty = false → ∀ id, s.due t id = none) rest
    (fun a b kept _ rest => by rw [kept.2.1]; exact rest) fun s _ rest => ?_
  refine Safe.job fun s₁ kept _ => ⟨.isRunning i, fun turn r s₂ answered hs₂ _ => ?_⟩
  obtain ⟨rfl, rfl⟩ := answer_isRunning answered
  have rest₂ : faulty = false → ∀ id, s₂.due t id = none := by
    rw [kept.2.1]
    exact rest
  show Safe _ _ _ (if s₂.running i then _ else Prog.ret (some ())) _ _
  split
  · refine Safe.bindE hs₂ (Safe.attempt (Q := fun _ s => faulty = false → ∀ id, s.due t id = none) ?_) ?_
    · refine Safe.job fun s₃ kept _ => ⟨.sleep, fun turn r s₄ answered hs₄ _ => ?_⟩
      rcases answer_sleep answered with ⟨rfl, rfl⟩ | ⟨fault, ⟨e, rfl⟩, rfl⟩
      · refine (flush_safe hs₄ flusher ?_).mono hs₄ fun _ _ _ done => done.due
        rw [kept.2.1]
        exact rest₂
      · exact (flushed_fail fault _).due
    · rintro (e | (e | _)) s₃ _ rest
      · exact rest
      · show Safe _ _ _ (if e.isInstance [.cancelledError] then Prog.ret (some ())
          else if e.isException then Prog.ret none else Prog.raise e) _ _
        split
        · exact rest
        · split <;> exact rest
      · exact rest
  · exact rest₂

/-- The final flush, and the end of the loop. -/
theorem shutdown_safe (hs : (flushDiscipline faulty fromIsoformat).inv s) (flusher : t.flusher = some i)
    (rest : faulty = false → ∀ id, s.due t id = none) :
    Safe (flushMachine faulty fromIsoformat) (flushDiscipline faulty fromIsoformat) t
      (shutdown fromIsoformat i) (fun _ => Flushed faulty t) s := by
  refine Safe.bind (P := fun _ => Flushed faulty t) hs ?_ (fun _ s₁ _ done => ?_) fun _ _ _ done => done
  · exact Safe.exceptException hs (flush_safe hs flusher rest) (fun _ _ _ done => done)
      (fun _ _ _ _ done => done) fun _ _ _ _ done => done
  refine Safe.job fun s₂ kept hs₂ => ⟨.setRunning i false, fun turn r s₃ answered hs₃ moved => ?_⟩
  obtain ⟨rfl, rfl⟩ := answer_setRunning answered
  have done₃ := (done.onward hs₂.1 kept.1 kept.2.1).onward hs₃.1 moved.onward rfl
  refine Safe.job fun s₄ kept hs₄ => ⟨.awaitLoop i, fun turn r s₅ answered _ _ => ?_⟩
  rcases answer_awaitLoop answered with ⟨rfl, rfl⟩ | ⟨fault, ⟨e, rfl⟩, rfl⟩
  · exact done₃.onward hs₄.1 kept.1 kept.2.1
  · exact flushed_fail fault _

end flushing

/-! ## All jobs -/

theorem AtRest.kept {a b : Flushing} (kept : (flushDiscipline faulty fromIsoformat).keeps t a b)
    (h : AtRest faulty t a) : AtRest faulty t b :=
  ⟨fun fault flusher id => by rw [kept.2.1]; exact h.due fault flusher id,
    fun n same => (kept.2.2.2 n same).trans (h.pending n same)⟩

/-- A job of a flusher is at rest once nothing is due. -/
theorem AtRest.of_flusher {i : String} (flusher : t.flusher = some i)
    (rest : faulty = false → ∀ id, s.due t id = none) : AtRest faulty t s := by
  refine ⟨fun fault _ => rest fault, fun n same => ?_⟩
  subst same
  cases flusher

/-- A job of the service, when it has no registration in flight. -/
theorem AtRest.of_service (other : t.flusher = none) (free : ∀ n, t = .create n → s.pending n = none) :
    AtRest faulty t s :=
  ⟨fun _ flusher => by simp [other] at flusher, free⟩

theorem Flushed.post {i : String} (flusher : t.flusher = some i) (h : Flushed faulty t s)
    (r : Except PyExc Unit) : flushPost faulty t r s :=
  ⟨.of_flusher flusher h.due, h.secured⟩

theorem flush_start {event : FlushEvent} {p : FlushProgram Unit} {s' : Flushing}
    (hs : (flushDiscipline faulty fromIsoformat).inv s) (rest : AtRest faulty t s)
    (started : (flushMachine faulty fromIsoformat).start t event s = some (p, s')) :
    (flushDiscipline faulty fromIsoformat).inv s' ∧
      (∀ u, u ≠ t → (flushDiscipline faulty fromIsoformat).keeps u s s') ∧
      Safe (flushMachine faulty fromIsoformat) (flushDiscipline faulty fromIsoformat) t p
        (flushPost faulty t) s' := by
  have begun {p : FlushProgram Unit} (safe : Safe (flushMachine faulty fromIsoformat)
      (flushDiscipline faulty fromIsoformat) t p (flushPost faulty t) s) :
      (flushDiscipline faulty fromIsoformat).inv s ∧
        (∀ u, u ≠ t → (flushDiscipline faulty fromIsoformat).keeps u s s) ∧
        Safe (flushMachine faulty fromIsoformat) (flushDiscipline faulty fromIsoformat) t p
          (flushPost faulty t) s :=
    ⟨hs, fun u _ => (flushDiscipline faulty fromIsoformat).keeps_refl u s, safe⟩
  have post {s : Flushing} (other : t.flusher = none)
      (free : ∀ n, t = .create n → s.pending n = none) (r : Except PyExc Unit) :
      flushPost faulty t r s := by
    refine ⟨.of_service other free, ?_⟩
    rintro i rfl
    cases other
  simp only [flushMachine, Flushing.start] at started
  split at started
  · split at started <;> cases started
    rename_i n _ _ _ given
    refine begun ((create_flushing hs given (rest.pending n rfl)).mono hs fun r s' _ left => ?_)
    refine post rfl (fun n' same => ?_) r
    cases same
    exact left
  · split at started <;> cases started
    rename_i same
    subst same
    exact begun ((save_safe _ hs).mono hs fun r _ _ _ => post rfl (by simp) r)
  · cases started
    exact begun ((Safe.anytime (updateStatus_anytime _ _ _)).mono hs fun r _ _ _ => post rfl (by simp) r)
  · cases started
    exact begun ((Safe.anytime (cleanup_anytime rfl)).mono hs fun r _ _ _ => post rfl (by simp) r)
  · cases started
    exact begun ((Safe.anytime (delete_anytime _)).mono hs fun r _ _ _ => post rfl (by simp) r)
  · cases started
    exact begun ((flush_safe hs rfl fun fault => rest.due fault rfl).mono hs
      fun r _ _ done => done.post rfl r)
  · split at started <;> cases started
    rename_i i _
    have hs' : (flushDiscipline faulty fromIsoformat).inv { s with
        running := Function.update s.running i true
        looping := Function.update s.looping i true } := ⟨{ hs.1 with }, hs.2⟩
    refine ⟨hs', fun u _ => ⟨{ Flushing.Onward.refl s with }, rfl, rfl, fun _ _ => rfl⟩, ?_⟩
    refine Safe.mono (flushLoop_safe rfl ?_) hs' fun r _ _ done => ⟨.of_flusher rfl done, by simp⟩
    exact fun fault => rest.due fault rfl
  · cases started
    exact begun ((shutdown_safe hs rfl fun fault => rest.due fault rfl).mono hs
      fun r _ _ done => done.post rfl r)
  · cases started

theorem flush_finish {r : Except PyExc Unit} (hs : (flushDiscipline faulty fromIsoformat).inv s)
    (left : flushPost faulty t r s) :
    (flushDiscipline faulty fromIsoformat).inv (Flushing.finish t r s) ∧
      (∀ u, u ≠ t → (flushDiscipline faulty fromIsoformat).keeps u s (Flushing.finish t r s)) ∧
      AtRest faulty t (Flushing.finish t r s) := by
  unfold Flushing.finish
  split
  · refine ⟨⟨{ hs.1 with }, hs.2⟩, fun u _ => ?_, ⟨left.1.due, left.1.pending⟩⟩
    exact ⟨{ Flushing.Onward.refl s with }, rfl, rfl, fun _ _ => rfl⟩
  · rename_i i _
    refine ⟨⟨{ hs.1 with }, fun i' completed => ?_⟩, fun u _ => ?_, ⟨left.1.due, left.1.pending⟩⟩
    · by_cases same : i' = i
      · subst same
        exact left.2 i' rfl
      · exact hs.2 i' (by simpa [Function.update_of_ne same] using completed)
    · exact ⟨{ Flushing.Onward.refl s with }, rfl, rfl, fun _ _ => rfl⟩
  · exact ⟨hs, fun u _ => (flushDiscipline faulty fromIsoformat).keeps_refl u s, left.1⟩

theorem flush_resting : Resting (flushMachine faulty fromIsoformat)
    (flushDiscipline faulty fromIsoformat) (flushPost faulty) (AtRest faulty) where
  post_stable t _ _ _ kept hs left := ⟨left.1.kept kept, fun i same =>
    (left.2 i same).onward hs.1 kept.1⟩
  rest_stable _ _ _ kept _ rest := rest.kept kept
  start _ _ _ _ _ := flush_start
  finish _ _ _ := flush_finish
  tick event s s' hs ticked := by
    cases event with
    | elapse n =>
        cases ticked
        have moved : Moved fromIsoformat (.create 0) s { s with redis := s.redis.elapse n } :=
          Moved.of_redis hs.1 (fun _ => rfl) (fun _ _ owner => owner) fun _ _ member => member
        exact ⟨(moved.disciplined hs).1, fun u => ⟨moved.onward, rfl, rfl, fun _ _ => rfl⟩⟩
    | _ => cases ticked

theorem flush_initial : Rested (flushMachine faulty fromIsoformat)
    (flushDiscipline faulty fromIsoformat) (flushPost faulty) (AtRest faulty) flushConfig := by
  refine ⟨Orderly.initial ⟨?_, fun i completed => by cases completed⟩, fun t _ => ?_⟩
  · exact {
      checkpoint := fun _ => rfl
      written := fun _ _ member => by cases member
      rows := fun _ => .inl ⟨rfl, rfl, rfl⟩
      readAt_le := fun _ => le_rfl
      wroteAt_le := fun _ => le_rfl
      due_lt := fun _ _ _ due => by cases due
      due_flusher := fun _ _ _ due => by cases due
      due_newer := fun _ _ _ _ due => by cases due
      due_older := fun _ _ _ _ due => by cases due
      due_ordered := fun _ _ _ _ _ due => by cases due
      listed := fun _ _ owner => by cases owner }
  · exact ⟨fun _ _ _ => rfl, fun _ _ => rfl⟩

end RedditKafka
