import RedditKafka.Registry.Identity

/-!
# Every call in its place

The programs of the registry issue only faithful commands, whatever the other
calls do in between, so stored identities and checkpoints are stable over every
run.
-/
namespace RedditKafka
open Async Redis StreamRegistry DeadStreamCleanup Registry

variable {retain faulty : Bool} {permits : Operation → Bool} {caller : Nat} {op : Operation}
  {s s' s₀ s₁ s₂ : Registry} {α β : Type}

/-- A program of a call that keeps the discipline; `P` holds of what it returns. -/
abbrev CallSafe (retain faulty : Bool) (permits : Operation → Bool) (caller : Nat) (op : Operation)
    (p : Program α) (P : α → Registry → Prop) (s : Registry) : Prop :=
  Safe (registryMachine faulty permits).inner (identityDiscipline retain).inner caller p
    (fun r s' => Running caller op s' ∧ Lasting retain s s' ∧ ∀ a, r = .ok a → P a s') s

namespace Registry.Running

theorem kept (h : Running caller op s) (kept : Keeps retain caller s s') : Running caller op s' :=
  ⟨kept.operation.trans h.operation, kept.returned.trans h.returned⟩

theorem execute (h : Running caller op s) (c : RedisCmd) : Running caller op (s.execute caller c) :=
  ⟨by simpa using h.operation, by simpa using h.returned⟩

end Registry.Running

namespace CallSafe

variable {p : Program α} {f : α → Program β} {P : α → Registry → Prop} {R : β → Registry → Prop}

theorem bind (hs : Consistent retain s) (first : CallSafe retain faulty permits caller op p P s)
    (rest : ∀ a s', Consistent retain s' → Running caller op s' → Lasting retain s s' → P a s' →
      CallSafe retain faulty permits caller op (f a) R s') :
    CallSafe retain faulty permits caller op (p >>= f) R s := by
  refine Safe.bind hs first (fun a s' hs' done => ?_) fun _ _ _ done =>
    ⟨done.1, done.2.1, fun _ same => by cases same⟩
  exact (rest a s' hs' done.1 done.2.1 (done.2.2 a rfl)).mono hs' fun _ _ _ later =>
    ⟨later.1, done.2.1.trans later.2.1, later.2.2⟩

theorem pure {a : α} (running : Running caller op s) (holds : P a s) :
    CallSafe retain faulty permits caller op (Pure.pure a) P s :=
  ⟨running, .refl s, fun _ same => by cases same; exact holds⟩

theorem raise {e : PyExc} (running : Running caller op s) :
    CallSafe retain faulty permits caller op (Prog.raise e) P s :=
  ⟨running, .refl s, fun _ same => by cases same⟩

theorem mono {P' : α → Registry → Prop} (hs : Consistent retain s)
    (h : CallSafe retain faulty permits caller op p P s)
    (imp : ∀ a s', Consistent retain s' → Lasting retain s s' → P a s' → P' a s') :
    CallSafe retain faulty permits caller op p P' s :=
  Safe.mono h hs fun _ s' hs' done =>
    ⟨done.1, done.2.1, fun a same => imp a s' hs' done.2.1 (done.2.2 a same)⟩

/-- One command: what the others have left, and then the command's own effect. -/
theorem redis {c : RedisCmd} (running : Running caller op s)
    (faithful : ∀ s₁, Consistent retain s₁ → Keeps retain caller s s₁ → Faithful retain s₁ caller c) :
    CallSafe retain faulty permits caller op (RedditKafka.redis c) (fun reply s₂ =>
      ∃ s₁, Consistent retain s₁ ∧ Keeps retain caller s s₁ ∧ (c.run s₁.redis).1 = .ok reply ∧
        s₂ = s₁.execute caller c) s := by
  intro s₁ kept hs₁
  have own := faithful s₁ hs₁ kept
  have running₁ := running.kept kept
  refine ⟨⟨⟨op, running₁⟩, fun c' same => by cases same; exact own,
    fun _ same => by cases same⟩, fun _ fate r s₂ answered => ?_⟩
  obtain ⟨hs₂, others⟩ := hs₁.execute own running₁
  have lasting := kept.toLasting.trans own.moves.lasting
  cases fate with
  | answered =>
      cases answered
      refine ⟨hs₂, others, ?_⟩
      cases reply : (c.run s₁.redis).1 with
      | ok a =>
          exact ⟨running₁.execute c, lasting, fun a' same => by
            cases same
            exact ⟨s₁, hs₁, kept, reply, rfl⟩⟩
      | error e => exact ⟨running₁.execute c, lasting, fun a' same => by cases same⟩
  | failed e =>
      simp only [Machine.inner, registryMachine, answer, Option.ite_none_right_eq_some] at answered
      obtain ⟨-, same⟩ := answered
      cases same
      exact ⟨hs₁, fun _ _ => Keeps.refl _, running₁, kept.toLasting, fun _ same => by cases same⟩
  | failedAfter e =>
      simp only [Machine.inner, registryMachine, answer, Option.ite_none_right_eq_some] at answered
      obtain ⟨-, same⟩ := answered
      cases same
      exact ⟨hs₂, others, running₁.execute c, lasting, fun _ same => by cases same⟩
  | named text => cases answered

theorem nowIso (running : Running caller op s) :
    CallSafe retain faulty permits caller op nowIso (fun text _ => text ≠ "") s := by
  intro s₁ kept hs₁
  have running₁ := running.kept kept
  refine ⟨⟨⟨op, running₁⟩, fun c' same => (by cases same), fun _ same => by cases same⟩,
    fun _ fate r s₂ answered => ?_⟩
  cases fate with
  | named text =>
      simp only [Machine.inner, registryMachine, answer, Option.ite_none_left_eq_some] at answered
      obtain ⟨nonempty, same⟩ := answered
      cases same
      exact ⟨hs₁, fun _ _ => Keeps.refl _, running₁, kept.toLasting, fun _ same => by
        cases same
        exact nonempty⟩
  | answered | failed | failedAfter => cases answered

theorem uuid4 (running : Running caller op s) {subreddit : String}
    (own : op.subreddit = some subreddit) :
    CallSafe retain faulty permits caller op (Prog.perform Effect.uuid4)
      (fun id s₂ => s₂.issued id = some subreddit) s := by
  intro s₁ kept hs₁
  have running₁ := running.kept kept
  refine ⟨⟨⟨op, running₁⟩, fun c' same => (by cases same), fun _ same => by cases same⟩,
    fun _ fate r s₂ answered => ?_⟩
  cases fate with
  | named id =>
      simp only [Machine.inner, registryMachine, answer, Option.ite_none_left_eq_some, not_or,
        running₁.operation, Option.bind_some, own, Option.getD_some] at answered
      obtain ⟨⟨named, fresh⟩, same⟩ := answered
      cases same
      obtain ⟨hs₂, keeps⟩ := hs₁.issue subreddit named (by simpa using fresh)
      exact ⟨hs₂, fun other _ => keeps other, running₁.kept (keeps caller),
        kept.toLasting.trans (keeps caller).toLasting, fun _ same => by cases same; simp⟩
  | answered | failed | failedAfter => cases answered

/-- `except Exception` around a program, with a handler that does nothing. -/
theorem suppress {p : Program Unit} {P : Unit → Registry → Prop} (hs : Consistent retain s)
    (body : CallSafe retain faulty permits caller op p P s) :
    CallSafe retain faulty permits caller op (exceptException p fun _ => Pure.pure ())
      (fun _ _ => True) s := by
  refine Safe.rescue hs body (fun a s' _ done => ⟨done.1, done.2.1, fun _ _ => trivial⟩)
    fun e s' _ done => ?_
  split
  · exact ⟨done.1, done.2.1, fun _ _ => trivial⟩
  · exact ⟨done.1, done.2.1, fun _ _ => trivial⟩

theorem persist (hs : Consistent retain s) (running : Running caller op s) :
    CallSafe retain faulty permits caller op persist (fun _ _ => True) s := by
  refine suppress (P := fun _ _ => True) hs fun s₁ kept hs₁ => ?_
  have running₁ := running.kept kept
  refine ⟨⟨⟨op, running₁⟩, fun c' same => (by cases same), fun _ same => by cases same⟩,
    fun _ fate r s₂ answered => ?_⟩
  cases fate with
  | answered =>
      cases answered
      exact ⟨hs₁, fun _ _ => Keeps.refl _, running₁, kept.toLasting, fun _ _ => trivial⟩
  | failed e =>
      simp only [Machine.inner, registryMachine, answer, Option.ite_none_right_eq_some] at answered
      obtain ⟨-, same⟩ := answered
      cases same
      exact ⟨hs₁, fun _ _ => Keeps.refl _, running₁, kept.toLasting, fun _ _ => trivial⟩
  | named | failedAfter => cases answered

theorem forEach {γ : Type} {body : γ → Program Unit} {items : List γ} (hs : Consistent retain s)
    (running : Running caller op s)
    (turn : ∀ b ∈ items, ∀ s', Consistent retain s' → Running caller op s' → Lasting retain s s' →
      CallSafe retain faulty permits caller op (body b) (fun _ _ => True) s') :
    CallSafe retain faulty permits caller op (Prog.forEach body items) (fun _ _ => True) s := by
  induction items generalizing s with
  | nil => exact pure running trivial
  | cons b items ih =>
      refine bind hs (turn b (by simp) s hs running (.refl s)) fun _ s' hs' running' lasting _ => ?_
      exact ih hs' running' fun x there s'' hs'' running'' later =>
        turn x (by simp [there]) s'' hs'' running'' (lasting.trans later)

end CallSafe

section programs

variable {subreddit config streamId : String} {instanceId : Option String}

/-- The creator that holds the claim registers under the id of its subreddit. -/
theorem register_safe (hs : Consistent retain s) (running : Running caller op s)
    (settled : s.Settled retain subreddit streamId) :
    CallSafe retain faulty permits caller op (register streamId subreddit config instanceId)
      (fun data s' => data.get "id" = some streamId ∧ s'.Settled retain subreddit streamId) s := by
  refine CallSafe.bind hs (.nowIso running) fun createdAt s₁ hs₁ running₁ lasting₁ _ => ?_
  refine CallSafe.bind hs₁ (.nowIso running₁) fun updatedAt s₂ hs₂ running₂ lasting₂ nonempty => ?_
  have settled₂ := (lasting₁.trans lasting₂).settled settled
  refine CallSafe.bind hs₂ (.redis running₂ fun s _ kept =>
    .metadata _ _ _ _ _ _ (kept.settled settled₂) nonempty) fun _ s₃ hs₃ running₃ lasting₃ _ => ?_
  refine CallSafe.bind hs₃ (.redis running₃ fun _ _ _ => .list _ _)
    fun _ s₄ hs₄ running₄ lasting₄ _ => ?_
  have index : CallSafe retain faulty permits caller op (indexInstance instanceId streamId)
      (fun _ _ => True) s₄ := by
    unfold indexInstance
    split
    · exact .pure running₄ trivial
    · exact (CallSafe.redis running₄ fun _ _ _ => .list _ _).mono hs₄ fun _ _ _ _ _ => trivial
  refine CallSafe.bind hs₄ index fun _ s₅ hs₅ running₅ lasting₅ _ => ?_
  refine CallSafe.bind hs₅ (.persist hs₅ running₅) fun _ s₆ hs₆ running₆ lasting₆ _ => ?_
  exact .pure running₆ ⟨rfl, (lasting₃.trans (lasting₄.trans (lasting₅.trans lasting₆))).settled settled₂⟩

theorem claim_safe (hs : Consistent retain s) (running : Running caller op s)
    (settled : s.Settled retain subreddit streamId) :
    CallSafe retain faulty permits caller op (StreamRegistry.claim streamId subreddit config instanceId)
      (fun data s' => data.get "id" = some streamId ∧ s'.Settled retain subreddit streamId) s := by
  refine CallSafe.bind hs (.redis running fun s' _ kept => .claim _ _ (kept.settled settled))
    fun claimed s₁ hs₁ running₁ lasting₁ _ => ?_
  split
  · exact register_safe hs₁ running₁ (lasting₁.settled settled)
  · exact CallSafe.bind hs₁ (.redis running₁ fun _ _ _ => .get _)
      fun _ s₂ _ running₂ _ _ => .raise running₂

/-- The identity that is found, or made, is settled. -/
theorem resolveIdentity_safe (hs : Consistent retain s) (running : Running caller op s)
    (issued : s.issued streamId = some subreddit) (free : retain = true → s.Free subreddit) :
    CallSafe retain faulty permits caller op (resolveIdentity subreddit streamId)
      (fun found s' => ∀ id, found = some id → s'.Settled retain subreddit id) s := by
  refine CallSafe.bind hs (.redis running fun s' _ kept => .identity _ _ (kept.issued _ _ issued)
    fun retained => .inr (kept.free retained _ (free retained)))
    fun created s₂ hs₂ running₂ lasting ⟨s₁, _, _, ran, same⟩ => ?_
  split
  · rename_i made
    subst made
    refine .pure running₂ fun id named => ?_
    cases named
    refine ⟨lasting.issued _ _ issued, fun _ => ?_⟩
    rcases setNx_cases (identityKey subreddit) streamId s₁.redis with ⟨-, found⟩ | ⟨-, found⟩
    · rw [found] at ran
      cases ran
    · rw [same, identity, execute_redis, found, Store.get_set, if_pos rfl]
  · refine (CallSafe.redis running₂ fun _ _ _ => .get _).mono hs₂ ?_
    rintro found s₄ hs₄ _ ⟨s₃, -, -, ran, rfl⟩ id named
    have held : s₃.identity subreddit = some id := (Except.ok.inj ran).trans named
    exact ⟨hs₄.identities _ _ held, fun _ => held⟩

theorem createStream_safe (hs : Consistent retain s) (running : Running caller op s)
    (own : op.subreddit = some subreddit) :
    CallSafe retain faulty permits caller op (createStream subreddit config instanceId)
      (fun data s' => ∃ streamId, data.get "id" = some streamId ∧
        s'.Settled retain subreddit streamId) s := by
  refine CallSafe.bind hs (.redis running fun _ _ _ => .get _) ?_
  rintro existing s₁ hs₁ running₁ - ⟨s₀, hs₀, -, ran, rfl⟩
  have read : existing = s₀.claim subreddit := (Except.ok.inj ran).symm
  split
  · rename_i id found
    have held := (orNone_eq_some.mp found).1
    rw [read] at held
    refine CallSafe.bind hs₁ (.redis running₁ fun s _ kept => .identity _ _
      (kept.issued _ _ (hs₀.claims _ _ held)) fun retained =>
        .inl (kept.bound retained _ _ (hs₀.claimsBound retained _ _ held)))
      fun _ _ _ running₂ _ _ => .raise running₂
  · rename_i found
    have unclaimed : s₀.claim subreddit = none := by
      rw [read] at found
      rcases orNone_eq_none.mp found with free | blank
      · exact free
      · have issued := hs₀.claims _ _ blank
        rw [hs₀.blank] at issued
        cases issued
    have free : Free (s₀.execute caller (.get (subredditKey subreddit))) subreddit := .inr unclaimed
    refine CallSafe.bind hs₁ (.uuid4 running₁ own) fun candidate s₂ hs₂ running₂ lasting₂ issued => ?_
    refine CallSafe.bind hs₂ (resolveIdentity_safe hs₂ running₂ issued fun retained =>
      lasting₂.free retained _ free) fun found s₃ hs₃ running₃ _ settled => ?_
    split
    · rename_i id resolved
      exact (claim_safe hs₃ running₃ (settled _ (orNone_eq_some.mp resolved).1)).mono hs₃
        fun _ _ _ _ registered => ⟨id, registered⟩
    · exact .raise running₃

theorem getStream_safe (hs : Consistent retain s) (running : Running caller op s) :
    CallSafe retain faulty permits caller op (getStream streamId) (fun _ _ => True) s := by
  refine CallSafe.bind hs (.redis running fun _ _ _ => .hgetall _) fun data s₁ _ running₁ _ _ => ?_
  split
  · exact .raise running₁
  · exact .pure running₁ trivial

theorem getStreamBySubreddit_safe (hs : Consistent retain s) (running : Running caller op s) :
    CallSafe retain faulty permits caller op (getStreamBySubreddit subreddit) (fun _ _ => True) s := by
  refine CallSafe.bind hs (.redis running fun _ _ _ => .get _) fun id s₁ hs₁ running₁ _ _ => ?_
  split
  · exact CallSafe.bind hs₁ (getStream_safe hs₁ running₁) fun _ _ _ running₂ _ _ =>
      .pure running₂ trivial
  · exact .pure running₁ trivial

/-- The rows that are returned have been scanned. -/
theorem listStreams_safe (hs : Consistent retain s) (running : Running caller op s) :
    CallSafe retain faulty permits caller op listStreams
      (fun rows s' => ∀ row ∈ rows, row ∈ s'.scanned caller) s := by
  refine CallSafe.bind hs (.redis running fun _ _ _ => .smembers _) fun ids s₁ hs₁ running₁ _ _ => ?_
  split
  · exact .pure running₁ fun row h => by cases h
  refine CallSafe.bind hs₁ (.redis running₁ fun _ _ _ => .scan ids) ?_
  rintro rows s₂ hs₂ running₂ - ⟨s, -, -, ran, rfl⟩
  cases ran
  have stale : CallSafe retain faulty permits caller op
      (dropStale (((ids.zip ((ids.map metaKey).map s.redis.hashes)).filter
        fun row => row.2 = []).map Prod.fst)) (fun _ _ => True)
      (s.execute caller (.hgetallEach (ids.map metaKey))) := by
    unfold dropStale
    split
    · exact .pure running₂ trivial
    · exact (CallSafe.redis running₂ fun _ _ _ => .unlist _ _).mono hs₂ fun _ _ _ _ _ => trivial
  refine CallSafe.bind hs₂ stale fun _ s₃ hs₃ running₃ lasting _ => .pure running₃ fun row there => ?_
  refine lasting.scanned _ _ ?_
  simp only [execute, note, Function.update_self]
  exact List.mem_append_right _ (List.mem_filter.mp there).1

theorem updateStatus_safe {status : String} (hs : Consistent retain s) (running : Running caller op s) :
    CallSafe retain faulty permits caller op (updateStatus streamId status instanceId)
      (fun _ _ => True) s := by
  refine CallSafe.bind hs (.nowIso running) fun updatedAt s₁ hs₁ running₁ _ nonempty => ?_
  refine CallSafe.bind hs₁ (.redis running₁ fun _ _ _ => .status _ _ _ _ nonempty)
    fun _ s₂ hs₂ running₂ _ _ => ?_
  cases instanceId with
  | none => exact .persist hs₂ running₂
  | some instanceId =>
      exact CallSafe.bind hs₂ (.redis running₂ fun _ _ _ => .list _ _)
        fun _ s₃ hs₃ running₃ _ _ => .persist hs₃ running₃

theorem heartbeat_safe {instanceId : String} (hs : Consistent retain s) (running : Running caller op s) :
    CallSafe retain faulty permits caller op (heartbeat streamId instanceId) (fun _ _ => True) s := by
  refine CallSafe.bind hs (.nowIso running) fun now s₁ hs₁ running₁ _ nonempty => ?_
  exact (CallSafe.redis running₁ fun _ _ _ => .heartbeat _ _ _ nonempty).mono hs₁
    fun _ _ _ _ _ => trivial

theorem requestStop_safe (hs : Consistent retain s) (running : Running caller op s) :
    CallSafe retain faulty permits caller op (requestStop streamId) (fun _ _ => True) s := by
  refine CallSafe.bind hs (getStream_safe hs running) fun data s₁ hs₁ running₁ _ _ => ?_
  refine CallSafe.bind hs₁ (.nowIso running₁) fun now s₂ hs₂ running₂ _ _ => ?_
  exact CallSafe.bind hs₂ (.redis running₂ fun _ _ _ => .stopRequest _ _)
    fun _ s₃ hs₃ running₃ _ _ => updateStatus_safe hs₃ running₃

/-- A deletion under the id that stored metadata names; one that returns `False` had no effect. -/
theorem deleteStream_safe {expectedStatus expectedUpdatedAt : Option String} {purge : Bool}
    (hs : Consistent retain s) (running : Running caller op s) (kind : retain = true → purge = false)
    (vouched : ∀ s', Lasting retain s s' → Running caller op s' →
      s'.Vouched caller streamId (expectedStatus.getD "") (expectedUpdatedAt.getD "")
        (if purge then "1" else "0")) :
    CallSafe retain faulty permits caller op
      (deleteStream streamId expectedStatus expectedUpdatedAt purge)
      (fun deleted s' => deleted = false → s'.touched caller = s.touched caller) s := by
  refine CallSafe.bind hs (.redis running fun _ _ _ => .hgetall _) ?_
  rintro data s₁ hs₁ running₁ lasting₁ ⟨s₀, hs₀, kept₀, ran, rfl⟩
  cases ran
  have untouched : (s₀.execute caller (.hgetall (metaKey streamId))).touched caller =
      s.touched caller := by
    simp [execute, RedisCmd.takesEffect, kept₀.touched]
  split
  · exact .pure running₁ fun _ => untouched
  rename_i subreddit named
  have held := (orNone_eq_some.mp named).1
  have issued := hs₀.metadata _ _ held
  have read : Lasting retain s₀ (s₀.execute caller (.hgetall (metaKey streamId))) :=
    (Faithful.hgetall _).moves.lasting
  refine CallSafe.bind hs₁ (.redis running₁ fun s₂ _ kept => ?_) ?_
  · have later := read.trans kept.toLasting
    refine .delete _ _ _ _ _ (later.issued _ _ issued) (fun retained => ⟨later.bound retained _ _
      (hs₀.metadataBound retained _ _ held), ?_⟩) (vouched _ (lasting₁.trans kept.toLasting)
        (running₁.kept kept))
    simp [kind retained]
  rintro deleted s₃ hs₃ running₃ - ⟨s₂, -, kept₂, ran, rfl⟩
  have same : (RedisCmd.takesEffect (.eval (deleteScript streamId subreddit (expectedStatus.getD "")
      (expectedUpdatedAt.getD "") (if purge then "1" else "0"))) s₂.redis) = deleted :=
    Except.ok.inj ran
  cases deleted with
  | false =>
      refine CallSafe.bind hs₃ (.pure (P := fun _ s' => s'.touched caller = s.touched caller)
        running₃ ?_) fun _ s₄ hs₄ running₄ _ kept => .pure running₄ fun _ => kept
      simp only [execute, Function.update_self, same, Bool.or_false]
      exact kept₂.touched.trans untouched
  | true =>
      have drop : CallSafe retain faulty permits caller op
          (dropInstance true ((s₀.metadata streamId).get "instance_id") streamId) (fun _ _ => True)
          (s₂.execute caller (.eval (deleteScript streamId subreddit (expectedStatus.getD "")
            (expectedUpdatedAt.getD "") (if purge then "1" else "0")))) := by
        unfold dropInstance
        split
        · exact (CallSafe.redis running₃ fun _ _ _ => .unlist _ _).mono hs₃ fun _ _ _ _ _ => trivial
        · exact .pure running₃ trivial
      exact CallSafe.bind hs₃ drop fun _ s₄ _ running₄ _ _ => .pure running₄ fun h => by cases h

theorem setCheckpoint_safe {lastCommentId lastProcessedAt : Option String} (hs : Consistent retain s)
    (running : Running caller (.setCheckpoint streamId lastCommentId lastProcessedAt) s) :
    CallSafe retain faulty permits caller (.setCheckpoint streamId lastCommentId lastProcessedAt)
      (setCheckpoint streamId lastCommentId lastProcessedAt) (fun _ _ => True) s := by
  unfold setCheckpoint
  split
  · exact .pure running trivial
  · refine CallSafe.bind hs (.nowIso running) fun now s₁ hs₁ running₁ _ _ => ?_
    exact (CallSafe.redis running₁ fun _ _ kept => .checkpoint _ _ _ _
      (running₁.kept kept).operation).mono hs₁ fun _ _ _ _ _ => trivial

/-- What is read is what `set_checkpoint` has written. -/
theorem getCheckpoint_safe (hs : Consistent retain s) (running : Running caller (.getCheckpoint streamId) s) :
    CallSafe retain faulty permits caller (.getCheckpoint streamId) (getCheckpoint streamId)
      (fun checkpoint s' => retain = true → checkpoint = ⟨(s'.resumed caller).get "last_comment_id",
        (s'.resumed caller).get "last_processed_at", (s'.resumed caller).get "updated_at"⟩) s := by
  refine CallSafe.bind hs (.redis running fun _ _ _ => .hgetall _) ?_
  rintro data s₁ hs₁ running₁ - ⟨s₀, hs₀, kept, ran, rfl⟩
  cases ran
  refine .pure running₁ fun retained => ?_
  have own : (s₀.execute caller (.hgetall (checkpointKey streamId))).resumed caller =
      s₀.progress streamId := by
    simp [execute, note, (running.kept kept).operation]
  rw [own, ← hs₀.progress retained streamId]

/-- The sweep vouches for each deletion by a row that it has scanned. -/
theorem cleanup_safe (hs : Consistent retain s) (running : Running caller .cleanup s) :
    CallSafe retain faulty permits caller .cleanup cleanup (fun _ _ => True) s := by
  refine CallSafe.suppress (P := fun _ _ => True) hs ?_
  refine CallSafe.bind hs (listStreams_safe hs running) fun rows s₁ hs₁ running₁ _ scanned => ?_
  refine CallSafe.forEach hs₁ running₁ fun row there s₂ hs₂ running₂ lasting => ?_
  unfold retire
  split
  · rename_i streamId dead named
    refine CallSafe.suppress (P := fun _ _ => True) hs₂ ?_
    refine CallSafe.bind hs₂ (deleteStream_safe hs₂ running₂ (fun _ => rfl) fun s₃ later _ _ => ?_)
      fun _ _ _ running₃ _ _ => .pure running₃ trivial
    exact ⟨by decide, row, later.scanned _ _ (lasting.scanned _ _ (scanned row there)),
      (orNone_eq_some.mp named).1, dead, rfl, rfl⟩
  · exact .pure running₂ trivial

end programs

/-- Only a result that is returned says anything. -/
theorem Registry.Honest.error (e : PyExc) : s.Honest retain caller (.error e) := by
  unfold Honest
  split
  · exact fun _ same => by cases same
  · exact fun _ _ same => by cases same
  · exact fun same => by cases same
  · trivial

/-- The operations whose results are spoken about. -/
def Operation.speaks : Operation → Bool
  | createStream _ _ _ | deleteStream _ _ _ _ | getCheckpoint _ => true
  | _ => false

theorem Registry.Running.honest (running : Running caller op s) (silent : op.speaks = false)
    (outcome : Except PyExc Reply) : s.Honest retain caller outcome := by
  unfold Honest
  rw [running.operation]
  cases op with
  | createStream | deleteStream | getCheckpoint => cases silent
  | _ => trivial

/-- Each operation returns an honest result. -/
theorem Operation.call_safe (hs : Consistent retain s) (running : Running caller op s)
    (fresh : s.touched caller = false) (kind : retain = true → op.purges = false) :
    CallSafe retain faulty permits caller op op.call
      (fun reply s' => s'.Honest retain caller (.ok reply)) s := by
  have silent {α : Type} {p : Program α} {f : α → Reply} {P : α → Registry → Prop}
      (quiet : op.speaks = false) (safe : CallSafe retain faulty permits caller op p P s) :
      CallSafe retain faulty permits caller op (p >>= fun a => Pure.pure (f a))
        (fun reply s' => s'.Honest retain caller (.ok reply)) s :=
    CallSafe.bind hs safe fun _ _ _ running' _ _ => .pure running' (running'.honest quiet _)
  cases op with
  | createStream subreddit config instanceId =>
      refine CallSafe.bind hs (createStream_safe hs running rfl) fun data s' _ running' _ made => ?_
      refine .pure running' ?_
      unfold Honest
      rw [running'.operation]
      exact fun _ same => by cases same; exact made
  | deleteStream streamId status time purge =>
      refine CallSafe.bind hs (deleteStream_safe hs running kind fun s' _ running' => ?_)
        fun deleted s' _ running' _ kept => .pure running' ?_
      · exact fun sweeping => by rw [running'.operation] at sweeping; cases sweeping
      · unfold Honest
        rw [running'.operation]
        exact fun same => by cases same; exact (kept rfl).trans fresh
  | getCheckpoint streamId =>
      refine CallSafe.bind hs (getCheckpoint_safe hs running) fun checkpoint s' _ running' _ read =>
        .pure running' ?_
      unfold Honest
      rw [running'.operation]
      exact fun retained _ same => by cases same; exact read retained
  | getStream => exact silent rfl (getStream_safe hs running)
  | getStreamBySubreddit =>
      refine CallSafe.bind hs (getStreamBySubreddit_safe hs running) fun data _ _ running' _ _ => ?_
      cases data <;> exact .pure running' (running'.honest rfl _)
  | listStreams => exact silent rfl (listStreams_safe hs running)
  | updateStatus => exact silent rfl (updateStatus_safe hs running)
  | heartbeat => exact silent rfl (heartbeat_safe hs running)
  | requestStop => exact silent rfl (requestStop_safe hs running)
  | isStopRequested => exact silent rfl (CallSafe.redis running fun _ _ _ => .keyExists _)
  | setCheckpoint => exact silent rfl (setCheckpoint_safe hs running)
  | cleanup => exact silent rfl (cleanup_safe hs running)
  | acquireLock | refreshLock | releaseLock | isLocked | getLockHolder =>
      exact .pure running (running.honest rfl _)

theorem LegacyStore.consistent {r : Store} (legacy : LegacyStore r) :
    Consistent retain (Registry.initial r) := by
  have metadata (id name : String)
      (held : ((Registry.initial r).metadata id).get "subreddit" = some name) :
      LegacyStream r name id := by
    obtain ⟨name', stream⟩ := legacy.metadata id (Hash.ne_nil_of_get held)
    obtain ⟨_, _, _, _, _, -, -, same, -⟩ := stream.metadata
    rw [Registry.metadata, Registry.initial, same] at held
    cases held
    exact stream
  have issued (name id : String) (stream : LegacyStream r name id) :
      (Registry.initial r).issued id = some name := by
    obtain ⟨_, _, _, _, _, -, -, same, -⟩ := stream.metadata
    exact same
  constructor
  · exact fun _ _ => ⟨rfl, rfl⟩
  · by_contra held
    obtain ⟨name, same⟩ := Option.ne_none_iff_exists'.mp held
    exact (metadata _ _ same).named rfl
  · intro name id held
    rw [Registry.identity, Registry.initial, legacy.identities] at held
    cases held
  · exact fun name id held => issued _ _ (legacy.claims name id held)
  · exact fun id name held => held
  · intro id time held
    obtain ⟨name, stream⟩ := legacy.metadata id (Hash.ne_nil_of_get held)
    obtain ⟨_, _, _, _, _, nonempty, -, -, -, -, -, -, same⟩ := stream.metadata
    rw [Registry.metadata, Registry.initial, same] at held
    cases held
    exact nonempty
  · exact fun _ _ h => by cases h
  · exact fun _ name id held => .inr ⟨legacy.identities name, held⟩
  · exact fun _ id name held => .inr ⟨legacy.identities name, (metadata id name held).claim⟩
  · exact fun _ _ => rfl
  · exact fun _ _ h => by cases h

theorem registry_sound (kind : ∀ op, permits op = true → retain = true → op.purges = false) :
    Sound (registryMachine faulty permits) (identityDiscipline retain) fun _ _ _ => True where
  post_stable _ _ _ _ _ _ _ := trivial
  start caller op s p s' hs started := by
    simp only [registryMachine, Option.ite_none_right_eq_some] at started
    obtain ⟨⟨permitted, free⟩, same⟩ := started
    cases same
    obtain ⟨hs', others⟩ := hs.begin op free
    refine ⟨hs', others, Safe.reported hs' (op.call_safe hs' ⟨by simp, (hs.idle caller free).1⟩
      (hs.idle caller free).2 (kind op permitted)) ?_⟩
    rintro r s₁ hs₁ ⟨running, -, honest⟩ s₂ kept hs₂
    have running₂ := running.kept kept
    have honest₂ : s₂.Honest retain caller r := by
      cases r with
      | ok reply => exact kept.honest (honest reply rfl)
      | error e => exact .error e
    refine ⟨⟨⟨op, running₂⟩, fun _ same => (by cases same), fun _ same => by cases same; exact honest₂⟩,
      fun _ fate r' s₃ answered => ?_⟩
    cases fate with
    | answered =>
        cases answered
        obtain ⟨hs₃, others₃⟩ := hs₂.report running₂ honest₂
        exact ⟨hs₃, others₃, trivial⟩
    | named | failed | failedAfter => cases answered
  finish _ _ _ hs _ := ⟨hs, fun _ _ => Keeps.refl _⟩
  tick _ _ _ _ ticked := by cases ticked

section runs

variable {c d : Config CallEffect CallEffect.Answer PyExc Registry Nat} {r : Store}

theorem registry_orderly (retain : Bool) (kind : ∀ op, permits op = true → retain = true → op.purges = false)
    (legacy : LegacyStore r)
    (reached : (registryMachine faulty permits).Reaches (Config.initial (Registry.initial r)) c) :
    Orderly (registryMachine faulty permits) (identityDiscipline retain) (fun _ _ _ => True) c :=
  (registry_sound kind).reaches (Orderly.initial legacy.consistent) reached

/-- A step executes one command of its caller, or leaves the stored data alone. -/
theorem registry_step {a : Action Nat Fate Operation} (moved : (registryMachine faulty permits).next a c = some d) :
    (∃ caller fate cmd, a = .call caller fate ∧ c.Awaits caller (.inner (.redis cmd)) ∧
      d.state = c.state.execute caller cmd) ∨
      d.state.redis = c.state.redis ∧ d.state.progress = c.state.progress ∧
        d.state.removed = c.state.removed := by
  cases a with
  | call caller fate =>
      obtain ⟨e, k, r, s, waits, answered, rfl⟩ := Machine.next_call moved
      rcases answer_effect answered with rfl | ⟨cmd, rfl, rfl⟩ | ⟨id, -, -, rfl⟩ | ⟨outcome, -, rfl⟩
      · exact .inr ⟨rfl, rfl, rfl⟩
      · exact .inl ⟨caller, fate, cmd, rfl, ⟨k, waits⟩, rfl⟩
      · exact .inr ⟨rfl, rfl, rfl⟩
      · exact .inr ⟨rfl, rfl, rfl⟩
  | unroll caller =>
      obtain ⟨β, body, k, -, rfl⟩ := Machine.next_unroll moved
      exact .inr ⟨rfl, rfl, rfl⟩
  | finish caller =>
      obtain ⟨r, -, rfl⟩ := Machine.next_finish moved
      exact .inr ⟨rfl, rfl, rfl⟩
  | start caller op =>
      obtain ⟨p, s, -, started, rfl⟩ := Machine.next_start moved
      simp only [registryMachine, Option.ite_none_right_eq_some] at started
      obtain ⟨-, same⟩ := started
      cases same
      exact .inr ⟨rfl, rfl, rfl⟩
  | tick event =>
      obtain ⟨s, ticked, -⟩ := Machine.next_tick moved
      cases ticked

/-- Only a `set_checkpoint` of the stream id is recorded as its progress. -/
theorem note_progress {cmd : RedisCmd} {caller : Nat} {streamId : String}
    (changed : (s.execute caller cmd).progress streamId ≠ s.progress streamId) :
    ∃ lastCommentId lastProcessedAt,
      s.operation caller = some (.setCheckpoint streamId lastCommentId lastProcessedAt) := by
  simp only [execute, note] at changed
  split at changed
  · split at changed <;> exact absurd rfl changed
  · split at changed
    · rename_i id comment time started
      split at changed
      · by_cases own : streamId = id
        · exact own ▸ ⟨_, _, started⟩
        · exact absurd (by simp [own]) changed
      · exact absurd rfl changed
    · exact absurd rfl changed
  · split at changed <;> exact absurd rfl changed
  · exact absurd rfl changed
  · split at changed <;> exact absurd rfl changed
  · exact absurd rfl changed

end runs
end RedditKafka
