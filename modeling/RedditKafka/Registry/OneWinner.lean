import Mathlib.Data.Finset.Card
import RedditKafka.Registry.Races

/-!
# One winner per registration

Of any number of creators that race for an unclaimed subreddit exactly one
returns metadata, and the stored registration is the one it has asked for.
-/
namespace RedditKafka
open Async Redis StreamRegistry Registry

/-- The race as a discipline: what the callers issue, and what they report. -/
def raceDiscipline (deleting : Bool) (subreddit : String) : Discipline CallEffect Registry Nat where
  inv := Fair deleting subreddit
  keeps := Leaves deleting subreddit
  keeps_refl _ := .refl
  keeps_trans _ _ _ _ := .trans
  ok _ _ _ := True
  pledge caller e s := (∃ op, Running caller op s) ∧
    (∀ c, e = .inner (.redis c) → Races deleting subreddit s caller c) ∧
    ∀ outcome, e = .outer outcome → Verdict deleting s caller outcome

variable {deleting : Bool} {subreddit : String} {caller : Nat} {op : Operation}
  {s s' s₁ s₂ : Registry} {α β : Type}

/-- A program of the race: `P` holds of what it returns, and `F` of what it raises. -/
abbrev RaceSafe (deleting : Bool) (subreddit : String) (caller : Nat) (op : Operation)
    (p : Program α) (P : α → Registry → Prop) (F : PyExc → Registry → Prop) (s : Registry) : Prop :=
  Safe (registryMachine false (races deleting subreddit)).inner
    (raceDiscipline deleting subreddit).inner caller p
    (fun r s' => Running caller op s' ∧ match r with
      | .ok a => P a s'
      | .error e => F e s') s

/-- Programs that cannot fail here. -/
abbrev Never : PyExc → Registry → Prop := fun _ _ => False

namespace RaceSafe

variable {p : Program α} {f : α → Program β} {P : α → Registry → Prop} {R : β → Registry → Prop}
  {F : PyExc → Registry → Prop}

theorem bind (hs : Fair deleting subreddit s) (first : RaceSafe deleting subreddit caller op p P Never s)
    (rest : ∀ a s', Fair deleting subreddit s' → Running caller op s' → P a s' →
      RaceSafe deleting subreddit caller op (f a) R F s') :
    RaceSafe deleting subreddit caller op (p >>= f) R F s :=
  Safe.bind hs first (fun a s' hs' done => rest a s' hs' done.1 done.2) fun _ _ _ done => done.2.elim

theorem pure {a : α} (running : Running caller op s) (holds : P a s) :
    RaceSafe deleting subreddit caller op (Pure.pure a) P F s := ⟨running, holds⟩

theorem raise {e : PyExc} (running : Running caller op s) (holds : F e s) :
    RaceSafe deleting subreddit caller op (Prog.raise e) P F s := ⟨running, holds⟩

theorem mono {P' : α → Registry → Prop} (hs : Fair deleting subreddit s)
    (h : RaceSafe deleting subreddit caller op p P Never s)
    (imp : ∀ a s', Fair deleting subreddit s' → P a s' → P' a s') :
    RaceSafe deleting subreddit caller op p P' F s := by
  refine Safe.mono h hs fun r s' hs' done => ?_
  cases r with
  | ok a => exact ⟨done.1, imp a s' hs' done.2⟩
  | error e => exact done.2.elim

/-- One command, on a Redis that does not fail. -/
theorem redis {c : RedisCmd} (works : ∀ r, ∃ reply, (c.run r).1 = .ok reply)
    (running : Running caller op s)
    (races : ∀ s₁, Fair deleting subreddit s₁ → Leaves deleting subreddit caller s s₁ →
      Races deleting subreddit s₁ caller c) :
    RaceSafe deleting subreddit caller op (RedditKafka.redis c) (fun reply s₂ =>
      ∃ s₁, Fair deleting subreddit s₁ ∧ Leaves deleting subreddit caller s s₁ ∧
        (c.run s₁.redis).1 = .ok reply ∧ s₂ = s₁.execute caller c) Never s := by
  intro s₁ kept hs₁
  have own := races s₁ hs₁ kept
  have running₁ := kept.running running
  refine ⟨⟨⟨op, running₁⟩, fun c' same => by cases same; exact own, fun _ same => by cases same⟩,
    fun _ fate r s₂ answered => ?_⟩
  cases fate with
  | answered =>
      cases answered
      obtain ⟨hs₂, others⟩ := Races.step hs₁ running₁ own
      refine ⟨hs₂, others, ?_⟩
      obtain ⟨reply, ran⟩ := works s₁.redis
      rw [ran]
      exact ⟨⟨by simpa using running₁.operation, by simpa using running₁.returned⟩,
        s₁, hs₁, kept, ran, rfl⟩
  | named | failed | failedAfter => cases answered

theorem nowIso (running : Running caller op s) :
    RaceSafe deleting subreddit caller op nowIso
      (fun _ s₂ => Leaves deleting subreddit caller s s₂) Never s := by
  intro s₁ kept hs₁
  have running₁ := kept.running running
  refine ⟨⟨⟨op, running₁⟩, fun c' same => (by cases same), fun _ same => by cases same⟩,
    fun _ fate r s₂ answered => ?_⟩
  cases fate with
  | named text =>
      simp only [Machine.inner, registryMachine, answer, Option.ite_none_left_eq_some] at answered
      obtain ⟨-, same⟩ := answered
      cases same
      exact ⟨hs₁, fun _ _ => Leaves.refl _, running₁, kept⟩
  | answered | failed | failedAfter => cases answered

/-- Generated ids are not part of the race. -/
theorem uuid4 (running : Running caller op s) :
    RaceSafe deleting subreddit caller op (Prog.perform Effect.uuid4)
      (fun id s₂ => id ≠ "" ∧ Leaves deleting subreddit caller s s₂) Never s := by
  intro s₁ kept hs₁
  have running₁ := kept.running running
  refine ⟨⟨⟨op, running₁⟩, fun c' same => (by cases same), fun _ same => by cases same⟩,
    fun _ fate r s₂ answered => ?_⟩
  cases fate with
  | named id =>
      simp only [Machine.inner, registryMachine, answer, Option.ite_none_left_eq_some, not_or] at answered
      obtain ⟨⟨named, -⟩, same⟩ := answered
      cases same
      have leaves (other : Nat) (issued : String → Option String) :
          Leaves deleting subreddit other s₁ { s₁ with issued := issued } :=
        ⟨rfl, rfl, .rfl, .rfl, fun _ _ h => h, fun _ _ h => h, fun _ _ _ => rfl⟩
      refine ⟨⟨hs₁.idle, hs₁.kinds, hs₁.count, hs₁.removed, hs₁.calm, hs₁.winner, hs₁.named,
        hs₁.identity, fun other outcome done => ?_⟩, fun other _ => leaves other _,
        ⟨running₁.operation, running₁.returned⟩, named, kept.trans (leaves caller _)⟩
      exact (leaves other _).verdict hs₁ (hs₁.verdicts other outcome done)
  | answered | failed | failedAfter => cases answered

/-- A failure of Postgres is only logged. -/
theorem persist (hs : Fair deleting subreddit s) (running : Running caller op s) :
    RaceSafe deleting subreddit caller op persist
      (fun _ s₂ => Leaves deleting subreddit caller s s₂) Never s := by
  refine Safe.rescue (P := fun r s₂ => (Running caller op s₂ ∧ Leaves deleting subreddit caller s s₂) ∧
    ∀ e, r = .error e → e.isException = true) hs ?_ (fun a s' _ done => done.1) fun e s' _ done => ?_
  · intro s₁ kept hs₁
    have running₁ := kept.running running
    refine ⟨⟨⟨op, running₁⟩, fun c' same => (by cases same), fun _ same => by cases same⟩,
      fun _ fate r s₂ answered => ?_⟩
    cases fate with
    | answered =>
        cases answered
        exact ⟨hs₁, fun _ _ => Leaves.refl _, ⟨running₁, kept⟩, fun _ same => by cases same⟩
    | failed e =>
        simp only [Machine.inner, registryMachine, answer, Bool.false_or, Option.ite_none_right_eq_some] at answered
        obtain ⟨logged, same⟩ := answered
        cases same
        exact ⟨hs₁, fun _ _ => Leaves.refl _, ⟨running₁, kept⟩, fun _ same => by cases same; exact logged⟩
    | named | failedAfter => cases answered
  · rw [if_pos (done.2 e rfl)]
    exact done.1

end RaceSafe
section programs

variable {config streamId : String} {instanceId : Option String}

/-- Further commands of the winner keep its registration. -/
theorem Owner.list (h : Owner s subreddit config instanceId streamId) (key member : String) :
    Owner (s.execute caller (.sadd key member)) subreddit config instanceId streamId := by
  constructor
  · simpa [RedisCmd.run] using h.claim
  · simpa [RedisCmd.run] using h.identity
  · simpa [RedisCmd.run, Store.hget] using h.id
  · simpa [RedisCmd.run, Store.hget] using h.instanceId
  · simpa [RedisCmd.run, Store.hget] using h.config

/-- What the winner has made of its claim. -/
def Won (deleting : Bool) (caller : Nat) (subreddit config : String) (instanceId : Option String)
    (s : Registry) : Prop :=
  caller ∈ s.claimed ∧ (deleting = false → ∃ streamId, Owner s subreddit config instanceId streamId)

theorem Won.leaves (h : Won deleting caller subreddit config instanceId s)
    (kept : Leaves deleting subreddit caller s s') : Won deleting caller subreddit config instanceId s' :=
  ⟨kept.claimed.mpr h.1, fun calm =>
    have ⟨id, owner⟩ := h.2 calm
    ⟨id, kept.owner calm h.1 owner⟩⟩

theorem Won.list (h : Won deleting caller subreddit config instanceId s) (key member : String) :
    Won deleting caller subreddit config instanceId (s.execute caller (.sadd key member)) :=
  ⟨h.1, fun calm =>
    have ⟨id, owner⟩ := h.2 calm
    ⟨id, owner.list key member⟩⟩

theorem sadd_works (key member : String) (r : Store) :
    ∃ reply, ((RedisCmd.sadd key member).run r).1 = .ok reply := ⟨(), rfl⟩

theorem indexInstance_race (hs : Fair deleting subreddit s) (running : Running caller op s)
    (won : Won deleting caller subreddit config instanceId s) :
    RaceSafe deleting subreddit caller op (indexInstance instanceId streamId)
      (fun _ s' => Won deleting caller subreddit config instanceId s') Never s := by
  unfold indexInstance
  split
  · exact .pure running won
  · refine (RaceSafe.redis (sadd_works _ _) running fun _ _ _ => .list _ _).mono hs ?_
    rintro _ s₂ - ⟨s₁, -, kept, -, rfl⟩
    exact (won.leaves kept).list _ _

theorem register_race (hs : Fair deleting subreddit s) (running : Running caller op s)
    (own : caller ∈ s.claimed)
    (known : deleting = false → s.redis.get (subredditKey subreddit) = some streamId ∧
      s.redis.get (identityKey subreddit) = some streamId) :
    RaceSafe deleting subreddit caller op (register streamId subreddit config instanceId)
      (fun _ s' => Won deleting caller subreddit config instanceId s') Never s := by
  refine RaceSafe.bind hs (.nowIso running) fun createdAt s₁ hs₁ running₁ kept₁ => ?_
  refine RaceSafe.bind hs₁ (.nowIso running₁) fun updatedAt s₂ hs₂ running₂ kept₂ => ?_
  have kept := kept₁.trans kept₂
  have own₂ := kept.claimed.mpr own
  refine RaceSafe.bind hs₂ (.redis (fun _ => ⟨(), rfl⟩) running₂ fun _ _ kept =>
    .metadata _ _ (kept.claimed.mpr own₂)) ?_
  rintro _ s₃ hs₃ running₃ ⟨s, -, kept₃, -, same⟩
  have won : Won deleting caller subreddit config instanceId s₃ := by
    have last := kept.trans kept₃
    rw [same]
    refine ⟨?_, fun calm => ⟨streamId, ?_⟩⟩
    · rw [(execute_hset_records _ _ _ _).1]
      exact last.claimed.mpr own
    · constructor
      · simpa [RedisCmd.run] using last.claim calm _ (known calm).1
      · simpa [RedisCmd.run] using last.identity calm _ (known calm).2
      · simp [RedisCmd.run, Store.hget, newMeta]
      · simp [RedisCmd.run, Store.hget, newMeta]
      · simp [RedisCmd.run, Store.hget, newMeta]
  refine RaceSafe.bind hs₃ (.redis (sadd_works _ _) running₃ fun _ _ _ => .list _ _) ?_
  rintro _ s₅ hs₅ running₅ ⟨s₄, -, kept₄, -, rfl⟩
  refine RaceSafe.bind hs₅ (indexInstance_race hs₅ running₅ ((won.leaves kept₄).list _ _))
    fun _ s₆ hs₆ running₆ won₆ => ?_
  exact RaceSafe.bind hs₆ (.persist hs₆ running₆) fun _ s₇ _ running₇ kept₇ =>
    .pure running₇ (won₆.leaves kept₇)

/-- Why a creator raises: another one holds the claim. -/
def Lost (deleting : Bool) (caller : Nat) (subreddit : String) (e : PyExc) (s : Registry) : Prop :=
  deleting = false → e.isInstance [.streamExistsError] = true ∧
    s.redis.get (subredditKey subreddit) ≠ none ∧ caller ∉ s.claimed

theorem setNx_works (key value : String) (r : Store) :
    ∃ reply, ((RedisCmd.setNx key value none).run r).1 = .ok reply := by
  rcases setNx_cases key value r with ⟨-, ran⟩ | ⟨-, ran⟩ <;> exact ⟨_, by rw [ran]⟩

theorem streamExists_kind (name existing : String) :
    (streamExists name existing).isInstance [.streamExistsError] = true := rfl

theorem claim_race (hs : Fair deleting subreddit s)
    (running : Running caller (.createStream subreddit config instanceId) s)
    (fresh : caller ∉ s.claimed)
    (known : deleting = false → s.redis.get (identityKey subreddit) = some streamId) :
    RaceSafe deleting subreddit caller (.createStream subreddit config instanceId)
      (StreamRegistry.claim streamId subreddit config instanceId)
      (fun _ s' => Won deleting caller subreddit config instanceId s')
      (Lost deleting caller subreddit) s := by
  refine RaceSafe.bind hs (.redis (setNx_works _ _) running fun s₁ _ kept =>
    .claim _ _ _ (kept.running running).operation fun calm => kept.identity calm _ (known calm)) ?_
  rintro claimed s₂ hs₂ running₂ ⟨s₁, -, kept₁, ran, rfl⟩
  have records := execute_setNx_records s₁ caller (subredditKey subreddit) streamId
  rcases setNx_cases (subredditKey subreddit) streamId s₁.redis with ⟨taken, found⟩ | ⟨free, found⟩
  · rw [found] at ran
    cases ran
    refine RaceSafe.bind hs₂ (.redis (fun _ => ⟨_, rfl⟩) running₂ fun _ _ _ => .get _) ?_
    rintro existing s₄ - running₄ ⟨s₃, -, kept₃, -, rfl⟩
    refine .raise running₄ fun calm => ⟨streamExists_kind _ _, ?_, ?_⟩
    · obtain ⟨id, held⟩ := Option.ne_none_iff_exists'.mp taken
      have still := kept₃.claim calm id (by simpa [found] using held)
      simp only [execute_redis, RedisCmd.run]
      rw [still]
      exact fun same => by cases same
    · intro own
      have before := kept₃.claimed.mp own
      rw [records.2, if_neg fun both => taken both.2] at before
      exact fresh (kept₁.claimed.mp before)
  · rw [found] at ran
    cases ran
    refine (register_race hs₂ running₂ ?_ fun calm => ⟨?_, ?_⟩).mono hs₂ fun _ _ _ won => won
    · rw [records.2, if_pos ⟨by simp [(kept₁.running running).operation, Operation.subreddit], free⟩]
      simp
    · rw [execute_redis, found, Store.get_set, if_pos rfl]
    · rw [execute_redis, found, Store.get_set]
      simpa using kept₁.identity calm _ (known calm)

theorem hgetall_works (key : String) (r : Store) :
    ∃ reply, ((RedisCmd.hgetall key).run r).1 = .ok reply := ⟨_, rfl⟩

/-- Without deletions every creator resolves the same identity. -/
theorem resolveIdentity_race {candidate : String} (hs : Fair deleting subreddit s)
    (running : Running caller op s) (named : candidate ≠ "") :
    RaceSafe deleting subreddit caller op (resolveIdentity subreddit candidate)
      (fun found s' => (caller ∈ s'.claimed ↔ caller ∈ s.claimed) ∧ (deleting = false →
        ∃ id, found = some id ∧ id ≠ "" ∧ s'.redis.get (identityKey subreddit) = some id))
      Never s := by
  refine RaceSafe.bind hs (.redis (setNx_works _ _) running fun _ _ _ => .identity _ named) ?_
  rintro made s₂ hs₂ running₂ ⟨s₁, hs₁, kept₁, ran, rfl⟩
  have records := execute_setNx_records s₁ caller (identityKey subreddit) candidate
  have unclaimed : ((s₁.operation caller).bind Operation.subreddit).map subredditKey ≠
      some (identityKey subreddit) := by
    cases (s₁.operation caller).bind Operation.subreddit <;> simp
  rw [if_neg fun both => unclaimed both.1] at records
  rcases setNx_cases (identityKey subreddit) candidate s₁.redis with ⟨taken, found⟩ | ⟨free, found⟩
  · rw [found] at ran
    cases ran
    refine (RaceSafe.redis (fun _ => ⟨_, rfl⟩) running₂ fun _ _ _ => .get _).mono hs₂ ?_
    rintro reply s₄ - ⟨s₃, hs₃, kept₃, ran, rfl⟩
    refine ⟨?_, fun calm => ?_⟩
    · calc caller ∈ (s₃.execute caller (.get (identityKey subreddit))).claimed
          ↔ caller ∈ s₃.claimed := .rfl
        _ ↔ caller ∈ (s₁.execute caller (.setNx (identityKey subreddit) candidate none)).claimed :=
          kept₃.claimed
        _ ↔ caller ∈ s₁.claimed := by rw [records.2]
        _ ↔ caller ∈ s.claimed := kept₁.claimed
    · obtain ⟨id, held⟩ := Option.ne_none_iff_exists'.mp taken
      have still := kept₃.identity calm id (by simpa [found] using held)
      refine ⟨id, (Except.ok.inj ran).symm.trans still, ?_, still⟩
      rintro rfl
      exact hs₃.named calm still
  · rw [found] at ran
    cases ran
    refine .pure running₂ ⟨by rw [records.2]; exact kept₁.claimed, fun _ => ⟨candidate, rfl, named, ?_⟩⟩
    rw [execute_redis, found, Store.get_set, if_pos rfl]

theorem createStream_race (hs : Fair deleting subreddit s)
    (running : Running caller (.createStream subreddit config instanceId) s)
    (fresh : caller ∉ s.claimed) :
    RaceSafe deleting subreddit caller (.createStream subreddit config instanceId)
      (StreamRegistry.createStream subreddit config instanceId)
      (fun _ s' => Won deleting caller subreddit config instanceId s')
      (Lost deleting caller subreddit) s := by
  refine RaceSafe.bind hs (.redis (fun _ => ⟨_, rfl⟩) running fun _ _ _ => .get _) ?_
  rintro existing s₁ hs₁ running₁ ⟨s₀, -, kept₀, ran, rfl⟩
  have fresh₁ : caller ∉ (s₀.execute caller (.get (subredditKey subreddit))).claimed :=
    fun own => fresh (kept₀.claimed.mp own)
  split
  · rename_i id found
    obtain ⟨present, named⟩ := orNone_eq_some.mp found
    have held : (s₀.execute caller (.get (subredditKey subreddit))).redis.get
        (subredditKey subreddit) = some id := (Except.ok.inj ran).trans present
    refine RaceSafe.bind hs₁ (.redis (setNx_works _ _) running₁ fun _ _ _ => .identity _ named) ?_
    rintro _ s₃ - running₃ ⟨s₂, -, kept₂, -, rfl⟩
    refine .raise running₃ fun calm => ⟨streamExists_kind _ _, ?_, ?_⟩
    · rcases setNx_cases (identityKey subreddit) id s₂.redis with ⟨-, after⟩ | ⟨-, after⟩ <;>
        simp [after, kept₂.claim calm id held]
    · have records := execute_setNx_records s₂ caller (identityKey subreddit) id
      rw [records.2, if_neg, kept₂.claimed]
      · exact fresh₁
      · rintro ⟨same, -⟩
        cases h : (s₂.operation caller).bind Operation.subreddit <;> simp [h] at same
  · refine RaceSafe.bind hs₁ (.uuid4 running₁) fun candidate s₂ hs₂ running₂ ⟨named, kept₂⟩ => ?_
    refine RaceSafe.bind hs₂ (resolveIdentity_race hs₂ running₂ named)
      fun found s₃ hs₃ running₃ ⟨same, resolved⟩ => ?_
    have fresh₃ : caller ∉ s₃.claimed := fun own => fresh₁ (kept₂.claimed.mp (same.mp own))
    split
    · rename_i id present
      refine claim_race hs₃ running₃ fresh₃ fun calm => ?_
      obtain ⟨id', rfl, -, held⟩ := resolved calm
      rw [held, (orNone_eq_some.mp present).1]
    · rename_i absent
      refine .raise running₃ fun calm => ?_
      obtain ⟨id, rfl, named', -⟩ := resolved calm
      rcases orNone_eq_none.mp absent with none | blank
      · cases none
      · exact absurd (Option.some.inj blank) named'

theorem deleteStream_race {expectedStatus expectedUpdatedAt : Option String} {purge : Bool}
    (deletes : deleting = true) (hs : Fair deleting subreddit s) (running : Running caller op s)
    (first : caller ∉ s.removed) :
    RaceSafe deleting subreddit caller op
      (deleteStream streamId expectedStatus expectedUpdatedAt purge)
      (fun deleted s' => caller ∈ s'.removed ↔ deleted = true) Never s := by
  refine RaceSafe.bind hs (.redis (hgetall_works _) running fun _ _ _ => .hgetall _) ?_
  rintro data s₁ hs₁ running₁ ⟨s₀, -, kept₀, -, rfl⟩
  have first₁ : caller ∉ (s₀.execute caller (.hgetall (metaKey streamId))).removed := by
    have same : (s₀.execute caller (.hgetall (metaKey streamId))).removed = s₀.removed := by
      simp only [execute, note]
      split <;> rfl
    rw [same, kept₀.removed]
    exact first
  split
  · exact .pure running₁ ⟨fun own => absurd own first₁, fun h => by cases h⟩
  rename_i name _
  refine RaceSafe.bind hs₁ (.redis (fun _ => ⟨_, rfl⟩) running₁ fun _ _ kept =>
    .delete _ _ _ _ _ deletes fun own => first₁ (kept.removed.mp own)) ?_
  rintro deleted s₃ hs₃ running₃ ⟨s₂, -, kept₂, ran, rfl⟩
  have known : caller ∈ (s₂.execute caller (.eval (deleteScript streamId name
      (expectedStatus.getD "") (expectedUpdatedAt.getD "") (if purge then "1" else "0")))).removed ↔
      deleted = true := by
    have same : (RedisCmd.run (.eval (deleteScript streamId name (expectedStatus.getD "")
      (expectedUpdatedAt.getD "") (if purge then "1" else "0"))) s₂.redis).1 = .ok deleted := ran
    simp only [RedisCmd.run, Except.ok.injEq] at same
    simp only [execute, note, same]
    cases deleted with
    | true => simp
    | false => simpa using fun own => first₁ (kept₂.removed.mp own)
  refine RaceSafe.bind hs₃ (P := fun _ s' => caller ∈ s'.removed ↔ deleted = true) ?_
    fun _ s₄ _ running₄ kept => .pure running₄ kept
  unfold dropInstance
  split
  · refine (RaceSafe.redis (fun _ => ⟨(), rfl⟩) running₃ fun _ _ _ => .unlist _ _).mono hs₃ ?_
    rintro _ s₅ - ⟨s₄, -, kept₄, -, rfl⟩
    exact kept₄.removed.trans known
  · exact .pure running₃ known

end programs

/-- Each call of the race ends with a true verdict. -/
theorem Operation.call_race (hs : Fair deleting subreddit s) (running : Running caller op s)
    (fresh : caller ∉ s.claimed ∧ caller ∉ s.removed) :
    RaceSafe deleting subreddit caller op op.call
      (fun reply s' => Verdict deleting s' caller (.ok reply))
      (fun e s' => Verdict deleting s' caller (.error e)) s := by
  have kind := hs.kinds caller op running.operation
  cases op with
  | createStream name config instanceId =>
      have same : name = subreddit := by simpa [races] using kind
      subst same
      refine Safe.bind hs (createStream_race hs running fresh.1) ?_ ?_
      · rintro data s' - ⟨running', won⟩
        refine ⟨running', ?_⟩
        simp only [Verdict, running'.operation]
        exact ⟨won.1, ⟨data, rfl⟩, won.2⟩
      · rintro e s' - ⟨running', lost⟩
        refine ⟨running', ?_⟩
        simp only [Verdict, running'.operation]
        exact lost
  | deleteStream id status time purge =>
      refine RaceSafe.bind hs (deleteStream_race kind hs running fresh.2)
        fun deleted s' _ running' known => .pure running' ?_
      simp only [Verdict, running'.operation]
      exact known.trans ⟨fun same => by rw [same], fun same => by cases same; rfl⟩
  | _ => cases kind

theorem Verdict.report {outcome : Except PyExc Reply} {returned : Nat → Option (Except PyExc Reply)}
    (h : Verdict deleting s caller outcome) :
    Verdict deleting { s with returned := returned } caller outcome := by
  simpa only [Verdict, owner_iff] using h

/-- A verdict that is true is reported. -/
theorem Fair.report (hs : Fair deleting subreddit s) (running : Running caller op s)
    {outcome : Except PyExc Reply} (verdict : Verdict deleting s caller outcome) :
    Fair deleting subreddit { s with returned := Function.update s.returned caller (some outcome) } ∧
      ∀ other, other ≠ caller → Leaves deleting subreddit other s
        { s with returned := Function.update s.returned caller (some outcome) } := by
  refine ⟨⟨fun other free => ?_, hs.kinds, hs.count, hs.removed, hs.calm, hs.winner, hs.named,
    hs.identity, fun other outcome' done => ?_⟩, fun other ne =>
      ⟨rfl, by simp [ne], .rfl, .rfl, fun _ _ h => h, fun _ _ h => h, fun _ _ _ => rfl⟩⟩
  · have ne : other ≠ caller := by
      rintro rfl
      exact absurd (running.operation.symm.trans free) (by simp)
    simpa [ne] using hs.idle other free
  · by_cases own : other = caller
    · subst own
      simp only [Function.update_self, Option.some.injEq] at done
      exact done ▸ verdict.report
    · simp only [Function.update_of_ne own] at done
      exact (hs.verdicts other outcome' done).report

theorem Fair.begin (hs : Fair deleting subreddit s) (op : Operation) (free : s.operation caller = none)
    (kind : races deleting subreddit op = true) :
    Fair deleting subreddit { s with operation := Function.update s.operation caller (some op) } ∧
      ∀ other, other ≠ caller → Leaves deleting subreddit other s
        { s with operation := Function.update s.operation caller (some op) } := by
  have others (other : Nat) (ne : other ≠ caller) : Leaves deleting subreddit other s
      { s with operation := Function.update s.operation caller (some op) } :=
    ⟨by simp [ne], rfl, .rfl, .rfl, fun _ _ h => h, fun _ _ h => h, fun _ _ _ => rfl⟩
  refine ⟨⟨fun other idle => ?_, fun other op' started => ?_, hs.count, hs.removed, hs.calm,
    hs.winner, hs.named, hs.identity, fun other outcome done => ?_⟩, others⟩
  · by_cases own : other = caller
    · exact own ▸ hs.idle caller free
    · exact hs.idle other (by simpa [own] using idle)
  · by_cases own : other = caller
    · subst own
      simp only [Function.update_self, Option.some.injEq] at started
      exact started ▸ kind
    · exact hs.kinds other op' (by simpa [own] using started)
  · have ne : other ≠ caller := by
      rintro rfl
      exact absurd ((hs.idle other free).2.2.symm.trans done) (by simp)
    exact (others other ne).verdict hs (hs.verdicts other outcome done)

theorem race_sound : Sound (registryMachine false (races deleting subreddit))
    (raceDiscipline deleting subreddit) fun _ _ _ => True where
  post_stable _ _ _ _ _ _ _ := trivial
  start caller op s p s' hs started := by
    simp only [registryMachine, Option.ite_none_right_eq_some] at started
    obtain ⟨⟨permitted, free⟩, same⟩ := started
    cases same
    obtain ⟨hs', others⟩ := hs.begin op free permitted
    have idle := hs.idle caller free
    refine ⟨hs', others, Safe.reported hs' (op.call_race hs' ⟨by simp, idle.2.2⟩
      ⟨idle.1, idle.2.1⟩) ?_⟩
    rintro r s₁ hs₁ ⟨running, verdict⟩ s₂ kept hs₂
    have running₂ := kept.running running
    have verdict₂ : Verdict deleting s₂ caller r := by
      refine kept.verdict hs₁ ?_
      cases r with
      | ok reply => exact verdict
      | error e => exact verdict
    refine ⟨⟨⟨op, running₂⟩, fun _ same => (by cases same),
      fun _ same => by cases same; exact verdict₂⟩, fun _ fate r' s₃ answered => ?_⟩
    cases fate with
    | answered =>
        cases answered
        obtain ⟨hs₃, others₃⟩ := hs₂.report running₂ verdict₂
        exact ⟨hs₃, others₃, trivial⟩
    | named | failed | failedAfter => cases answered
  finish _ _ _ hs _ := ⟨hs, fun _ _ => Leaves.refl _⟩
  tick _ _ _ _ ticked := by cases ticked

/-- Before the first call. -/
theorem Fair.initial {r : Store} (unclaimed : deleting = false →
    r.get (subredditKey subreddit) = none ∧ r.get (identityKey subreddit) ≠ some "") :
    Fair deleting subreddit (Registry.initial r) where
  idle _ _ := ⟨by simp [Registry.initial], by simp [Registry.initial], rfl⟩
  kinds _ _ h := by cases h
  count := Nat.zero_le _
  removed := List.nodup_nil
  calm _ := rfl
  winner calm taken := absurd (unclaimed calm).1 taken
  named calm := (unclaimed calm).2
  identity calm id held := by
    rw [Registry.initial, (unclaimed calm).1] at held
    cases held
  verdicts _ _ h := by cases h

/-- A creator that has returned metadata has claimed the subreddit. -/
theorem Fair.claimed_of_metadata (hs : Fair deleting subreddit s) {data : Hash} {config : String}
    {instanceId : Option String}
    (started : s.operation caller = some (.createStream subreddit config instanceId))
    (done : s.returned caller = some (.ok (.metadata data))) : caller ∈ s.claimed := by
  have verdict := hs.verdicts caller _ done
  simp only [Verdict, started] at verdict
  exact verdict.1

section runs

variable {r : Store} {c : Config CallEffect CallEffect.Answer PyExc Registry Nat}

theorem race_fair (deleting : Bool) (unclaimed : deleting = false →
      r.get (subredditKey subreddit) = none ∧ r.get (identityKey subreddit) ≠ some "")
    (reached : (registryMachine false (races deleting subreddit)).Reaches
      (Config.initial (Registry.initial r)) c) : Fair deleting subreddit c.state :=
  (race_sound.reaches (Orderly.initial (.initial unclaimed)) reached).inv

/-- Among creators alone exactly one call returns metadata, the others raise `StreamExistsError`,
and the winner's registration is stored; with deletions there is at most one winner more than
deletions that succeeded. -/
theorem one_winner_per_registration (unclaimed : r.get (subredditKey subreddit) = none)
    (named : r.get (identityKey subreddit) ≠ some "") :
    (∀ c, (registryMachine false (races false subreddit)).Reaches
        (Config.initial (Registry.initial r)) c →
      (∃ caller, c.state.operation caller ≠ none) →
      (∀ caller, c.state.operation caller ≠ none → c.state.returned caller ≠ none) →
      ∃ winner config instanceId data streamId,
        c.state.operation winner = some (.createStream subreddit config instanceId) ∧
        c.state.returned winner = some (.ok (.metadata data)) ∧
        Owner c.state subreddit config instanceId streamId ∧
        ∀ other, c.state.operation other ≠ none → other ≠ winner →
          ∃ e, c.state.returned other = some (.error e) ∧ e.isInstance [.streamExistsError] = true) ∧
    ∀ c, (registryMachine false (races true subreddit)).Reaches
        (Config.initial (Registry.initial r)) c →
      (∀ winners : Finset Nat, (∀ caller ∈ winners, ∃ config instanceId data,
          c.state.operation caller = some (.createStream subreddit config instanceId) ∧
          c.state.returned caller = some (.ok (.metadata data))) →
        winners.card ≤ c.state.removed.length + 1) ∧
      c.state.removed.Nodup ∧
      ∀ caller streamId status updatedAt purge,
        c.state.operation caller = some (.deleteStream streamId status updatedAt purge) →
        ∀ outcome, c.state.returned caller = some outcome →
          (caller ∈ c.state.removed ↔ outcome = .ok (.flag true)) := by
  refine ⟨fun c reached ⟨first, started⟩ finished => ?_, fun c reached => ?_⟩
  · have hs := race_fair false (fun _ => ⟨unclaimed, named⟩) reached
    -- a call that has returned has found the claim taken, or has taken it
    have taken : c.state.claimed ≠ [] := by
      obtain ⟨op, started⟩ := Option.ne_none_iff_exists'.mp started
      obtain ⟨outcome, done⟩ := Option.ne_none_iff_exists'.mp (finished first (by simp [started]))
      have kind := hs.kinds first op started
      have verdict := hs.verdicts first outcome done
      cases op with
      | createStream name config instanceId =>
          simp only [Verdict, started] at verdict
          cases outcome with
          | ok reply => exact List.ne_nil_of_mem verdict.1
          | error e =>
              have same : name = subreddit := by simpa [races] using kind
              exact hs.winner rfl (same ▸ (verdict trivial).2.1)
      | _ => cases kind
    have few := hs.count
    rw [hs.calm rfl] at few
    obtain ⟨winner, only⟩ : ∃ winner, c.state.claimed = [winner] := by
      apply List.length_eq_one_iff.mp
      have := List.length_pos_iff.mpr taken
      simp only [List.length_nil] at few
      split at few <;> omega
    have creator (caller : Nat) (op : Operation) (started : c.state.operation caller = some op) :
        ∃ config instanceId, op = .createStream subreddit config instanceId := by
      have kind := hs.kinds caller op started
      cases op with
      | createStream name config instanceId =>
          have same : name = subreddit := by simpa [races] using kind
          exact ⟨config, instanceId, by rw [same]⟩
      | _ => cases kind
    have own : winner ∈ c.state.claimed := by simp [only]
    have begun : c.state.operation winner ≠ none := fun idle => (hs.idle winner idle).1 own
    obtain ⟨op, begun'⟩ := Option.ne_none_iff_exists'.mp begun
    obtain ⟨config, instanceId, rfl⟩ := creator winner op begun'
    obtain ⟨outcome, done⟩ := Option.ne_none_iff_exists'.mp (finished winner begun)
    have verdict := hs.verdicts winner outcome done
    simp only [Verdict, begun'] at verdict
    cases outcome with
    | error e => exact absurd own (verdict trivial).2.2
    | ok reply =>
        obtain ⟨-, ⟨data, rfl⟩, owner⟩ := verdict
        obtain ⟨streamId, owner⟩ := owner trivial
        refine ⟨winner, config, instanceId, data, streamId, begun', done, owner, fun other started ne => ?_⟩
        obtain ⟨op, started'⟩ := Option.ne_none_iff_exists'.mp started
        obtain ⟨config', instanceId', rfl⟩ := creator other op started'
        obtain ⟨outcome, done'⟩ := Option.ne_none_iff_exists'.mp (finished other started)
        have verdict := hs.verdicts other outcome done'
        simp only [Verdict, started'] at verdict
        cases outcome with
        | ok reply => exact absurd (by simpa [only] using verdict.1) ne
        | error e => exact ⟨e, done', (verdict trivial).1⟩
  · have hs := race_fair true (fun calm => by cases calm) reached
    refine ⟨fun winners creators => ?_, hs.removed, fun caller id status time purge started outcome done => ?_⟩
    · have claimants : winners ⊆ c.state.claimed.toFinset := by
        intro caller there
        obtain ⟨config, instanceId, data, started, done⟩ := creators caller there
        exact List.mem_toFinset.mpr (hs.claimed_of_metadata started done)
      calc winners.card
          ≤ c.state.claimed.toFinset.card := Finset.card_le_card claimants
        _ ≤ c.state.claimed.length := List.toFinset_card_le _
        _ ≤ c.state.removed.length + 1 := by
          have := hs.count
          split at this <;> omega
    · have verdict := hs.verdicts caller outcome done
      simp only [Verdict, started] at verdict
      exact verdict

/-- Two creators, of which the second finds the claim of the first. -/
theorem two_racing_creators :
    ∃ c winner config instanceId data streamId,
      (registryMachine false (races false "news")).Reaches (Config.initial (Registry.initial {})) c ∧
      c.state.operation winner = some (.createStream "news" config instanceId) ∧
      c.state.returned winner = some (.ok (.metadata data)) ∧
      Owner c.state "news" config instanceId streamId := by
  have run : ((registryMachine false (races false "news")).exec
      ([.start 0 (.createStream "news" "{}" (some "i")),
        .start 1 (.createStream "news" "[]" (some "j"))] ++
      ([.answered, .named "s", .answered] : List Fate).map (.call 0) ++
      ([.answered, .named "u", .answered, .answered] : List Fate).map (.call 1) ++
      ([.answered, .named "t", .named "t", .answered, .answered, .answered, .answered,
        .answered] : List Fate).map (.call 0) ++
      ([.answered, .answered, .answered] : List Fate).map (.call 1))
      (Config.initial (Registry.initial {}))).map (fun c =>
        (c.state.operation 0, fun n => c.state.operation (n + 2), c.state.returned 0,
          c.state.returned 1)) =
      some (some (.createStream "news" "{}" (some "i")), fun _ => none,
        some (.ok (.metadata (newMeta "s" "news" "{}" "i" "t" "t"))),
        some (.error (streamExists "news" "s"))) := rfl
  obtain ⟨c, reached, seen⟩ := Machine.Reaches.of_exec_map run
  simp only [Prod.mk.injEq] at seen
  obtain ⟨started, others, done, lost⟩ := seen
  obtain ⟨winner, config, instanceId, data, streamId, begun, won, owner, -⟩ :=
    (one_winner_per_registration rfl fun h => by cases h).1 c reached ⟨0, by simp [started]⟩
      fun caller begun => by
        match caller with
        | 0 => simp [done]
        | 1 => simp [lost]
        | n + 2 => exact absurd (congrFun others n) begun
  exact ⟨c, winner, config, instanceId, data, streamId, reached, begun, won, owner⟩

end runs
end RedditKafka
