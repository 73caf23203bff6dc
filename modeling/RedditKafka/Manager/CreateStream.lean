import RedditKafka.Manager.Attempts

/-!
# `create_stream` by itself

The four ways in which a call of `create_stream` ends when nothing else moves
meanwhile.
-/
namespace RedditKafka
open Async Redis StreamRegistry

/-- The subreddit has a claim. -/
def Taken (subreddit : String) (s : Service) : Prop :=
  s.redis.get (subredditKey subreddit) ≠ none

@[simp] def Effect.claims (subreddit : String) : Effect → Bool
  | .redis (.setNx key _ none) => key = subredditKey subreddit
  | _ => false

/-- The server executed the command. -/
@[simp] def Turn.executes : Turn → Bool
  | .answered | .raisedAfter _ => true
  | _ => false

/-- The server executed a claim on the subreddit. -/
def Claims (subreddit : String) (trace : List (Effect × Turn)) : Prop :=
  ∃ entry ∈ trace, (entry.1.claims subreddit && entry.2.executes) = true

instance (subreddit : String) (trace : List (Effect × Turn)) : Decidable (Claims subreddit trace) :=
  inferInstanceAs (Decidable (∃ entry ∈ trace, (entry.1.claims subreddit && entry.2.executes) = true))

/-- The claim on the subreddit names registered metadata. -/
structure Registered (subreddit instanceId streamId : String) (s : Service) : Prop where
  claim : s.redis.get (subredditKey subreddit) = some streamId
  subreddit : (s.redis.hashes (metaKey streamId)).get "subreddit" = some subreddit
  instanceId : (s.redis.hashes (metaKey streamId)).get "instance_id" = some instanceId

/-- At most the identity of the subreddit was added, under a fresh id. -/
structure Resolved (subreddit : String) (s s' : Service) : Prop where
  locals : s'.locals = s.locals
  redis : s'.redis = s.redis ∨ s.redis.get (identityKey subreddit) = none ∧
    ∃ id, id ≠ "" ∧ s.owner id = none ∧ s'.redis = s.redis.set (identityKey subreddit) id

/-- How a call of `create_stream` ends, from `s` to `s'`. -/
inductive Created (subreddit config instanceId : String) (s : Service)
    (trace : List (Effect × Turn)) (out : Except PyExc Hash) (s' : Service) : Prop
  | refused (e : PyExc) : Taken subreddit s → Taken subreddit s' → out = .error e →
      (Claims subreddit trace → Failed trace ∨ e.isInstance [.streamExistsError] = true) →
      Created subreddit config instanceId s trace out s'
  | unclaimed (e : PyExc) : ¬ Taken subreddit s → ¬ Claims subreddit trace →
      Resolved subreddit s s' → out = .error e →
      Failed trace ∨ s'.redis.get (identityKey subreddit) = some "" →
      Created subreddit config instanceId s trace out s'
  | halfMade (e : PyExc) : ¬ Taken subreddit s → Claims subreddit trace → Failed trace →
      Taken subreddit s' → out = .error e → Created subreddit config instanceId s trace out s'
  | registered (streamId createdAt updatedAt : String) : ¬ Taken subreddit s →
      Claims subreddit trace → ¬ Failed trace → streamId ≠ "" →
      (s.redis.get (identityKey subreddit) = some streamId ∨
        s.redis.get (identityKey subreddit) = none ∧ s.owner streamId = none) →
      s'.locals = s.locals → Registered subreddit instanceId streamId s' →
      out = .ok (newMeta streamId subreddit config instanceId createdAt updatedAt) →
      Created subreddit config instanceId s trace out s'

@[simp] theorem claims_nil {subreddit : String} : ¬ Claims subreddit [] := by
  rintro ⟨entry, there, -⟩
  cases there

@[simp] theorem claims_cons {subreddit : String} {entry : Effect × Turn}
    {trace : List (Effect × Turn)} :
    Claims subreddit (entry :: trace) ↔
      (entry.1.claims subreddit && entry.2.executes) = true ∨ Claims subreddit trace := by
  simp [Claims, or_and_right, exists_or]

@[simp] theorem claims_append {subreddit : String} {before after : List (Effect × Turn)} :
    Claims subreddit (before ++ after) ↔ Claims subreddit before ∨ Claims subreddit after := by
  simp [Claims, or_and_right, exists_or]

variable {subreddit config instanceId : String} {s s₀ s' : Service} {trace : List (Effect × Turn)}
  {call : Nat}

theorem Resolved.refl (s : Service) : Resolved subreddit s s := ⟨rfl, .inl rfl⟩

theorem Resolved.identity {candidateId : String} (call : Nat) (subreddit : String) (named : candidateId ≠ "")
    (fresh : s₀.owner candidateId = none) (redis : s.redis = s₀.redis) (locals : s.locals = s₀.locals) :
    Resolved subreddit s₀ (s.execute (.start call) (.setNx (identityKey subreddit) candidateId none)) := by
  refine ⟨by simpa using locals, ?_⟩
  rcases setNx_execute (.start call) s (identityKey subreddit) candidateId with ⟨-, same, -⟩ | ⟨free, stored, -⟩
  · exact .inl (by rw [same, redis])
  · exact .inr ⟨redis ▸ free, candidateId, named, fresh, redis ▸ stored⟩

theorem Resolved.taken (h : Resolved subreddit s s') : Taken subreddit s' ↔ Taken subreddit s := by
  unfold Taken
  rcases h.redis with same | ⟨-, id, -, -, same⟩ <;> simp [same]

/-- The identity is the stored one, or becomes the candidate. -/
theorem resolveIdentity_alone {candidateId : String} {out : Except PyExc (Option String)}
    (h : Alone (.start call) (resolveIdentity subreddit candidateId) s trace out s')
    (named : candidateId ≠ "") (fresh : s₀.owner candidateId = none) (redis : s.redis = s₀.redis)
    (locals : s.locals = s₀.locals) :
    Resolved subreddit s₀ s' ∧ ¬ Claims subreddit trace ∧
      ∀ id, out = .ok id → id.isSome ∧ s'.redis.get (identityKey subreddit) = id := by
  have resolved := Resolved.identity call subreddit named fresh redis locals
  have kept : Resolved subreddit s₀ s := ⟨locals, .inl redis⟩
  rcases h.bind_inv with ⟨e, rfl, raised⟩ | ⟨before, after, created, s₁, rfl, first, rest⟩
  · rcases setNx_alone raised with ⟨-, ⟨same, -⟩ | ⟨same, -⟩⟩ |
        ⟨e, -, failed, ⟨rfl, rfl⟩ | ⟨rfl, rfl⟩⟩
    · cases same
    · cases same
    · exact ⟨kept, by simp, fun _ same => by cases same⟩
    · exact ⟨resolved, by simp, fun _ same => by cases same⟩
  · rcases setNx_alone first with ⟨rfl, ⟨same, taken, rfl⟩ | ⟨same, free, rfl⟩⟩ | ⟨e, same, -⟩
    · cases same
      obtain ⟨rfl, ⟨turn, rfl⟩, ⟨-, rfl⟩ | ⟨failed, e, rfl⟩⟩ := get_alone rest
      · exact ⟨kept, by simp, fun id same => by cases same; exact ⟨taken, rfl⟩⟩
      · exact ⟨kept, by simp, fun _ same => by cases same⟩
    · cases same
      obtain ⟨rfl, rfl, rfl⟩ := rest.ret_inv
      exact ⟨resolved, by simp, fun id same => by cases same; simp [RedisCmd.run, free]⟩
    · cases same

/-- The metadata of a creator that holds the claim. -/
theorem register_alone {streamId : String} {out : Except PyExc Hash}
    (held : s.redis.get (subredditKey subreddit) = some streamId)
    (h : Alone (.start call) (register streamId subreddit config (some instanceId)) s trace out s') :
    Taken subreddit s' ∧ ∀ data, out = .ok data → s'.locals = s.locals ∧
      Registered subreddit instanceId streamId s' ∧
      ∃ createdAt updatedAt, data = newMeta streamId subreddit config instanceId createdAt updatedAt := by
  have added := Added.of_alone h (register_adds _ _ _ _)
  have claim := added.strings _ _ held
  refine ⟨by simp [Taken, claim], ?_⟩
  rintro data rfl
  obtain ⟨_, _, createdAt, s₁, -, first, ran₁⟩ := h.bind_ok
  obtain ⟨_, -, -, rfl⟩ := nowIso_alone first
  obtain ⟨_, _, updatedAt, s₂, -, second, ran₂⟩ := ran₁.bind_ok
  obtain ⟨_, -, -, rfl⟩ := nowIso_alone second
  obtain ⟨_, _, _, s₃, -, written, ran₃⟩ := ran₂.bind_ok
  rcases redis_alone written with ⟨-, -, rfl⟩ | ⟨e, same, -⟩
  · have indexed : Added false _ s' := Added.of_alone ran₃
      ((Prog.Uses.perform trivial).bind fun _ => (indexInstance_adds _ _).bind fun _ =>
        persist_adds.bind fun _ => by trivial)
    refine ⟨by simpa using indexed.locals, ⟨claim, ?_, ?_⟩, createdAt, updatedAt, ?_⟩
    · simp [indexed.hashes rfl, RedisCmd.run, newMeta]
    · simp [indexed.hashes rfl, RedisCmd.run, newMeta]
    · obtain ⟨_, _, _, _, -, -, ran₄⟩ := ran₃.bind_ok
      obtain ⟨_, _, _, _, -, -, ran₅⟩ := ran₄.bind_ok
      obtain ⟨_, _, _, _, -, -, ran₆⟩ := ran₅.bind_ok
      obtain ⟨-, same, -⟩ := ran₆.ret_inv
      cases same
      rfl
  · cases same

/-- The claim by itself, for a creator that knows its id. -/
theorem claim_alone {streamId : String} {out : Except PyExc Hash} (named : streamId ≠ "")
    (resolved : Resolved subreddit s₀ s)
    (identity : s₀.redis.get (identityKey subreddit) = some streamId ∨
      s₀.redis.get (identityKey subreddit) = none ∧ s₀.owner streamId = none)
    (before : List (Effect × Turn)) (quiet : ¬ Claims subreddit before) (intact : ¬ Failed before)
    (h : Alone (.start call) (claim streamId subreddit config (some instanceId)) s trace out s') :
    Created subreddit config instanceId s₀ (before ++ trace) out s' := by
  rcases h.bind_inv with ⟨e, rfl, raised⟩ | ⟨first, rest, claimed, s₁, rfl, done, ran⟩
  · rcases setNx_alone raised with ⟨-, ⟨same, -⟩ | ⟨same, -⟩⟩ |
        ⟨e, -, failed, ⟨rfl, rfl⟩ | ⟨rfl, rfl⟩⟩
    · cases same
    · cases same
    · by_cases taken : Taken subreddit s₀
      · exact .refused _ taken (resolved.taken.mpr taken) rfl fun _ => .inl (failed_append.mpr (.inr failed))
      · exact .unclaimed _ taken (by simp [quiet]) resolved rfl (.inl (failed_append.mpr (.inr failed)))
    · have left : Taken subreddit (s.execute (.start call) (.setNx (subredditKey subreddit) streamId none)) := by
        rcases setNx_execute (.start call) s (subredditKey subreddit) streamId with
          ⟨there, same, -⟩ | ⟨free, stored, -⟩
        · rw [same, Taken]
          exact Option.isSome_iff_ne_none.mp there
        · rw [Taken, stored]
          simp
      by_cases taken : Taken subreddit s₀
      · exact .refused _ taken left rfl fun _ => .inl (failed_append.mpr (.inr failed))
      · exact .halfMade _ taken (by simp) (failed_append.mpr (.inr failed)) left rfl
  · rcases setNx_alone done with ⟨rfl, ⟨same, there, rfl⟩ | ⟨same, free, rfl⟩⟩ | ⟨e, same, -⟩
    · -- Another creator won.
      cases same
      have taken : Taken subreddit s₁ := Option.isSome_iff_ne_none.mp there
      rcases ran.bind_inv with ⟨e, rfl, raised⟩ | ⟨_, _, existing, s₂, rfl, read, raises⟩
      · obtain ⟨rfl, -, ⟨-, same⟩ | ⟨failed, -⟩⟩ := get_alone raised
        · cases same
        · exact .refused _ (resolved.taken.mp taken) taken rfl fun _ => .inl (by simp [failed])
      · obtain ⟨rfl, -⟩ := get_alone read
        obtain ⟨-, rfl, rfl⟩ := raises.raise_inv
        exact .refused _ (resolved.taken.mp taken) taken rfl fun _ => .inr rfl
    · cases same
      have untaken : ¬ Taken subreddit s₀ := by
        rw [← resolved.taken]
        simp [Taken, free]
      have held : (s.execute (.start call)
          (.setNx (subredditKey subreddit) streamId none)).redis.get (subredditKey subreddit) =
            some streamId := by
        simp [RedisCmd.run, free]
      obtain ⟨left, returned⟩ := register_alone held ran
      have reliable := Reliable.register (t := .start call) streamId subreddit config (some instanceId)
      cases out with
      | error e =>
          exact .halfMade e untaken (by simp) (by simp [reliable.raised ran]) left rfl
      | ok data =>
          obtain ⟨locals, registered, createdAt, updatedAt, rfl⟩ := returned data rfl
          refine .registered streamId createdAt updatedAt untaken (by simp) ?_ named identity ?_
            registered rfl
          · simp [intact, reliable.returned ran, Turn.breaks]
          · simpa [resolved.locals] using locals
    · cases same

/-- A call of `create_stream` ends in one of four ways. -/
theorem createStream_alone {out : Except PyExc Hash}
    (h : Alone (.start call) (createStream subreddit config (some instanceId)) s trace out s') :
    Created subreddit config instanceId s trace out s' := by
  rcases h.bind_inv with ⟨e, rfl, raised⟩ | ⟨first, _, existing, s₁, rfl, read, ran⟩
  · obtain ⟨rfl, ⟨turn, rfl⟩, ⟨-, same⟩ | ⟨failed, -⟩⟩ := get_alone raised
    · cases same
    · by_cases taken : Taken subreddit s'
      · exact .refused e taken taken rfl fun _ => .inl failed
      · exact .unclaimed e taken (by simp) (.refl _) rfl (.inl failed)
  obtain ⟨rfl, -, ⟨rfl, same⟩ | ⟨-, e, same⟩⟩ := get_alone read
  swap
  · cases same
  cases same
  cases claimed : orNone (s₁.redis.get (subredditKey subreddit)) with
  | some existing =>
      have taken : Taken subreddit s₁ := by
        intro none
        simp [none, orNone, truthy] at claimed
      have kept : Taken subreddit (s₁.execute (.start call)
          (.setNx (identityKey subreddit) existing none)) := by
        rcases setNx_execute (.start call) s₁ (identityKey subreddit) existing with
          ⟨-, same, -⟩ | ⟨-, stored, -⟩
        · rwa [same]
        · rw [Taken, stored]
          simpa [Taken] using taken
      rw [claimed] at ran
      rcases ran.bind_inv with ⟨e, rfl, raised⟩ | ⟨_, _, created, s₂, rfl, backfilled, raises⟩
      · rcases setNx_alone raised with ⟨-, ⟨same, -⟩ | ⟨same, -⟩⟩ |
            ⟨e, -, failed, ⟨-, rfl⟩ | ⟨-, rfl⟩⟩
        · cases same
        · cases same
        · exact .refused _ taken taken rfl fun _ => .inl (by simp [failed])
        · exact .refused _ taken kept rfl fun _ => .inl (by simp [failed])
      · obtain ⟨-, rfl, rfl⟩ := raises.raise_inv
        rcases setNx_alone backfilled with ⟨-, ⟨-, -, rfl⟩ | ⟨-, -, rfl⟩⟩ | ⟨e, same, -⟩
        · exact .refused _ taken taken rfl fun _ => .inr rfl
        · exact .refused _ taken kept rfl fun _ => .inr rfl
        · cases same
  | none =>
      rw [claimed] at ran
      rcases ran.bind_inv with ⟨e, rfl, raised⟩ | ⟨_, _, candidateId, s₂, rfl, generated, ran₁⟩
      · obtain ⟨id, owner, -, same, -⟩ := uuid4_alone raised
        cases same
      obtain ⟨_, owner, rfl, same, named, fresh, rfl⟩ := uuid4_alone generated
      cases same
      have reliable := Reliable.resolveIdentity (t := .start call) subreddit candidateId
      rcases ran₁.bind_inv with ⟨e, rfl, raised⟩ | ⟨_, _, found, s₂, rfl, identified, ran₂⟩
      · obtain ⟨resolved, quiet, -⟩ := resolveIdentity_alone raised named fresh rfl rfl
        have failed := reliable.raised raised
        by_cases taken : Taken subreddit s₁
        · exact .refused _ taken (resolved.taken.mpr taken) rfl fun _ => .inl (by simp [failed])
        · exact .unclaimed _ taken (by simp [quiet]) resolved rfl (.inl (by simp [failed]))
      obtain ⟨resolved, quiet, stored⟩ := resolveIdentity_alone identified named fresh rfl rfl
      have intact := reliable.returned identified
      obtain ⟨known, held⟩ := stored found rfl
      obtain ⟨streamId, rfl⟩ := Option.isSome_iff_exists.mp known
      by_cases usable : streamId = ""
      · subst usable
        obtain ⟨rfl, rfl, rfl⟩ := ran₂.raise_inv
        by_cases taken : Taken subreddit s₁
        · exact .refused _ taken (resolved.taken.mpr taken) rfl fun claims => by simp [quiet] at claims
        · exact .unclaimed _ taken (by simp [quiet]) resolved rfl (.inr held)
      · have claims : orNone (some streamId) = some streamId := by simp [orNone, truthy, usable]
        rw [claims] at ran₂
        have identity : s₁.redis.get (identityKey subreddit) = some streamId ∨
            s₁.redis.get (identityKey subreddit) = none ∧ s₁.owner streamId = none := by
          rcases resolved.redis with same | ⟨free, id, -, unused, same⟩
          · exact .inl (by rw [← same, held])
          · rw [same] at held
            simp only [Store.get_set, if_pos, Option.some.injEq] at held
            exact .inr ⟨free, held ▸ unused⟩
        have ended := claim_alone usable resolved identity
          ((.redis (.get (subredditKey subreddit)), .answered) :: (.uuid4, .named candidateId) :: _)
          (by simpa using quiet) (by simpa [Turn.breaks] using intact) ran₂
        simpa using ended

end RedditKafka
