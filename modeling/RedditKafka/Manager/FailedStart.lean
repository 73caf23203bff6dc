import RedditKafka.Manager.CreateStream

/-!
# A start that fails

What a call of `start_stream` leaves behind when it raises, with a failure of any
one of its commands: nothing, exactly if it never got to claim the subreddit, or
if no command failed and the lease was refused.
-/
namespace RedditKafka
open Async Redis StreamRegistry DistributedLockManager StreamManager

/-- Nothing is kept under a stream id, on this instance or in the registry. -/
structure Service.Unused (s : Service) (instanceId streamId : String) : Prop where
  unregistered : s.redis.hashes (metaKey streamId) = []
  unlisted : streamId ∉ s.redis.sets allKey
  unlistedHere : streamId ∉ s.redis.sets (instanceKey instanceId)
  idle : s.locals instanceId streamId = none

/-- The subreddit has no claim, and nothing is kept under the id that its next start will use. -/
structure Service.LeavesNothing (s : Service) (instanceId subreddit : String) : Prop where
  unclaimed : s.redis.get (subredditKey subreddit) = none
  usable : s.redis.get (identityKey subreddit) ≠ some ""
  unused : ∀ streamId, s.redis.get (identityKey subreddit) = some streamId →
    s.Unused instanceId streamId

/-- The commands of `delete_stream`, which `start_stream` issues to clean up. -/
def Effect.cleansUp : Effect → Bool
  | .redis (.hgetall _) | .redis (.eval _) | .redis (.srem _ _) => true
  | _ => false

/-- No command of the clean-up fails. -/
def CleansUp (trace : List (Effect × Turn)) : Prop :=
  ∀ entry ∈ trace, entry.1.cleansUp = true → entry.2.breaks entry.1 = false

instance (trace : List (Effect × Turn)) : Decidable (CleansUp trace) :=
  inferInstanceAs (Decidable (∀ entry ∈ trace, entry.1.cleansUp = true → entry.2.breaks entry.1 = false))

/-- When a raising call leaves nothing behind: it executed no claim and found nothing, or its
claim was followed by no failure, so that the lease was refused, and no local task was kept. -/
def Compensated (s : Service) (instanceId subreddit : String) (trace : List (Effect × Turn)) : Prop :=
  (¬ Claims subreddit trace → s.LeavesNothing instanceId subreddit) ∧
    (Claims subreddit trace → ¬ Failed trace ∧
      ∀ streamId, s.redis.get (identityKey subreddit) = some streamId →
        s.locals instanceId streamId = none)

variable {s s' : Service} {instanceId subreddit config : String} {call : Nat}
  {trace : List (Effect × Turn)} {e : PyExc}

theorem CleansUp.append {before after : List (Effect × Turn)} :
    CleansUp (before ++ after) ↔ CleansUp before ∧ CleansUp after := by
  simp only [CleansUp, List.forall_mem_append]

theorem Service.Unused.same {streamId : String} (h : s.Unused instanceId streamId)
    (hashes : s'.redis.hashes = s.redis.hashes) (sets : s'.redis.sets = s.redis.sets)
    (locals : s'.locals = s.locals) : s'.Unused instanceId streamId :=
  ⟨hashes ▸ h.unregistered, sets ▸ h.unlisted, sets ▸ h.unlistedHere, locals ▸ h.idle⟩

theorem Service.LeavesNothing.same (h : s.LeavesNothing instanceId subreddit)
    (redis : s'.redis = s.redis) (locals : s'.locals = s.locals) :
    s'.LeavesNothing instanceId subreddit := by
  refine ⟨redis ▸ h.unclaimed, redis ▸ h.usable, fun streamId held => ?_⟩
  rw [redis] at held
  exact (h.unused streamId held).same (by rw [redis]) (by rw [redis]) locals

/-- Resolving the identity adds an id under which nothing is kept. -/
theorem Resolved.leavesNothing (h : Resolved subreddit s s')
    (fresh : ∀ streamId, s.owner streamId = none → s.Unused instanceId streamId) :
    s'.LeavesNothing instanceId subreddit ↔ s.LeavesNothing instanceId subreddit := by
  rcases h.redis with same | ⟨free, id, named, new, same⟩
  · exact ⟨fun left => left.same same.symm h.locals.symm, fun left => left.same same h.locals⟩
  · constructor
    · rintro ⟨unclaimed, -, -⟩
      refine ⟨by simpa [same] using unclaimed, by simp [free], fun streamId held => ?_⟩
      rw [free] at held
      cases held
    · rintro ⟨unclaimed, -, -⟩
      refine ⟨by simpa [same] using unclaimed, by simpa [same] using named, fun streamId held => ?_⟩
      rw [same, Store.get_set, if_pos rfl, Option.some.injEq] at held
      subst held
      exact (fresh id new).same (by rw [same]; rfl) (by rw [same]; rfl) h.locals

/-- A command of the clean-up is answered. -/
theorem cleansUp_alone {t : Thread} {c : RedisCmd} {out : Except PyExc c.Reply}
    (cleansUp : (Effect.redis c).cleansUp = true) (h : Alone t (redis c) s trace out s') (cleanup : CleansUp trace) :
    out = (c.run s.redis).1 ∧ s' = s.execute t c := by
  rcases redis_alone h with ⟨-, same, rfl⟩ | ⟨e, -, -, ⟨rfl, -⟩ | ⟨rfl, -⟩⟩
  · exact ⟨same, rfl⟩
  · cases cleanup _ (List.mem_singleton_self _) cleansUp
  · cases cleanup _ (List.mem_singleton_self _) cleansUp

/-- Without expectations, the script deletes what is registered. -/
theorem Registered.deleted {r : Store} {streamId : String}
    (claim : r.get (subredditKey subreddit) = some streamId)
    (stored : (r.hashes (metaKey streamId)).get "subreddit" = some subreddit) :
    Script.run (.deleteStreamIfUnchanged (metaKey streamId) (checkpointKey streamId)
      (stopRequestKey streamId) (subredditKey subreddit) allKey (identityKey subreddit) streamId "" ""
      "0") r =
    (true, ((((r.del (subredditKey subreddit)).set (identityKey subreddit) streamId).del
      (metaKey streamId)).del (stopRequestKey streamId)).srem allKey [streamId]) := by
  have there : r.has (metaKey streamId) = true := by
    simp [Store.has, Hash.ne_nil_of_get stored]
  simp [Script.run, there, claim]

theorem Reliable.deleteStream {t : Thread} (streamId : String) :
    Reliable t (deleteStream streamId none none false) := by
  refine (Reliable.redis fun _ => ⟨_, rfl⟩).bind fun data => ?_
  split
  · exact .pure _
  · refine (Reliable.redis fun _ => ⟨_, rfl⟩).bind fun deleted => Reliable.bind ?_ fun _ => .pure _
    unfold dropInstance
    split
    · exact .redis fun _ => ⟨_, rfl⟩
    · exact .pure _

/-- Deleting the registration of a start that was refused its lease. -/
theorem deleteStream_alone {streamId : String} {out : Except PyExc Bool} {t : Thread}
    (here : instanceId ≠ "") (named : subreddit ≠ "") (usable : streamId ≠ "")
    (registered : Registered subreddit instanceId streamId s)
    (h : Alone t (deleteStream streamId none none false) s trace out s') (cleanup : CleansUp trace) :
    out = .ok true ∧ s'.locals = s.locals ∧ s'.redis.get (identityKey subreddit) = some streamId ∧
      (s.locals instanceId streamId = none → s'.LeavesNothing instanceId subreddit) := by
  obtain ⟨before, after, read, s₁, rfl, first, rest⟩ := h.bindE_inv
  obtain ⟨cleanup₁, cleanup₂⟩ := CleansUp.append.mp cleanup
  obtain ⟨rfl, rfl⟩ := cleansUp_alone rfl first cleanup₁
  have found : orNone ((s.redis.hashes (metaKey streamId)).get "subreddit") = some subreddit := by
    simp [registered.subreddit, orNone, truthy, named]
  have owner : orNone ((s.redis.hashes (metaKey streamId)).get "instance_id") = some instanceId := by
    simp [registered.instanceId, orNone, truthy, here]
  simp only [RedisCmd.run, Prog.andThen, found] at rest
  obtain ⟨_, _, deleted, s₂, rfl, script, rest₂⟩ := rest.bindE_inv
  obtain ⟨cleanup₃, cleanup₄⟩ := CleansUp.append.mp cleanup₂
  obtain ⟨rfl, rfl⟩ := cleansUp_alone rfl script cleanup₃
  have ran := Registered.deleted registered.claim registered.subreddit
  simp only [RedisCmd.run, Option.getD_none, Service.execute_redis, Prog.andThen,
    Bool.false_eq_true, if_false, ran, dropInstance, owner] at rest₂
  obtain ⟨_, _, dropped, s₃, rfl, unlist, rest₃⟩ := rest₂.bindE_inv
  obtain ⟨cleanup₅, -⟩ := CleansUp.append.mp cleanup₄
  obtain ⟨rfl, rfl⟩ := cleansUp_alone rfl unlist cleanup₅
  obtain ⟨-, rfl, rfl⟩ := rest₃.ret_inv
  refine ⟨rfl, by simp, by simp [RedisCmd.run, ran], fun idle => ⟨?_, ?_, fun id same => ?_⟩⟩
  · simp [RedisCmd.run, ran]
  · simpa [RedisCmd.run, ran] using usable
  · obtain rfl : id = streamId := by simpa [RedisCmd.run, ran] using same.symm
    exact ⟨by simp [RedisCmd.run, ran], by simp [RedisCmd.run, ran], by simp [RedisCmd.run],
      by simpa using idle⟩

/-- The section under the manager's lock leaves Redis alone. It can only be cancelled. -/
theorem createLocal_alone {streamId : String} {created : Task} {t : Thread} {out : Except PyExc Bool}
    (h : Alone t (task (.createLocal instanceId streamId created)) s trace out s') :
    s'.redis = s.redis ∧ ∀ e, out = .error e → Failed trace := by
  obtain ⟨turn, rfl, answered⟩ := h.perform_inv
  cases turn with
  | answered =>
      simp only [Service.answer, Service.taskAnswer] at answered
      split at answered <;> cases answered <;> exact ⟨rfl, fun _ same => by cases same⟩
  | raised e =>
      simp only [Service.answer, Service.taskAnswer] at answered
      split at answered <;> cases answered
      exact ⟨rfl, fun _ _ => by simp [Turn.breaks]⟩
  | named | raisedAfter | worker => cases answered

/-- The end of `start_stream` takes no claim back, and raises only where an effect fails. -/
theorem launch_alone {streamId lockToken : String} {t : Thread}
    (h : Alone t (launch instanceId streamId subreddit lockToken) s trace (.error e) s')
    (taken : Taken subreddit s) : Failed trace ∧ Taken subreddit s' := by
  rcases h.bind_inv with ⟨e', -, raised⟩ | ⟨before, after, created, s₁, rfl, first, rest⟩
  · obtain ⟨same, failed⟩ := createLocal_alone raised
    exact ⟨failed _ rfl, by rwa [Taken, same]⟩
  · obtain ⟨same, -⟩ := createLocal_alone first
    split at rest
    · have failed := (Reliable.updateStatus _ _ _).raised rest
      have added := Added.of_alone rest (updateStatus_adds _ _ _)
      obtain ⟨value, held⟩ := Option.ne_none_iff_exists'.mp taken
      have still := added.strings _ _ (same ▸ held)
      exact ⟨by simp [failed], by simp [Taken, still]⟩
    · obtain ⟨-, same, -⟩ := rest.ret_inv
      cases same

theorem Registered.added {streamId : String} (h : Registered subreddit instanceId streamId s)
    (added : Added false s s') : Registered subreddit instanceId streamId s' := by
  have hashes := added.hashes rfl
  exact ⟨added.strings _ _ h.claim, hashes ▸ h.subreddit, hashes ▸ h.instanceId⟩

/-- Where nothing is left, the next `create_stream` claims the subreddit unless a command fails. -/
theorem Service.LeavesNothing.claimable {other : String} {out : Except PyExc Hash}
    (h : s.LeavesNothing instanceId subreddit)
    (ran : Alone (.start call) (createStream subreddit config (some other)) s trace out s')
    (intact : ¬ Failed trace) : ∃ data, out = .ok data := by
  cases createStream_alone ran with
  | refused e taken => exact absurd h.unclaimed taken
  | unclaimed e _ _ resolved _ reason =>
      have unusable := reason.resolve_left intact
      rcases resolved.redis with same | ⟨-, id, named, -, same⟩
      · exact absurd (same ▸ unusable) h.usable
      · exact absurd (by simpa [same] using unusable) named
  | halfMade e _ _ failed => exact absurd failed intact
  | registered streamId createdAt updatedAt _ _ _ _ _ _ _ returned => exact ⟨_, returned⟩

/-- A call of `start_stream` that raises for another reason than an existing stream leaves nothing
behind exactly if it is compensated; and where it does, the next start can claim the subreddit. -/
theorem failed_start_leaves_nothing (here : instanceId ≠ "") (named : subreddit ≠ "")
    (fresh : ∀ streamId, s.owner streamId = none → s.Unused instanceId streamId)
    (ran : Alone (.start call) (startStream instanceId subreddit config) s trace (.error e) s')
    (other : e.isInstance [.streamExistsError] = false) (cleanup : CleansUp trace) :
    (s'.LeavesNothing instanceId subreddit ↔ Compensated s instanceId subreddit trace) ∧
      (s'.LeavesNothing instanceId subreddit → ∀ later instance' config' trace' out s'',
        Alone (.start later) (createStream subreddit config' (some instance')) s' trace' out s'' →
          ¬ Failed trace' → ∃ data, out = .ok data) := by
  refine ⟨?_, fun left later instance' config' trace' out s'' again => left.claimable again⟩
  have blocked : ∀ {s₁ : Service}, Taken subreddit s₁ → Claims subreddit trace → Failed trace →
      (s₁.LeavesNothing instanceId subreddit ↔ Compensated s instanceId subreddit trace) := by
    intro s₁ taken claims failed
    exact ⟨fun left => absurd left.unclaimed taken, fun h => absurd failed (h.2 claims).1⟩
  rcases ran.bind_inv with ⟨e', same, raised⟩ | ⟨before, after, metadata, s₁, rfl, created, rest⟩
  · cases same
    cases createStream_alone raised with
    | refused e₁ taken still same reason =>
        cases same
        by_cases claims : Claims subreddit trace
        · rcases reason claims with failed | exists'
          · exact blocked still claims failed
          · rw [other] at exists'
            cases exists'
        · exact ⟨fun left => absurd left.unclaimed still,
            fun h => absurd (h.1 claims).unclaimed taken⟩
    | unclaimed e₁ _ quiet resolved =>
        rw [resolved.leavesNothing fresh]
        exact ⟨fun left => ⟨fun _ => left, fun claims => absurd claims quiet⟩, fun h => h.1 quiet⟩
    | halfMade e₁ _ claims failed taken => exact blocked taken claims failed
    | registered _ _ _ _ _ _ _ _ _ _ same => cases same
  · cases createStream_alone created with
    | refused e₁ _ _ same | unclaimed e₁ _ _ _ same | halfMade e₁ _ _ _ _ same => cases same
    | registered streamId createdAt updatedAt free claims intact usable identity locals registered same =>
        cases same
        have claimed : Claims subreddit (before ++ after) := claims_append.mpr (.inl claims)
        rcases rest.bind_inv with ⟨e', -, raised⟩ | ⟨_, _, token, s₂, rfl, acquired, rest₂⟩
        · have failed := (Reliable.acquireLock _ _).raised raised
          have still := registered.added (Added.of_alone raised (acquireLock_adds _ _ _))
          exact blocked (by simp [Taken, still.claim]) claimed (by simp [failed])
        have granted := (Reliable.acquireLock _ _).returned acquired
        have added : Added false s₁ s₂ := Added.of_alone acquired (acquireLock_adds _ _ _)
        have still := registered.added added
        cases token with
        | some token =>
            rcases rest₂.bind_inv with ⟨e', -, raised⟩ | ⟨_, _, _, s₃, rfl, -, returns⟩
            · obtain ⟨failed, taken⟩ := launch_alone raised (by simp [Taken, still.claim])
              exact blocked taken claimed (by simp [failed])
            · obtain ⟨-, same, -⟩ := returns.ret_inv
              cases same
        | none =>
            have cleanup₂ := (CleansUp.append.mp (CleansUp.append.mp cleanup).2).2
            rcases rest₂.bind_inv with ⟨e', -, raised⟩ | ⟨_, _, deleted, s₃, rfl, deletes, raises⟩
            · obtain ⟨same, -⟩ := deleteStream_alone here named usable still raised cleanup₂
              cases same
            · obtain ⟨-, locals', identity', cleared⟩ := deleteStream_alone here named usable still
                deletes (CleansUp.append.mp cleanup₂).1
              obtain ⟨rfl, -, rfl⟩ := raises.raise_inv
              have unfailed := (Reliable.deleteStream streamId).returned deletes
              have local' : s₂.locals = s.locals := added.locals.trans locals
              refine ⟨fun left => ⟨fun quiet => absurd claimed quiet, fun _ => ⟨?_, ?_⟩⟩, fun h => ?_⟩
              · simp [intact, granted, unfailed]
              · intro id held
                obtain rfl : streamId = id := by
                  rcases identity with stored | ⟨free, -⟩
                  · exact Option.some.inj (stored.symm.trans held)
                  · rw [free] at held
                    cases held
                have idle := (left.unused streamId identity').idle
                rwa [locals', local'] at idle
              · refine cleared ?_
                rw [local']
                rcases identity with stored | ⟨-, unused⟩
                · exact (h.2 claimed).2 streamId stored
                · exact (fresh streamId unused).idle

/-- Does the call raise for another reason than an existing stream? -/
def raisesOther (out : Except PyExc Hash) : Bool :=
  match out with
  | .ok _ => false
  | .error e => !e.isInstance [.streamExistsError]

theorem raisesOther_error {out : Except PyExc Hash} (h : raisesOther out = true) :
    ∃ e, out = .error e ∧ e.isInstance [.streamExistsError] = false := by
  cases out with
  | ok data => cases h
  | error e => exact ⟨e, rfl, by simpa [raisesOther] using h⟩

/-- The lease on the subreddit is held elsewhere. -/
def leasedElsewhere : Service := { redis := ({} : Store).setEx (lockKey "news") "B:v" 60 }

/-- A start whose lease is refused deletes its registration and leaves nothing behind. -/
theorem refused_start_leaves_nothing : ∃ trace e s',
    Alone (.start 0) (startStream "A" "news" "{}") leasedElsewhere trace (.error e) s' ∧
      s'.LeavesNothing "A" "news" := by
  have run : (Runs.replay (Service.answer true (.start 0)) (startStream "A" "news" "{}")
      [.answered, .named "s", .answered, .answered, .named "now", .named "now", .answered, .answered,
        .answered, .answered, .named "u", .answered, .answered, .answered, .answered, .answered]
      leasedElsewhere).map (fun (trace, out, _) =>
        (decide (Failed trace), decide (Claims "news" trace), decide (CleansUp trace),
          raisesOther out)) =
      some (false, true, true, true) := by decide +kernel
  obtain ⟨trace, out, s', ran, seen⟩ := Runs.of_replay_map run
  simp only [Prod.mk.injEq, decide_eq_true_eq, decide_eq_false_iff_not] at seen
  obtain ⟨intact, claims, cleanup, raises⟩ := seen
  obtain ⟨e, rfl, other⟩ := raisesOther_error raises
  have unused (streamId : String) : leasedElsewhere.Unused "A" streamId :=
    ⟨rfl, List.not_mem_nil, List.not_mem_nil, rfl⟩
  exact ⟨trace, e, s', ran, (failed_start_leaves_nothing (by decide) (by decide)
    (fun streamId _ => unused streamId) ran other cleanup).1.mpr
      ⟨fun quiet => absurd claims quiet, fun _ => ⟨intact, fun _ _ => rfl⟩⟩⟩

/-- In an empty registry, the command that writes the metadata fails, and the claim stays. -/
theorem claim_left_by_failed_start : ∃ trace e s',
    ({} : Service).LeavesNothing "A" "news" ∧
      Alone (.start 0) (startStream "A" "news" "{}") {} trace (.error e) s' ∧
        e.isInstance [.streamExistsError] = false ∧ CleansUp trace ∧
          s'.redis.get (subredditKey "news") = some "s" ∧ ¬ s'.LeavesNothing "A" "news" := by
  have run : (Runs.replay (Service.answer true (.start 0)) (startStream "A" "news" "{}")
      [.answered, .named "s", .answered, .answered, .named "now", .named "now",
        .raised ⟨"ConnectionError", [.redisError, .exception], "Connection lost"⟩]
      {}).map (fun (trace, out, s') =>
        (decide (CleansUp trace), raisesOther out, s'.redis.get (subredditKey "news"))) =
      some (true, true, some "s") := by decide +kernel
  obtain ⟨trace, out, s', ran, seen⟩ := Runs.of_replay_map run
  simp only [Prod.mk.injEq, decide_eq_true_eq] at seen
  obtain ⟨cleanup, raises, claimed⟩ := seen
  obtain ⟨e, rfl, other⟩ := raisesOther_error raises
  refine ⟨trace, e, s', ⟨rfl, by simp [Store.get, Store.entry], fun streamId held => by cases held⟩,
    ran, other, cleanup, claimed, fun left => ?_⟩
  rw [left.unclaimed] at claimed
  cases claimed

end RedditKafka
