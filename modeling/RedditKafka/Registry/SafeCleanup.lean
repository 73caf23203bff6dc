import RedditKafka.Registry.StableIdentity

/-!
# Sweeps remove what is dead

A sweep decides on a snapshot and deletes by a script. Whatever happens in
between, the script takes effect only on metadata that is as dead as the
snapshot, and then on everything of that stream but its progress.
-/
namespace RedditKafka
open Async Redis StreamRegistry DeadStreamCleanup Registry

/-- A sweep that has scanned `rows` removes the stream, from `r` to `r'`. -/
structure Retired (rows : List Hash) (streamId subreddit : String) (r r' : Store) : Prop where
  unchanged : ∃ row ∈ rows, row.get "id" = some streamId ∧
    (∃ status ∈ deadStatuses, row.get "status" = some status ∧
      r.hget (metaKey streamId) "status" = some status) ∧
    ∀ time, row.get "updated_at" = some time →
      r.hget (metaKey streamId) "updated_at" = some time
  named : ∀ name, r.hget (metaKey streamId) "subreddit" = some name → name = subreddit
  metadata : r'.has (metaKey streamId) = false
  stopRequest : r'.has (stopRequestKey streamId) = false
  listed : streamId ∉ r'.sets allKey
  claim : ∀ name, r'.get (subredditKey name) ≠ some streamId
  identity : r'.get (identityKey subreddit) = some streamId
  checkpoints : ∀ id, r'.hashes (checkpointKey id) = r.hashes (checkpointKey id)
  otherMetadata : ∀ id, id ≠ streamId → r'.hashes (metaKey id) = r.hashes (metaKey id)
  otherClaims : ∀ name id, id ≠ streamId → r.get (subredditKey name) = some id →
    r'.get (subredditKey name) = some id

variable {faulty : Bool} {permits : Operation → Bool} {caller : Nat} {s : Registry}
  {streamId subreddit status updatedAt purge : String}

/-- The guards of a vouched deletion are those of its dead row. -/
theorem Registry.Vouched.guards (hs : Consistent false s)
    (vouched : s.Vouched caller streamId status updatedAt purge)
    (sweeping : s.operation caller = some .cleanup) {r' : Store}
    (removed : Removed streamId subreddit status updatedAt purge s.redis r') :
    ∃ row ∈ s.scanned caller, row.get "id" = some streamId ∧
      (∃ status ∈ deadStatuses, row.get "status" = some status ∧
        s.redis.hget (metaKey streamId) "status" = some status) ∧
      ∀ time, row.get "updated_at" = some time →
        s.redis.hget (metaKey streamId) "updated_at" = some time := by
  obtain ⟨-, row, scanned, named, dead, rfl, rfl⟩ := vouched sweeping
  refine ⟨row, scanned, named, ?_, fun time seen => ?_⟩
  · have member := isDeadStream_status dead
    cases held : orNone (row.get "status") with
    | none =>
        rw [held] at member
        simp [deadStatuses] at member
    | some value =>
        obtain ⟨seen, nonempty⟩ := orNone_eq_some.mp held
        refine ⟨value, by simpa [held] using member, seen, ?_⟩
        simpa [held] using removed.status (by simpa [held] using nonempty)
  · have nonempty := hs.scans caller row scanned time seen
    have guard : orNone (row.get "updated_at") = some time := orNone_eq_some.mpr ⟨seen, nonempty⟩
    simpa [guard] using removed.updatedAt (by simpa [guard] using nonempty)

theorem Removed.retired (hs : Consistent false s) (issued : s.issued streamId = some subreddit)
    (vouched : s.Vouched caller streamId status updatedAt purge)
    (sweeping : s.operation caller = some .cleanup) {r' : Store}
    (removed : Removed streamId subreddit status updatedAt purge s.redis r') :
    Retired (s.scanned caller) streamId subreddit s.redis r' := by
  have retained := (vouched sweeping).1
  refine ⟨vouched.guards hs sweeping removed, fun name held => ?_, removed.gone, removed.stopRequest,
    ?_, fun name held => ?_, ?_, fun id => ?_, fun id other => ?_, fun name id other held => ?_⟩
  · exact Option.some.inj ((hs.metadata _ _ held).symm.trans issued)
  · simp [removed.listed]
  · rw [removed.claim] at held
    split at held
    · cases held
    · rename_i kept
      have own := Option.some.inj ((hs.claims _ _ held).symm.trans issued)
      exact kept ⟨own, held⟩
  · rw [removed.identity, if_pos rfl, if_neg retained]
  · rw [removed.checkpoint, if_neg fun both => retained both.2]
  · rw [removed.metadata, if_neg other]
  · rw [removed.claim, if_neg fun both => other (Option.some.inj (held.symm.trans both.2))]
    exact held

/-- Only a deletion that takes effect is recorded as one. -/
theorem note_removed {cmd : RedisCmd} (changed : (s.execute caller cmd).removed ≠ s.removed) :
    ∃ metaKey checkpointKey stopKey claimKey allKey identityKey streamId status updatedAt purge,
      cmd = .eval (.deleteStreamIfUnchanged metaKey checkpointKey stopKey claimKey allKey identityKey
        streamId status updatedAt purge) ∧ cmd.takesEffect s.redis = true := by
  simp only [execute, note] at changed
  split at changed
  · split at changed <;> exact absurd rfl changed
  · split at changed
    · split at changed <;> exact absurd rfl changed
    · exact absurd rfl changed
  · split at changed <;> exact absurd rfl changed
  · exact absurd rfl changed
  · split at changed
    · rename_i done
      exact ⟨_, _, _, _, _, _, _, _, _, _, rfl, done⟩
    · exact absurd rfl changed
  · exact absurd rfl changed

section runs

variable {c d : Config CallEffect CallEffect.Answer PyExc Registry Nat} {r : Store}

/-- The deletions of a run: what a sweep removes is as dead as its snapshot, a script that does
not remove its stream changes nothing, and neither does a call that returns `False`. -/
theorem cleanup_removes_only_dead (legacy : LegacyStore r)
    (reached : (registryMachine faulty permits).Reaches (Config.initial (Registry.initial r)) c) :
    (∀ fate d, c.state.operation caller = some .cleanup →
      (registryMachine faulty permits).next (.call caller fate) c = some d →
      d.state.removed ≠ c.state.removed → ∃ streamId subreddit,
        c.state.issued streamId = some subreddit ∧
        Retired (c.state.scanned caller) streamId subreddit c.state.redis d.state.redis) ∧
    (∀ fate d streamId subreddit status updatedAt purge, c.Awaits caller
        (.inner (.redis (.eval (deleteScript streamId subreddit status updatedAt purge)))) →
      (registryMachine faulty permits).next (.call caller fate) c = some d →
      d.state.removed = c.state.removed → d.state.redis = c.state.redis) ∧
    (∀ streamId status updatedAt purge,
      c.state.operation caller = some (.deleteStream streamId status updatedAt purge) →
      c.state.returned caller = some (.ok (.flag false)) → c.state.touched caller = false) ∧
    ∀ fate d, (registryMachine faulty permits).next (.call caller fate) c = some d →
      d.state.touched caller = false → d.state.redis = c.state.redis := by
  have orderly := registry_orderly false (fun _ _ h => by cases h) legacy reached
  have hs := orderly.inv
  refine ⟨fun fate d sweeping moved changed => ?_,
    fun fate d id name status time purge waits moved same => ?_,
    fun id status time purge started done => ?_, fun fate d moved untouched => ?_⟩
  · rcases registry_step moved with ⟨_, _, cmd, same, waits, after⟩ | ⟨-, -, same⟩
    · cases same
      rw [after] at changed ⊢
      obtain ⟨_, _, _, _, _, _, id, status, time, purge, rfl, effective⟩ := note_removed changed
      have faithful := (orderly.pledged waits).2.1 _ rfl
      cases faithful with
      | delete id name status time purge issued known vouched =>
          rcases deleteScript_cases id name status time purge c.state.redis with still | ⟨-, removed⟩
          · simp only [RedisCmd.takesEffect, still] at effective
            cases effective
          · exact ⟨id, name, issued, removed.retired hs issued vouched sweeping⟩
    · exact absurd same changed
  · rcases registry_step moved with ⟨_, _, cmd, own, waits', after⟩ | ⟨still, -, -⟩
    · cases own
      obtain ⟨k, waits⟩ := waits
      obtain ⟨k', waits'⟩ := waits'
      rw [waits] at waits'
      cases waits'
      rw [after] at same ⊢
      rcases deleteScript_cases id name status time purge c.state.redis with still | ⟨done, -⟩
      · simp [RedisCmd.run, still]
      · simp [execute, note, done] at same
    · exact still
  · have honest := hs.results caller _ done
    unfold Honest at honest
    rw [started] at honest
    exact honest rfl
  · rcases registry_step moved with ⟨_, _, cmd, own, waits', after⟩ | ⟨still, -, -⟩
    · cases own
      rw [after] at untouched ⊢
      simp only [execute, Function.update_self, Bool.or_eq_false_iff] at untouched
      exact cmd.run_inert untouched.2
    · exact still

/-- A sweep that finds the stream stopped removes it. -/
theorem cleanup_removes_stopped_stream :
    ∃ c d streamId subreddit, (registryMachine false fun _ => true).Reaches
        (Config.initial (Registry.initial {})) c ∧
      (registryMachine false fun _ => true).next (.call 2 .answered) c = some d ∧
      Retired (c.state.scanned 2) streamId subreddit c.state.redis d.state.redis := by
  have run : ((registryMachine false fun _ => true).exec
      ([.start 0 (.createStream "news" "{}" (some "i"))] ++ ([.answered, .named "s", .answered,
        .answered, .named "t", .named "t", .answered, .answered, .answered, .answered,
        .answered] : List Fate).map (.call 0) ++
      [.start 1 (.updateStatus "s" "stopped" none)] ++ ([.named "t2", .answered, .answered,
        .answered] : List Fate).map (.call 1) ++
      [.start 2 .cleanup] ++ ([.answered, .answered, .answered] : List Fate).map (.call 2))
      (Config.initial (Registry.initial {}))).map (fun c =>
        ((c.state.operation 2, c.state.removed),
          ((registryMachine false fun _ => true).next (.call 2 .answered) c).map fun d =>
            d.state.removed)) =
      some ((some .cleanup, []), some [2]) := rfl
  obtain ⟨c, reached, seen⟩ := Machine.Reaches.of_exec_map run
  simp only [Prod.mk.injEq] at seen
  obtain ⟨⟨sweeping, before⟩, after⟩ := seen
  obtain ⟨d, moved, removed⟩ := Option.map_eq_some_iff.mp after
  obtain ⟨id, name, -, retired⟩ := (cleanup_removes_only_dead .empty reached).1 .answered d
    sweeping moved (by simp [before, removed])
  exact ⟨c, d, id, name, reached, moved, retired⟩

end runs
end RedditKafka
