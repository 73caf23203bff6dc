import Mathlib.Tactic.MkIffOfInductiveProp
import RedditKafka.Registry.Calls

/-!
# Creators in a race

Callers that create streams for one subreddit, and callers that delete streams,
on a Redis that does not fail. Who has claimed the subreddit is recorded; each
further claim needs a deletion in between.
-/
namespace RedditKafka
open Async Redis StreamRegistry Registry

/-- The calls of the race. -/
def races (deleting : Bool) (subreddit : String) : Operation → Bool
  | .createStream name _ _ => name = subreddit
  | .deleteStream _ _ _ _ => deleting
  | _ => false

variable {deleting : Bool} {subreddit : String} {s s' s'' : Registry} {caller other : Nat}

/-- The subreddit is registered as the creator has asked for. -/
@[mk_iff] structure Owner (s : Registry) (subreddit config : String) (instanceId : Option String)
    (streamId : String) : Prop where
  claim : s.redis.get (subredditKey subreddit) = some streamId
  identity : s.redis.get (identityKey subreddit) = some streamId
  id : s.redis.hget (metaKey streamId) "id" = some streamId
  instanceId : s.redis.hget (metaKey streamId) "instance_id" = some (instanceId.getD "")
  config : s.redis.hget (metaKey streamId) "config" = some config

/-- What the end of a call says about the race. -/
def Verdict (deleting : Bool) (s : Registry) (caller : Nat) (outcome : Except PyExc Reply) : Prop :=
  match s.operation caller with
  | some (.createStream subreddit config instanceId) =>
      match outcome with
      | .ok reply => caller ∈ s.claimed ∧ (∃ data, reply = .metadata data) ∧
          (deleting = false → ∃ streamId, Owner s subreddit config instanceId streamId)
      | .error e => deleting = false → e.isInstance [.streamExistsError] = true ∧
          s.redis.get (subredditKey subreddit) ≠ none ∧ caller ∉ s.claimed
  | some (.deleteStream _ _ _ _) => caller ∈ s.removed ↔ outcome = .ok (.flag true)
  | _ => True

structure Fair (deleting : Bool) (subreddit : String) (s : Registry) : Prop where
  idle : ∀ caller, s.operation caller = none →
    caller ∉ s.claimed ∧ caller ∉ s.removed ∧ s.returned caller = none
  kinds : ∀ caller op, s.operation caller = some op → races deleting subreddit op = true
  count : s.claimed.length ≤ s.removed.length +
    (if (s.redis.get (subredditKey subreddit)).isSome then 1 else 0)
  removed : s.removed.Nodup
  calm : deleting = false → s.removed = []
  winner : deleting = false → s.redis.get (subredditKey subreddit) ≠ none → s.claimed ≠ []
  named : deleting = false → s.redis.get (identityKey subreddit) ≠ some ""
  identity : deleting = false → ∀ streamId, s.redis.get (subredditKey subreddit) = some streamId →
    s.redis.get (identityKey subreddit) = some streamId
  verdicts : ∀ caller outcome, s.returned caller = some outcome → Verdict deleting s caller outcome

/-- What a caller relies on: its own records, and without deletions the claim and the identity. -/
structure Leaves (deleting : Bool) (subreddit : String) (caller : Nat) (s s' : Registry) : Prop where
  operation : s'.operation caller = s.operation caller
  returned : s'.returned caller = s.returned caller
  claimed : caller ∈ s'.claimed ↔ caller ∈ s.claimed
  removed : caller ∈ s'.removed ↔ caller ∈ s.removed
  claim : deleting = false → ∀ id, s.redis.get (subredditKey subreddit) = some id →
    s'.redis.get (subredditKey subreddit) = some id
  identity : deleting = false → ∀ id, s.redis.get (identityKey subreddit) = some id →
    s'.redis.get (identityKey subreddit) = some id
  metadata : deleting = false → caller ∈ s.claimed → ∀ id,
    s'.redis.hashes (metaKey id) = s.redis.hashes (metaKey id)

/-- The commands of the race, with what their callers know when they issue them. -/
inductive Races (deleting : Bool) (subreddit : String) (s : Registry) (caller : Nat) : RedisCmd → Prop
  | get (key : String) : Races deleting subreddit s caller (.get key)
  | hgetall (key : String) : Races deleting subreddit s caller (.hgetall key)
  | identity (value : String) : value ≠ "" →
      Races deleting subreddit s caller (.setNx (identityKey subreddit) value none)
  | claim (streamId config : String) (instanceId : Option String) :
      s.operation caller = some (.createStream subreddit config instanceId) →
      (deleting = false → s.redis.get (identityKey subreddit) = some streamId) →
      Races deleting subreddit s caller (.setNx (subredditKey subreddit) streamId none)
  | metadata (streamId : String) (mapping : List (String × String)) : caller ∈ s.claimed →
      Races deleting subreddit s caller (.hset (metaKey streamId) mapping)
  | list (key streamId : String) : Races deleting subreddit s caller (.sadd key streamId)
  | unlist (key : String) (streamIds : List String) : Races deleting subreddit s caller (.srem key streamIds)
  | delete (streamId name status updatedAt purge : String) : deleting = true → caller ∉ s.removed →
      Races deleting subreddit s caller (.eval (deleteScript streamId name status updatedAt purge))

namespace Leaves

theorem refl (s : Registry) : Leaves deleting subreddit caller s s :=
  ⟨rfl, rfl, .rfl, .rfl, fun _ _ h => h, fun _ _ h => h, fun _ _ _ => rfl⟩

theorem trans (first : Leaves deleting subreddit caller s s')
    (second : Leaves deleting subreddit caller s' s'') : Leaves deleting subreddit caller s s'' where
  operation := second.operation.trans first.operation
  returned := second.returned.trans first.returned
  claimed := second.claimed.trans first.claimed
  removed := second.removed.trans first.removed
  claim calm id h := second.claim calm id (first.claim calm id h)
  identity calm id h := second.identity calm id (first.identity calm id h)
  metadata calm own id :=
    (second.metadata calm (first.claimed.mpr own) id).trans (first.metadata calm own id)

theorem running {op : Operation} (h : Leaves deleting subreddit caller s s')
    (running : Running caller op s) : Running caller op s' :=
  ⟨h.operation.trans running.operation, h.returned.trans running.returned⟩

theorem owner (h : Leaves deleting subreddit caller s s') (calm : deleting = false)
    (own : caller ∈ s.claimed) {config streamId : String} {instanceId : Option String}
    (before : Owner s subreddit config instanceId streamId) :
    Owner s' subreddit config instanceId streamId := by
  refine ⟨h.claim calm _ before.claim, h.identity calm _ before.identity, ?_, ?_, ?_⟩
  all_goals rw [Store.hget, h.metadata calm own]
  · exact before.id
  · exact before.instanceId
  · exact before.config

/-- What was said about a finished call stays true. -/
theorem verdict (h : Leaves deleting subreddit caller s s') (hs : Fair deleting subreddit s)
    {outcome : Except PyExc Reply} (before : Verdict deleting s caller outcome) :
    Verdict deleting s' caller outcome := by
  unfold Verdict at before ⊢
  rw [h.operation]
  cases started : s.operation caller with
  | none => trivial
  | some op =>
      rw [started] at before
      have kind := hs.kinds caller op started
      cases op with
      | createStream name config instanceId =>
          have same : name = subreddit := by simpa [races] using kind
          subst same
          cases outcome with
          | ok reply =>
              obtain ⟨own, data, owner⟩ := before
              refine ⟨h.claimed.mpr own, data, fun calm => ?_⟩
              obtain ⟨streamId, owner⟩ := owner calm
              exact ⟨streamId, h.owner calm own owner⟩
          | error e =>
              intro calm
              obtain ⟨kind, taken, lost⟩ := before calm
              refine ⟨kind, ?_, fun own => lost (h.claimed.mp own)⟩
              obtain ⟨id, held⟩ := Option.ne_none_iff_exists'.mp taken
              rw [h.claim calm id held]
              exact fun same => by cases same
      | deleteStream id status time purge => exact h.removed.trans before
      | _ => trivial

end Leaves
/-- After a command of one caller, what the others rely on and the counts make the race fair. -/
theorem Fair.after (hs : Fair deleting subreddit s) {op : Operation} (running : Running caller op s)
    (others : ∀ other, other ≠ caller → Leaves deleting subreddit other s s')
    (operation : s'.operation = s.operation) (returned : s'.returned = s.returned)
    (count : s'.claimed.length ≤ s'.removed.length +
      (if (s'.redis.get (subredditKey subreddit)).isSome then 1 else 0))
    (removed : s'.removed.Nodup) (calm : deleting = false → s'.removed = [])
    (winner : deleting = false → s'.redis.get (subredditKey subreddit) ≠ none → s'.claimed ≠ [])
    (named : deleting = false → s'.redis.get (identityKey subreddit) ≠ some "")
    (identity : deleting = false → ∀ streamId, s'.redis.get (subredditKey subreddit) = some streamId →
      s'.redis.get (identityKey subreddit) = some streamId) : Fair deleting subreddit s' := by
  refine ⟨fun other free => ?_, fun other op' started => hs.kinds other op' (operation ▸ started),
    count, removed, calm, winner, named, identity, fun other outcome done => ?_⟩
  · rw [operation] at free
    have ne : other ≠ caller := by
      rintro rfl
      rw [running.operation] at free
      cases free
    obtain ⟨unclaimed, kept, idle⟩ := hs.idle other free
    exact ⟨fun h => unclaimed ((others other ne).claimed.mp h),
      fun h => kept ((others other ne).removed.mp h), returned ▸ idle⟩
  · rw [returned] at done
    have ne : other ≠ caller := by
      rintro rfl
      rw [running.returned] at done
      cases done
    exact (others other ne).verdict hs (hs.verdicts other outcome done)

/-- Commands that leave the claim, the identity and the records of the race alone. -/
theorem Fair.aside (hs : Fair deleting subreddit s) {op : Operation} (running : Running caller op s)
    {cmd : RedisCmd} (claimed : (s.execute caller cmd).claimed = s.claimed)
    (removed : (s.execute caller cmd).removed = s.removed)
    (claim : (s.execute caller cmd).redis.get (subredditKey subreddit) =
      s.redis.get (subredditKey subreddit))
    (identity : (s.execute caller cmd).redis.get (identityKey subreddit) =
      s.redis.get (identityKey subreddit))
    (metadata : (∀ id, (s.execute caller cmd).redis.hashes (metaKey id) = s.redis.hashes (metaKey id)) ∨
      caller ∈ s.claimed) :
    Fair deleting subreddit (s.execute caller cmd) ∧
      ∀ other, other ≠ caller → Leaves deleting subreddit other s (s.execute caller cmd) := by
  have others (other : Nat) (ne : other ≠ caller) :
      Leaves deleting subreddit other s (s.execute caller cmd) := by
    refine ⟨by simp, by simp, by rw [claimed], by rw [removed], fun _ _ h => claim.trans h,
      fun _ _ h => identity.trans h, fun calm own id => ?_⟩
    rcases metadata with same | here
    · exact same id
    · -- without deletions there is one winner
      have few := hs.count
      rw [hs.calm calm] at few
      obtain ⟨winner, only⟩ : ∃ winner, s.claimed = [winner] := by
        apply List.length_eq_one_iff.mp
        have := List.length_pos_of_mem own
        simp only [List.length_nil] at few
        split at few <;> omega
      rw [only, List.mem_singleton] at own here
      exact absurd (own.trans here.symm) ne
  refine ⟨hs.after running others (by simp) (by simp) ?_ ?_ ?_ ?_ ?_ ?_, others⟩
  · rw [claimed, removed, claim]
    exact hs.count
  · rw [removed]
    exact hs.removed
  · rw [removed]
    exact hs.calm
  · rw [claimed, claim]
    exact hs.winner
  · rw [identity]
    exact hs.named
  · rw [claim, identity]
    exact hs.identity

theorem execute_setNx_records (s : Registry) (caller : Nat) (key value : String) :
    (s.execute caller (.setNx key value none)).removed = s.removed ∧
      (s.execute caller (.setNx key value none)).claimed =
        if ((s.operation caller).bind Operation.subreddit).map subredditKey = some key ∧
          s.redis.get key = none then s.claimed ++ [caller] else s.claimed := by
  simp only [execute, note]
  split
  · exact ⟨rfl, rfl⟩
  · exact ⟨rfl, rfl⟩

/-- Other commands are not recorded, but for deletions. -/
theorem execute_hset_records (s : Registry) (caller : Nat) (key : String) (mapping : List (String × String)) :
    (s.execute caller (.hset key mapping)).claimed = s.claimed ∧
      (s.execute caller (.hset key mapping)).removed = s.removed := by
  simp only [execute, note]
  split
  · split <;> exact ⟨rfl, rfl⟩
  · exact ⟨rfl, rfl⟩

theorem Races.step_identity (hs : Fair deleting subreddit s) {op : Operation} (running : Running caller op s)
    {value : String} (named : value ≠ "") :
    Fair deleting subreddit (s.execute caller (.setNx (identityKey subreddit) value none)) ∧
      ∀ other, other ≠ caller → Leaves deleting subreddit other s
        (s.execute caller (.setNx (identityKey subreddit) value none)) := by
  obtain ⟨removed, claimed⟩ := execute_setNx_records s caller (identityKey subreddit) value
  have unclaimed : ((s.operation caller).bind Operation.subreddit).map subredditKey ≠
      some (identityKey subreddit) := by
    cases (s.operation caller).bind Operation.subreddit <;> simp
  rw [if_neg fun both => unclaimed both.1] at claimed
  rcases setNx_cases (identityKey subreddit) value s.redis with ⟨taken, ran⟩ | ⟨free, ran⟩
  · have redis : (s.execute caller (.setNx (identityKey subreddit) value none)).redis = s.redis := by
      simp [ran]
    exact hs.aside running claimed removed (by rw [redis]) (by rw [redis]) (.inl fun id => by rw [redis])
  have redis : (s.execute caller (.setNx (identityKey subreddit) value none)).redis =
      s.redis.set (identityKey subreddit) value := by simp [ran]
  have claim : (s.execute caller (.setNx (identityKey subreddit) value none)).redis.get
      (subredditKey subreddit) = s.redis.get (subredditKey subreddit) := by
    rw [redis, Store.get_set]
    simp
  have identity : (s.execute caller (.setNx (identityKey subreddit) value none)).redis.get
      (identityKey subreddit) = some value := by
    rw [redis, Store.get_set, if_pos rfl]
  have others (other : Nat) (ne : other ≠ caller) : Leaves deleting subreddit other s
      (s.execute caller (.setNx (identityKey subreddit) value none)) := by
    refine ⟨by simp, by simp, by rw [claimed], by rw [removed], fun _ _ h => claim.trans h,
      fun _ id h => ?_, fun _ _ id => by rw [redis, Store.set_hashes]⟩
    rw [free] at h
    cases h
  refine ⟨hs.after running others (by simp) (by simp) ?_ ?_ ?_ ?_ ?_ ?_, others⟩
  · rw [claimed, removed, claim]
    exact hs.count
  · rw [removed]
    exact hs.removed
  · rw [removed]
    exact hs.calm
  · rw [claimed, claim]
    exact hs.winner
  · intro _ same
    rw [identity] at same
    exact named (Option.some.inj same)
  · intro calm id held
    rw [claim] at held
    have before := hs.identity calm id held
    rw [free] at before
    cases before

theorem Races.step_claim (hs : Fair deleting subreddit s) {streamId config : String}
    {instanceId : Option String}
    (running : Running caller (.createStream subreddit config instanceId) s)
    (known : deleting = false → s.redis.get (identityKey subreddit) = some streamId) :
    Fair deleting subreddit (s.execute caller (.setNx (subredditKey subreddit) streamId none)) ∧
      ∀ other, other ≠ caller → Leaves deleting subreddit other s
        (s.execute caller (.setNx (subredditKey subreddit) streamId none)) := by
  obtain ⟨removed, claimed⟩ := execute_setNx_records s caller (subredditKey subreddit) streamId
  rcases setNx_cases (subredditKey subreddit) streamId s.redis with ⟨taken, ran⟩ | ⟨free, ran⟩
  · rw [if_neg fun both => taken both.2] at claimed
    have redis : (s.execute caller (.setNx (subredditKey subreddit) streamId none)).redis = s.redis := by
      simp [ran]
    exact hs.aside running claimed removed (by rw [redis]) (by rw [redis]) (.inl fun id => by rw [redis])
  rw [if_pos ⟨by simp [running.operation, Operation.subreddit], free⟩] at claimed
  have redis : (s.execute caller (.setNx (subredditKey subreddit) streamId none)).redis =
      s.redis.set (subredditKey subreddit) streamId := by simp [ran]
  have claim : (s.execute caller (.setNx (subredditKey subreddit) streamId none)).redis.get
      (subredditKey subreddit) = some streamId := by
    rw [redis, Store.get_set, if_pos rfl]
  have identity : (s.execute caller (.setNx (subredditKey subreddit) streamId none)).redis.get
      (identityKey subreddit) = s.redis.get (identityKey subreddit) := by
    rw [redis, Store.get_set]
    simp
  have others (other : Nat) (ne : other ≠ caller) : Leaves deleting subreddit other s
      (s.execute caller (.setNx (subredditKey subreddit) streamId none)) := by
    refine ⟨by simp, by simp, by simp [claimed, ne], by rw [removed], fun _ id h => ?_,
      fun _ _ h => identity.trans h, fun _ _ id => by rw [redis, Store.set_hashes]⟩
    rw [free] at h
    cases h
  refine ⟨hs.after running others (by simp) (by simp) ?_ ?_ ?_ ?_ ?_ ?_, others⟩
  · have before := hs.count
    simp only [free, Option.isSome_none, Bool.false_eq_true, if_false, Nat.add_zero] at before
    rw [claimed, removed, claim, List.length_append]
    simpa using before
  · rw [removed]
    exact hs.removed
  · rw [removed]
    exact hs.calm
  · intro _ _
    simp [claimed]
  · rw [identity]
    exact hs.named
  · intro calm id held
    rw [claim] at held
    rw [identity, ← held]
    exact known calm

theorem Races.step_delete (hs : Fair true subreddit s) {op : Operation} (running : Running caller op s)
    {streamId name status updatedAt purge : String} (first : caller ∉ s.removed) :
    Fair true subreddit
        (s.execute caller (.eval (deleteScript streamId name status updatedAt purge))) ∧
      ∀ other, other ≠ caller → Leaves true subreddit other s
        (s.execute caller (.eval (deleteScript streamId name status updatedAt purge))) := by
  have claimed : (s.execute caller
      (.eval (deleteScript streamId name status updatedAt purge))).claimed = s.claimed := by
    simp only [execute, note]
    split <;> rfl
  have recorded : (s.execute caller
      (.eval (deleteScript streamId name status updatedAt purge))).removed =
      if ((deleteScript streamId name status updatedAt purge).run s.redis).1 then
        s.removed ++ [caller] else s.removed := by
    simp only [execute, note]
    split <;> rfl
  rcases deleteScript_cases streamId name status updatedAt purge s.redis with still | ⟨done, gone⟩
  · have redis : (s.execute caller
        (.eval (deleteScript streamId name status updatedAt purge))).redis = s.redis := by
      simp [RedisCmd.run, still]
    rw [still] at recorded
    exact hs.aside running claimed recorded (by rw [redis]) (by rw [redis]) (.inl fun id => by rw [redis])
  rw [if_pos done] at recorded
  have others (other : Nat) (ne : other ≠ caller) : Leaves true subreddit other s
      (s.execute caller (.eval (deleteScript streamId name status updatedAt purge))) :=
    ⟨by simp, by simp, by rw [claimed], by simp [recorded, ne], fun h => (by cases h),
      fun h => (by cases h), fun h => (by cases h)⟩
  refine ⟨hs.after running others (by simp) (by simp) ?_ ?_ (fun h => by cases h)
    (fun h => by cases h) (fun h => by cases h) (fun h => by cases h), others⟩
  · have before := hs.count
    rw [claimed, recorded, List.length_append]
    simp only [List.length_singleton]
    split at before <;> omega
  · rw [recorded]
    refine List.nodup_append.mpr ⟨hs.removed, by simp, fun id there last own => ?_⟩
    rw [List.mem_singleton] at own
    rintro rfl
    exact first (own ▸ there)

/-- A command of one caller keeps the race fair, and what the other callers rely on. -/
theorem Races.step (hs : Fair deleting subreddit s) {op : Operation} (running : Running caller op s)
    {cmd : RedisCmd} (h : Races deleting subreddit s caller cmd) :
    Fair deleting subreddit (s.execute caller cmd) ∧
      ∀ other, other ≠ caller → Leaves deleting subreddit other s (s.execute caller cmd) := by
  cases h with
  | get key => exact hs.aside running rfl rfl rfl rfl (.inl fun _ => rfl)
  | hgetall key =>
      have records : (s.execute caller (.hgetall key)).claimed = s.claimed ∧
          (s.execute caller (.hgetall key)).removed = s.removed := by
        simp only [execute, note]
        split <;> exact ⟨rfl, rfl⟩
      exact hs.aside running records.1 records.2 rfl rfl (.inl fun _ => rfl)
  | identity value named => exact step_identity hs running named
  | claim streamId config instanceId started known =>
      exact step_claim hs ⟨started, running.returned⟩ known
  | metadata streamId mapping own =>
      obtain ⟨claimed, removed⟩ := execute_hset_records s caller (metaKey streamId) mapping
      exact hs.aside running claimed removed (by simp [RedisCmd.run]) (by simp [RedisCmd.run]) (.inr own)
  | list key streamId =>
      exact hs.aside running rfl rfl (by simp [RedisCmd.run]) (by simp [RedisCmd.run])
        (.inl fun id => by simp [RedisCmd.run])
  | unlist key streamIds =>
      exact hs.aside running rfl rfl (by simp [RedisCmd.run]) (by simp [RedisCmd.run])
        (.inl fun id => by simp [RedisCmd.run])
  | delete streamId name status updatedAt purge deletes first =>
      subst deletes
      exact step_delete hs running first

end RedditKafka
