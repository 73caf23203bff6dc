import RedditKafka.Manager.ServiceSteps

/-!
# The status of one registration

The values that the status field takes from the creation of a registration to
its deletion, whoever writes them.
-/
namespace RedditKafka
open Async Redis StreamRegistry

/-- The status values of the service. -/
def statuses : List String := ["starting", "active", "stopping", "stopped", "error"]

/-- The lifecycle, where `stopped` and `error` come last. -/
def statusRank (status : String) : Nat :=
  if status = "starting" then 0
  else if status = "active" then 1
  else if status = "stopping" then 2
  else 3

/-- Within a registration, the late `active` of `start_stream` finds no later status, and the
`stopping` of a stop request finds no dead one. -/
def Service.inOrder (s : Service) : Effect → Bool
  | .redis (.hset key mapping) =>
      if (mapping.lookup "id").isSome || (s.history key).isNone then true
      else if mapping.lookup "status" = some "active" then
        !DeadStreamCleanup.isDeadStream (s.redis.hashes key) &&
          s.redis.hget key "status" ≠ some "stopping"
      else if mapping.lookup "status" = some "stopping" then
        !DeadStreamCleanup.isDeadStream (s.redis.hashes key)
      else true
  | _ => true

/-- What is recorded of a stored registration: a history in order that ends in the status. -/
structure Chronicle (values : List String) (stored : Option String) : Prop where
  ordered : values.Pairwise fun a b => statusRank a ≤ statusRank b
  last : stored = values.getLast?
  known : ∀ value ∈ values, value ∈ statuses

def Chronicled (s : Service) : Prop := ∀ streamId values,
  s.history (metaKey streamId) = some values →
    Chronicle values (s.redis.hget (metaKey streamId) "status")

theorem Chronicle.append {values : List String} {stored : Option String}
    (h : Chronicle values stored) {status : String} (known : status ∈ statuses)
    (later : ∀ value ∈ statuses, stored = some value → statusRank value ≤ statusRank status) :
    Chronicle (values ++ [status]) (some status) where
  ordered := by
    rw [List.pairwise_append]
    refine ⟨h.ordered, List.pairwise_singleton _ _, fun a ha b hb => ?_⟩
    rw [List.mem_singleton.mp hb]
    cases stored with
    | none =>
        rw [List.getLast?_eq_none_iff.mp h.last.symm] at ha
        cases ha
    | some last =>
        obtain ⟨before, rfl⟩ := List.getLast?_eq_some_iff.mp h.last.symm
        have bound := later last (h.known last (by simp)) rfl
        rcases List.mem_append.mp ha with earlier | here
        · exact ((List.pairwise_append.mp h.ordered).2.2 a earlier last (by simp)).trans bound
        · rw [List.mem_singleton.mp here]
          exact bound
  last := by simp
  known value member := by
    rcases List.mem_append.mp member with before | new
    · exact h.known value before
    · rw [List.mem_singleton.mp new]
      exact known

variable {s s' : Service} {t : Thread}

theorem Chronicled.same (h : Chronicled s) (history : s'.history = s.history)
    (stored : ∀ streamId, s'.redis.hget (metaKey streamId) "status" =
      s.redis.hget (metaKey streamId) "status") : Chronicled s' := by
  intro streamId values kept
  rw [stored]
  exact h streamId values (history ▸ kept)

theorem Chronicled.aside (h : Chronicled s) (aside : s.Aside s') : Chronicled s' := by
  obtain ⟨n, same⟩ := aside.redis
  exact h.same aside.history fun _ => by rw [same]; rfl

/-- The statuses that a thread of the service writes to stored metadata. -/
theorem Thread.may_write {streamId status : String} (may : t.may s streamId (.write status)) :
    status = "active" ∨ status = "stopping" ∨ status = "stopped" ∨ status = "error" := by
  cases t <;> simp_all [Thread.may]

/-- A status write that meets the condition comes in order. -/
theorem Service.inOrder_later {streamId status updatedAt : String} {instanceId : Option String}
    {values : List String} (held : s.history (metaKey streamId) = some values)
    (allowed : s.inOrder (.redis (.hset (metaKey streamId)
      (statusMapping status updatedAt instanceId))) = true)
    (written : status = "active" ∨ status = "stopping" ∨ status = "stopped" ∨ status = "error") :
    ∀ value ∈ statuses, s.redis.hget (metaKey streamId) "status" = some value →
      statusRank value ≤ statusRank status := by
  intro value known stored
  have alive : status = "active" ∨ status = "stopping" →
      value ∉ DeadStreamCleanup.deadStatuses := by
    rintro (rfl | rfl) dead <;>
      simp_all [inOrder, statusMapping, List.lookup_cons, DeadStreamCleanup.isDeadStream, Store.hget]
  have moving : status = "active" → value ≠ "stopping" := by
    rintro rfl rfl
    simp_all [inOrder, statusMapping, List.lookup_cons, Store.hget]
  simp only [statuses, List.mem_cons, List.not_mem_nil, or_false] at known
  rcases written with rfl | rfl | rfl | rfl <;>
    rcases known with rfl | rfl | rfl | rfl | rfl <;>
    simp_all [statusRank, DeadStreamCleanup.deadStatuses]

theorem Chronicled.setNx {key value : String} (h : Chronicled s) :
    Chronicled (s.execute t (.setNx key value none)) := by
  refine h.same ?_ fun _ => ?_
  · simp only [Service.execute, Service.note]
    split <;> simp
  · simp only [Service.execute, RedisCmd.run]
    split <;> rfl

theorem Chronicled.metadata (h : Chronicled s) (streamId subreddit config instanceId time time' : String) :
    Chronicled (s.execute t
      (.hset (metaKey streamId) (newMeta streamId subreddit config instanceId time time'))) := by
  intro other values kept
  by_cases same : other = streamId
  · subst same
    simp [Service.execute, Service.note, newMeta, List.lookup_cons] at kept
    subst kept
    refine ⟨by simp, ?_, by simp [statuses]⟩
    simp [Service.execute, RedisCmd.run, newMeta, Store.hget]
  · simp [Service.execute, Service.note, newMeta, List.lookup_cons, same] at kept
    simpa [Service.execute, RedisCmd.run, Store.hget, same] using h other values kept

theorem Chronicled.status (h : Chronicled s) {streamId status time : String}
    {instanceId : Option String} (written : t.may s streamId (.write status))
    (allowed : s.inOrder
      (.redis (.hset (metaKey streamId) (statusMapping status time instanceId))) = true) :
    Chronicled (s.execute t (.hset (metaKey streamId) (statusMapping status time instanceId))) := by
  obtain ⟨hasStatus, noId⟩ := Service.statusMapping_lookup status time instanceId
  intro other values kept
  simp only [Service.execute, Service.note, hasStatus, noId, Service.noteStatus_history] at kept
  by_cases same : other = streamId
  · subst same
    simp only [Function.update_self, Option.map_eq_some_iff] at kept
    obtain ⟨before, held, rfl⟩ := kept
    have stored : (s.execute t (.hset (metaKey other)
        (statusMapping status time instanceId))).redis.hget (metaKey other) "status" = some status := by
      cases instanceId <;> simp [Service.execute, RedisCmd.run, Store.hget, statusMapping]
    rw [stored]
    refine (h other before held).append ?_ (Service.inOrder_later held allowed (Thread.may_write written))
    rcases Thread.may_write written with rfl | rfl | rfl | rfl <;> decide
  · rw [Function.update_of_ne (by simp [same])] at kept
    simpa [Service.execute, RedisCmd.run, Store.hget, same] using h other values kept

theorem Chronicled.delete (h : Chronicled s) (streamId subreddit expected time purge : String) :
    Chronicled (s.execute t (.eval (.deleteStreamIfUnchanged (metaKey streamId)
      (checkpointKey streamId) (stopRequestKey streamId) (subredditKey subreddit) allKey
      (identityKey subreddit) streamId expected time purge))) := by
  intro other values kept
  simp only [Service.execute, Service.note] at kept ⊢
  split at kept
  · rename_i deleted
    rw [Service.noteDelete_history] at kept
    by_cases same : other = streamId
    · subst same
      simp at kept
    · rw [Function.update_of_ne (by simp [same])] at kept
      have untouched := h other values kept
      simp only [RedisCmd.run, Script.run] at deleted ⊢
      split_ifs at deleted ⊢ <;> simpa [Store.hget, same] using untouched
  · rename_i refused
    have untouched := h other values kept
    simp only [RedisCmd.run, Script.run] at refused ⊢
    split_ifs at refused ⊢ <;> first | exact untouched | exact absurd rfl refused

theorem Chronicled.execute {cmd : RedisCmd} (h : Chronicled s)
    (may : ServiceEffect (t.may s) (.redis cmd)) (allowed : s.inOrder (.redis cmd) = true) :
    Chronicled (s.execute t cmd) := by
  rcases may with registry | lease
  · cases registry with
    | get | keyExists | hgetallEach | smembers => exact h.same rfl fun _ => rfl
    | hgetall => exact h.same (by cases t <;> rfl) fun _ => rfl
    | claim | identity => exact h.setNx
    | stopRequest => exact h.same (by cases t <;> rfl) fun _ => rfl
    | metadata => exact h.metadata _ _ _ _ _ _
    | status id status time i written => exact h.status written allowed
    | checkpoint id mapping other =>
        refine h.same ?_ fun _ => by simp [Service.execute, RedisCmd.run, Store.hget]
        simp [Service.execute, Service.note, other]
    | list | listInstance | unlist | unlistInstance =>
        exact h.same rfl fun _ => by simp [Service.execute, RedisCmd.run, Store.hget]
    | heartbeat id i now =>
        refine h.same rfl fun streamId => ?_
        simp only [Service.execute, RedisCmd.run, Script.run]
        by_cases same : streamId = id
        · split_ifs <;> simp [Store.hget, same]
        · split_ifs <;> simp [Store.hget, same]
    | delete id a b u p guarded => exact h.delete _ _ _ _ _
  · cases lease with
    | acquire name token ttl =>
        refine h.same rfl fun streamId => ?_
        simp only [Service.execute, RedisCmd.run]
        split_ifs <;> rfl
    | refresh name token ttl =>
        refine h.same rfl fun streamId => ?_
        simp only [Service.execute, RedisCmd.run, Script.run]
        split
        · exact Store.hget_expire (by simp) ttl
        · rfl
    | release name token =>
        refine h.same rfl fun streamId => ?_
        simp only [Service.execute, RedisCmd.run, Script.run]
        split_ifs <;> simp [Store.hget]

section runs

variable {faulty : Bool} {kafkaTopic : String} {r : Store} {c : ServiceConfig}

end runs
end RedditKafka
