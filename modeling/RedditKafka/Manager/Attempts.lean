import RedditKafka.Async.Sequential
import RedditKafka.Manager.ServiceSteps

/-!
# Operations run by themselves

What single effects and small programs leave behind when nothing else moves
meanwhile and any command may fail, before or after the server has executed it.
-/
namespace RedditKafka
open Async Redis StreamRegistry

/-- A run of one coroutine by itself, with the effects it awaited. -/
abbrev Alone {α : Type} (t : Thread) (p : Program α) (s : Service) (trace : List (Effect × Turn))
    (out : Except PyExc α) (s' : Service) : Prop :=
  Runs (Service.answer true t) p s trace out s'

/-- The environment lets the effect fail. A failed write to Postgres is only logged. -/
def Turn.breaks (turn : Turn) : Effect → Bool
  | .persist =>
      match turn with
      | .raised e => !e.isException
      | _ => false
  | _ =>
      match turn with
      | .raised _ | .raisedAfter _ => true
      | _ => false

/-- Some effect of the trace has failed. -/
def Failed (trace : List (Effect × Turn)) : Prop := ∃ entry ∈ trace, entry.2.breaks entry.1 = true

instance (trace : List (Effect × Turn)) : Decidable (Failed trace) :=
  inferInstanceAs (Decidable (∃ entry ∈ trace, entry.2.breaks entry.1 = true))

@[simp] theorem failed_nil : ¬ Failed [] := by
  rintro ⟨entry, there, -⟩
  cases there

@[simp] theorem failed_cons {entry : Effect × Turn} {trace : List (Effect × Turn)} :
    Failed (entry :: trace) ↔ entry.2.breaks entry.1 = true ∨ Failed trace := by
  simp [Failed, or_and_right, exists_or]

@[simp] theorem failed_append {before after : List (Effect × Turn)} :
    Failed (before ++ after) ↔ Failed before ∨ Failed after := by
  simp [Failed, or_and_right, exists_or]

variable {α β : Type} {t : Thread} {s s' : Service} {trace : List (Effect × Turn)} {call : Nat}

/-! ## Single effects -/

/-- A command was answered, or it failed before or after the server executed it. -/
theorem redis_alone {c : RedisCmd} {out : Except PyExc c.Reply}
    (h : Alone t (redis c) s trace out s') :
    (trace = [(.redis c, .answered)] ∧ out = (c.run s.redis).1 ∧ s' = s.execute t c) ∨
      ∃ e, out = .error e ∧ Failed trace ∧ (trace = [(.redis c, .raised e)] ∧ s' = s ∨
        trace = [(.redis c, .raisedAfter e)] ∧ s' = s.execute t c) := by
  obtain ⟨turn, rfl, answered⟩ := h.perform_inv
  cases turn with
  | answered =>
      cases answered
      exact .inl ⟨rfl, rfl, rfl⟩
  | raised e =>
      cases answered
      exact .inr ⟨e, rfl, ⟨_, List.mem_singleton_self _, rfl⟩, .inl ⟨rfl, rfl⟩⟩
  | raisedAfter e =>
      cases answered
      exact .inr ⟨e, rfl, ⟨_, List.mem_singleton_self _, rfl⟩, .inr ⟨rfl, rfl⟩⟩
  | named text => cases answered
  | worker c r => cases answered

/-- Reading a string changes nothing, whether it fails or not. -/
theorem get_alone {key : String} {out : Except PyExc (Option String)}
    (h : Alone t (redis (.get key)) s trace out s') :
    s' = s ∧ (∃ turn, trace = [(.redis (.get key), turn)]) ∧
      (trace = [(.redis (.get key), .answered)] ∧ out = .ok (s.redis.get key) ∨
        Failed trace ∧ ∃ e, out = .error e) := by
  rcases redis_alone h with ⟨rfl, rfl, rfl⟩ | ⟨e, rfl, failed, ⟨rfl, rfl⟩ | ⟨rfl, rfl⟩⟩
  · exact ⟨rfl, ⟨_, rfl⟩, .inl ⟨rfl, rfl⟩⟩
  · exact ⟨rfl, ⟨_, rfl⟩, .inr ⟨failed, e, rfl⟩⟩
  · exact ⟨rfl, ⟨_, rfl⟩, .inr ⟨failed, e, rfl⟩⟩

theorem setNx_execute (t : Thread) (s : Service) (key value : String) :
    ((s.redis.get key).isSome ∧ s.execute t (.setNx key value none) = s ∧
        (RedisCmd.run (.setNx key value none) s.redis).1 = .ok false) ∨
      s.redis.get key = none ∧
        (s.execute t (.setNx key value none)).redis = s.redis.set key value ∧
        (RedisCmd.run (.setNx key value none) s.redis).1 = .ok true := by
  by_cases taken : (s.redis.get key).isSome
  · exact .inl ⟨taken, by simp [Service.execute, Service.note, RedisCmd.run, taken],
      by simp [RedisCmd.run, taken]⟩
  · exact .inr ⟨by simpa using taken, by simp [RedisCmd.run, taken], by simp [RedisCmd.run, taken]⟩

/-- A `SET NX` that is answered tells whether the key was free. -/
theorem setNx_alone {key value : String} {out : Except PyExc Bool}
    (h : Alone t (redis (.setNx key value none)) s trace out s') :
    (trace = [(.redis (.setNx key value none), .answered)] ∧
      (out = .ok false ∧ (s.redis.get key).isSome ∧ s' = s ∨
        out = .ok true ∧ s.redis.get key = none ∧ s' = s.execute t (.setNx key value none))) ∨
      ∃ e, out = .error e ∧ Failed trace ∧
        (trace = [(.redis (.setNx key value none), .raised e)] ∧ s' = s ∨
        trace = [(.redis (.setNx key value none), .raisedAfter e)] ∧
          s' = s.execute t (.setNx key value none)) := by
  rcases redis_alone h with ⟨rfl, rfl, rfl⟩ | failed
  · rcases setNx_execute t s key value with
      ⟨taken, same, reply⟩ | ⟨free, -, reply⟩
    · exact .inl ⟨rfl, .inl ⟨reply, taken, same⟩⟩
    · exact .inl ⟨rfl, .inr ⟨reply, free, rfl⟩⟩
  · exact .inr failed

theorem nowIso_alone {out : Except PyExc String} (h : Alone t nowIso s trace out s') :
    ∃ text, trace = [(.nowIso, .named text)] ∧ out = .ok text ∧ s' = s := by
  obtain ⟨turn, rfl, answered⟩ := h.perform_inv
  cases turn <;> cases answered
  exact ⟨_, rfl, rfl, rfl⟩

/-- A generated id is one that was never generated before. -/
theorem uuid4_alone {out : Except PyExc String}
    (h : Alone (.start call) (Prog.perform Effect.uuid4) s trace out s') :
    ∃ id owner, trace = [(.uuid4, .named id)] ∧ out = .ok id ∧ id ≠ "" ∧ s.owner id = none ∧
      s' = { s with owner := owner } := by
  obtain ⟨turn, rfl, answered⟩ := h.perform_inv
  cases turn with
  | named id =>
      simp only [Service.answer] at answered
      split at answered
      · rename_i fresh
        split at answered <;> cases answered
        exact ⟨id, _, rfl, rfl, ‹_›, fresh, rfl⟩
      · cases answered
  | answered | raised | raisedAfter | worker => cases answered

theorem ownerToken_alone {instanceId : String} {out : Except PyExc String}
    (h : Alone t (Prog.perform (Effect.ownerToken instanceId)) s trace out s') :
    ∃ text token tokens, trace = [(.ownerToken instanceId, .named text)] ∧ out = .ok token ∧
      s' = { s with tokens := tokens } := by
  obtain ⟨turn, rfl, answered⟩ := h.perform_inv
  cases turn with
  | named text =>
      simp only [Service.answer] at answered
      split at answered <;> cases answered
      exact ⟨text, _, _, rfl, rfl, rfl⟩
  | answered | raised | raisedAfter | worker => cases answered

/-- Only a cancellation gets out of a write to Postgres. -/
theorem persist_alone {out : Except PyExc Unit} (h : Alone t persist s trace out s') :
    s' = s ∧ (Failed trace ↔ ∃ e, out = .error e) := by
  obtain ⟨before, after, r, s₁, rfl, first, rest⟩ := h.bindE_inv
  obtain ⟨turn, rfl, answered⟩ := first.perform_inv
  cases turn with
  | answered =>
      cases answered
      obtain ⟨rfl, rfl, rfl⟩ := rest.ret_inv
      simp [Turn.breaks]
  | raised e =>
      cases answered
      dsimp only at rest
      split at rest
      · rename_i logged
        obtain ⟨rfl, rfl, rfl⟩ := rest.ret_inv
        simp [Turn.breaks, logged]
      · rename_i cancelled
        obtain ⟨rfl, rfl, rfl⟩ := rest.raise_inv
        simp [Turn.breaks, cancelled]
  | named | raisedAfter | worker => cases answered

/-! ## Programs that fail where an effect does -/

/-- The program raises exactly when one of its effects has failed. -/
def Reliable (t : Thread) (p : Program α) : Prop :=
  ∀ s trace out s', Alone t p s trace out s' → (Failed trace ↔ ∃ e, out = .error e)

namespace Reliable

theorem raised {p : Program α} (h : Reliable t p) {e : PyExc}
    (ran : Alone t p s trace (.error e) s') : Failed trace :=
  (h _ _ _ _ ran).mpr ⟨e, rfl⟩

theorem returned {p : Program α} (h : Reliable t p) {a : α} (ran : Alone t p s trace (.ok a) s') :
    ¬ Failed trace := by
  intro failed
  obtain ⟨e, same⟩ := (h _ _ _ _ ran).mp failed
  cases same

theorem redis {c : RedisCmd} (works : ∀ r, ∃ reply, (c.run r).1 = .ok reply) :
    Reliable t (redis c) := by
  intro s trace out s' h
  rcases redis_alone h with ⟨rfl, rfl, -⟩ | ⟨e, rfl, failed, -⟩
  · obtain ⟨reply, fine⟩ := works s.redis
    simp [Turn.breaks, fine]
  · exact ⟨fun _ => ⟨e, rfl⟩, fun _ => failed⟩

theorem pure (a : α) : Reliable t (Pure.pure a : Program α) := by
  intro s trace out s' h
  obtain ⟨rfl, rfl, -⟩ := h.ret_inv
  simp

theorem bind {p : Program α} {f : α → Program β} (first : Reliable t p) (rest : ∀ a, Reliable t (f a)) :
    Reliable t (p >>= f) := by
  intro s trace out s' h
  rcases h.bind_inv with ⟨e, rfl, raised⟩ | ⟨before, after, a, s₁, rfl, done, later⟩
  · exact ⟨fun _ => ⟨e, rfl⟩, fun _ => first.raised raised⟩
  · rw [failed_append, or_iff_right (first.returned done)]
    exact rest a _ _ _ _ later

theorem nowIso : Reliable t nowIso := by
  intro s trace out s' h
  obtain ⟨text, rfl, rfl, -⟩ := nowIso_alone h
  simp [Turn.breaks]

theorem ownerToken (instanceId : String) : Reliable t (Prog.perform (Effect.ownerToken instanceId)) := by
  intro s trace out s' h
  obtain ⟨text, token, tokens, rfl, rfl, -⟩ := ownerToken_alone h
  simp [Turn.breaks]

theorem persist : Reliable t persist := by
  intro s trace out s' h
  exact (persist_alone h).2

theorem setNx (key value : String) : Reliable t (RedditKafka.redis (.setNx key value none)) := by
  refine redis fun r => ?_
  simp only [RedisCmd.run]
  split <;> exact ⟨_, rfl⟩

theorem updateStatus (streamId status : String) (instanceId : Option String) :
    Reliable t (updateStatus streamId status instanceId) := by
  refine nowIso.bind fun _ => (redis fun _ => ⟨(), rfl⟩).bind fun _ => ?_
  cases instanceId with
  | none => exact persist
  | some instanceId => exact (redis fun _ => ⟨(), rfl⟩).bind fun _ => persist

theorem register (streamId subreddit config : String) (instanceId : Option String) :
    Reliable t (register streamId subreddit config instanceId) := by
  refine nowIso.bind fun _ => nowIso.bind fun _ => (redis fun _ => ⟨(), rfl⟩).bind fun _ =>
    (redis fun _ => ⟨(), rfl⟩).bind fun _ => bind ?_ fun _ => persist.bind fun _ => pure _
  unfold indexInstance
  split
  · exact pure ()
  · exact redis fun _ => ⟨(), rfl⟩

theorem resolveIdentity (subreddit candidateId : String) :
    Reliable t (resolveIdentity subreddit candidateId) := by
  refine (setNx _ _).bind fun created => ?_
  split
  · exact pure _
  · exact redis fun _ => ⟨_, rfl⟩

theorem acquireLock (subreddit instanceId : String) :
    Reliable t (DistributedLockManager.acquireLock subreddit instanceId 60) := by
  refine (ownerToken instanceId).bind fun _ => (redis fun r => ?_).bind fun acquired => ?_
  · simp only [RedisCmd.run]
    split_ifs
    · omega
    · exact ⟨_, rfl⟩
    · exact ⟨_, rfl⟩
  · split
    · exact pure _
    · exact (redis fun _ => ⟨_, rfl⟩).bind fun _ => pure _

end Reliable

/-! ## Programs that only add to the store -/

/-- Effects that remove nothing; `hashes` tells whether they may write hashes. -/
def Effect.adds (hashes : Bool) : Effect → Prop
  | .redis (.hset _ _) => hashes = true
  | .redis (.get _) | .redis (.setNx _ _ _) | .redis (.sadd _ _) => True
  | .nowIso | .persist | .uuid4 | .ownerToken _ => True
  | _ => False

structure Added (hashes : Bool) (s s' : Service) : Prop where
  locals : s'.locals = s.locals
  strings : ∀ key value, s.redis.get key = some value → s'.redis.get key = some value
  hashes : hashes = false → s'.redis.hashes = s.redis.hashes

theorem Added.execute {hashes : Bool} {c : RedisCmd} (adds : Effect.adds hashes (.redis c)) :
    Added hashes s (s.execute t c) := by
  refine ⟨by simp, fun key value held => ?_, fun none => ?_⟩
  · cases c with
    | setNx key' =>
        rename_i ex
        have other : (s.redis.get key').isSome = false → key ≠ key' := by
          rintro free rfl
          simp [held] at free
        cases ex with
        | none =>
            simp only [Service.execute_redis, RedisCmd.run]
            split_ifs with taken
            · exact held
            · simp [other (by simpa using taken), held]
        | some ttl =>
            simp only [Service.execute_redis, RedisCmd.run]
            split_ifs with invalid taken
            · exact held
            · exact held
            · simp [Store.get_setEx, other (by simpa using taken), held]
    | get | sadd | hset => simpa [RedisCmd.run] using held
    | _ => cases adds
  · cases c with
    | setNx =>
        rename_i ex
        cases ex <;> simp only [Service.execute_redis, RedisCmd.run] <;> split_ifs <;> rfl
    | get | sadd => simp [RedisCmd.run]
    | hset => simp [Effect.adds, none] at adds
    | _ => cases adds

theorem Added.trans {hashes : Bool} {s₁ : Service} (h : Added hashes s s₁) (h' : Added hashes s₁ s') :
    Added hashes s s' :=
  ⟨h'.locals.trans h.locals, fun _ _ held => h'.strings _ _ (h.strings _ _ held),
    fun none => (h'.hashes none).trans (h.hashes none)⟩

theorem Added.refl {hashes : Bool} (s : Service) : Added hashes s s :=
  ⟨rfl, fun _ _ held => held, fun _ => rfl⟩

theorem Added.answer {hashes : Bool} {e : Effect} {turn : Turn} {r : Except PyExc e.Answer}
    (adds : e.adds hashes) (answered : Service.answer true t e turn s = some (r, s')) :
    Added hashes s s' := by
  cases e with
  | redis c =>
      cases turn with
      | answered | raisedAfter =>
          cases answered
          exact .execute adds
      | raised =>
          cases answered
          exact .refl s
      | named | worker => cases answered
  | nowIso | persist =>
      cases turn <;> cases answered
      all_goals exact .refl s
  | uuid4 =>
      cases turn with
      | named id =>
          simp only [Service.answer] at answered
          split at answered
          · split at answered <;> cases answered
            exact ⟨rfl, fun _ _ held => held, fun _ => rfl⟩
          · cases answered
      | answered | raised | raisedAfter | worker => cases answered
  | ownerToken instanceId =>
      cases turn with
      | named text =>
          simp only [Service.answer] at answered
          split at answered <;> cases answered
          exact ⟨rfl, fun _ _ held => held, fun _ => rfl⟩
      | answered | raised | raisedAfter | worker => cases answered
  | _ => cases adds

theorem Added.of_alone {hashes : Bool} {p : Program α} {out : Except PyExc α}
    (h : Alone t p s trace out s') (uses : p.Uses (Effect.adds hashes)) : Added hashes s s' :=
  h.keeps (Added hashes s) (fun _ _ _ _ _ adds added answered => added.trans (.answer adds answered))
    uses (.refl s)

theorem hset_adds (key : String) (mapping : List (String × String)) :
    (redis (.hset key mapping)).Uses (Effect.adds true) :=
  Prog.Uses.perform (H := Effect.adds true) rfl

theorem persist_adds {hashes : Bool} : persist.Uses (Effect.adds hashes) :=
  exceptException_uses (Prog.Uses.perform trivial) fun _ => trivial

theorem indexInstance_adds {hashes : Bool} (instanceId : Option String) (streamId : String) :
    (indexInstance instanceId streamId).Uses (Effect.adds hashes) := by
  unfold indexInstance
  split
  · trivial
  · exact Prog.Uses.perform trivial

theorem register_adds (streamId subreddit config : String) (instanceId : Option String) :
    (register streamId subreddit config instanceId).Uses (Effect.adds true) :=
  (Prog.Uses.perform trivial).bind fun _ => (Prog.Uses.perform trivial).bind fun _ =>
    (hset_adds _ _).bind fun _ => (Prog.Uses.perform trivial).bind fun _ =>
      (indexInstance_adds _ _).bind fun _ => persist_adds.bind fun _ => by trivial

theorem acquireLock_adds {hashes : Bool} (subreddit instanceId : String) (ttl : Int) :
    (DistributedLockManager.acquireLock subreddit instanceId ttl).Uses (Effect.adds hashes) := by
  refine (Prog.Uses.perform trivial).bind fun _ => (Prog.Uses.perform trivial).bind fun acquired => ?_
  split
  · trivial
  · exact (Prog.Uses.perform trivial).bind fun _ => trivial

theorem updateStatus_adds (streamId status : String) (instanceId : Option String) :
    (updateStatus streamId status instanceId).Uses (Effect.adds true) := by
  refine (Prog.Uses.perform trivial).bind fun _ => (hset_adds _ _).bind fun _ => ?_
  cases instanceId with
  | none => exact persist_adds
  | some instanceId => exact (Prog.Uses.perform trivial).bind fun _ => persist_adds

end RedditKafka
