import RedditKafka.Manager.ServiceSteps

/-!
# Who carries the token of a lease

A `start_stream` call acquires a token, and hands it to its run, its runner and
the worker that the runner builds; `run` of the worker releases it. The records
say where on this way the token is dropped: an exit behind which no task of the
call is left that would release the lease.
-/
namespace RedditKafka
open Async Redis StreamRegistry StreamManager DistributedLockManager

/-- The service, and what is recorded about the leases that its calls acquire. -/
structure Tenancy where
  service : Service := {}
  /-- The call for which a token was made. -/
  minter : String → Option Nat := fun _ => none
  /-- The key and the token of the lease that a call has acquired. -/
  lease : Nat → Option (String × String) := fun _ => none
  /-- The call has its token, and has not come to the creation of its task. -/
  launching : Nat → Bool := fun _ => false
  /-- The runner of the call has built its worker. -/
  built : Nat → Bool := fun _ => false
  /-- The token of the call was dropped. -/
  dropped : Nat → Bool := fun _ => false

/-- The exits on which the token of a call is dropped: `start_stream` does not learn that it was
acquired, or creates no task; the runner builds no worker; the worker's final save is cancelled. -/
def Thread.drops (built : Bool) : Thread → (c : Effect) → Except PyExc c.Answer → Bool
  | .start _, .redis (.setNx _ _ (some _)), .error _ => true
  | .start _, .task (.createLocal _ _ _), .ok created => !created
  | .start _, .task (.createLocal _ _ _), .error _ => true
  | .task _ .runner, .redis (.get _), .ok sid => !truthy sid
  | .task _ .runner, .redis (.hgetall _), .ok data => !built && (data.get "id").isNone
  | .task _ .runner, .redis (.get _), .error e | .task _ .runner, .redis (.hgetall _), .error e
  | .task _ .runner, .redis (.hset _ _), .error e => !built || !e.isException
  | .task _ .runner, .getSerializer _, .error _ => true
  | _, _, _ => false

namespace Tenancy

/-- What is recorded about an answered effect; `after` is the state behind it. -/
def record (t : Thread) (c : Effect) (r : Except PyExc c.Answer) (after : Service) (s : Tenancy) :
    Tenancy :=
  match t, c, r with
  | .start call, .ownerToken _, .ok token =>
      { s with minter := Function.update s.minter token (some call) }
  | .start call, .redis (.setNx key token (some _)), r =>
      { s with
        lease :=
          if s.service.redis.get key = none ∧ after.redis.get key = some token then
            Function.update s.lease call (some (key, token))
          else s.lease
        launching := Function.update s.launching call (match r with
          | .ok acquired => acquired
          | .error _ => false) }
  | .start call, .task (.createLocal _ _ _), _ =>
      { s with launching := Function.update s.launching call false }
  | .task call .runner, .getSerializer _, .ok _ =>
      { s with built := Function.update s.built call true }
  | _, _, _ => s

/-- The record of a dropped token. -/
def drop (call : Option Nat) (drops : Bool) (s : Tenancy) : Tenancy :=
  match call, drops with
  | some call, true => { s with dropped := Function.update s.dropped call true }
  | _, _ => s

def builtOf (t : Thread) (s : Tenancy) : Bool := (t.call.map s.built).getD false

def answer (t : Thread) (c : Effect) (turn : Turn) (s : Tenancy) :
    Option (Except PyExc c.Answer × Tenancy) :=
  match c, turn with
  | .redis (.eval (.deleteIfOwner _ _)), .raised _ => none
  | c, turn => (s.service.answer true t c turn).map fun a =>
      (a.1, { (s.record t c a.1 a.2).drop t.call (t.drops (s.builtOf t) c a.1) with service := a.2 })

/-- A runner has built nothing when it begins. -/
def begin (t : Thread) (service : Service) (s : Tenancy) : Tenancy :=
  match t with
  | .task call .runner =>
      { s with service := service, built := Function.update s.built call false }
  | _ => { s with service := service }

def tick (event : ServiceEvent) (s : Tenancy) : Option Tenancy :=
  (s.service.tick event).map fun service =>
    { (match event with
      | .cancelledEarly call role => s.drop (some call) (role = Role.run || role = Role.runner)
      | _ => s) with service := service }

end Tenancy

/-- The service with any failures and cancellations, in which every `release_lock` call reaches
Redis. -/
def tenancyMachine (kafkaTopic : String) :
    Machine Effect Effect.Answer PyExc Tenancy Thread Turn ServiceEvent where
  answer := Tenancy.answer
  start t event s := (s.service.start kafkaTopic t event).map fun a => (a.1, s.begin t a.2)
  finish t r s := { s with service := s.service.finish t r }
  tick := Tenancy.tick

abbrev TenancyConfig : Type 1 := Config Effect Effect.Answer PyExc Tenancy Thread

def tenancyConfig (store : Store) : TenancyConfig := Config.initial { service := { redis := store } }

/-- The task exists and is not done. -/
def TaskState.pending : TaskState → Bool
  | .created _ | .alive _ => true
  | _ => false

/-- A task of the call that has its token is unfinished, or `start_stream` is still under way
and has not created the first one. -/
def Carried (c : TenancyConfig) (call : Nat) : Prop :=
  (c.threads (.start call) ≠ none ∧ c.state.service.tasks call .run = .absent) ∨
    ∃ role, role ≠ .watcher ∧ (c.state.service.tasks call role).pending = true

namespace Tenancy

/-- The invariant; by its last field a lease that is held has somebody to release it. -/
structure Valid (s : Tenancy) : Prop where
  minted : ∀ token call, s.minter token = some call → s.service.tokens token = true
  own : ∀ call key token, s.lease call = some (key, token) → s.minter token = some call ∧
    ∃ instanceId subreddit, s.service.calls call = some (instanceId, subreddit) ∧
      key = lockKey subreddit
  unborn : ∀ call, s.service.calls call = none →
    s.launching call = false ∧ s.service.tasks call .run = .absent
  launching : ∀ call, s.launching call = true → s.service.tasks call .run = .absent
  orphan : ∀ call, s.service.tasks call .run = .absent → s.service.tasks call .runner = .absent
  roles : ∀ call role task, s.service.tasks call role = .created task → task.role = role
  run : ∀ call task, s.service.tasks call .run = .created task →
    ∃ instanceId streamId subreddit token, task = .run instanceId streamId subreddit (some token) ∧
      s.lease call = some (lockKey subreddit, token)
  runner : ∀ call task, s.service.tasks call .runner = .created task →
    ∃ instanceId subreddit token, task = .runner instanceId subreddit (some token) ∧
      s.lease call = some (lockKey subreddit, token)
  carried : ∀ call key token, s.lease call = some (key, token) → s.dropped call = false →
    s.service.redis.get key = some token →
    s.launching call = true ∨
      (s.service.tasks call .runner = .absent ∧ (s.service.tasks call .run).pending = true) ∨
      (s.service.tasks call .runner).pending = true

/-- What no step undoes. -/
structure Onward (s s' : Tenancy) : Prop where
  minter : ∀ token call, s.minter token = some call → s'.minter token = some call
  lease : ∀ call x, s.lease call = some x → s'.lease call = some x
  gone : ∀ call key token, s.lease call = some (key, token) → s.service.redis.get key ≠ some token →
    s'.service.redis.get key ≠ some token
  dropped : ∀ call, s.dropped call = true → s'.dropped call = true
  calls : ∀ call x, s.service.calls call = some x → s'.service.calls call = some x
  tasks : ∀ call role, s.service.tasks call role ≠ .absent → s'.service.tasks call role ≠ .absent

theorem Onward.refl (s : Tenancy) : s.Onward s :=
  ⟨fun _ _ h => h, fun _ _ h => h, fun _ _ _ _ h => h, fun _ h => h, fun _ _ h => h, fun _ _ h => h⟩

theorem Onward.trans {a b c : Tenancy} (first : a.Onward b) (second : b.Onward c) : a.Onward c where
  minter token call h := second.minter token call (first.minter token call h)
  lease call x h := second.lease call x (first.lease call x h)
  gone call key token h gone :=
    second.gone call key token (first.lease call _ h) (first.gone call key token h gone)
  dropped call h := second.dropped call (first.dropped call h)
  calls call x h := second.calls call x (first.calls call x h)
  tasks call role h := second.tasks call role (first.tasks call role h)

/-- What a thread knows about its own call, until it acts itself. -/
def Private (t : Thread) (s s' : Tenancy) : Prop :=
  match t with
  | .start call => s'.lease call = s.lease call ∧ s'.launching call = s.launching call ∧
      (s.service.tasks call .run = .absent → s'.service.tasks call .run = .absent)
  | .task call .runner => s'.built call = s.built call
  | _ => True

theorem Private.refl (t : Thread) (s : Tenancy) : Private t s s := by
  unfold Private
  split
  · exact ⟨rfl, rfl, fun h => h⟩
  · rfl
  · trivial

theorem Private.trans {t : Thread} {a b c : Tenancy} (first : Private t a b)
    (second : Private t b c) : Private t a c := by
  unfold Private at *
  split
  · exact ⟨second.1.trans first.1, second.2.1.trans first.2.1, fun h => second.2.2 (first.2.2 h)⟩
  · exact Eq.trans second first
  · trivial

end Tenancy

def tenancyDiscipline : Discipline Effect Tenancy Thread where
  inv := Tenancy.Valid
  keeps t s s' := s.Onward s' ∧ Tenancy.Private t s s'
  keeps_refl t s := ⟨.refl s, .refl t s⟩
  keeps_trans _ _ _ _ first second := ⟨first.1.trans second.1, first.2.trans second.2⟩
  ok _ _ _ := True
  pledge _ _ _ := True

namespace Tenancy

variable {s s' : Tenancy} {t : Thread} {c : Effect} {turn : Turn} {r : Except PyExc c.Answer}

section drop

variable (call : Option Nat) (drops : Bool) (s : Tenancy)

@[simp] theorem drop_minter : (s.drop call drops).minter = s.minter := by
  unfold drop
  split <;> rfl

@[simp] theorem drop_lease : (s.drop call drops).lease = s.lease := by
  unfold drop
  split <;> rfl

@[simp] theorem drop_launching : (s.drop call drops).launching = s.launching := by
  unfold drop
  split <;> rfl

@[simp] theorem drop_built : (s.drop call drops).built = s.built := by
  unfold drop
  split <;> rfl

theorem drop_dropped {other : Nat} (h : s.dropped other = true) :
    (s.drop call drops).dropped other = true := by
  unfold drop
  split
  · simp only [Function.update_apply]
    split
    · rfl
    · exact h
  · exact h

theorem drop_self (own : Nat) : (s.drop (some own) true).dropped own = true := by
  simp [drop]

end drop

/-- Everything is as before that the invariant looks at, but for leases that are gone and
tokens that are dropped. -/
structure Unmoved (s s' : Tenancy) : Prop where
  tasks : s'.service.tasks = s.service.tasks
  tokens : s'.service.tokens = s.service.tokens
  calls : s'.service.calls = s.service.calls
  minter : s'.minter = s.minter
  lease : s'.lease = s.lease
  launching : s'.launching = s.launching
  dropped : ∀ call, s.dropped call = true → s'.dropped call = true
  locks : ∀ subreddit token, s'.service.redis.get (lockKey subreddit) = some token →
    s.service.redis.get (lockKey subreddit) = some token

theorem Unmoved.valid (h : s.Unmoved s') (hs : s.Valid) : s'.Valid := by
  obtain ⟨tasks, tokens, calls, minter, lease, launching, dropped, locks⟩ := h
  refine ⟨?_, ?_, ?_, ?_, ?_, ?_, ?_, ?_, ?_⟩
  · rw [minter, tokens]
    exact hs.minted
  · rw [lease, minter, calls]
    exact hs.own
  · rw [calls, launching, tasks]
    exact hs.unborn
  · rw [launching, tasks]
    exact hs.launching
  · rw [tasks]
    exact hs.orphan
  · rw [tasks]
    exact hs.roles
  · rw [tasks, lease]
    exact hs.run
  · rw [tasks, lease]
    exact hs.runner
  · rw [lease, launching, tasks]
    intro call key token held kept stored
    obtain ⟨-, instanceId, subreddit, -, rfl⟩ := hs.own call key token held
    refine hs.carried call _ token held ?_ (locks _ _ stored)
    exact Bool.eq_false_iff.mpr fun was => by simp [dropped call was] at kept

theorem Unmoved.onward (h : s.Unmoved s') (hs : s.Valid) : s.Onward s' := by
  obtain ⟨tasks, tokens, calls, minter, lease, launching, dropped, locks⟩ := h
  refine ⟨?_, ?_, ?_, dropped, ?_, ?_⟩
  · rw [minter]
    exact fun _ _ h => h
  · rw [lease]
    exact fun _ _ h => h
  · intro call key token held gone stored
    obtain ⟨-, instanceId, subreddit, -, rfl⟩ := hs.own call key token held
    exact gone (locks _ _ stored)
  · rw [calls]
    exact fun _ _ h => h
  · rw [tasks]
    exact fun _ _ h => h

theorem Unmoved.private (h : s.Unmoved s') (built : s'.built = s.built) (t : Thread) :
    Private t s s' := by
  unfold Private
  split
  · exact ⟨by rw [h.lease], by rw [h.launching], by rw [h.tasks]; exact fun h => h⟩
  · rw [built]
  · trivial

/-- The service's part of an answer, and what is recorded of it. -/
theorem answer_service (answered : Tenancy.answer t c turn s = some (r, s')) :
    ∃ after, s.service.answer true t c turn = some (r, after) ∧
      s' = { (s.record t c r after).drop t.call (t.drops (s.builtOf t) c r) with
        service := after } := by
  unfold Tenancy.answer at answered
  split at answered
  · cases answered
  · obtain ⟨⟨r', after⟩, given, same⟩ := Option.map_eq_some_iff.mp answered
    cases same
    exact ⟨after, given, rfl⟩

end Tenancy

theorem Service.taskAnswer_plain {call : Nat} {c : TaskEff} {turn : Turn}
    {r : Except PyExc c.Answer} {s s' : Service} {may : String → Permission → Prop}
    (plain : PlainEffect may (.task c)) (answered : Service.taskAnswer call c turn s = some (r, s')) :
    s'.tasks = s.tasks ∧ s'.tokens = s.tokens ∧ s'.calls = s.calls ∧ s'.redis = s.redis := by
  unfold Service.taskAnswer at answered
  split at answered
  case h_1 | h_2 | h_3 => cases plain
  all_goals
    try split at answered
    all_goals
      cases answered
      try exact ⟨rfl, rfl, rfl, rfl⟩

/-- A plain effect leaves tasks and calls alone, and no lease is acquired. -/
theorem Service.answer_plain {faulty : Bool} {t : Thread} {c : Effect} {turn : Turn}
    {r : Except PyExc c.Answer} {s s' : Service} {may : String → Permission → Prop}
    (plain : PlainEffect may c) (answered : Service.answer faulty t c turn s = some (r, s')) :
    s'.tasks = s.tasks ∧ s'.tokens = s.tokens ∧ s'.calls = s.calls ∧
      ∀ subreddit token, s'.redis.get (lockKey subreddit) = some token →
        s.redis.get (lockKey subreddit) = some token := by
  have executed (cmd : RedisCmd) (allowed : RegistryCommand may cmd ∨ HolderCommand cmd)
      (subreddit token : String)
      (stored : (s.execute t cmd).redis.get (lockKey subreddit) = some token) :
      s.redis.get (lockKey subreddit) = some token := by
    rw [Service.execute_redis] at stored
    rcases allowed with registry | holder
    · simpa only [Store.get, registry.lock_kept] using stored
    · cases holder with
      | refresh sub own ttl =>
          simp only [RedisCmd.run, Script.run] at stored
          split at stored
          · by_cases same : lockKey subreddit = lockKey sub
            · rw [same] at stored ⊢
              have expired : (s.redis.expire (lockKey sub) ttl).2.get (lockKey sub) =
                  s.redis.get (lockKey sub) ∨ _ := Store.get_expire ttl
              rcases expired with kept | lost
              · exact kept.symm.trans stored
              · simp [lost] at stored
            · simpa only [Store.get, Store.entry_expire_of_ne ttl same] using stored
          · exact stored
      | release sub own =>
          simp only [RedisCmd.run, Script.run] at stored
          split at stored
          · simp only [Store.get_del] at stored
            split at stored
            · cases stored
            · exact stored
          · exact stored
  unfold Service.answer at answered
  split at answered
  case h_1 cmd =>
      cases answered
      exact ⟨by simp, by simp, by simp, executed cmd plain⟩
  case h_3 cmd e =>
      split at answered <;> cases answered
      exact ⟨by simp, by simp, by simp, executed cmd plain⟩
  case h_7 =>
      split at answered
      · split at answered <;> cases answered
        exact ⟨rfl, rfl, rfl, fun _ _ h => h⟩
      · cases answered
  case h_13 e =>
      obtain ⟨tasks, tokens, calls, redis⟩ := taskAnswer_plain plain answered
      exact ⟨tasks, tokens, calls, fun _ _ stored => redis ▸ stored⟩
  all_goals
    try split at answered
    all_goals first | cases answered | cases plain
    all_goals exact ⟨rfl, rfl, rfl, fun _ _ h => h⟩

namespace Tenancy

variable {s s' : Tenancy} {t : Thread} {c : Effect} {turn : Turn} {r : Except PyExc c.Answer}
  {may : String → Permission → Prop}

/-- Nothing but a dropped token is recorded about a plain effect. -/
theorem record_plain (plain : PlainEffect may c) (after : Service) : s.record t c r after = s := by
  unfold record
  split
  · cases plain
  · rcases plain with registry | holder
    · cases registry
    · cases holder
  · cases plain
  · cases plain
  · rfl

theorem answer_plain (plain : PlainEffect may c) (answered : Tenancy.answer t c turn s = some (r, s')) :
    s.Unmoved s' ∧ s'.built = s.built := by
  obtain ⟨after, given, rfl⟩ := answer_service answered
  obtain ⟨tasks, tokens, calls, locks⟩ := Service.answer_plain plain given
  rw [record_plain plain after]
  exact ⟨⟨tasks, tokens, calls, by simp, by simp, by simp, fun call h => drop_dropped _ _ _ h,
    locks⟩, by simp⟩

end Tenancy

/-- The roles whose tasks stand between a call and its worker. -/
def Role.main (role : Role) : Bool := role = .run || role = .runner

namespace Tenancy

variable {s : Tenancy} {call : Nat} {role : Role} {state : TaskState}

/-- A task moves on. A main one existed before, and when it ends the lease has another carrier,
or is gone, or its token is dropped. -/
theorem setTask_valid (call : Nat) (role : Role) (state : TaskState) (drops : Bool) (hs : s.Valid) (there : state ≠ .absent)
    (named : ∀ task, state = .created task → task.role = role)
    (old : role.main = true → s.service.tasks call role ≠ .absent ∧ (∀ task, state ≠ .created task))
    (ends : role.main = true → state.pending = false →
      (s.drop (some call) drops).dropped call = true ∨
      (role = .run ∧ s.service.tasks call .runner ≠ .absent) ∨
      ∀ key token, s.lease call = some (key, token) → s.service.redis.get key ≠ some token) :
    let s' : Tenancy :=
      { s.drop (some call) drops with service := s.service.setTask call role state }
    s'.Valid ∧ s.Onward s' ∧ ∀ t, Private t s s' := by
  -- the main tasks of a call, before and after
  have absent {call' : Nat} {role' : Role} (isMain : role'.main = true)  :
      (s.service.setTask call role state).tasks call' role' = .absent ↔
        s.service.tasks call' role' = .absent := by
    rw [Service.setTask_tasks]
    split
    · rename_i same
      obtain ⟨rfl, rfl⟩ := same
      exact ⟨fun h => absurd h there, fun h => absurd h (old isMain).1⟩
    · rfl
  have created {call' : Nat} {role' : Role} (isMain : role'.main = true) {task : Task}
      (h : (s.service.setTask call role state).tasks call' role' = .created task) :
      s.service.tasks call' role' = .created task := by
    rw [Service.setTask_tasks] at h
    split at h
    · rename_i same
      obtain ⟨rfl, rfl⟩ := same
      exact absurd h ((old isMain).2 task)
    · exact h
  intro s'
  refine ⟨⟨?_, ?_, ?_, ?_, ?_, ?_, ?_, ?_, ?_⟩, ?_, fun t => ?_⟩
  · simpa [s', Service.setTask] using hs.minted
  · simpa [s', Service.setTask] using hs.own
  · intro call' new
    simp only [s', drop_launching]
    exact ⟨(hs.unborn call' new).1, (absent rfl).mpr (hs.unborn call' new).2⟩
  · intro call' launching
    exact (absent rfl).mpr (hs.launching call' (by simpa [s'] using launching))
  · intro call' none
    exact (absent rfl).mpr (hs.orphan call' ((absent rfl).mp none))
  · intro call' role' task is
    simp only [s', Service.setTask_tasks] at is
    split at is
    · rename_i same
      rw [same.2]
      exact named task is
    · exact hs.roles call' role' task is
  · intro call' task is
    simpa [s'] using hs.run call' task (created rfl is)
  · intro call' task is
    simpa [s'] using hs.runner call' task (created rfl is)
  · intro call' key token held kept stored
    simp only [s', drop_lease, drop_launching] at held ⊢
    have stored : s.service.redis.get key = some token := stored
    have kept₀ : s.dropped call' = false :=
      Bool.eq_false_iff.mpr fun was => by simp [s', drop_dropped _ _ _ was] at kept
    have was := hs.carried call' key token held kept₀ stored
    by_cases here : call' = call
    · subst here
      cases role with
      | watcher | stream | lock => simpa [Service.setTask_tasks] using was
      | run =>
          simp only [Service.setTask_tasks, and_false, and_self, reduceCtorEq, if_false, if_true]
          rcases was with launching | ⟨none, -⟩ | pending
          · exact .inl launching
          · by_cases pending : state.pending = true
            · exact .inr (.inl ⟨none, pending⟩)
            · rcases ends rfl (by simpa using pending) with drop | ⟨-, there⟩ | gone
              · simp [s', drop] at kept
              · exact absurd none there
              · exact absurd stored (gone key token held)
          · exact .inr (.inr pending)
      | runner =>
          simp only [Service.setTask_tasks, and_false, and_self, reduceCtorEq, if_false, if_true]
          by_cases pending : state.pending = true
          · exact .inr (.inr pending)
          · rcases ends rfl (by simpa using pending) with drop | ⟨other, -⟩ | gone
            · simp [s', drop] at kept
            · cases other
            · exact absurd stored (gone key token held)
    · simpa [Service.setTask_tasks, here] using was
  · refine ⟨?_, ?_, fun _ _ _ _ gone => gone, fun _ h => drop_dropped _ _ _ h, fun _ _ h => h, ?_⟩
    · simp [s']
    · simp [s']
    · intro call' role' was
      simp only [s', Service.setTask_tasks]
      split
      · exact there
      · exact was
  · unfold Private
    split
    · exact ⟨by simp [s'], by simp [s'], (absent rfl).mpr⟩
    · simp [s']
    · trivial

/-! ## The steps on the way of a token -/

section steps

variable {s' : Tenancy} {turn : Turn}

theorem answer_ownerToken {instanceId : String} {r : Except PyExc String} (hs : s.Valid)
    (answered : Tenancy.answer (.start call) (.ownerToken instanceId) turn s = some (r, s')) :
    s'.Valid ∧ s.Onward s' ∧ (∀ t, Private t s s') ∧
      ∃ token, r = .ok token ∧ s'.minter token = some call := by
  obtain ⟨after, given, rfl⟩ := answer_service answered
  cases turn with
  | named text =>
      simp only [Service.answer] at given
      split at given
      · cases given
      rename_i new
      cases given
      have other {token : String} {call' : Nat} (h : s.minter token = some call') :
          token ≠ instanceId ++ ":" ++ text := by
        rintro rfl
        exact new (hs.minted _ _ h)
      refine ⟨⟨?_, ?_, hs.unborn, hs.launching, hs.orphan, hs.roles, hs.run, hs.runner, hs.carried⟩,
        ⟨?_, fun _ _ h => h, fun _ _ _ _ h => h, fun _ h => h, fun _ _ h => h, fun _ _ h => h⟩,
        fun t => ?_, _, rfl, by simp [record, drop, Thread.drops]⟩
      · intro token call' h
        simp only [record, drop, Thread.drops, Function.update_apply] at h ⊢
        split
        · rfl
        · rename_i ne
          exact hs.minted token call' (by simpa [ne] using h)
      · intro call' key token held
        obtain ⟨minted, rest⟩ := hs.own call' key token held
        refine ⟨?_, rest⟩
        simpa [record, drop, Thread.drops, Function.update_of_ne (other minted)] using minted
      · intro token call' h
        simpa [record, drop, Thread.drops, Function.update_of_ne (other h)] using h
      · unfold Private
        split
        · exact ⟨rfl, rfl, fun h => h⟩
        · rfl
        · trivial
  | _ => cases given

/-- The command of `acquire_lock`: nothing happens, or the free key takes the token. -/
theorem service_setNx {service after : Service} {key token : String} {r : Except PyExc Bool}
    (given : service.answer true t (.redis (.setNx key token (some 60))) turn = some (r, after)) :
    (after = service ∧ r ≠ .ok true) ∨
      (service.redis.get key = none ∧ (r = .ok true ∨ ∃ e, r = .error e) ∧
        after = { service with redis := service.redis.setEx key token 60 }) := by
  have executed : service.execute t (.setNx key token (some 60)) = { service with
      redis := ((RedisCmd.setNx key token (some 60)).run service.redis).2 } := rfl
  have ran : (RedisCmd.setNx key token (some 60)).run service.redis =
      if (service.redis.get key).isSome then (.ok false, service.redis)
      else (.ok true, service.redis.setEx key token 60) := rfl
  by_cases taken : (service.redis.get key).isSome = true
  · refine .inl ?_
    cases turn with
    | answered | raisedAfter e =>
        simp only [Service.answer, executed, ran, if_pos taken] at given
        cases given
        exact ⟨rfl, nofun⟩
    | raised e =>
        cases given
        exact ⟨rfl, nofun⟩
    | named | worker => cases given
  · have free : service.redis.get key = none := by simpa using taken
    cases turn with
    | answered =>
        simp only [Service.answer, executed, ran, if_neg taken] at given
        cases given
        exact .inr ⟨free, .inl rfl, rfl⟩
    | raisedAfter e =>
        simp only [Service.answer, executed, ran, if_neg taken] at given
        cases given
        exact .inr ⟨free, .inr ⟨e, rfl⟩, rfl⟩
    | raised e =>
        cases given
        exact .inl ⟨rfl, nofun⟩
    | named | worker => cases given

/-- The acquisition, by a call that has made its token and holds nothing yet. -/
theorem answer_acquire {instanceId subreddit token : String} {r : Except PyExc Bool}
    (hs : s.Valid) (minted : s.minter token = some call) (free : s.lease call = none)
    (idle : s.launching call = false) (run : s.service.tasks call .run = .absent)
    (known : s.service.calls call = some (instanceId, subreddit))
    (answered : Tenancy.answer (.start call)
      (.redis (.setNx (lockKey subreddit) token (some 60))) turn s = some (r, s')) :
    s'.Valid ∧ s.Onward s' ∧ (∀ t, t ≠ .start call → Private t s s') ∧
      s'.service.tasks call .run = .absent ∧
      if r = .ok true then
        s'.lease call = some (lockKey subreddit, token) ∧ s'.launching call = true
      else s'.launching call = false := by
  obtain ⟨after, given, same⟩ := answer_service answered
  rcases service_setNx given with ⟨rfl, failed⟩ | ⟨unheld, reply, rfl⟩
  · have launching : s'.launching = s.launching := by
      subst same
      rw [show s.launching = Function.update s.launching call false by
        rw [← idle, Function.update_eq_self]]
      cases r with
      | ok acquired =>
          cases acquired with
          | true => exact absurd rfl failed
          | false => simp [record]
      | error e => simp [record]
    have moved : s.Unmoved s' := by
      refine ⟨?_, ?_, ?_, ?_, ?_, launching, ?_, ?_⟩ <;> subst same
      · rfl
      · rfl
      · rfl
      · simp [record]
      · have never : ¬ (s.service.redis.get (lockKey subreddit) = none ∧
            s.service.redis.get (lockKey subreddit) = some token) := by
          rintro ⟨none, some⟩
          simp [none] at some
        simp [record, never]
      · intro call' h
        exact drop_dropped _ _ _ h
      · exact fun _ _ h => h
    refine ⟨moved.valid hs, moved.onward hs, fun t _ => moved.private ?_ t, ?_, ?_⟩
    · subst same
      simp [record]
    · rw [moved.tasks]
      exact run
    · rw [if_neg failed, launching]
      exact idle
  · have lease : s'.lease = Function.update s.lease call (some (lockKey subreddit, token)) := by
      subst same
      simp [record, unheld, Store.get_setEx]
    have launching : s'.launching = Function.update s.launching call (r = .ok true) := by
      subst same
      rcases reply with rfl | ⟨e, rfl⟩ <;> simp [record]
    have minter : s'.minter = s.minter := by
      subst same
      simp [record]
    have built : s'.built = s.built := by
      subst same
      simp [record]
    have service : s'.service = { s.service with
        redis := s.service.redis.setEx (lockKey subreddit) token 60 } := by rw [same]
    have dropped : (∀ call', s.dropped call' = true → s'.dropped call' = true) ∧
        (r ≠ .ok true → s'.dropped call = true) := by
      subst same
      refine ⟨fun call' h => drop_dropped _ _ _ h, fun failed => ?_⟩
      obtain ⟨e, rfl⟩ := reply.resolve_left failed
      exact drop_self _ _
    -- a lease of another call has another token, so it is not the one stored now
    have others {call' : Nat} (ne : call' ≠ call) {key' token' : String}
        (held : s.lease call' = some (key', token'))
        (stored : s'.service.redis.get key' = some token') :
        s.service.redis.get key' = some token' := by
      rw [service, Store.get_setEx] at stored
      split at stored
      · cases stored
        rw [(hs.own call' _ _ held).1] at minted
        exact absurd (Option.some.inj minted) ne
      · exact stored
    have ofOther {call' : Nat} {x : String × String} (h : s.lease call' = some x) :
        s'.lease call' = some x := by
      have ne : call' ≠ call := by
        rintro rfl
        simp [free] at h
      rw [lease, Function.update_of_ne ne, h]
    refine ⟨⟨?_, ?_, ?_, ?_, ?_, ?_, ?_, ?_, ?_⟩, ⟨?_, fun _ _ => ofOther, ?_, dropped.1, ?_, ?_⟩,
      ?_, ?_, ?_⟩
    · rw [minter, service]
      exact hs.minted
    · intro call' key' token' held
      rw [minter, service]
      by_cases ne : call' = call
      · subst ne
        rw [lease, Function.update_self] at held
        cases held
        exact ⟨minted, instanceId, subreddit, known, rfl⟩
      · rw [lease, Function.update_of_ne ne] at held
        exact hs.own call' key' token' held
    · intro call' new
      rw [service] at new ⊢
      have ne : call' ≠ call := by
        rintro rfl
        simp [known] at new
      rw [launching, Function.update_of_ne ne]
      exact hs.unborn call' new
    · intro call' launched
      rw [service]
      by_cases ne : call' = call
      · subst ne
        exact run
      · rw [launching, Function.update_of_ne ne] at launched
        exact hs.launching call' launched
    · rw [service]
      exact hs.orphan
    · rw [service]
      exact hs.roles
    · intro call' task is
      rw [service] at is
      obtain ⟨i, id, sub, token', rfl, held⟩ := hs.run call' task is
      exact ⟨i, id, sub, token', rfl, ofOther held⟩
    · intro call' task is
      rw [service] at is
      obtain ⟨i, sub, token', rfl, held⟩ := hs.runner call' task is
      exact ⟨i, sub, token', rfl, ofOther held⟩
    · intro call' key' token' held kept stored
      by_cases ne : call' = call
      · subst ne
        by_cases done : r = .ok true
        · exact .inl (by simp [launching, done])
        · simp [dropped.2 done] at kept
      · rw [lease, Function.update_of_ne ne] at held
        rw [launching, Function.update_of_ne ne]
        have was : s.dropped call' = false :=
          Bool.eq_false_iff.mpr fun h => by simp [dropped.1 call' h] at kept
        have before := hs.carried call' key' token' held was (others ne held stored)
        rwa [service]
    · rw [minter]
      exact fun _ _ h => h
    · intro call' key' token' held gone stored
      have ne : call' ≠ call := by
        rintro rfl
        simp [free] at held
      exact gone (others ne held stored)
    · rw [service]
      exact fun _ _ h => h
    · rw [service]
      exact fun _ _ h => h
    · intro t other
      unfold Private
      split
      · rename_i call'
        have ne : call' ≠ call := fun same => other (congrArg _ same)
        rw [lease, launching, service]
        exact ⟨by simp [ne], by simp [ne], fun h => h⟩
      · rw [built]
      · trivial
    · rw [service]
      exact run
    · split
      · rename_i done
        exact ⟨by simp [lease], by simp [launching, done]⟩
      · rename_i failed
        simp [launching, failed]

theorem taskAnswer_createLocal {service after : Service} {instanceId streamId : String} {task : Task}
    {r : Except PyExc Bool}
    (given : service.taskAnswer call (.createLocal instanceId streamId task) turn = some (r, after)) :
    (after = service ∧ r ≠ .ok true) ∨
      (r = .ok true ∧ service.tasks call task.role = .absent ∧ ∃ locals,
        after = { service.setTask call task.role (.created task) with locals := locals }) := by
  cases turn with
  | answered =>
      simp only [Service.taskAnswer] at given
      split at given
      · cases given
        exact .inl ⟨rfl, nofun⟩
      · rename_i none
        cases given
        exact .inr ⟨rfl, none, _, rfl⟩
      · cases given
  | raised e =>
      simp only [Service.taskAnswer] at given
      split at given <;> cases given
      exact .inl ⟨rfl, nofun⟩
  | named | raisedAfter | worker => cases given

/-- The end of the launch: the run has the token, or nobody has it any more. -/
theorem answer_createLocal {instanceId streamId subreddit token : String} {r : Except PyExc Bool}
    (hs : s.Valid) (held : s.lease call = some (lockKey subreddit, token))
    (answered : Tenancy.answer (.start call) (.task (.createLocal instanceId streamId
      (.run instanceId streamId subreddit (some token)))) turn s = some (r, s')) :
    s'.Valid ∧ s.Onward s' ∧ (∀ t, t ≠ .start call → Private t s s') ∧ s'.launching call = false := by
  obtain ⟨after, given, same⟩ := answer_service answered
  have launching : s'.launching = Function.update s.launching call false := by
    subst same
    simp [record]
  have lease : s'.lease = s.lease := by
    subst same
    simp [record]
  have minter : s'.minter = s.minter := by
    subst same
    simp [record]
  have built : s'.built = s.built := by
    subst same
    simp [record]
  have dropped : (∀ call', s.dropped call' = true → s'.dropped call' = true) ∧
      (r ≠ .ok true → s'.dropped call = true) := by
    subst same
    refine ⟨fun call' h => drop_dropped _ _ _ h, fun failed => ?_⟩
    cases r with
    | ok created =>
        cases created with
        | true => exact absurd rfl failed
        | false => exact drop_self _ _
    | error e => exact drop_self _ _
  have service : s'.service = after := by rw [same]
  have stable : after.tokens = s.service.tokens ∧ after.calls = s.service.calls ∧
      after.redis = s.service.redis := by
    rcases taskAnswer_createLocal given with ⟨rfl, -⟩ | ⟨-, -, locals, rfl⟩ <;> exact ⟨rfl, rfl, rfl⟩
  have others {call' : Nat} {role : Role} (other : ¬ (call' = call ∧ role = .run)) :
      after.tasks call' role = s.service.tasks call' role := by
    rcases taskAnswer_createLocal given with ⟨rfl, -⟩ | ⟨-, -, locals, rfl⟩
    · rfl
    · exact (Service.setTask_tasks ..).trans (if_neg other)
  have own : (after.tasks call .run = s.service.tasks call .run ∧ s'.dropped call = true) ∨
      (s.service.tasks call .run = .absent ∧ after.tasks call .run =
        .created (.run instanceId streamId subreddit (some token))) := by
    rcases taskAnswer_createLocal given with ⟨rfl, failed⟩ | ⟨-, none, locals, rfl⟩
    · exact .inl ⟨rfl, dropped.2 failed⟩
    · exact .inr ⟨none, (Service.setTask_tasks ..).trans (if_pos ⟨rfl, rfl⟩)⟩
  have known : s.service.calls call ≠ none := by
    obtain ⟨-, i, sub, known, -⟩ := hs.own call _ _ held
    simp [known]
  refine ⟨⟨?_, ?_, ?_, ?_, ?_, ?_, ?_, ?_, ?_⟩, ⟨?_, ?_, ?_, dropped.1, ?_, ?_⟩, ?_,
    by simp [launching]⟩
  · rw [minter, service, stable.1]
    exact hs.minted
  · rw [lease, minter, service, stable.2.1]
    exact hs.own
  · intro call' new
    rw [service, stable.2.1] at new
    have ne : call' ≠ call := fun same => known (same ▸ new)
    rw [launching, Function.update_of_ne ne, service, others fun same => ne same.1]
    exact hs.unborn call' new
  · intro call' launched
    have ne : call' ≠ call := by
      rintro rfl
      simp [launching] at launched
    rw [launching, Function.update_of_ne ne] at launched
    rw [service, others fun same => ne same.1]
    exact hs.launching call' launched
  · intro call' none
    rw [service] at none ⊢
    rw [others fun same => by cases same.2]
    by_cases ne : call' = call
    · subst ne
      rcases own with ⟨kept, -⟩ | ⟨was, -⟩
      · exact hs.orphan call' (kept ▸ none)
      · exact hs.orphan call' was
    · exact hs.orphan call' (others (fun same => ne same.1) ▸ none)
  · intro call' role task is
    rw [service] at is
    by_cases here : call' = call ∧ role = .run
    · obtain ⟨rfl, rfl⟩ := here
      rcases own with ⟨kept, -⟩ | ⟨-, made⟩
      · exact hs.roles call' .run task (kept ▸ is)
      · rw [made] at is
        cases is
        rfl
    · exact hs.roles call' role task (others here ▸ is)
  · intro call' task is
    rw [service] at is
    rw [lease]
    by_cases ne : call' = call
    · subst ne
      rcases own with ⟨kept, -⟩ | ⟨-, made⟩
      · exact hs.run call' task (kept ▸ is)
      · rw [made] at is
        cases is
        exact ⟨_, _, _, _, rfl, held⟩
    · exact hs.run call' task (others (fun same => ne same.1) ▸ is)
  · intro call' task is
    rw [service, others fun same => by cases same.2] at is
    rw [lease]
    exact hs.runner call' task is
  · intro call' key token' held' kept stored
    rw [lease] at held'
    rw [service, stable.2.2] at stored
    have was : s.dropped call' = false :=
      Bool.eq_false_iff.mpr fun h => by simp [dropped.1 call' h] at kept
    rw [service, others fun same => by cases same.2]
    by_cases ne : call' = call
    · subst ne
      rcases own with ⟨-, drop⟩ | ⟨none, made⟩
      · simp [drop] at kept
      · exact .inr (.inl ⟨hs.orphan call' none, by rw [made]; rfl⟩)
    · rw [launching, Function.update_of_ne ne, others fun same => ne same.1]
      exact hs.carried call' key token' held' was stored
  · rw [minter]
    exact fun _ _ h => h
  · rw [lease]
    exact fun _ _ h => h
  · rw [service, stable.2.2]
    exact fun _ _ _ _ gone => gone
  · rw [service, stable.2.1]
    exact fun _ _ h => h
  · intro call' role was
    rw [service]
    by_cases here : call' = call ∧ role = .run
    · obtain ⟨rfl, rfl⟩ := here
      rcases own with ⟨kept, -⟩ | ⟨none, -⟩
      · rwa [kept]
      · exact absurd none was
    · rwa [others here]
  · intro t other
    unfold Private
    split
    · rename_i call'
      have ne : call' ≠ call := fun same => other (congrArg _ same)
      rw [lease, launching, service, Function.update_of_ne ne, others fun same => ne same.1]
      exact ⟨rfl, rfl, fun h => h⟩
    · rw [built]
    · trivial

theorem answer_create {owner : Role} {task : Task} {r : Except PyExc Unit}
    (answered : Tenancy.answer (.task call owner) (.task (.create task)) turn s = some (r, s')) :
    r = .ok () ∧ s.service.tasks call task.role = .absent ∧
      s' = { s with service := s.service.setTask call task.role (.created task) } := by
  obtain ⟨after, given, rfl⟩ := answer_service answered
  cases turn with
  | answered =>
      simp only [Service.answer, Service.taskAnswer, Thread.call, Option.getD_some] at given
      split at given
      · rename_i none
        cases given
        refine ⟨rfl, none, ?_⟩
        cases owner <;> rfl
      · cases given
  | raised | named | raisedAfter | worker => cases given

/-- A task beside the main ones. -/
theorem create_aside {owner : Role} {task : Task} {r : Except PyExc Unit} (hs : s.Valid)
    (beside : task.role.main = false)
    (answered : Tenancy.answer (.task call owner) (.task (.create task)) turn s = some (r, s')) :
    s'.Valid ∧ s.Onward s' ∧ ∀ t, Private t s s' := by
  obtain ⟨-, -, rfl⟩ := answer_create answered
  exact setTask_valid _ _ _ false hs nofun (fun _ same => by cases same; rfl)
    (fun isMain => by simp [beside] at isMain) fun isMain => by simp [beside] at isMain

/-- The run hands the token to its runner. -/
theorem create_runner {instanceId subreddit token : String} {r : Except PyExc Unit} (hs : s.Valid)
    (held : s.lease call = some (lockKey subreddit, token))
    (there : s.service.tasks call .run ≠ .absent)
    (answered : Tenancy.answer (.task call .run)
      (.task (.create (.runner instanceId subreddit (some token)))) turn s = some (r, s')) :
    s'.Valid ∧ s.Onward s' ∧ (∀ t, Private t s s') ∧ s'.service.tasks call .runner ≠ .absent := by
  obtain ⟨-, none, rfl⟩ := answer_create answered
  have others {call' : Nat} {role : Role} (other : ¬ (call' = call ∧ role = .runner)) :
      (s.service.setTask call .runner (.created (.runner instanceId subreddit (some token)))).tasks
        call' role = s.service.tasks call' role :=
    (Service.setTask_tasks ..).trans (if_neg other)
  have own : (s.service.setTask call .runner
      (.created (.runner instanceId subreddit (some token)))).tasks call .runner =
        .created (.runner instanceId subreddit (some token)) :=
    (Service.setTask_tasks ..).trans (if_pos ⟨rfl, rfl⟩)
  have ofRun {call' : Nat} : (s.service.setTask call .runner
      (.created (.runner instanceId subreddit (some token)))).tasks call' .run =
        s.service.tasks call' .run :=
    others fun same => by cases same.2
  simp only [Task.role]
  refine ⟨⟨hs.minted, hs.own, ?_, ?_, ?_, ?_, ?_, ?_, ?_⟩,
    ⟨fun _ _ h => h, fun _ _ h => h, fun _ _ _ _ h => h, fun _ h => h, fun _ _ h => h, ?_⟩,
    fun t => ?_, ?_⟩
  · intro call' new
    rw [ofRun]
    exact hs.unborn call' new
  · intro call' launched
    rw [ofRun]
    exact hs.launching call' launched
  · intro call' none
    rw [ofRun] at none
    have ne : call' ≠ call := fun same => there (same ▸ none)
    rw [others fun same => ne same.1]
    exact hs.orphan call' none
  · intro call' role task is
    by_cases here : call' = call ∧ role = .runner
    · obtain ⟨rfl, rfl⟩ := here
      rw [own] at is
      cases is
      rfl
    · exact hs.roles call' role task (others here ▸ is)
  · intro call' task is
    rw [ofRun] at is
    exact hs.run call' task is
  · intro call' task is
    by_cases ne : call' = call
    · subst ne
      rw [own] at is
      cases is
      exact ⟨_, _, _, rfl, held⟩
    · rw [others fun same => ne same.1] at is
      exact hs.runner call' task is
  · intro call' key token' held' kept stored
    by_cases ne : call' = call
    · subst ne
      exact .inr (.inr (by rw [own]; rfl))
    · rw [ofRun, others fun same => ne same.1]
      exact hs.carried call' key token' held' kept stored
  · intro call' role was
    by_cases here : call' = call ∧ role = .runner
    · obtain ⟨rfl, rfl⟩ := here
      exact absurd none was
    · rwa [others here]
  · unfold Private
    split
    · exact ⟨rfl, rfl, fun h => by rwa [ofRun]⟩
    · rfl
    · trivial
  · rw [own]
    exact nofun

theorem answer_getSerializer {topicName : String} {r : Except PyExc Unit} (hs : s.Valid)
    (answered : Tenancy.answer (.task call .runner) (.getSerializer topicName) turn s =
      some (r, s')) :
    s'.Valid ∧ s.Onward s' ∧ (∀ t, t ≠ .task call .runner → Private t s s') ∧
      match r with
      | .ok _ => s'.built call = true
      | .error _ => s'.dropped call = true := by
  obtain ⟨after, given, rfl⟩ := answer_service answered
  have same : after = s.service := by
    cases turn with
    | answered => cases given; rfl
    | raised e =>
        simp only [Service.answer] at given
        split at given <;> cases given
        rfl
    | named | raisedAfter | worker => cases given
  subst same
  have moved : s.Unmoved { (s.record (.task call .runner) (.getSerializer topicName) r
      s.service).drop (Thread.call (.task call .runner)) (Thread.drops (s.builtOf (.task call .runner))
        (.task call .runner) (.getSerializer topicName) r) with service := s.service } := by
    cases r with
    | ok _ => exact ⟨rfl, rfl, rfl, rfl, rfl, rfl, fun _ h => h, fun _ _ h => h⟩
    | error e =>
        exact ⟨rfl, rfl, rfl, rfl, rfl, rfl, fun _ h => drop_dropped (some call) true s h,
          fun _ _ h => h⟩
  refine ⟨moved.valid hs, moved.onward hs, fun t other => ?_, ?_⟩
  · unfold Private
    split
    · cases r with
      | ok _ => exact ⟨rfl, rfl, fun h => h⟩
      | error e => exact ⟨rfl, rfl, fun h => h⟩
    · rename_i call'
      have ne : call' ≠ call := fun same => other (by rw [same])
      cases r with
      | ok _ => exact Function.update_of_ne ne _ _
      | error e => rfl
    · trivial
  · cases r with
    | ok _ => simp [record]
    | error e => exact drop_self _ _

end steps

end Tenancy

end RedditKafka
