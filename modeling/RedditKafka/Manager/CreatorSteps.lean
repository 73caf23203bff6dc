import RedditKafka.Manager.Staffing
import RedditKafka.Manager.Tenancy

/-!
# The steps of a creator

What the commands of `start_stream` leave of the registrations, from the id that
it generates to the task that it creates, or to the deletion of what it has
registered.
-/
namespace RedditKafka
open Async Redis StreamRegistry StreamManager

variable {kafkaTopic : String} {t : Thread} {s s' : Service} {turn : Turn} {call : Nat}
  {streamId subreddit instanceId : String}

theorem unfailing_answer {c : Effect} {r : Except PyExc c.Answer}
    (answered : (unfailingMachine kafkaTopic).answer t c turn s = some (r, s')) :
    turn.proper = true ∧ Service.answer false t c turn s = some (r, s') := by
  simp only [unfailingMachine] at answered
  split at answered
  · exact ⟨‹_›, answered⟩
  · cases answered

/-- An exception that Redis and Postgres do not raise is a cancellation. -/
theorem cancelled_of_proper {e : PyExc} (proper : (e.isException || e.isInstance [.cancelledError]) = true)
    (raises : mayRaise false e = true) : e.isInstance [.cancelledError] = true := by
  simp only [mayRaise, Bool.false_or, Bool.not_eq_true'] at raises
  simpa [raises] using proper

/-- A command was executed, or its await was cancelled. -/
theorem unfailing_redis {c : RedisCmd} {r : Except PyExc c.Reply}
    (answered : (unfailingMachine kafkaTopic).answer t (.redis c) turn s = some (r, s')) :
    r = (c.run s.redis).1 ∧ s' = s.execute t c ∨
      (∃ e, r = .error e ∧ e.isInstance [.cancelledError] = true) ∧ (s' = s.execute t c ∨ s' = s) := by
  obtain ⟨proper, answered⟩ := unfailing_answer answered
  cases turn with
  | answered => cases answered; exact .inl ⟨rfl, rfl⟩
  | raised e =>
      simp only [Service.answer] at answered
      split at answered <;> cases answered
      exact .inr ⟨⟨e, rfl, cancelled_of_proper proper ‹_›⟩, .inr rfl⟩
  | raisedAfter e =>
      simp only [Service.answer] at answered
      split at answered <;> cases answered
      exact .inr ⟨⟨e, rfl, cancelled_of_proper proper ‹_›⟩, .inl rfl⟩
  | named | worker => cases answered

namespace Service

/-! ## From the id to the claim -/

/-- Ids get owners, and calls get known, once. -/
theorem older_step (hs : registrationDiscipline.inv s) {owner : String → Option String}
    {calls : Nat → Option (String × String)}
    (owners : ∀ id name, s.owner id = some name → owner id = some name)
    (known : ∀ call x, s.calls call = some x → calls call = some x) :
    registrationDiscipline.inv { s with owner := owner, calls := calls } ∧
      ∀ u, registrationDiscipline.keeps u s { s with owner := owner, calls := calls } := by
  refine ⟨⟨hs.1.unaltered (.refl _) owners (fun name id held => ?_) known rfl rfl rfl rfl,
    hs.2.moved rfl known (fun _ _ h => h) hs.2.failed hs.2.retired fun call new => ?_⟩, fun u =>
    ⟨⟨owners, known, fun _ _ h => h, fun _ _ h => h, fun _ _ _ h => h⟩, .of_eq u rfl rfl rfl fun _ _ => rfl⟩⟩
  · exact owners id name (hs.1.identity name id held)
  · refine hs.2.unused call (Option.eq_none_iff_forall_ne_some.mpr fun x is => ?_)
    cases (show calls call = none from new).symm.trans (known call x is)

/-- A generated id belongs to the subreddit of the call. -/
theorem uuid4_step (hs : registrationDiscipline.inv s)
    (known : s.calls call = some (instanceId, subreddit)) {r : Except PyExc String}
    (answered : Service.answer false (.start call) .uuid4 turn s = some (r, s')) :
    (registrationDiscipline.inv s' ∧ ∀ u, registrationDiscipline.keeps u s s') ∧
      ∃ id, r = .ok id ∧ s'.owner id = some subreddit := by
  cases turn with
  | named id =>
      simp only [Service.answer] at answered
      split at answered
      rotate_left
      · cases answered
      rename_i same unused
      cases same
      split at answered <;> cases answered
      simp only [known, Option.map_some, Option.getD_some]
      refine ⟨older_step hs (fun other name own => ?_) fun _ _ h => h, id, rfl, by simp⟩
      have ne : other ≠ id := by
        rintro rfl
        cases unused.symm.trans own
      exact (Function.update_of_ne ne _ _).trans own
  | answered | raised | raisedAfter | worker => cases answered

/-- A new identity is that of a generated id. -/
theorem identity_step (call : Nat) (hs : registrationDiscipline.inv s)
    (owned : s.owner streamId = some subreddit) :
    let s' := s.execute (.start call) (.setNx (identityKey subreddit) streamId none)
    registrationDiscipline.inv s' ∧ ∀ u, registrationDiscipline.keeps u s s' := by
  intro s'
  have noted : s.note (.start call) (.setNx (identityKey subreddit) streamId none) = s := by
    simp only [Service.note]
    split
    · rfl
    · unfold Service.noteClaim
      simp only
      rw [if_neg]
      cases s.calls call <;> simp
  rcases setNx_cases (identityKey subreddit) streamId s.redis with ⟨-, ran⟩ | ⟨-, ran⟩
  · have still : s' = s := by simp only [s', Service.execute, noted, ran]
    rw [still]
    exact ⟨hs, fun u => registrationDiscipline.keeps_refl u s⟩
  · have written : s' = { s with redis := s.redis.set (identityKey subreddit) streamId } := by
      simp only [s', Service.execute, noted, ran]
    rw [written]
    refine ⟨⟨hs.1.unaltered ⟨by simp, fun _ _ _ => rfl⟩ (fun _ _ h => h) (fun name id held => ?_)
      (fun _ _ h => h) rfl rfl rfl rfl, hs.2.moved rfl (fun _ _ h => h) (fun _ _ h => h) hs.2.failed
      hs.2.retired hs.2.unused⟩, fun u => ⟨⟨fun _ _ h => h, fun _ _ h => h, fun _ _ h => h,
      fun _ _ h => h, fun _ _ _ h => h⟩, .of_eq u rfl rfl rfl fun _ _ => rfl⟩⟩
    simp only [Store.get_set] at held
    split at held
    · rename_i same
      cases held
      rwa [(Layout.key_inj.mp same).2]
    · exact hs.1.identity name id held

/-- A creator claims its subreddit, or finds it taken. -/
theorem claim_step (hs : registrationDiscipline.inv s)
    (known : s.calls call = some (instanceId, subreddit)) (owned : s.owner streamId = some subreddit) :
    let s' := s.execute (.start call) (.setNx (subredditKey subreddit) streamId none)
    registrationDiscipline.inv s' ∧ (∀ u, u ≠ .start call → registrationDiscipline.keeps u s s') ∧
      (s.redis.get (subredditKey subreddit) = none → s'.claimant streamId = some call) ∧
      s'.tasks = s.tasks ∧ s'.retired = s.retired ∧ s'.home = s.home := by
  intro s'
  rcases setNx_cases (subredditKey subreddit) streamId s.redis with ⟨taken, ran⟩ | ⟨free, ran⟩
  · have still : s' = s := by
      simp only [s', Service.execute, Service.note, ran]
      rw [if_pos (by simpa [Option.isSome_iff_ne_none] using taken)]
    rw [still]
    exact ⟨hs, fun u _ => registrationDiscipline.keeps_refl u s, fun none => (taken none).elim, rfl, rfl, rfl⟩
  · have claimed : s' = { s with
        claimant := Function.update s.claimant streamId (some call)
        redis := s.redis.set (subredditKey subreddit) streamId } := by
      simp [s', Service.execute, Service.note, Service.noteClaim, ran, free, known]
    have unclaimed : s.claimant streamId = none := by
      refine Option.eq_none_iff_forall_ne_some.mpr fun other is => ?_
      obtain ⟨-, name, own, held⟩ := hs.1.claimed streamId other is
      cases owned.symm.trans own
      cases free.symm.trans held
    rw [claimed]
    refine ⟨⟨hs.1.claimFree owned free, hs.2.moved rfl (fun _ _ h => h) (fun _ _ h => h) hs.2.failed
      hs.2.retired hs.2.unused⟩, fun u other => ⟨⟨fun _ _ h => h, fun _ _ h => h, fun _ _ h => h,
      fun _ _ h => h, fun _ _ _ h => h⟩, ?_⟩, fun _ => by simp, rfl, rfl, rfl⟩
    cases u with
    | start call' =>
        refine ⟨fun id => ?_, rfl, fun none => ⟨none, rfl⟩⟩
        by_cases own : id = streamId
        · subst own
          simp only [Function.update_self, unclaimed, Option.some.injEq, reduceCtorEq, iff_false]
          rintro rfl
          exact other rfl
        · simp only [Function.update_of_ne own]
    | task => exact ⟨fun _ h => h, fun _ h => h⟩
    | stop | sweep => trivial

/-! ## From the metadata to the task -/

/-- The creator that holds the claim registers its stream. -/
theorem register_step (hs : registrationDiscipline.inv s) (waits : s.claimant streamId = some call)
    (known : s.calls call = some (instanceId, subreddit)) (owned : s.owner streamId = some subreddit)
    (homeless : s.home call = none) (config createdAt updatedAt : String) :
    let s' := s.execute (.start call) (.hset (metaKey streamId)
      (newMeta streamId subreddit config instanceId createdAt updatedAt))
    registrationDiscipline.inv s' ∧ (∀ u, u ≠ .start call → registrationDiscipline.keeps u s s') ∧
      s'.home call = some streamId ∧ s'.tasks = s.tasks ∧ s'.retired = s.retired := by
  intro s'
  obtain ⟨upheld, home, retired, failed, claimant⟩ :=
    hs.1.register waits known owned homeless config createdAt updatedAt
  have grows (call' : Nat) (id : String) (is : s.home call' = some id) : s'.home call' = some id := by
    have ne : call' ≠ call := by
      rintro rfl
      cases homeless.symm.trans is
    simp only [s', home, Function.update_of_ne ne, is]
  have tasks : s'.tasks = s.tasks := by simp [s']
  refine ⟨⟨upheld, hs.2.moved tasks (by simp [s']) grows ?_ ?_ fun call' new => ?_⟩,
    fun u other => ⟨⟨by simp [s'], by simp [s'], grows, by simp [s'], by simp [s']⟩, ?_⟩,
    by simp [s', home], tasks, retired⟩
  · simp only [s', failed]
    exact hs.2.failed
  · simp only [s', failed, retired]
    exact hs.2.retired
  · have ne : call' ≠ call := by
      rintro rfl
      simp [s', known] at new
    obtain ⟨none, unborn, kept⟩ := hs.2.unused call' (by simpa [s'] using new)
    simp only [s', home, Function.update_of_ne ne, retired]
    exact ⟨none, unborn, kept⟩
  · cases u with
    | start call' =>
        have ne : call' ≠ call := fun same => other (by rw [same])
        refine ⟨fun id => ?_, by simp [s', home, ne], fun none => ⟨by rw [tasks, none], by simp [s', retired]⟩⟩
        simp only [s', claimant]
        by_cases own : id = streamId
        · subst own
          simp only [Function.update_self, waits, reduceCtorEq, Option.some.injEq, false_iff]
          exact fun same => ne same.symm
        · rw [Function.update_of_ne own]
    | task => exact ⟨fun _ h => by rw [tasks, h], fun _ h => by rw [tasks, h]⟩
    | stop | sweep => trivial

/-- A deletion of a dead stream, or of the stream that the call itself has registered. -/
theorem delete_step (hs : registrationDiscipline.inv s) (owned : s.owner streamId = some subreddit)
    {status updatedAt purge : String}
    (mild : s.stray t (.redis (.eval (deleteScript streamId subreddit status updatedAt purge))) = false)
    (entitled : status ∈ DeadStreamCleanup.deadStatuses ∨
      ∃ call, t = .start call ∧ s.registered streamId = some call)
    (idle : ∀ call, t = .start call → s.tasks call .run = .absent ∧ s.calls call ≠ none) :
    let s' := s.execute t (.eval (deleteScript streamId subreddit status updatedAt purge))
    registrationDiscipline.inv s' ∧ ∀ u, u ≠ t → registrationDiscipline.keeps u s s' := by
  intro s'
  have noted : (s'.claimant = s.claimant ∧ s'.home = s.home ∧ s'.failed = s.failed) ∧
      ∀ call, s'.retired call = true → s.retired call = true ∨ t = .start call := by
    simp only [s', Service.execute, Service.note]
    split
    · cases t with
      | start own =>
          refine ⟨⟨rfl, rfl, rfl⟩, fun call => ?_⟩
          simp only [noteDelete, Function.update_apply, Thread.start.injEq]
          split
          · rename_i same
            exact fun _ => .inr same.symm
          · exact .inl
      | task | stop | sweep => exact ⟨⟨rfl, rfl, rfl⟩, fun _ => .inl⟩
    · exact ⟨⟨rfl, rfl, rfl⟩, fun _ => .inl⟩
  have grown (call : Nat) (was : s.retired call = true) : s'.retired call = true := by
    simp only [s', Service.execute, Service.note]
    split
    · cases t with
      | start own =>
          simp only [noteDelete, Function.update_apply]
          split
          · rfl
          · exact was
      | task | stop | sweep => exact was
    · exact was
  obtain ⟨⟨claimant, home, failed⟩, retired⟩ := noted
  refine ⟨⟨hs.1.delete owned mild entitled, hs.2.moved (by simp [s']) (by simp [s']) (by simp [home])
    ?_ (fun call is => ?_) fun call new => ?_⟩, fun u other =>
    ⟨⟨by simp [s'], by simp [s'], by simp [home], by simp [s'], by simp [s']⟩, ?_⟩⟩
  · rw [failed]
    exact hs.2.failed
  · rw [failed]
    rcases retired call is with was | own
    · exact hs.2.retired call was
    · exact .inr (.inr (idle call own).1)
  · obtain ⟨homeless, none, kept⟩ := hs.2.unused call (by simpa [s'] using new)
    refine ⟨by rw [home, homeless], none, Bool.eq_false_iff.mpr fun is => ?_⟩
    rcases retired call is with was | own
    · simp [kept] at was
    · exact (idle call own).2 (by simpa [s'] using new)
  · cases u with
    | start call =>
        refine ⟨fun id => by rw [claimant], by rw [home], fun none => ⟨by simpa [s'] using none, ?_⟩⟩
        rw [Bool.eq_iff_iff]
        exact ⟨fun is => (retired call is).resolve_right fun own => other own.symm, grown call⟩
    | task => exact ⟨fun _ h => by simpa [s'] using h, fun _ h => by simpa [s'] using h⟩
    | stop | sweep => trivial

/-! ## The creation of tasks -/

theorem setTask_upheld (hs : s.Upheld) (call : Nat) (role : Role) (state : TaskState) :
    (s.setTask call role state).Upheld :=
  hs.unaltered (.refl _) (fun _ _ h => h) hs.identity (fun _ _ h => h) rfl rfl rfl rfl

theorem placed_step {task : Task} (hs : registrationDiscipline.inv s) (placed : s.Placed call task)
    (run : task.role = .run → t = .start call) (stream : task.role = .stream → t = .task call .runner) :
    registrationDiscipline.inv (s.setTask call task.role (.created task)) ∧
      ∀ u, u ≠ t → registrationDiscipline.keeps u s (s.setTask call task.role (.created task)) := by
  refine ⟨⟨setTask_upheld hs.1 _ _ _, placed.staffed hs.2⟩, fun u other => ?_⟩
  refine setTask_keeps u (fun same => by cases same) (by rw [placed.absent]; rfl) (fun _ task' alive => ?_)
    (fun isRun _ same => other (same.trans (run isRun).symm))
    (fun isStream _ same => other (same.trans (stream isStream).symm))
  cases placed.absent.symm.trans alive

/-- The section of `start_stream` under the manager's lock. -/
theorem createLocal_step (hs : registrationDiscipline.inv s)
    (known : s.calls call = some (instanceId, subreddit)) (home : s.home call = some streamId)
    (kept : s.retired call = false) {lockToken : Option String} {r : Except PyExc Bool}
    (answered : Service.answer false (.start call)
      (.task (.createLocal instanceId streamId (.run instanceId streamId subreddit lockToken))) turn s =
        some (r, s')) :
    registrationDiscipline.inv s' ∧ ∀ u, u ≠ .start call → registrationDiscipline.keeps u s s' := by
  rcases Tenancy.taskAnswer_createLocal answered with ⟨rfl, -⟩ | ⟨-, free, locals, rfl⟩
  · exact ⟨hs, fun u _ => registrationDiscipline.keeps_refl u _⟩
  · have placed : s.Placed call (.run instanceId streamId subreddit lockToken) :=
      ⟨free, ⟨known, home⟩, fun _ => kept, nofun, nofun⟩
    obtain ⟨hs', keeps⟩ := placed_step hs placed (fun _ => rfl) fun is => by cases is
    have alike : (s.setTask call .run (.created (.run instanceId streamId subreddit lockToken))).Alike
        { s.setTask call .run (.created (.run instanceId streamId subreddit lockToken)) with
          locals := locals } :=
      ⟨.refl _, fun _ _ h => h, rfl, rfl, rfl, rfl, rfl, rfl, rfl, rfl⟩
    exact ⟨⟨alike.upheld hs'.1, alike.staffed hs'.2⟩, fun u other =>
      registrationDiscipline.keeps_trans _ _ _ _ (keeps u other) (alike.keeps u)⟩

/-- A task of the call creates another one. -/
theorem create_step {role : Role} {task : Task} (hs : registrationDiscipline.inv s)
    (about : task.about s call) (other : task.role ≠ .run)
    (runner : task.role = .runner → s.tasks call .run ≠ .absent)
    (stream : task.role = .stream → role = .runner ∧ ∃ task', s.tasks call .runner = .alive task')
    {r : Except PyExc Unit}
    (answered : Service.answer false (.task call role) (.task (.create task)) turn s = some (r, s')) :
    registrationDiscipline.inv s' ∧ (∀ u, u ≠ .task call role → registrationDiscipline.keeps u s s') ∧
      r = .ok () ∧ s.tasks call task.role = .absent ∧
      s' = s.setTask call task.role (.created task) := by
  cases turn with
  | answered =>
      simp only [Service.answer, Service.taskAnswer, Thread.call, Option.getD_some] at answered
      split at answered
      · rename_i free
        cases answered
        have placed : s.Placed call task :=
          ⟨free, about, fun is => (other is).elim, runner, fun is => (stream is).2⟩
        obtain ⟨hs', keeps⟩ := placed_step (t := .task call role) hs placed (fun is => (other is).elim)
          fun is => by rw [(stream is).1]
        exact ⟨hs', keeps, rfl, free, rfl⟩
      · cases answered
  | raised | named | raisedAfter | worker => cases answered

/-- A task begins, ends, or is cancelled before it begins. -/
theorem advanced_step {role : Role} {state : TaskState} (hs : registrationDiscipline.inv s)
    (advanced : s.Advanced call role state) :
    registrationDiscipline.inv (s.setTask call role state) ∧
      ∀ u, u ≠ .task call role ∨ (∀ task, s.tasks call role ≠ .alive task) →
        registrationDiscipline.keeps u s (s.setTask call role state) := by
  refine ⟨⟨setTask_upheld hs.1 _ _ _, advanced.staffed hs.2⟩, fun u other => ?_⟩
  obtain ⟨⟨old, pending⟩, moves, -, -⟩ := advanced
  refine setTask_keeps u ?_ ?_ (fun same => other.resolve_left (not_not.mpr same)) (fun isRun none => ?_)
    fun isStream none => ?_
  · rcases moves with ⟨task, -, rfl⟩ | ⟨r, rfl⟩ <;> exact fun same => by cases same
  · cases is : s.tasks call role <;> simp [is, TaskState.task] at pending <;> rfl
  · subst isRun
    simp [none, TaskState.task] at pending
  · subst isStream
    simp [none, TaskState.task] at pending

end Service
end RedditKafka
