import RedditKafka.Manager.ServiceFootprint

/-!
# What one step of the service changes

A step executes one Redis command of one thread, or leaves the stored data and
the records about it alone, apart from the passing of time.
-/
namespace RedditKafka
open Async Redis

abbrev ServiceConfig : Type 1 := Config Effect Effect.Answer PyExc Service Thread

/-- The next awaits of a thread, answered one after the other. -/
def Thread.turns (t : Thread) (answers : List Turn) : List (Action Thread Turn ServiceEvent) :=
  answers.map (.call t)

/-- Everything stays that is stored, or recorded about what is stored. -/
structure Service.Aside (s s' : Service) : Prop where
  redis : ∃ n, s'.redis = s.redis.elapse n
  claimant : s'.claimant = s.claimant
  registered : s'.registered = s.registered
  home : s'.home = s.home
  retired : s'.retired = s.retired
  failed : s'.failed = s.failed
  seen : s'.seen = s.seen
  stopper : s'.stopper = s.stopper
  history : s'.history = s.history
  requests : ∀ request streamId, s.requests request = some streamId →
    s'.requests request = some streamId

/-- The answers of a `start_stream` that goes through, up to its last status write. -/
def startTurns : List Turn :=
  [.answered, .named "s", .answered, .answered, .named "now", .named "now", .answered, .answered,
    .answered, .answered, .named "u", .answered, .answered, .named "now"]

/-- The answers of a `request_stop` that goes through. -/
def stopTurns : List Turn := [.answered, .named "now", .answered, .named "now", .answered]

namespace Service

variable {faulty : Bool} {kafkaTopic : String} {s s' : Service} {t : Thread}

theorem Aside.refl (s : Service) : s.Aside s := by
  constructor <;> first | rfl | exact ⟨0, rfl⟩ | exact fun _ _ h => h

/-- Steps of asyncio only change tasks. -/
theorem taskAnswer_aside {call : Nat} {e : TaskEff} {turn : Turn} {r : Except PyExc e.Answer}
    (answered : taskAnswer call e turn s = some (r, s')) : s.Aside s' := by
  unfold taskAnswer at answered
  split at answered
  case h_1 | h_2 =>
      split at answered <;> cases answered <;>
        constructor <;> first | rfl | exact ⟨0, rfl⟩ | exact fun _ _ h => h
  all_goals
    try split at answered
    all_goals
      cases answered
      try constructor <;> first | rfl | exact ⟨0, rfl⟩ | exact fun _ _ h => h

theorem answer_effect {e : Effect} {turn : Turn} {r : Except PyExc e.Answer}
    (answered : Service.answer faulty t e turn s = some (r, s')) :
    (∃ c, e = .redis c ∧ s' = s.execute t c) ∨ s.Aside s' := by
  unfold Service.answer at answered
  split at answered
  case h_1 c =>
      cases answered
      exact .inl ⟨c, rfl, rfl⟩
  case h_3 c e =>
      split at answered <;> cases answered
      exact .inl ⟨c, rfl, rfl⟩
  case h_7 =>
      split at answered
      · split at answered <;> cases answered
        right
        constructor <;> first | rfl | exact ⟨0, rfl⟩ | exact fun _ _ h => h
      · cases answered
  case h_8 =>
      simp only at answered
      split at answered <;> cases answered
      right
      constructor <;> first | rfl | exact ⟨0, rfl⟩ | exact fun _ _ h => h
  case h_13 => exact .inr (taskAnswer_aside answered)
  all_goals
    try split at answered
    all_goals
      cases answered
      try exact .inr (Aside.refl s)

/-! ## What is recorded about a command -/

section notes

variable (key value status streamId : String)

@[simp] theorem noteClaim_history : (s.noteClaim t key value).history = s.history := by
  unfold noteClaim
  split <;> [split <;> rfl; rfl]

@[simp] theorem noteClaim_registered : (s.noteClaim t key value).registered = s.registered := by
  unfold noteClaim
  split <;> [split <;> rfl; rfl]

@[simp] theorem noteClaim_stopper : (s.noteClaim t key value).stopper = s.stopper := by
  unfold noteClaim
  split <;> [split <;> rfl; rfl]

@[simp] theorem noteStatus_history : (s.noteStatus t key status).history =
    Function.update s.history key ((s.history key).map fun values => values ++ [status]) := by
  cases t <;> rfl

@[simp] theorem noteStatus_registered : (s.noteStatus t key status).registered = s.registered := by
  cases t <;> rfl

@[simp] theorem noteStatus_stopper : (s.noteStatus t key status).stopper = s.stopper := by
  cases t <;> rfl

@[simp] theorem noteMetadata_history : (s.noteMetadata t key streamId status).history =
    Function.update s.history key (some [status]) := by
  cases t <;> rfl

@[simp] theorem noteDelete_history :
    (s.noteDelete t key streamId).history = Function.update s.history key none := by
  cases t <;> rfl

@[simp] theorem noteDelete_registered :
    (s.noteDelete t key streamId).registered = Function.update s.registered streamId none := by
  cases t <;> rfl

@[simp] theorem noteDelete_stopper :
    (s.noteDelete t key streamId).stopper = Function.update s.stopper streamId none := by
  cases t <;> rfl

theorem statusMapping_lookup (status updatedAt : String) (instanceId : Option String) :
    (StreamRegistry.statusMapping status updatedAt instanceId).lookup "status" = some status ∧
      (StreamRegistry.statusMapping status updatedAt instanceId).lookup "id" = none := by
  cases instanceId <;> exact ⟨rfl, rfl⟩

end notes

/-- Records are about Redis. Tasks, ids and calls stay as they are. -/
theorem note_kept (c : RedisCmd) :
    (s.note t c).tasks = s.tasks ∧ (s.note t c).locals = s.locals ∧
      (s.note t c).owner = s.owner ∧ (s.note t c).calls = s.calls ∧
      (s.note t c).requests = s.requests ∧ (s.note t c).tokens = s.tokens := by
  cases c with
  | setNx key value ex =>
      cases ex with
      | some => exact ⟨rfl, rfl, rfl, rfl, rfl, rfl⟩
      | none =>
          simp only [note]
          split
          · exact ⟨rfl, rfl, rfl, rfl, rfl, rfl⟩
          · unfold noteClaim
            split
            · split <;> exact ⟨rfl, rfl, rfl, rfl, rfl, rfl⟩
            · exact ⟨rfl, rfl, rfl, rfl, rfl, rfl⟩
  | set | hgetall => cases t <;> exact ⟨rfl, rfl, rfl, rfl, rfl, rfl⟩
  | hset key mapping =>
      simp only [note]
      split
      · cases t <;> exact ⟨rfl, rfl, rfl, rfl, rfl, rfl⟩
      · cases t <;> exact ⟨rfl, rfl, rfl, rfl, rfl, rfl⟩
      · exact ⟨rfl, rfl, rfl, rfl, rfl, rfl⟩
  | eval script =>
      cases script with
      | deleteStreamIfUnchanged =>
          simp only [note]
          split
          · cases t <;> exact ⟨rfl, rfl, rfl, rfl, rfl, rfl⟩
          · exact ⟨rfl, rfl, rfl, rfl, rfl, rfl⟩
      | _ => exact ⟨rfl, rfl, rfl, rfl, rfl, rfl⟩
  | _ => exact ⟨rfl, rfl, rfl, rfl, rfl, rfl⟩

@[simp] theorem execute_redis (c : RedisCmd) : (s.execute t c).redis = (c.run s.redis).2 := rfl

@[simp] theorem execute_tasks (c : RedisCmd) : (s.execute t c).tasks = s.tasks :=
  (note_kept c).1

@[simp] theorem execute_locals (c : RedisCmd) : (s.execute t c).locals = s.locals :=
  (note_kept c).2.1

@[simp] theorem execute_owner (c : RedisCmd) : (s.execute t c).owner = s.owner :=
  (note_kept c).2.2.1

@[simp] theorem execute_calls (c : RedisCmd) : (s.execute t c).calls = s.calls :=
  (note_kept c).2.2.2.1

@[simp] theorem execute_requests (c : RedisCmd) : (s.execute t c).requests = s.requests :=
  (note_kept c).2.2.2.2.1

@[simp] theorem execute_tokens (c : RedisCmd) : (s.execute t c).tokens = s.tokens :=
  (note_kept c).2.2.2.2.2

theorem setTask_tasks (s : Service) (call call' : Nat) (role role' : Role)
    (state : TaskState) : (s.setTask call role state).tasks call' role' =
      if call' = call ∧ role' = role then state else s.tasks call' role' := by
  simp only [setTask, Function.update_apply]
  by_cases same : call' = call
  · subst same
    by_cases same : role' = role <;> simp [same]
  · simp [same]

theorem start_aside {event : ServiceEvent} {p : Program Unit}
    (started : Service.start kafkaTopic t event s = some (p, s')) : s.Aside s' := by
  have stop (request : Nat) (streamId : String) (q : Program Unit)
      (begun : s.beginRequest request streamId q = some (p, s')) : s.Aside s' := by
    unfold Service.beginRequest at begun
    split at begun
    · rename_i free
      cases begun
      refine ⟨⟨0, rfl⟩, rfl, rfl, rfl, rfl, rfl, rfl, rfl, rfl, fun other id asked => ?_⟩
      have ne : other ≠ request := by
        rintro rfl
        rw [free] at asked
        cases asked
      simpa [Function.update_of_ne ne] using asked
    · cases begun
  unfold Service.start at started
  split at started
  · split at started
    · cases started
      exact ⟨⟨0, rfl⟩, rfl, rfl, rfl, rfl, rfl, rfl, rfl, rfl, fun _ _ h => h⟩
    · cases started
  · exact stop _ _ _ started
  · exact stop _ _ _ started
  · exact stop _ _ _ started
  · cases started
    exact Aside.refl s
  · split at started
    · cases started
      exact ⟨⟨0, rfl⟩, rfl, rfl, rfl, rfl, rfl, rfl, rfl, rfl, fun _ _ h => h⟩
    · cases started
  · cases started

theorem tick_aside {event : ServiceEvent} (ticked : Service.tick event s = some s') :
    s.Aside s' := by
  unfold Service.tick at ticked
  split at ticked
  · rename_i n
    cases ticked
    exact ⟨⟨n, rfl⟩, rfl, rfl, rfl, rfl, rfl, rfl, rfl, rfl, fun _ _ h => h⟩
  · split at ticked
    · cases ticked
      exact ⟨⟨0, rfl⟩, rfl, rfl, rfl, rfl, rfl, rfl, rfl, rfl, fun _ _ h => h⟩
    · cases ticked
  · cases ticked

theorem finish_aside (r : Except PyExc Unit) : s.Aside (s.finish t r) := by
  cases t with
  | task => exact ⟨⟨0, rfl⟩, rfl, rfl, rfl, rfl, rfl, rfl, rfl, rfl, fun _ _ h => h⟩
  | _ => exact Aside.refl s

/-- A step executes one command that its thread awaits, or leaves what is stored aside. -/
theorem next_cases {a : Action Thread Turn ServiceEvent} {c d : ServiceConfig}
    (moved : (serviceMachine faulty kafkaTopic).next a c = some d) :
    (∃ t turn cmd, a = .call t turn ∧ c.Awaits t (.redis cmd) ∧
      d.state = c.state.execute t cmd) ∨ c.state.Aside d.state := by
  cases a with
  | call t turn =>
      obtain ⟨e, k, r, s, waits, answered, rfl⟩ := Machine.next_call moved
      rcases answer_effect answered with ⟨cmd, rfl, rfl⟩ | aside
      · exact .inl ⟨t, turn, cmd, rfl, ⟨k, waits⟩, rfl⟩
      · exact .inr aside
  | unroll t =>
      obtain ⟨β, body, k, -, rfl⟩ := Machine.next_unroll moved
      exact .inr (Aside.refl _)
  | finish t =>
      obtain ⟨r, -, rfl⟩ := Machine.next_finish moved
      exact .inr (finish_aside r)
  | start t event =>
      obtain ⟨p, s, -, started, rfl⟩ := Machine.next_start moved
      exact .inr (start_aside started)
  | tick event =>
      obtain ⟨s, ticked, rfl⟩ := Machine.next_tick moved
      exact .inr (tick_aside ticked)

theorem next_requests {a : Action Thread Turn ServiceEvent} {c d : ServiceConfig}
    (moved : (serviceMachine faulty kafkaTopic).next a c = some d) {request : Nat}
    {streamId : String} (asked : c.state.requests request = some streamId) :
    d.state.requests request = some streamId := by
  rcases next_cases moved with ⟨t, turn, cmd, -, -, same⟩ | aside
  · simp [same, asked]
  · exact aside.requests _ _ asked

/-- In every run, a thread only uses the effects that its kind may use. -/
theorem footprint {ok : Thread → Effect → Service → Prop} {c₀ c : ServiceConfig}
    (start : ∀ t p, c₀.threads t = some p → p.Uses (ServiceEffect (t.may c₀.state)))
    (reached : (serviceMachine faulty kafkaTopic).ReachesUnder ok c₀ c) {t : Thread}
    {p : Program Unit} (running : c.threads t = some p) : p.Uses (ServiceEffect (t.may c.state)) := by
  refine reached.uses (H := fun t s => ServiceEffect (t.may s))
    (fun t event s p s' started => start_uses started)
    (fun a c d moved t e used => ?_) start running
  have grows : ∀ id permission, t.may c.state id permission → t.may d.state id permission := by
    cases t with
    | stop request => exact fun id permission may => ⟨next_requests moved may.1, may.2⟩
    | _ => exact fun _ _ may => may
  exact used.mono grows

theorem awaits_effect {ok : Thread → Effect → Service → Prop} {c₀ c : ServiceConfig}
    (idle : ∀ t, c₀.threads t = none)
    (reached : (serviceMachine faulty kafkaTopic).ReachesUnder ok c₀ c) {t : Thread} {e : Effect}
    (waits : c.Awaits t e) : ServiceEffect (t.may c.state) e := by
  obtain ⟨k, running⟩ := waits
  exact (footprint (fun t p running => by simp [idle] at running) reached running).1

end Service
end RedditKafka
