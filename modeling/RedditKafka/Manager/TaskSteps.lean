import RedditKafka.Async.Interference
import RedditKafka.Manager.ServiceSteps

/-!
# The life of a task

A task is created, begins, and is done with one outcome; its thread runs in
between. What one coroutine of the service can rely on while the others run.
-/
namespace RedditKafka
open Async Redis

/-- The outcome of a task, once it has one. -/
def TaskState.outcome : TaskState → Option (Except PyExc Unit)
  | .done r => some r
  | _ => none

theorem TaskState.isDone_iff {state : TaskState} : state.isDone = true ↔ state.outcome ≠ none := by
  cases state <;> simp [isDone, outcome]

def Role.all : List Role := [.run, .runner, .watcher, .stream, .lock]

theorem Role.mem_all (role : Role) : role ∈ Role.all := by
  cases role <;> decide

namespace Service

/-- Tasks of the call that are done stay so. -/
def keepsOutcomes (call : Nat) (s s' : Service) : Bool :=
  Role.all.all fun role =>
    (s.tasks call role).outcome = none || (s'.tasks call role).outcome = (s.tasks call role).outcome

theorem keepsOutcomes_iff {call : Nat} {s s' : Service} : keepsOutcomes call s s' = true ↔
    ∀ role r, (s.tasks call role).outcome = some r → (s'.tasks call role).outcome = some r := by
  simp only [keepsOutcomes, List.all_eq_true, Bool.or_eq_true, decide_eq_true_eq]
  constructor
  · intro kept role r held
    rcases kept role (Role.mem_all role) with none | same
    · rw [none] at held
      cases held
    · rw [same, held]
  · intro kept role _
    cases held : (s.tasks call role).outcome with
    | none => exact .inl rfl
    | some r => exact .inr (kept role r held)

theorem keepsOutcomes_refl (call : Nat) (s : Service) : keepsOutcomes call s s = true :=
  keepsOutcomes_iff.mpr fun _ _ held => held

theorem keepsOutcomes_trans {call : Nat} (a b c : Service) (first : keepsOutcomes call a b = true)
    (second : keepsOutcomes call b c = true) : keepsOutcomes call a c = true :=
  keepsOutcomes_iff.mpr fun role r held =>
    keepsOutcomes_iff.mp second role r (keepsOutcomes_iff.mp first role r held)

variable {faulty : Bool} {kafkaTopic : String} {s s' : Service} {t : Thread}

/-- The effect creates the task. -/
def Creates (e : Effect) (task : Task) : Prop :=
  e = .task (.create task) ∨ ∃ instanceId streamId, e = .task (.createLocal instanceId streamId task)

/-- An answer can only create tasks. -/
theorem taskAnswer_tasks {own : Nat} {e : TaskEff} {turn : Turn} {r : Except PyExc e.Answer}
    (answered : taskAnswer own e turn s = some (r, s')) (call : Nat) (role : Role) :
    s'.tasks call role = s.tasks call role ∨
      s.tasks call role = .absent ∧ ∃ task, s'.tasks call role = .created task ∧ task.role = role ∧
        Creates (.task e) task := by
  have created (task : Task) (creates : Creates (.task e) task)
      (free : s.tasks own task.role = .absent) :
      (s.setTask own task.role (.created task)).tasks call role = s.tasks call role ∨
        s.tasks call role = .absent ∧
          ∃ task', (s.setTask own task.role (.created task)).tasks call role = .created task' ∧
            task'.role = role ∧ Creates (.task e) task' := by
    rw [setTask_tasks]
    split
    · rename_i same
      obtain ⟨rfl, rfl⟩ := same
      exact .inr ⟨free, task, rfl, rfl, creates⟩
    · exact .inl rfl
  unfold taskAnswer at answered
  split at answered
  case h_1 task =>
      split at answered <;> cases answered
      exact created task (.inl rfl) ‹_›
  case h_2 instanceId streamId task =>
      split at answered <;> cases answered
      · exact .inl rfl
      · exact created task (.inr ⟨_, _, rfl⟩) ‹_›
  all_goals
    try split at answered
    all_goals
      cases answered
      try exact .inl rfl

theorem answer_tasks {e : Effect} {turn : Turn} {r : Except PyExc e.Answer}
    (answered : Service.answer faulty t e turn s = some (r, s')) (call : Nat) (role : Role) :
    s'.tasks call role = s.tasks call role ∨
      s.tasks call role = .absent ∧ ∃ task, s'.tasks call role = .created task ∧ task.role = role ∧
        Creates e task := by
  unfold Service.answer at answered
  split at answered
  case h_8 =>
      simp only at answered
      split at answered <;> cases answered
      exact .inl rfl
  case h_13 => exact taskAnswer_tasks answered call role
  all_goals
    try split at answered
    all_goals
      try split at answered
      all_goals
        cases answered
        try exact .inl (by simp)

/-- Only two effects touch `_tasks`. -/
theorem answer_locals {e : Effect} {turn : Turn} {r : Except PyExc e.Answer}
    (answered : Service.answer faulty t e turn s = some (r, s'))
    (created : ∀ instanceId streamId task, e ≠ .task (.createLocal instanceId streamId task))
    (forgot : ∀ instanceId streamId, e ≠ .task (.forgetLocal instanceId streamId)) :
    s'.locals = s.locals := by
  unfold Service.answer at answered
  split at answered
  case h_8 =>
      simp only at answered
      split at answered <;> cases answered
      rfl
  case h_13 =>
      unfold taskAnswer at answered
      split at answered
      case h_2 => exact (created _ _ _ rfl).elim
      case h_17 => exact (forgot _ _ rfl).elim
      all_goals
        try split at answered
        all_goals
          cases answered
          try rfl
  all_goals
    try split at answered
    all_goals
      try split at answered
      all_goals
        cases answered
        try simp

theorem start_tasks {event : ServiceEvent} {p : Program Unit}
    (started : Service.start kafkaTopic t event s = some (p, s')) (call : Nat) (role : Role) :
    t ≠ .task call role ∧ s'.tasks call role = s.tasks call role ∨ t = .task call role ∧
      ∃ task, s.tasks call role = .created task ∧ s'.tasks call role = .alive task := by
  unfold Service.start at started
  split at started
  case h_6 call' role' =>
      split at started <;> cases started
      rename_i task is
      rw [setTask_tasks]
      split
      · rename_i same
        obtain ⟨rfl, rfl⟩ := same
        exact .inr ⟨rfl, task, is, rfl⟩
      · rename_i other
        exact .inl ⟨fun same => by cases same; exact other ⟨rfl, rfl⟩, rfl⟩
  all_goals
    try unfold Service.beginRequest at started
    try split at started
    all_goals
      cases started
      try exact .inl ⟨nofun, rfl⟩

end Service

/-- The threads of tasks are those of the tasks that have begun and are not done. -/
def Alive (c : ServiceConfig) : Prop :=
  ∀ call role, c.threads (.task call role) ≠ none ↔ ∃ task, c.state.tasks call role = .alive task

variable {faulty : Bool} {kafkaTopic : String} {ok : Thread → Effect → Service → Prop}
  {a : Action Thread Turn ServiceEvent} {c d : ServiceConfig} {store : Store}

/-- What one step does to a task. -/
inductive TaskMove (a : Action Thread Turn ServiceEvent) (c d : ServiceConfig) (call : Nat)
    (role : Role) : Prop
  | same : d.state.tasks call role = c.state.tasks call role →
      (d.threads (.task call role) ≠ none ↔ c.threads (.task call role) ≠ none) →
      TaskMove a c d call role
  | create (task : Task) : c.state.tasks call role = .absent →
      d.state.tasks call role = .created task →
      (d.threads (.task call role) ≠ none ↔ c.threads (.task call role) ≠ none) →
      TaskMove a c d call role
  | begin (task : Task) : c.state.tasks call role = .created task →
      d.state.tasks call role = .alive task → d.threads (.task call role) ≠ none →
      TaskMove a c d call role
  | cancelled (task : Task) : c.state.tasks call role = .created task →
      d.state.tasks call role = .done (.error .cancelledError) →
      (d.threads (.task call role) ≠ none ↔ c.threads (.task call role) ≠ none) →
      TaskMove a c d call role
  | finish (r : Except PyExc Unit) : c.threads (.task call role) = some (.ofExcept r) →
      d.state.tasks call role = .done r → d.threads (.task call role) = none →
      TaskMove a c d call role

theorem task_move (moved : (serviceMachine faulty kafkaTopic).next a c = some d) (call : Nat)
    (role : Role) : TaskMove a c d call role := by
  have aside {t : Thread} {p : Option (Program Unit)} {s : Service} (other : t ≠ .task call role) :
      ((c.put t p s).threads (.task call role) ≠ none ↔ c.threads (.task call role) ≠ none) := by
    rw [Config.put_of_ne other.symm]
  cases a with
  | call t turn =>
      obtain ⟨e, k, r, s, waits, answered, rfl⟩ := Machine.next_call moved
      have running : ((c.put t (some (k r)) s).threads (.task call role) ≠ none ↔
          c.threads (.task call role) ≠ none) := by
        by_cases own : t = .task call role
        · subst own
          simp [waits]
        · exact aside own
      rcases Service.answer_tasks answered call role with same | ⟨free, task, made, -⟩
      · exact .same same running
      · exact .create task free made running
  | unroll t =>
      obtain ⟨β, body, k, waits, rfl⟩ := Machine.next_unroll moved
      refine .same rfl ?_
      by_cases own : t = .task call role
      · subst own
        simp [waits]
      · exact aside own
  | finish t =>
      obtain ⟨r, ended, rfl⟩ := Machine.next_finish moved
      by_cases own : t = .task call role
      · subst own
        exact .finish r ended (by simp [serviceMachine, Service.finish, Service.setTask_tasks])
          (Config.put_self ..)
      · refine .same ?_ (aside own)
        cases t with
        | task call' role' =>
            have ne : ¬(call = call' ∧ role = role') := fun ⟨h, h'⟩ => own (by rw [h, h'])
            simp [serviceMachine, Service.finish, Service.setTask_tasks, ne]
        | _ => rfl
  | start t event =>
      obtain ⟨p, s, free, started, rfl⟩ := Machine.next_start moved
      rcases Service.start_tasks started call role with ⟨other, same⟩ | ⟨rfl, task, is, begun⟩
      · exact .same same (aside other)
      · exact .begin task is begun (by simp)
  | tick event =>
      obtain ⟨s, ticked, rfl⟩ := Machine.next_tick moved
      cases event with
      | elapse n =>
          cases ticked
          exact .same rfl .rfl
      | cancelledEarly call' role' =>
          simp only [serviceMachine, Service.tick] at ticked
          split at ticked <;> cases ticked
          rename_i task is
          by_cases own : call = call' ∧ role = role'
          · obtain ⟨rfl, rfl⟩ := own
            exact .cancelled task is (by simp [Service.setTask_tasks]) .rfl
          · exact .same (by simp [Service.setTask_tasks, own]) .rfl
      | _ => cases ticked

theorem Alive.next (h : Alive c) (moved : (serviceMachine faulty kafkaTopic).next a c = some d) :
    Alive d := by
  intro call role
  have before := h call role
  cases task_move moved call role with
  | same same running => rw [running, same, before]
  | create task free made running => simp [running, before, made, free]
  | begin task is begun running => simp [running, begun]
  | cancelled task is done running => simp [running, before, is, done]
  | finish r ended done gone => simp [gone, done]

theorem alive_of_reaches (h : (serviceMachine faulty kafkaTopic).ReachesUnder ok
    (Config.initial { redis := store }) c) : Alive c := by
  induction h with
  | refl => exact fun call role => ⟨fun running => (running rfl).elim, fun ⟨_, is⟩ => by cases is⟩
  | step _ _ moved ih => exact ih.next moved

/-- No step changes the outcome of a task. -/
theorem Alive.keepsOutcomes (h : Alive c)
    (moved : (serviceMachine faulty kafkaTopic).next a c = some d) (call : Nat) :
    Service.keepsOutcomes call c.state d.state = true := by
  rw [Service.keepsOutcomes_iff]
  intro role r held
  cases task_move moved call role with
  | same same => rwa [same]
  | create task free => simp [free, TaskState.outcome] at held
  | begin task is => simp [is, TaskState.outcome] at held
  | cancelled task is => simp [is, TaskState.outcome] at held
  | finish r' ended =>
      obtain ⟨task, is⟩ := (h call role).mp (by simp [ended])
      simp [is, TaskState.outcome] at held

/-- Effects on the registry leave the tasks alone. -/
theorem registry_silent {σ χ α : Type} {answer : (c : Effect) → χ → σ → Option (Except PyExc c.Answer × σ)}
    {p : Program α} {s s' : σ} {trace : List (Effect × χ)} {out : Except PyExc α}
    (uses : p.Uses (RegistryEffect fun _ _ => True)) (ran : Runs answer p s trace out s') :
    ∀ entry ∈ trace, ∀ t, entry.1 ≠ .task t := by
  intro entry there t same
  have on := ran.uses uses entry there
  rw [same] at on
  cases on

/-- The outcome of a finished thread of the service comes from a run of its program amid the
others, which leave the outcomes of its call's tasks alone. -/
theorem thread_story {t : Thread} {γ : Type} (call : Nat)
    (note : Effect → Service → Service × Turn → γ → γ) (g₀ : γ)
    (h : (serviceMachine faulty kafkaTopic).ReachesUnder ok (Config.initial { redis := store }) c)
    {r : Except PyExc Unit} (ended : c.threads t = some (.ofExcept r)) :
    ∃ event s p s₀, Service.start kafkaTopic t event s = some (p, s₀) ∧
      ∃ trace s' g, Service.keepsOutcomes call s' c.state = true ∧
        Runs (amid (Service.keepsOutcomes call) (Service.answer faulty t) note) p (s₀, g₀)
          trace r (s', g) := by
  obtain ⟨event, s, p, s₀, started, story⟩ :=
    h.story note (Service.keepsOutcomes_refl call) Service.keepsOutcomes_trans
      (fun _ _ _ reached moved _ => (alive_of_reaches reached).keepsOutcomes moved call) g₀ rfl ended
  exact ⟨event, s, p, s₀, started, story.ended⟩

end RedditKafka
