import RedditKafka.App.SharedClients
import RedditKafka.Stream.WorkerEffects

/-!
# The stages of a lifespan

What a lifespan knows of the process at each point, beside loops that may end at
any moment.
-/
namespace RedditKafka
open Async

/-! ## The threads -/

/-- The lifespan relies on the loops to do no more than end, and a loop on the lifespan to
leave a task alone that is not done. -/
def processDiscipline : Discipline AppEff Process AppThread where
  inv := Process.Valid
  keeps
    | .lifespan, a, b => a.Calmer b
    | .loop n task, a, b =>
        a.looping n task = true → b.looping n task = true ∧ b.task n task = a.task n task
  keeps_refl
    | .lifespan, s => .refl s
    | .loop _ _, _ => fun looping => ⟨looping, rfl⟩
  keeps_trans
    | .lifespan, _, _, _ => .trans
    | .loop _ _, _, _, _ => fun h h' looping =>
        have ⟨still, same⟩ := h looping
        have ⟨still', same'⟩ := h' still
        ⟨still', same'.trans same⟩
  ok _ _ _ := True
  pledge
    | _, .pass _ redis, s => s.stale = false → s.Usable redis
    | .lifespan, .serve clients, s => s.Serves clients
    | .lifespan, .close client value, s => s.Ends client value
    | _, _, _ => True

abbrev LifespanSafe {α : Type} (p : AppProgram α) (Q : Except PyExc α → Process → Prop)
    (s : Process) : Prop :=
  Safe processMachine processDiscipline .lifespan p Q s

namespace Process

/-- Effects that leave the process as it is. -/
def plain : AppEff → Bool
  | .settings | .read _ | .ping _ | .isRunning _ | .hasTask _ | .waitFor _ | .cancelTask _ | .sleep
  | .pass _ _ | .serve _ | .stopAll => true
  | _ => false

variable {t : AppThread} {c : AppEff} {choice : Option PyExc} {s s' : Process}
  {r : Except PyExc c.Answer}

theorem answer_cases (answered : answer t c choice s = some (r, s')) :
    (∃ a, r = .ok a ∧ s.answers t c = some (a, s')) ∨
      ∃ e, r = .error e ∧ s.raises t e c = some s' := by
  cases choice with
  | none =>
      obtain ⟨⟨a, s₁⟩, given, same⟩ := Option.map_eq_some_iff.mp answered
      cases same
      exact .inl ⟨a, rfl, given⟩
  | some e =>
      obtain ⟨s₁, raised, same⟩ := Option.map_eq_some_iff.mp answered
      cases same
      exact .inr ⟨e, rfl, raised⟩

theorem answer_plain (quiet : plain c = true) (answered : answer t c choice s = some (r, s')) :
    s' = s := by
  obtain ⟨a, rfl, given⟩ | ⟨e, rfl, raised⟩ := answer_cases answered
  · cases c <;> first | cases quiet; done | cases given; rfl | skip
    simp only [answers] at given
    split at given <;> cases given
    rfl
  · cases c <;> first | cases quiet; done | cases raised; done | cases raised; rfl | skip
    simp only [raises] at raised
    split at raised <;> cases raised
    rfl

/-- A read, and what it returns. -/
theorem answer_read {client : Client} {r : Except PyExc (Option Nat)}
    (answered : answer t (.read client) choice s = some (r, s')) : r = .ok (s.name client) ∧ s' = s := by
  obtain ⟨a, rfl, given⟩ | ⟨e, rfl, raised⟩ := answer_cases answered
  · cases given
    exact ⟨rfl, rfl⟩
  · cases raised

theorem answer_waitFor {task : Periodic} {r : Except PyExc Unit}
    (answered : answer t (.waitFor task) choice s = some (r, s')) :
    s.looping (s.number t) task = false ∧ s' = s := by
  refine ⟨?_, answer_plain rfl answered⟩
  obtain ⟨a, rfl, given⟩ | ⟨e, rfl, raised⟩ := answer_cases answered
  · simp only [answers] at given
    split at given
    · cases given
    · simp_all
  · simp only [raises] at raised
    split at raised
    · cases raised
    · simp_all

end Process

namespace LifespanSafe

variable {α β : Type} {c : AppEff} {s : Process}

theorem perform {Q : Except PyExc c.Answer → Process → Prop}
    (h : ∀ s₁, s.Calmer s₁ → s₁.Valid → processDiscipline.pledge .lifespan c s₁ ∧
      ∀ choice r s₂, Process.answer .lifespan c choice s₁ = some (r, s₂) →
        s₂.Valid ∧ s₁.Undisturbed s₂ ∧ Q r s₂) : LifespanSafe (App.await c) Q s := by
  intro s₁ calmer hs₁
  obtain ⟨pledged, answers⟩ := h s₁ calmer hs₁
  refine ⟨pledged, fun _ choice r s₂ answered => ?_⟩
  obtain ⟨hs₂, undisturbed, done⟩ := answers choice r s₂ answered
  refine ⟨hs₂, fun u other => ?_, ?_⟩
  · cases u with
    | lifespan => exact absurd rfl other
    | loop n task => exact undisturbed n task
  · cases r with
    | ok a => exact done
    | error e => exact done

/-- `let a ← await c` in front of the rest of a program. -/
theorem await {f : c.Answer → AppProgram β} {Q : Except PyExc β → Process → Prop}
    (h : ∀ s₁, s.Calmer s₁ → s₁.Valid → processDiscipline.pledge .lifespan c s₁ ∧
      ∀ choice r s₂, Process.answer .lifespan c choice s₁ = some (r, s₂) →
        s₂.Valid ∧ s₁.Undisturbed s₂ ∧ LifespanSafe (Prog.andThen f r) Q s₂) :
    LifespanSafe (App.await c >>= f) Q s :=
  Safe.bindE_iff.mpr (perform h)

/-- An effect that leaves the process as it is. -/
theorem plain {Q : Except PyExc c.Answer → Process → Prop} (quiet : Process.plain c = true)
    (I : Process → Prop) (calm : ∀ a b, a.Calmer b → I a → I b) (start : I s)
    (pledged : ∀ s₁, s₁.Valid → I s₁ → processDiscipline.pledge .lifespan c s₁)
    (done : ∀ r s₁, s₁.Valid → I s₁ → Q r s₁) : LifespanSafe (App.await c) Q s := by
  refine perform fun s₁ calmer hs₁ => ⟨pledged s₁ hs₁ (calm _ _ calmer start), ?_⟩
  intro choice r s₂ answered
  obtain rfl := Process.answer_plain quiet answered
  exact ⟨hs₁, .refl _, done r _ hs₁ (calm _ _ calmer start)⟩

end LifespanSafe

/-! ## What a lifespan knows -/

namespace Process

/-- What a lifespan knows: what is under the names, and which of its tasks may be going on. -/
structure Holding (known : Client → Option (Option Nat)) (going : Periodic → Bool) (s : Process) :
    Prop where
  tidy : s.Tidy
  held : ∀ client value, known client = some value → s.name client = value
  engine : ∀ engine, known .engine = some (some engine) →
    s.sessions = some engine ∧ s.IsOpen .engine engine
  uncut : s.stale = false → s.cut = false
  idle : ∀ task, going task = false → s.looping s.lifespans task = false

variable {s a b : Process} {known : Client → Option (Option Nat)} {going : Periodic → Bool}
  {client : Client}

namespace Holding

theorem calm (a b : Process) (calmer : a.Calmer b) (h : a.Holding known going) :
    b.Holding known going := by
  have idle := fun task off => calmer.off (h.idle task off)
  obtain ⟨looping, rfl, -⟩ := calmer
  exact ⟨⟨h.tidy.named, h.tidy.isOpen⟩, h.held, h.engine, h.uncut, idle⟩

theorem learn (h : s.Holding known going) (other : client ≠ .engine) {value : Option Nat}
    (named : s.name client = value) :
    s.Holding (Function.update known client (some value)) going where
  tidy := h.tidy
  held client' value' held := by
    by_cases same : client' = client
    · subst same
      rw [Function.update_self] at held
      cases held
      exact named
    · rw [Function.update_of_ne same] at held
      exact h.held client' value' held
  engine engine held := by
    rw [Function.update_of_ne other.symm] at held
    exact h.engine engine held
  uncut := h.uncut
  idle := h.idle

/-- A new client under a name that held none. -/
theorem fetch (h : s.Holding known going) (valid : s.Valid) (other : client ≠ .engine)
    (free : s.name client = none) :
    ((s.construct client).assign client (some (s.constructed client))).Holding
      (Function.update known client (some (some (s.constructed client)))) going where
  tidy := h.tidy.fetch valid fun _ => free
  held client' value held := by
    by_cases same : client' = client
    · subst same
      simpa [Process.assign] using held
    · rw [Function.update_of_ne same] at held
      simpa [Process.assign, same, Process.construct] using h.held client' value held
  engine engine held := by
    rw [Function.update_of_ne other.symm] at held
    obtain ⟨sessions, bound, unclosed⟩ := h.engine engine held
    refine ⟨sessions, ?_, unclosed⟩
    simpa [Process.construct, Process.assign, other.symm] using bound
  uncut := h.uncut
  idle := h.idle

/-- The engine of a new lifespan. -/
theorem openEngine (h : s.Holding (fun _ => none) going) (valid : s.Valid)
    (free : s.failed = false → s.name .engine = none) :
    Process.Holding
      (Function.update (fun _ => none) .engine (some (some (s.constructed .engine)))) going
      { (s.construct .engine).assign .engine (some (s.constructed .engine)) with
        sessions := some (s.constructed .engine) } := by
  have tidy := h.tidy.fetch valid fun shared => free (shared rfl)
  refine ⟨⟨tidy.named, tidy.isOpen⟩, fun client value held => ?_, fun engine held => ?_, h.uncut,
    h.idle⟩
  · by_cases same : client = .engine
    · subst same
      simpa [Process.assign] using held
    · simp [same] at held
  · obtain rfl : s.constructed .engine = engine := by simpa using held
    refine ⟨rfl, by simp [Process.construct, Process.assign], fun closed => ?_⟩
    exact absurd (valid.closed _ _ closed) (lt_irrefl _)

theorem more (h : s.Holding known going) (task : Periodic) :
    s.Holding known (Function.update going task true) := by
  refine ⟨h.tidy, h.held, h.engine, h.uncut, fun task' off => ?_⟩
  by_cases same : task' = task
  · subst same
    simp at off
  · exact h.idle task' (by simpa [same] using off)

theorem less (h : s.Holding known going) {task : Periodic}
    (stopped : s.looping s.lifespans task = false) :
    s.Holding known (Function.update going task false) := by
  refine ⟨h.tidy, h.held, h.engine, h.uncut, fun task' off => ?_⟩
  by_cases same : task' = task
  · subst same
    exact stopped
  · exact h.idle task' (by simpa [same] using off)

theorem setRunning (h : s.Holding known going) (n : Nat) (task : Periodic) (running : Bool) :
    (s.setRunning n task running).Holding known going :=
  ⟨⟨h.tidy.named, h.tidy.isOpen⟩, h.held, h.engine, h.uncut, h.idle⟩

theorem createTask (h : s.Holding known going) (task : Periodic) (redis : Nat) :
    (s.createTask s.lifespans task redis).Holding known (Function.update going task true) := by
  refine ⟨⟨h.tidy.named, h.tidy.isOpen⟩, h.held, h.engine, h.uncut, fun task' off => ?_⟩
  by_cases same : task' = task
  · subst same
    simp at off
  · simpa [Process.createTask, same] using h.idle task' (by simpa [same] using off)

/-- A lifespan that is not stale has an open Redis client and an open engine. -/
theorem usable (h : s.Holding known going) {redis engine : Nat}
    (client : known .redis = some (some redis)) (sessions : known .engine = some (some engine))
    (fresh : s.stale = false) : s.Usable redis :=
  ⟨h.tidy.isOpen _ _ (by simp) (fun _ => h.uncut fresh) (h.held _ _ client), engine,
    h.engine engine sessions⟩

theorem weaken (h : s.Holding known going) {known' : Client → Option (Option Nat)}
    {going' : Periodic → Bool} (less : ∀ client value, known' client = some value →
      known client = some value) (more : ∀ task, going' task = false → going task = false) :
    s.Holding known' going' :=
  ⟨h.tidy, fun client value held => h.held client value (less client value held),
    fun engine held => h.engine engine (less _ _ held), h.uncut,
    fun task off => h.idle task (more task off)⟩

/-- The client may be ended now. -/
theorem ends (h : s.Holding known going) {value : Nat} (held : known client = some (some value))
    (cleanup : going .cleanup = false) (flusher : client ≠ .producer → going .flusher = false) :
    s.Ends client value where
  name := h.held _ _ held
  once uncut := by
    by_cases engine : client = .engine
    · subst engine
      exact (h.engine value held).2
    · exact h.tidy.isOpen client value engine uncut (h.held _ _ held)
  cleanup := h.idle _ cleanup
  flusher other := h.idle _ (flusher other)

end Holding

/-- What a lifespan knows while it serves. -/
def full (clients : Clients) (engine : Nat) : Client → Option (Option Nat)
  | .reddit => some (some clients.reddit)
  | .producer => some (some clients.runnerProducer)
  | .redis => some (some clients.redis)
  | .engine => some (some engine)

/-- What a lifespan leaves behind that returns. -/
structure Emptied (s : Process) : Prop where
  tidy : s.Tidy
  empty : ∀ client, s.name client = none
  uncut : s.stale = false → s.cut = false
  idle : ∀ task, s.looping s.lifespans task = false

theorem Holding.serves {clients : Clients} {engine : Nat} (h : s.Holding (full clients engine) going)
    (same : clients.runnerReddit = clients.reddit) : s.Serves clients where
  tidy := h.tidy
  reddit := h.held .reddit _ rfl
  runnerReddit := same
  runnerProducer := h.held .producer _ rfl
  redis := h.held .redis _ rfl
  engine := ⟨engine, h.held .engine _ rfl, h.engine engine rfl⟩

/-- What a getter comes to: the client under the name, and the known one if there is one. -/
abbrev Fetched (known : Client → Option (Option Nat)) (going : Periodic → Bool) (client : Client) :
    Except PyExc Nat → Process → Prop
  | .ok value, s => s.Holding (Function.update known client (some (some value))) going ∧
      ∀ v, known client = some (some v) → value = v
  | .error _, s => s.Tidy

/-- The client has been ended and is still under its name. -/
def Ending (known : Client → Option (Option Nat)) (going : Periodic → Bool) (client : Client)
    (value : Nat) (s : Process) : Prop :=
  ∃ a : Process, a.Holding known going ∧ (a.close client value).Calmer s

namespace Ending

variable {value : Nat}

theorem calm (a b : Process) (calmer : a.Calmer b) (h : a.Ending known going client value) :
    b.Ending known going client value :=
  have ⟨before, holding, calmer'⟩ := h
  ⟨before, holding, calmer'.trans calmer⟩

theorem named (h : s.Ending known going client value) (held : known client = some (some value)) :
    s.name client = some value := by
  obtain ⟨before, holding, looping, rfl, -⟩ := h
  exact holding.held _ _ held

theorem release (h : s.Ending known going client value) (other : client ≠ .engine)
    (held : known client = some (some value)) :
    (s.assign client none).Holding (Function.update known client (some none)) going := by
  obtain ⟨before, holding, calmer⟩ := h
  refine Holding.calm _ _ (calmer.assign client none) ⟨holding.tidy.release (holding.held _ _ held),
    fun client' value' held' => ?_, fun engine held' => ?_, holding.uncut, holding.idle⟩
  · by_cases same : client' = client
    · subst same
      simpa [Process.assign] using held'
    · rw [Function.update_of_ne same] at held'
      simpa [Process.assign, Process.close, same] using holding.held client' value' held'
  · rw [Function.update_of_ne other.symm] at held'
    obtain ⟨sessions, bound, unclosed⟩ := holding.engine engine held'
    exact ⟨sessions, bound, not_mem_close.mpr ⟨fun same => other same.1.symm, unclosed⟩⟩

theorem tidy (h : s.Ending known going .engine value) : s.Tidy := by
  obtain ⟨before, holding, calmer⟩ := h
  exact (holding.tidy.dispose value).calmer calmer

/-- The engine was the last client. -/
theorem emptied (h : s.Ending known going .engine value)
    (held : known .engine = some (some value)) (stopped : ∀ task, going task = false)
    (empty : ∀ client, client ≠ .engine → known client = some none) :
    (s.assign .engine none).Emptied := by
  obtain ⟨before, holding, calmer⟩ := h
  have tidy := (holding.tidy.release (holding.held _ _ held)).calmer (calmer.assign .engine none)
  obtain ⟨looping, rfl, ended⟩ := calmer
  refine ⟨tidy, fun client => ?_, holding.uncut, fun task =>
    Calmer.off ⟨looping, rfl, ended⟩ (holding.idle task (stopped task))⟩
  by_cases engine : client = .engine
  · simp [Process.assign, engine]
  · simpa [Process.assign, Process.close, engine] using
      holding.held client none (empty client engine)

/-- An exception in `close_redis` is caught there, and a cancellation is not. -/
theorem interrupted (h : s.Ending known going .redis value) (e : PyExc) :
    if e.isException then (s.interrupt e).Ending known going .redis value
    else (s.interrupt e).Tidy := by
  split
  · rename_i exception
    have same : s.interrupt e = s := by simp [Process.interrupt, exception]
    rw [same]
    exact h
  · rename_i cancelled
    have same : s.interrupt e = { s with cut := true } := by
      simp [Process.interrupt, cancelled]
    obtain ⟨before, holding, looping, rfl, -⟩ := h
    have tidy := holding.tidy.interrupt value
    rw [same]
    exact ⟨tidy.named, tidy.isOpen⟩

end Ending

end Process

end RedditKafka
