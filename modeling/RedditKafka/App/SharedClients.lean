import RedditKafka.App.Lifespan
import RedditKafka.Async.Safety

/-!
# The clients of a process

Whatever fails and whenever a lifespan is cancelled: which clients a later
lifespan finds under the module-level names, and which of them the periodic
tasks use.
-/
namespace RedditKafka
open Async

namespace Process

/-- The client was constructed, and the call that ends it was not made. -/
def IsOpen (s : Process) (client : Client) (value : Nat) : Prop :=
  value < s.constructed client ∧ (client, value) ∉ s.closed

/-- The open clients are the ones under the names. Engines may be left behind by a lifespan
that failed, and a cancelled `close_redis` leaves its client under the name. -/
structure Tidy (s : Process) : Prop where
  named : ∀ client value, (client = .engine → s.failed = false) → s.IsOpen client value →
    s.name client = some value
  isOpen : ∀ client value, client ≠ .engine → (client = .redis → s.cut = false) →
    s.name client = some value → s.IsOpen client value

/-- The Redis client is open, and the sessions are those of an open engine. -/
def Usable (s : Process) (redis : Nat) : Prop :=
  s.IsOpen .redis redis ∧ ∃ engine, s.sessions = some engine ∧ s.IsOpen .engine engine

/-- The application serves with the clients under the names. -/
structure Serves (s : Process) (clients : Clients) : Prop where
  tidy : s.Tidy
  reddit : s.name .reddit = some clients.reddit
  runnerReddit : clients.runnerReddit = clients.reddit
  runnerProducer : s.name .producer = some clients.runnerProducer
  redis : s.name .redis = some clients.redis
  engine : ∃ engine, s.name .engine = some engine ∧ s.sessions = some engine ∧
    s.IsOpen .engine engine

/-- Between two lifespans. -/
structure AtRest (s : Process) : Prop where
  tidy : s.Tidy
  empty : s.failed = false → ∀ client, s.name client = none
  quiet : s.failed = false → ∀ n task, s.looping n task = false
  uncut : s.failed = false → s.cut = false

/-- A client is ended once, as the one under its name, and behind the tasks that use it. -/
structure Ends (s : Process) (client : Client) (value : Nat) : Prop where
  name : s.name client = some value
  once : (client = .redis → s.cut = false) → s.IsOpen client value
  cleanup : s.looping s.lifespans .cleanup = false
  flusher : client ≠ .producer → s.looping s.lifespans .flusher = false

/-! ## What the loops do to the process -/

/-- Only periodic tasks have ended. -/
def Calmer (a b : Process) : Prop :=
  ∃ looping : Nat → Periodic → Bool, b = { a with looping := looping } ∧
    ∀ n task, looping n task = true → a.looping n task = true

/-- The tasks that are not done go on with the client that they were created with. -/
def Undisturbed (a b : Process) : Prop :=
  ∀ n task, a.looping n task = true → b.looping n task = true ∧ b.task n task = a.task n task

/-- What holds at every moment. -/
structure Valid (s : Process) : Prop where
  named : ∀ client value, s.name client = some value → value < s.constructed client
  closed : ∀ client value, (client, value) ∈ s.closed → value < s.constructed client
  future : ∀ n task, s.lifespans < n → s.looping n task = false
  created : ∀ n task, s.looping n task = true → s.task n task ≠ none
  stale : s.stale = true → s.failed = true
  current : s.stale = false → ∀ n task, s.looping n task = true → n = s.lifespans
  usable : s.stale = false → ∀ task, s.looping s.lifespans task = true →
    ∃ redis, s.task s.lifespans task = some redis ∧ s.Usable redis

variable {s a b c : Process} {client : Client} {value : Nat} {task : Periodic}

theorem mem_close {other : Client} {v : Nat} : (other, v) ∈ (s.close client value).closed ↔
    (other = client ∧ v = value) ∨ (other, v) ∈ s.closed := by
  simp [Process.close]

theorem not_mem_close {other : Client} {v : Nat} : (other, v) ∉ (s.close client value).closed ↔
    ¬ (other = client ∧ v = value) ∧ (other, v) ∉ s.closed := by
  rw [mem_close, not_or]

theorem Calmer.refl (s : Process) : s.Calmer s := ⟨s.looping, rfl, fun _ _ looping => looping⟩

theorem Calmer.trans (h : a.Calmer b) (h' : b.Calmer c) : a.Calmer c := by
  obtain ⟨first, rfl, ended⟩ := h
  obtain ⟨second, rfl, ended'⟩ := h'
  exact ⟨second, rfl, fun n task looping => ended n task (ended' n task looping)⟩

theorem Calmer.off (h : a.Calmer b) {n : Nat} (off : a.looping n task = false) :
    b.looping n task = false := by
  obtain ⟨looping, rfl, ended⟩ := h
  refine Bool.eq_false_iff.mpr fun still => ?_
  rw [ended n task still] at off
  cases off

theorem Calmer.assign (h : a.Calmer b) (client : Client) (value : Option Nat) :
    (a.assign client value).Calmer (b.assign client value) := by
  obtain ⟨looping, rfl, ended⟩ := h
  exact ⟨looping, rfl, ended⟩

theorem Calmer.bindSessions (h : a.Calmer b) (engine : Nat) :
    Calmer { a with sessions := some engine } { b with sessions := some engine } := by
  obtain ⟨looping, rfl, ended⟩ := h
  exact ⟨looping, rfl, ended⟩

theorem Calmer.lifespans (h : a.Calmer b) : b.lifespans = a.lifespans := by
  obtain ⟨looping, rfl, -⟩ := h
  rfl

theorem Calmer.constructed (h : a.Calmer b) : b.constructed = a.constructed := by
  obtain ⟨looping, rfl, -⟩ := h
  rfl

theorem Undisturbed.refl (s : Process) : s.Undisturbed s := fun _ _ looping => ⟨looping, rfl⟩

theorem Undisturbed.of_same (looping : b.looping = a.looping) (same : b.task = a.task) :
    a.Undisturbed b :=
  fun n task going => ⟨by rw [looping, going], by rw [same]⟩

theorem Undisturbed.createTask (off : s.looping s.lifespans task = false) (redis : Nat) :
    s.Undisturbed (s.createTask s.lifespans task redis) := by
  intro n task' going
  by_cases here : n = s.lifespans
  · subst here
    have other : task' ≠ task := fun same => by
      rw [same, off] at going
      cases going
    exact ⟨by simpa [Process.createTask, other] using going, by simp [Process.createTask, other]⟩
  · exact ⟨by simpa [Process.createTask, here] using going, by simp [Process.createTask, here]⟩

namespace Valid

theorem initial : Valid {} where
  named _ _ none := by cases none
  closed _ _ none := absurd none List.not_mem_nil
  future _ _ _ := rfl
  created _ _ none := by cases none
  stale never := by cases never
  current _ _ _ none := by cases none
  usable _ _ none := by cases none

theorem calmer (h : a.Valid) (calmer : a.Calmer b) : b.Valid := by
  obtain ⟨looping, rfl, ended⟩ := calmer
  exact ⟨h.named, h.closed, fun n task later =>
      Calmer.off ⟨looping, rfl, ended⟩ (h.future n task later),
    fun n task still => h.created n task (ended n task still), h.stale,
    fun fresh n task still => h.current fresh n task (ended n task still),
    fun fresh task still => h.usable fresh task (ended _ task still)⟩

/-- A change that leaves the tasks alone, and takes nothing away from the loops. -/
theorem of_same (h : a.Valid) (looping : b.looping = a.looping) (same : b.task = a.task)
    (lifespans : b.lifespans = a.lifespans) (stale : b.stale = a.stale)
    (failed : b.failed = a.failed)
    (named : ∀ client value, b.name client = some value → value < b.constructed client)
    (closed : ∀ client value, (client, value) ∈ b.closed → value < b.constructed client)
    (usable : a.stale = false → ∀ redis task, a.looping a.lifespans task = true → a.Usable redis →
      b.Usable redis) : b.Valid where
  named := named
  closed := closed
  future := by
    rw [looping, lifespans]
    exact h.future
  created := by
    rw [looping, same]
    exact h.created
  stale := by
    rw [stale, failed]
    exact h.stale
  current := by
    rw [looping, lifespans, stale]
    exact h.current
  usable := by
    rw [looping, lifespans, stale, same]
    intro fresh task still
    obtain ⟨redis, created, open'⟩ := h.usable fresh task still
    exact ⟨redis, created, usable fresh redis task still open'⟩

theorem construct (h : s.Valid) (client : Client) : (s.construct client).Valid := by
  have grown : ∀ client', s.constructed client' ≤ (s.construct client).constructed client' := by
    intro client'
    by_cases same : client' = client
    · subst same
      simp [Process.construct]
    · simp [Process.construct, same]
  refine h.of_same rfl rfl rfl rfl rfl
    (fun client' value named => (h.named client' value named).trans_le (grown client'))
    (fun client' value closed => (h.closed client' value closed).trans_le (grown client')) ?_
  rintro - redis task - ⟨⟨bound, unclosed⟩, engine, sessions, bound', unclosed'⟩
  exact ⟨⟨bound.trans_le (grown _), unclosed⟩, engine, sessions, bound'.trans_le (grown _),
    unclosed'⟩

theorem assign (h : s.Valid) {value : Option Nat}
    (bound : ∀ v, value = some v → v < s.constructed client) : (s.assign client value).Valid := by
  refine h.of_same rfl rfl rfl rfl rfl (fun client' v named => ?_) h.closed
    fun _ _ _ _ usable => usable
  by_cases same : client' = client
  · subst same
    exact bound v (by simpa [Process.assign] using named)
  · exact h.named client' v (by simpa [Process.assign, same] using named)

/-- A client may be ended when no task of a lifespan that is not stale uses it. -/
theorem close (h : s.Valid) (bound : value < s.constructed client)
    (unused : client ≠ .reddit → client ≠ .producer → ∀ task, s.looping s.lifespans task = false) :
    (s.close client value).Valid := by
  refine h.of_same rfl rfl rfl rfl rfl h.named (fun client' v closed => ?_) ?_
  · rcases List.mem_cons.mp closed with same | closed
    · cases same
      exact bound
    · exact h.closed client' v closed
  · rintro - redis task still ⟨⟨bound, unclosed⟩, engine, sessions, bound', unclosed'⟩
    have aside : ∀ client' v, (client' = .redis ∨ client' = .engine) → (client', v) ∉ s.closed →
        (client', v) ∉ (s.close client value).closed := by
      intro client' v used unclosed closed
      rcases List.mem_cons.mp closed with same | closed
      · cases same
        rw [unused (by rintro rfl; simp at used) (by rintro rfl; simp at used) task] at still
        cases still
      · exact unclosed closed
    exact ⟨⟨bound, aside _ _ (.inl rfl) unclosed⟩, engine, sessions, bound',
      aside _ _ (.inr rfl) unclosed'⟩

theorem setRunning (h : s.Valid) (n : Nat) (task : Periodic) (running : Bool) :
    (s.setRunning n task running).Valid :=
  h.of_same rfl rfl rfl rfl rfl h.named h.closed fun _ _ _ _ usable => usable

theorem interrupt (h : s.Valid) (e : PyExc) : (s.interrupt e).Valid :=
  h.of_same rfl rfl rfl rfl rfl h.named h.closed fun _ _ _ _ usable => usable

theorem bindSessions (h : s.Valid) (engine : Nat)
    (quiet : ∀ task, s.looping s.lifespans task = false) :
    Valid { s with sessions := some engine } := by
  refine h.of_same rfl rfl rfl rfl rfl h.named h.closed fun _ redis task still _ => ?_
  rw [quiet task] at still
  cases still

/-- A task may be created with a Redis client that a lifespan that is not stale can use. -/
theorem createTask (h : s.Valid) (task : Periodic) {redis : Nat}
    (usable : s.stale = false → s.Usable redis) : (s.createTask s.lifespans task redis).Valid := by
  have looping : ∀ n task', (s.createTask s.lifespans task redis).looping n task' = true →
      (n = s.lifespans ∧ task' = task) ∨ s.looping n task' = true := by
    intro n task' still
    by_cases here : n = s.lifespans
    · subst here
      by_cases same : task' = task
      · exact .inl ⟨rfl, same⟩
      · exact .inr (by simpa [Process.createTask, same] using still)
    · exact .inr (by simpa [Process.createTask, here] using still)
  have created : ∀ n task', (n ≠ s.lifespans ∨ task' ≠ task) →
      (s.createTask s.lifespans task redis).task n task' = s.task n task' := by
    rintro n task' (other | other)
    · simp [Process.createTask, other]
    · by_cases here : n = s.lifespans
      · subst here
        simp [Process.createTask, other]
      · simp [Process.createTask, here]
  refine ⟨h.named, h.closed, fun n task' later => ?_, fun n task' still => ?_, h.stale,
    fun fresh n task' still => ?_, fun fresh task' still => ?_⟩
  · have other : n ≠ s.lifespans := fun same => absurd (same ▸ later) (lt_irrefl _)
    simpa [Process.createTask, other] using h.future n task' later
  · by_cases same : n = s.lifespans ∧ task' = task
    · obtain ⟨rfl, rfl⟩ := same
      simp [Process.createTask]
    · rw [created n task' (not_and_or.mp same)]
      exact h.created n task' ((looping n task' still).resolve_left same)
  · obtain ⟨here, -⟩ | still := looping n task' still
    · exact here
    · exact h.current fresh n task' still
  · by_cases same : task' = task
    · subst same
      exact ⟨redis, by simp [Process.createTask], usable fresh⟩
    · obtain ⟨-, same'⟩ | still := looping _ task' still
      · exact absurd same' same
      · obtain ⟨redis', known, open'⟩ := h.usable fresh task' still
        exact ⟨redis', (created _ task' (.inr same)).trans known, open'⟩

theorem begin (h : s.Valid) (quiet : s.failed = false → ∀ n task, s.looping n task = false) :
    Valid { s with lifespans := s.lifespans + 1, stale := s.stale || s.failed } := by
  have calm : (s.stale || s.failed) = false → ∀ n task, s.looping n task = false :=
    fun fresh => quiet (Bool.or_eq_false_iff.mp fresh).2
  refine ⟨h.named, h.closed, fun n task later => h.future n task (Nat.lt_of_succ_lt later),
    h.created, fun stale => ?_, fun fresh n task still => ?_, fun fresh task still => ?_⟩
  · exact (Bool.or_eq_true_iff.mp stale).elim h.stale id
  · rw [calm fresh n task] at still
    cases still
  · rw [calm fresh _ task] at still
    cases still

end Valid

namespace Tidy

theorem initial : Tidy {} where
  named _ _ _ isOpen := absurd isOpen.1 (Nat.not_lt_zero _)
  isOpen _ _ _ _ none := by cases none

theorem calmer (h : a.Tidy) (calmer : a.Calmer b) : b.Tidy := by
  obtain ⟨looping, rfl, -⟩ := calmer
  exact ⟨h.named, h.isOpen⟩

/-- A new client under a name that held none. -/
theorem fetch (h : s.Tidy) (valid : s.Valid)
    (free : (client = .engine → s.failed = false) → s.name client = none) :
    ((s.construct client).assign client (some (s.constructed client))).Tidy := by
  refine ⟨fun client' value shared isOpen => ?_, fun client' value other uncut named => ?_⟩
  · obtain ⟨bound, unclosed⟩ := isOpen
    by_cases same : client' = client
    · subst same
      have bound : value < s.constructed client' + 1 := by
        simpa [Process.construct, Process.assign] using bound
      by_cases new : value = s.constructed client'
      · simp [Process.assign, new]
      · have old := h.named client' value shared ⟨by omega, unclosed⟩
        rw [free shared] at old
        cases old
    · have bound : value < s.constructed client' := by
        simpa [Process.construct, Process.assign, same] using bound
      simpa [Process.assign, same, Process.construct] using
        h.named client' value shared ⟨bound, unclosed⟩
  · by_cases same : client' = client
    · subst same
      obtain rfl : s.constructed client' = value := by simpa [Process.assign] using named
      refine ⟨by simp [Process.construct, Process.assign], fun closed => ?_⟩
      exact absurd (valid.closed client' _ closed) (lt_irrefl _)
    · obtain ⟨bound, unclosed⟩ := h.isOpen client' value other uncut
        (by simpa [Process.assign, same, Process.construct] using named)
      exact ⟨by simpa [Process.construct, Process.assign, same] using bound, unclosed⟩

/-- The client under a name has been ended, and the name is emptied. -/
theorem release (h : s.Tidy) (named : s.name client = some value) :
    ((s.close client value).assign client none).Tidy := by
  refine ⟨fun client' value' shared isOpen => ?_, fun client' value' other uncut named' => ?_⟩
  · obtain ⟨bound, unclosed⟩ := isOpen
    obtain ⟨fresh, unclosed⟩ := not_mem_close.mp unclosed
    have old := h.named client' value' shared ⟨bound, unclosed⟩
    by_cases same : client' = client
    · subst same
      rw [named] at old
      cases old
      exact absurd ⟨rfl, rfl⟩ fresh
    · simpa [Process.assign, same, Process.close] using old
  · by_cases same : client' = client
    · subst same
      simp [Process.assign] at named'
    · obtain ⟨bound, unclosed⟩ := h.isOpen client' value' other uncut
        (by simpa [Process.assign, same, Process.close] using named')
      exact ⟨bound, not_mem_close.mpr ⟨fun equal => same equal.1, unclosed⟩⟩

/-- The engine under its name has been disposed. -/
theorem dispose (h : s.Tidy) (engine : Nat) : (s.close .engine engine).Tidy where
  named client value shared isOpen :=
    h.named client value shared ⟨isOpen.1, (not_mem_close.mp isOpen.2).2⟩
  isOpen client value other uncut named :=
    have ⟨bound, unclosed⟩ := h.isOpen client value other uncut named
    ⟨bound, not_mem_close.mpr ⟨fun equal => other equal.1, unclosed⟩⟩

/-- A cancelled `close_redis`. -/
theorem interrupt (h : s.Tidy) (redis : Nat) :
    Tidy { s.close .redis redis with cut := true } where
  named client value shared isOpen :=
    h.named client value shared ⟨isOpen.1, (not_mem_close.mp isOpen.2).2⟩
  isOpen client value other uncut named := by
    have aside : client ≠ .redis := fun same => by cases uncut same
    obtain ⟨bound, unclosed⟩ := h.isOpen client value other (fun same => absurd same aside) named
    exact ⟨bound, not_mem_close.mpr ⟨fun equal => aside equal.1, unclosed⟩⟩

end Tidy

end Process

end RedditKafka
