import RedditKafka.App.LifespanStages

/-!
# No client is used after its end

The lifespan from its first step to its last, its periodic tasks beside it, and
the runs of a process.
-/
namespace RedditKafka
open Async

/-! ## The functions of a lifespan -/

namespace App

variable {s : Process} {known : Client → Option (Option Nat)} {going : Periodic → Bool}
  {client : Client}

theorem getClient_safe (h : s.Holding known going) (client : Client) (other : client ≠ .engine) :
    LifespanSafe (getClient client) (Process.Fetched known going client) s := by
  refine LifespanSafe.await fun s₁ calmer hs₁ => ⟨trivial, fun choice r s₂ answered => ?_⟩
  obtain ⟨rfl, rfl⟩ := Process.answer_read answered
  have h := h.calm _ _ calmer
  refine ⟨hs₁, .refl _, ?_⟩
  rw [Prog.andThen]
  cases named : s₂.name client with
  | some value =>
      refine ⟨h.learn other named, fun v held => ?_⟩
      rw [h.held client _ held] at named
      cases named
      rfl
  | none =>
      refine LifespanSafe.await fun s₃ calmer hs₃ => ⟨trivial, fun choice r s₄ answered => ?_⟩
      have h := h.calm _ _ calmer
      have free : s₃.name client = none := by
        obtain ⟨looping, rfl, -⟩ := calmer
        exact named
      obtain ⟨value, rfl, given⟩ | ⟨e, rfl, raised⟩ := Process.answer_cases answered
      · cases given
        refine ⟨hs₃.construct client, .of_same rfl rfl, ?_⟩
        refine LifespanSafe.await fun s₅ calmer hs₅ => ⟨trivial, fun choice r s₆ answered => ?_⟩
        obtain ⟨_, rfl, given⟩ | ⟨e, rfl, raised⟩ := Process.answer_cases answered
        · cases given
          refine ⟨hs₅.assign fun v new => ?_, .of_same rfl rfl,
            (h.fetch hs₃ other free).calm _ _ (calmer.assign client _), fun v held => ?_⟩
          · cases new
            obtain ⟨looping, rfl, -⟩ := calmer
            simp [Process.construct]
          · rw [h.held client _ held] at free
            cases free
        · cases raised
      · cases raised
        exact ⟨hs₃, .refl _, h.tidy⟩

/-- The engine is replaced, whatever an earlier lifespan has left. -/
theorem initDb_safe (h : s.Holding (fun _ => none) fun _ => false)
    (free : s.failed = false → s.name .engine = none) :
    LifespanSafe initDb (fun r s' => match r with
      | .ok _ => ∃ engine, s'.Holding (Function.update (fun _ => none) .engine (some (some engine)))
          fun _ => false
      | .error _ => s'.Tidy) s := by
  refine LifespanSafe.await fun s₁ calmer hs₁ => ⟨trivial, fun choice r s₂ answered => ?_⟩
  have h := h.calm _ _ calmer
  have free : s₁.failed = false → s₁.name .engine = none := by
    obtain ⟨looping, rfl, -⟩ := calmer
    exact free
  obtain ⟨engine, rfl, given⟩ | ⟨e, rfl, raised⟩ := Process.answer_cases answered
  · cases given
    refine ⟨hs₁.construct .engine, .of_same rfl rfl, ?_⟩
    refine LifespanSafe.await fun s₃ calmer hs₃ => ⟨trivial, fun choice r s₄ answered => ?_⟩
    have calmer := calmer.assign .engine (some (s₁.constructed .engine))
    obtain ⟨_, rfl, given⟩ | ⟨e, rfl, raised⟩ := Process.answer_cases answered
    · cases given
      refine ⟨hs₃.assign fun v new => ?_, .of_same rfl rfl, ?_⟩
      · cases new
        rw [show s₃.constructed = _ from calmer.constructed]
        simp [Process.construct, Process.assign]
      refine LifespanSafe.perform fun s₅ calmer' hs₅ => ⟨trivial, fun choice r s₆ answered => ?_⟩
      have calmer := calmer.trans calmer'
      obtain ⟨_, rfl, given⟩ | ⟨e, rfl, raised⟩ := Process.answer_cases answered
      · cases given
        refine ⟨hs₅.bindSessions _ fun task => ?_, .of_same rfl rfl, s₁.constructed .engine,
          (h.openEngine hs₁ free).calm _ _ (calmer.bindSessions _)⟩
        rw [calmer.lifespans]
        exact calmer.off (h.idle task rfl)
      · cases raised
    · cases raised
  · cases raised
    exact ⟨hs₁, .refl _, h.tidy⟩

/-- The task may be going on behind it, with a Redis client that it can use. -/
theorem startPeriodic_safe (h : s.Holding known going) {task : Periodic} {redis engine : Nat}
    (off : going task = false) (client : known .redis = some (some redis))
    (sessions : known .engine = some (some engine)) :
    LifespanSafe (startPeriodic task redis) (fun r s' => match r with
      | .ok _ => s'.Holding known (Function.update going task true)
      | .error _ => s'.Tidy) s := by
  refine LifespanSafe.await fun s₁ calmer hs₁ => ⟨trivial, fun choice r s₂ answered => ?_⟩
  obtain rfl := Process.answer_plain rfl answered
  have h := h.calm _ _ calmer
  refine ⟨hs₁, .refl _, ?_⟩
  cases r with
  | error e => exact h.tidy
  | ok running =>
      rw [Prog.andThen]
      split
      · exact h.more task
      refine LifespanSafe.await fun s₃ calmer hs₃ => ⟨trivial, fun choice r s₄ answered => ?_⟩
      have h := h.calm _ _ calmer
      obtain ⟨_, rfl, given⟩ | ⟨e, rfl, raised⟩ := Process.answer_cases answered
      · cases given
        refine ⟨hs₃.setRunning .., .of_same rfl rfl, ?_⟩
        refine LifespanSafe.perform fun s₅ calmer hs₅ => ⟨trivial, fun choice r s₆ answered => ?_⟩
        have h := (h.setRunning ..).calm _ _ calmer
        obtain ⟨_, rfl, given⟩ | ⟨e, rfl, raised⟩ := Process.answer_cases answered
        · cases given
          exact ⟨hs₅.createTask task (h.usable client sessions), .createTask (h.idle task off) redis,
            h.createTask task redis⟩
        · cases raised
      · cases raised

/-- `stop` returns only when the task is over. -/
theorem stopPeriodic_safe (h : s.Holding known going) (task : Periodic) :
    LifespanSafe (stopPeriodic task) (fun r s' => match r with
      | .ok _ => s'.Holding known (Function.update going task false)
      | .error _ => s'.Tidy) s := by
  refine LifespanSafe.await fun s₁ calmer hs₁ => ⟨trivial, fun choice r s₂ answered => ?_⟩
  have h := h.calm _ _ calmer
  obtain ⟨_, rfl, given⟩ | ⟨e, rfl, raised⟩ := Process.answer_cases answered
  · cases given
    refine ⟨hs₁.setRunning .., .of_same rfl rfl, ?_⟩
    refine LifespanSafe.await fun s₃ calmer hs₃ => ⟨trivial, fun choice r s₄ answered => ?_⟩
    have h := (h.setRunning ..).calm _ _ calmer
    obtain ⟨created, rfl, given⟩ | ⟨e, rfl, raised⟩ := Process.answer_cases answered
    · cases given
      refine ⟨hs₃, .refl _, ?_⟩
      rw [Prog.andThen]
      split
      · refine Safe.rescue hs₃ (P := fun _ s' =>
          s'.Holding known (Function.update going task false)) ?_ (fun _ _ _ h => h)
          fun e s' hs' h => ?_
        · refine LifespanSafe.perform fun s₅ calmer hs₅ => ⟨trivial, fun choice r s₆ answered => ?_⟩
          obtain ⟨stopped, rfl⟩ := Process.answer_waitFor answered
          exact ⟨hs₅, .refl _, (h.calm _ _ calmer).less stopped⟩
        · split
          · exact LifespanSafe.plain rfl _ Process.Holding.calm h (fun _ _ _ => trivial)
              fun r _ _ h => by
                cases r with
                | ok _ => exact h
                | error e => exact h.tidy
          · exact h.tidy
      · rename_i absent
        refine h.less (Bool.eq_false_iff.mpr fun still => hs₃.created _ _ still ?_)
        simpa [Process.number] using absent
    · cases raised
  · cases raised

/-- `release` never fails. -/
theorem release_safe {value : Nat} (h : s.Ending known going client value)
    (other : client ≠ .engine) (held : known client = some (some value)) :
    LifespanSafe (release client value) (fun r s' => r = .ok () ∧
      s'.Holding (Function.update known client (some none)) going) s := by
  refine LifespanSafe.await fun s₁ calmer hs₁ => ⟨trivial, fun choice r s₂ answered => ?_⟩
  obtain ⟨rfl, rfl⟩ := Process.answer_read answered
  have h := h.calm _ _ calmer
  refine ⟨hs₁, .refl _, ?_⟩
  rw [Prog.andThen, if_pos (h.named held)]
  refine LifespanSafe.perform fun s₃ calmer hs₃ => ⟨trivial, fun choice r s₄ answered => ?_⟩
  obtain ⟨_, rfl, given⟩ | ⟨e, rfl, raised⟩ := Process.answer_cases answered
  · cases given
    exact ⟨hs₃.assign (fun v none => by cases none), .of_same rfl rfl, rfl,
      (h.calm _ _ calmer).release other held⟩
  · cases raised

/-- `finally`, behind a program that has ended the client. -/
theorem ensureRelease_safe {value : Nat} {p : AppProgram Unit} (hs : s.Valid)
    (other : client ≠ .engine) (held : known client = some (some value))
    (ended : LifespanSafe p (fun _ s' => s'.Ending known going client value) s) :
    LifespanSafe (Prog.ensure p (release client value))
      (fun _ s' => s'.Holding (Function.update known client (some none)) going) s := by
  refine Safe.bindE hs ended fun r s₁ hs₁ ending => ?_
  refine Safe.bindE hs₁ (release_safe ending other held) fun r' s₂ _ released => ?_
  obtain ⟨rfl, holding⟩ := released
  cases r with
  | ok _ => exact holding
  | error e => exact holding

/-- The call that ends a client, whatever comes of it. -/
theorem close_safe {value : Nat} (h : s.Holding known going) (other : client ≠ .redis)
    (held : known client = some (some value)) (cleanup : going .cleanup = false)
    (flusher : client ≠ .producer → going .flusher = false) :
    LifespanSafe (await (.close client value))
      (fun _ s' => s'.Ending known going client value) s := by
  refine LifespanSafe.perform fun s₁ calmer hs₁ => ?_
  have h := h.calm _ _ calmer
  have ends := h.ends held cleanup flusher
  refine ⟨ends, fun choice r s₂ answered => ?_⟩
  have closed : s₂ = s₁.close client value := by
    obtain ⟨_, rfl, given⟩ | ⟨e, rfl, raised⟩ := Process.answer_cases answered
    · cases given
      rfl
    · cases client <;> first | exact absurd rfl other | (cases raised; rfl)
  subst closed
  refine ⟨hs₁.close (hs₁.named _ _ ends.name) (fun _ producer task => ?_), .of_same rfl rfl,
    s₁, h, .refl _⟩
  cases task with
  | cleanup => exact ends.cleanup
  | flusher => exact ends.flusher producer

theorem flushKafkaProducer_safe (h : s.Holding known going) {producer : Nat}
    (held : known .producer = some (some producer)) (cleanup : going .cleanup = false) :
    LifespanSafe flushKafkaProducer
      (fun _ s' => s'.Holding (Function.update known .producer (some none)) going) s := by
  refine LifespanSafe.await fun s₁ calmer hs₁ => ⟨trivial, fun choice r s₂ answered => ?_⟩
  obtain ⟨rfl, rfl⟩ := Process.answer_read answered
  have h := h.calm _ _ calmer
  refine ⟨hs₁, .refl _, ?_⟩
  rw [Prog.andThen, h.held _ _ held]
  refine ensureRelease_safe hs₁ (by simp) held (Safe.exceptException hs₁
    (close_safe h (by simp) held cleanup (absurd rfl)) (fun _ _ _ ending => ending)
    (fun _ _ _ _ ending => ending) fun _ _ _ _ ending => ending)

theorem closeRedis_safe (h : s.Holding known going) {redis : Nat}
    (held : known .redis = some (some redis)) (stopped : ∀ task, going task = false) :
    LifespanSafe closeRedis (fun r s' => match r with
      | .ok _ => s'.Holding (Function.update known .redis (some none)) going
      | .error _ => s'.Tidy) s := by
  refine LifespanSafe.await fun s₁ calmer hs₁ => ⟨trivial, fun choice r s₂ answered => ?_⟩
  obtain ⟨rfl, rfl⟩ := Process.answer_read answered
  have h := h.calm _ _ calmer
  refine ⟨hs₁, .refl _, ?_⟩
  rw [Prog.andThen, h.held _ _ held]
  refine Safe.bind hs₁ (P := fun r s' => match r with
    | .ok _ => s'.Ending known going .redis redis
    | .error _ => s'.Tidy) ?_ (fun _ s₃ _ ending => ?_) fun _ _ _ tidy => tidy
  · refine Safe.exceptException hs₁ (P := fun r s' => match r with
      | .ok _ => s'.Ending known going .redis redis
      | .error e => if e.isException then s'.Ending known going .redis redis else s'.Tidy) ?_
      (fun _ _ _ ending => ending) (fun e _ _ cancelled left => ?_) fun e s' _ exception left => ?_
    · refine LifespanSafe.await fun s₃ calmer hs₃ => ?_
      have h := h.calm _ _ calmer
      have ends := h.ends held (stopped _) fun _ => stopped _
      refine ⟨ends, fun choice r s₄ answered => ?_⟩
      have valid : (s₃.close .redis redis).Valid :=
        hs₃.close (hs₃.named _ _ ends.name) fun _ _ task => h.idle task (stopped task)
      have ending : (s₃.close .redis redis).Ending known going .redis redis := ⟨s₃, h, .refl _⟩
      obtain ⟨_, rfl, given⟩ | ⟨e, rfl, raised⟩ := Process.answer_cases answered
      · cases given
        refine ⟨valid, .of_same rfl rfl, ?_⟩
        refine LifespanSafe.perform fun s₅ calmer hs₅ => ⟨trivial, fun choice r s₆ answered => ?_⟩
        have ending := ending.calm _ _ calmer
        obtain ⟨_, rfl, given⟩ | ⟨e, rfl, raised⟩ := Process.answer_cases answered
        · cases given
          exact ⟨hs₅, .refl _, ending⟩
        · cases raised
          exact ⟨hs₅.interrupt e, .of_same rfl rfl, ending.interrupted e⟩
      · cases raised
        exact ⟨valid.interrupt e, .of_same rfl rfl, ending.interrupted e⟩
    · simpa only [cancelled, Bool.false_eq_true, if_false] using left
    · have ending : s'.Ending known going .redis redis := by
        simpa only [exception, if_true] using left
      exact ending
  · refine LifespanSafe.perform fun s₅ calmer hs₅ => ⟨trivial, fun choice r s₆ answered => ?_⟩
    obtain ⟨_, rfl, given⟩ | ⟨e, rfl, raised⟩ := Process.answer_cases answered
    · cases given
      exact ⟨hs₅.assign (fun v none => by cases none), .of_same rfl rfl,
        (ending.calm _ _ calmer).release (by simp) held⟩
    · cases raised

theorem closeDb_safe (h : s.Holding known going) {engine : Nat}
    (held : known .engine = some (some engine)) (stopped : ∀ task, going task = false)
    (empty : ∀ client, client ≠ .engine → known client = some none) :
    LifespanSafe closeDb (fun r s' => match r with
      | .ok _ => s'.Emptied
      | .error _ => s'.Tidy) s := by
  refine LifespanSafe.await fun s₁ calmer hs₁ => ⟨trivial, fun choice r s₂ answered => ?_⟩
  obtain ⟨rfl, rfl⟩ := Process.answer_read answered
  have h := h.calm _ _ calmer
  refine ⟨hs₁, .refl _, ?_⟩
  rw [Prog.andThen, h.held _ _ held]
  refine Safe.bind hs₁ (close_safe h (by simp) held (stopped _) fun _ => stopped _)
    (fun _ s₃ _ ending => ?_) fun _ _ _ ending => ending.tidy
  refine LifespanSafe.perform fun s₅ calmer hs₅ => ⟨trivial, fun choice r s₆ answered => ?_⟩
  obtain ⟨_, rfl, given⟩ | ⟨e, rfl, raised⟩ := Process.answer_cases answered
  · cases given
    exact ⟨hs₅.assign (fun v none => by cases none), .of_same rfl rfl,
      (ending.calm _ _ calmer).emptied held stopped empty⟩
  · cases raised

theorem finalFlush_safe (h : s.Holding known going) (hs : s.Valid) {redis engine : Nat}
    (client : known .redis = some (some redis)) (sessions : known .engine = some (some engine)) :
    LifespanSafe (exceptException (await (.pass .flusher redis)) fun _ => pure ())
      (fun _ s' => s'.Holding known going) s :=
  Safe.exceptException hs (LifespanSafe.plain rfl _ Process.Holding.calm h
    (fun _ _ h => h.usable client sessions) fun _ _ _ h => h) (fun _ _ _ h => h)
    (fun _ _ _ _ h => h) fun _ _ _ _ h => h

theorem shutDown_safe {clients : Clients} {engine : Nat}
    (h : s.Holding (Process.full clients engine) fun _ => true) (hs : s.Valid) :
    LifespanSafe (shutDown clients) (fun r s' => match r with
      | .ok _ => s'.Emptied
      | .error _ => s'.Tidy) s := by
  refine Safe.bind hs (stopPeriodic_safe h .cleanup) (fun _ s₁ hs₁ h => ?_) fun _ _ _ tidy => tidy
  have h : s₁.Holding _ _ := h
  refine Safe.bind hs₁ (LifespanSafe.plain (c := .stopAll) rfl _ Process.Holding.calm h
    (fun _ _ _ => trivial) fun _ _ _ h => h) (fun _ s₂ hs₂ h => ?_) fun _ _ _ h => h.tidy
  refine Safe.bind hs₂ (flushKafkaProducer_safe h rfl rfl) (fun _ s₃ hs₃ h => ?_)
    fun _ _ _ h => h.tidy
  refine Safe.bind hs₃ (finalFlush_safe h hs₃ rfl rfl) (fun _ s₄ hs₄ h => ?_) fun _ _ _ h => h.tidy
  refine Safe.bind hs₄ (stopPeriodic_safe h .flusher) (fun _ s₅ hs₅ h => ?_) fun _ _ _ tidy => tidy
  have h : s₅.Holding _ _ := h
  refine Safe.bind hs₅ (ensureRelease_safe hs₅ (by simp) rfl (close_safe h (by simp) rfl rfl
    fun _ => rfl)) (fun _ s₆ hs₆ h => ?_) fun _ _ _ h => h.tidy
  have stopped : ∀ task, Function.update (Function.update (fun _ => true) Periodic.cleanup false)
      .flusher false task = false := fun task => by cases task <;> rfl
  refine Safe.bind hs₆ (closeRedis_safe h rfl stopped) (fun _ s₇ hs₇ h => ?_) fun _ _ _ tidy => tidy
  have h : s₇.Holding _ _ := h
  refine closeDb_safe h rfl stopped fun client other => ?_
  cases client <;> first | rfl | exact absurd rfl other

/-- The runner keeps the client that `app.state` has. -/
theorem createRunner_safe (h : s.Holding known going) (hs : s.Valid) (reddit : Nat)
    (held : known .reddit = some (some reddit)) :
    LifespanSafe createRunner (fun r s' => match r with
      | .ok (runnerReddit, producer) => runnerReddit = reddit ∧
          s'.Holding (Function.update known .producer (some (some producer))) going
      | .error _ => s'.Tidy) s := by
  refine Safe.bind hs (getClient_safe h .reddit (by simp)) (fun d s₁ hs₁ found => ?_)
    fun _ _ _ tidy => tidy
  obtain ⟨h, same⟩ := found
  obtain rfl := same reddit held
  refine Safe.bind hs₁ (getClient_safe h .producer (by simp)) (fun p s₂ _ found => ?_)
    fun _ _ _ tidy => tidy
  have known' : Function.update known .reddit (some (some d)) = known :=
    Function.update_eq_self_iff.mpr held.symm
  exact ⟨rfl, known' ▸ found.1⟩

/-- The application serves only when every client is there. -/
theorem startUp_safe (h : s.Holding (fun _ => none) fun _ => false)
    (free : s.failed = false → s.name .engine = none) :
    LifespanSafe startUp (fun r s' => match r with
      | .ok clients => clients.runnerReddit = clients.reddit ∧
          ∃ engine, s'.Holding (Process.full clients engine) fun _ => true
      | .error _ => s'.Tidy) s := by
  refine LifespanSafe.await fun s₁ calmer hs₁ => ⟨trivial, fun choice r s₂ answered => ?_⟩
  obtain rfl := Process.answer_plain rfl answered
  have h := h.calm _ _ calmer
  have free : s₂.failed = false → s₂.name .engine = none := by
    obtain ⟨looping, rfl, -⟩ := calmer
    exact free
  refine ⟨hs₁, .refl _, ?_⟩
  cases r with
  | error e => exact h.tidy
  | ok _ =>
      refine Safe.bind hs₁ (initDb_safe h free) (fun _ s₃ hs₃ opened => ?_) fun _ _ _ tidy => tidy
      obtain ⟨engine, h⟩ := opened
      refine Safe.bind hs₃ (getClient_safe h .redis (by simp))
        (fun redis s₄ hs₄ found => ?_) fun _ _ _ tidy => tidy
      refine Safe.bind hs₄ (LifespanSafe.plain (c := .ping redis) rfl _ Process.Holding.calm found.1
        (fun _ _ _ => trivial) fun _ _ _ h => h) (fun _ s₅ hs₅ h => ?_) fun _ _ _ h => h.tidy
      refine Safe.bind hs₅ (getClient_safe h .reddit (by simp))
        (fun reddit s₆ hs₆ found => ?_) fun _ _ _ tidy => tidy
      refine Safe.bind hs₆ (createRunner_safe found.1 hs₆ reddit (by simp))
        (fun runner s₇ hs₇ found => ?_) fun _ _ _ tidy => tidy
      obtain ⟨runnerReddit, producer⟩ := runner
      obtain ⟨rfl, h⟩ := found
      have h : s₇.Holding (Process.full ⟨redis, runnerReddit, runnerReddit, producer⟩ engine)
          fun _ => false :=
        h.weaken (fun client value => by cases client <;> simp [Process.full]) fun _ off => off
      refine LifespanSafe.await fun s₈ calmer hs₈ => ⟨trivial, fun choice r s₉ answered => ?_⟩
      obtain ⟨rfl, rfl⟩ := Process.answer_read answered
      have h := h.calm _ _ calmer
      refine ⟨hs₈, .refl _, ?_⟩
      rw [Prog.andThen, h.held .engine _ rfl]
      refine Safe.bind hs₈ (startPeriodic_safe h rfl rfl rfl) (fun _ s₁₀ hs₁₀ h => ?_)
        fun _ _ _ tidy => tidy
      have h : s₁₀.Holding _ _ := h
      refine Safe.bind hs₁₀ (startPeriodic_safe h rfl rfl rfl) (fun _ s₁₁ _ h => ?_)
        fun _ _ _ tidy => tidy
      exact ⟨rfl, engine, Process.Holding.weaken h (fun _ _ held => held) fun _ off => by cases off⟩

theorem lifespan_safe (h : s.Holding (fun _ => none) fun _ => false) (hs : s.Valid)
    (free : s.failed = false → s.name .engine = none) :
    LifespanSafe lifespan (fun r s' => match r with
      | .ok _ => s'.Emptied
      | .error _ => s'.Tidy) s := by
  refine Safe.bind hs (startUp_safe h free) (fun clients s₁ hs₁ started => ?_)
    fun _ _ _ tidy => tidy
  obtain ⟨same, engine, h⟩ := started
  refine Safe.bind hs₁ (LifespanSafe.plain (c := .serve clients) rfl _ Process.Holding.calm h
    (fun _ _ h => h.serves same) fun _ _ _ h => h) (fun _ s₂ hs₂ h => shutDown_safe h hs₂)
    fun _ _ _ h => h.tidy

/-! ## The loops -/

/-- The effects of a periodic task. -/
def ofLoop (task : Periodic) (redis : Nat) (c : AppEff) : Prop :=
  c = .isRunning task ∨ c = .sleep ∨ c = .pass task redis

theorem periodicLoop_uses (task : Periodic) (redis : Nat) :
    (periodicLoop task redis).Uses (ofLoop task redis) := by
  refine Prog.Uses.forever ((Prog.Uses.perform (.inl rfl)).bind fun running => ?_)
  split
  · refine Prog.Uses.bind (Prog.Uses.bindE ((Prog.Uses.perform (.inr (.inl rfl))).bind fun _ =>
      Prog.Uses.perform (.inr (.inr rfl))) fun _ => trivial) fun outcome => ?_
    cases outcome with
    | ok _ => trivial
    | error e =>
        dsimp only
        split
        · trivial
        split <;> trivial
  · trivial

theorem periodicLoop_safe {n redis : Nat} {task : Periodic} (going : s.looping n task = true)
    (created : s.task n task = some redis) :
    Safe processMachine processDiscipline (.loop n task) (periodicLoop task redis)
      (fun _ s' => s'.looping n task = true ∧ s'.task n task = some redis) s := by
  refine Safe.of_uses (periodicLoop_uses task redis) _ ⟨going, created⟩ (fun a b kept _ mine => ?_)
    fun c s₁ used hs₁ mine => ⟨?_, ?_⟩
  · obtain ⟨still, same⟩ := kept mine.1
    exact ⟨still, same.trans mine.2⟩
  · obtain ⟨going, created⟩ := mine
    obtain rfl | rfl | rfl := used
    · trivial
    · trivial
    · intro fresh
      obtain rfl := hs₁.current fresh n task going
      obtain ⟨redis', created', usable⟩ := hs₁.usable fresh task going
      rw [created] at created'
      cases created'
      exact usable
  · intro _ choice r s₂ answered
    have quiet : Process.plain c = true := by obtain rfl | rfl | rfl := used <;> rfl
    obtain rfl := Process.answer_plain quiet answered
    exact ⟨hs₁, fun u _ => processDiscipline.keeps_refl u _, mine⟩

end App

/-! ## Whole runs -/

/-- What a thread leaves behind. -/
def processPost : AppThread → Except PyExc Unit → Process → Prop
  | .lifespan, .ok _, s => s.Emptied
  | .lifespan, .error _, s => s.Tidy
  | .loop _ _, _, _ => True

def processRest : AppThread → Process → Prop
  | .lifespan, s => s.AtRest
  | .loop _ _, _ => True

namespace Process

variable {s a b : Process}

theorem AtRest.calmer (h : a.AtRest) (calmer : a.Calmer b) : b.AtRest := by
  have tidy := h.tidy.calmer calmer
  have quiet (fine : a.failed = false) (n : Nat) (task : Periodic) : b.looping n task = false :=
    calmer.off (h.quiet fine n task)
  obtain ⟨looping, rfl, -⟩ := calmer
  exact ⟨tidy, h.empty, quiet, h.uncut⟩

theorem Emptied.calmer (h : a.Emptied) (calmer : a.Calmer b) : b.Emptied := by
  have tidy := h.tidy.calmer calmer
  have idle (task : Periodic) : b.looping a.lifespans task = false := calmer.off (h.idle task)
  obtain ⟨looping, rfl, -⟩ := calmer
  exact ⟨tidy, h.empty, h.uncut, idle⟩

theorem Emptied.atRest (h : s.Emptied) (hs : s.Valid) : s.AtRest := by
  have fresh (fine : s.failed = false) : s.stale = false :=
    Bool.eq_false_iff.mpr fun stale => by
      rw [hs.stale stale] at fine
      cases fine
  refine ⟨h.tidy, fun _ => h.empty, fun fine n task => ?_, fun fine => h.uncut (fresh fine)⟩
  refine Bool.eq_false_iff.mpr fun going => ?_
  obtain rfl := hs.current (fresh fine) n task going
  rw [h.idle task] at going
  cases going

/-- A lifespan has ended with an exception. -/
theorem Tidy.failed (h : s.Tidy) : AtRest { s with failed := true } where
  tidy := ⟨fun client value shared isOpen => h.named client value (fun engine => by
    cases shared engine) isOpen, h.isOpen⟩
  empty fine := by cases fine
  quiet fine := by cases fine
  uncut fine := by cases fine

theorem Valid.failed (h : s.Valid) : Valid { s with failed := true } :=
  ⟨h.named, h.closed, h.future, h.created, fun _ => rfl, h.current, h.usable⟩

/-- A periodic task has ended. -/
theorem calmer_ended (s : Process) (n : Nat) (task : Periodic) :
    s.Calmer { s with
      looping := Function.update s.looping n (Function.update (s.looping n) task false) } := by
  refine ⟨_, rfl, fun n' task' going => ?_⟩
  by_cases here : n' = n
  · subst here
    by_cases same : task' = task
    · simp [same] at going
    · simpa [same] using going
  · simpa [here] using going

theorem AtRest.holding (h : s.AtRest) (hs : s.Valid) :
    Holding (fun _ => none) (fun _ => false)
      { s with lifespans := s.lifespans + 1, stale := s.stale || s.failed } where
  tidy := ⟨h.tidy.named, h.tidy.isOpen⟩
  held _ _ none := by cases none
  engine _ none := by cases none
  uncut fresh := h.uncut (Bool.or_eq_false_iff.mp fresh).2
  idle task _ := hs.future _ task (Nat.lt_succ_self _)

end Process

theorem process_resting :
    Resting processMachine processDiscipline processPost processRest where
  post_stable t r a b kept hb left := by
    cases t with
    | loop n task => trivial
    | lifespan =>
        cases r with
        | ok _ => exact Process.Emptied.calmer left kept
        | error e => exact Process.Tidy.calmer left kept
  rest_stable t a b kept hb rest := by
    cases t with
    | loop n task => trivial
    | lifespan => exact Process.AtRest.calmer rest kept
  start t request s p s' hs rest started := by
    cases t with
    | lifespan =>
        cases request with
        | cancelled => cases started
        | begin =>
            cases started
            have rest : s.AtRest := rest
            have begun := hs.begin rest.quiet
            refine ⟨begun, fun u other => ?_, ?_⟩
            · cases u with
              | lifespan => exact absurd rfl other
              | loop n task => exact fun going => ⟨going, rfl⟩
            · refine (App.lifespan_safe (rest.holding hs) begun fun fine => rest.empty fine _).mono
                begun fun r s' _ left => ?_
              cases r with
              | ok _ => exact left
              | error e => exact left
    | loop n task =>
        cases request with
        | begin =>
            simp only [processMachine, Process.start] at started
            split at started
            · rename_i going
              obtain ⟨redis, created, same⟩ := Option.map_eq_some_iff.mp started
              cases same
              exact ⟨hs, fun u _ => processDiscipline.keeps_refl u _,
                (App.periodicLoop_safe going created).mono hs fun _ _ _ _ => trivial⟩
            · cases started
        | cancelled =>
            simp only [processMachine, Process.start] at started
            split at started
            · cases started
              exact ⟨hs, fun u _ => processDiscipline.keeps_refl u _, trivial⟩
            · cases started
  finish t r s hs left := by
    cases t with
    | lifespan =>
        cases r with
        | ok _ =>
            have left : s.Emptied := left
            exact ⟨hs, fun u _ => processDiscipline.keeps_refl u _, left.atRest hs⟩
        | error e =>
            have left : s.Tidy := left
            refine ⟨hs.failed, fun u other => ?_, left.failed⟩
            cases u with
            | lifespan => exact absurd rfl other
            | loop n task => exact fun going => ⟨going, rfl⟩
    | loop n task =>
        have calmer := s.calmer_ended n task
        refine ⟨hs.calmer calmer, fun u other => ?_, trivial⟩
        cases u with
        | lifespan => exact calmer
        | loop n' task' =>
            intro going
            refine ⟨?_, rfl⟩
            simp only [processMachine, Process.finish]
            by_cases here : n' = n
            · subst here
              have apart : task' ≠ task := fun same => other (by rw [same])
              simpa [apart] using going
            · simpa [here] using going
  tick event s s' hs moved := by cases moved

/-- Every moment of every run of a process. -/
theorem process_rested {c : ProcessConfig} (reached : processMachine.Reaches processConfig c) :
    Rested processMachine processDiscipline processPost processRest c := by
  refine process_resting.reaches ⟨Orderly.initial .initial, fun t _ => ?_⟩ reached
  cases t with
  | loop n task => trivial
  | lifespan => exact ⟨.initial, fun _ _ => rfl, fun _ _ _ => rfl, fun _ => rfl⟩

/-- Whatever fails and wherever lifespans are cancelled: a lifespan serves with the clients
under the names. Its Reddit client, its producer and its engine are open, its Redis client
too unless an earlier `close_redis` was cancelled, and no other client is open that an
earlier lifespan could have left, engines of failed lifespans aside. -/
theorem lifespans_serve_open_clients {c : ProcessConfig}
    (reached : processMachine.Reaches processConfig c) :
    (∀ clients, c.Awaits .lifespan (.serve clients) → c.state.Serves clients) ∧
      (c.threads .lifespan = none → c.state.AtRest) :=
  have rested := process_rested reached
  ⟨fun _ serving => rested.pledged serving, fun ended => rested.idle .lifespan ended⟩

/-- So many effects of a lifespan, none of which raises. -/
def proceed (n : Nat) : List ProcessAction := List.replicate n (.call .lifespan none)

/-- A periodic task of the first lifespan is cancelled before its first step. -/
def neverBegun (task : Periodic) : List ProcessAction :=
  [.start (.loop 1 task) .cancelled, .finish (.loop 1 task)]

/-- The first lifespan is cancelled in `close_redis`, and the second serves with its client. -/
theorem second_lifespan_serves :
    ∃ c, processMachine.Reaches processConfig c ∧ c.Awaits .lifespan (.serve ⟨0, 1, 1, 1⟩) ∧
      c.state.closed = [(.redis, 0), (.reddit, 0), (.producer, 0)] ∧
      c.state.Serves ⟨0, 1, 1, 1⟩ := by
  have run : (processMachine.exec
      ([.start .lifespan .begin] ++ proceed 25 ++ neverBegun .cleanup ++ proceed 9 ++
        neverBegun .flusher ++ proceed 5 ++
        [.call .lifespan (some .cancelledError), .finish .lifespan, .start .lifespan .begin] ++
        proceed 20) processConfig).map
          (fun c => (c.awaited .lifespan, c.state.closed)) =
      some (some (.serve ⟨0, 1, 1, 1⟩), [(.redis, 0), (.reddit, 0), (.producer, 0)]) := by
    decide +kernel
  obtain ⟨c, reached, seen⟩ := Machine.Reaches.of_exec_map run
  obtain ⟨serving, closed⟩ := Prod.mk.inj seen
  have serving := Config.awaits_iff.mpr serving
  exact ⟨c, reached, serving, closed, (lifespans_serve_open_clients reached).1 _ serving⟩

/-- A periodic task, and the final flush, use clients that have not been ended, unless a
lifespan has begun after one that failed; and a lifespan ends each client once, when the
tasks that use it are over. -/
theorem clients_used_before_their_end {c : ProcessConfig}
    (reached : processMachine.Reaches processConfig c) :
    (∀ t task redis, c.Awaits t (.pass task redis) → c.state.stale = false →
      c.state.Usable redis) ∧
      ∀ client value, c.Awaits .lifespan (.close client value) → c.state.Ends client value := by
  have rested := process_rested reached
  refine ⟨fun t task redis sweeping fresh => ?_, fun client value closing => rested.pledged closing⟩
  have usable := rested.pledged sweeping
  cases t with
  | lifespan => exact usable fresh
  | loop n task' => exact usable fresh

/-- The cleanup task of the first lifespan sweeps. -/
def sweepBegun : List ProcessAction :=
  [.start (.loop 1 .cleanup) .begin, .unroll (.loop 1 .cleanup), .call (.loop 1 .cleanup) none,
    .call (.loop 1 .cleanup) none]

/-- A sweep during the first lifespan, whose Redis client is closed behind the sweep. -/
theorem redis_closed_behind_sweep :
    (∃ c, processMachine.Reaches processConfig c ∧ c.Awaits (.loop 1 .cleanup) (.pass .cleanup 0) ∧
      c.state.Usable 0) ∧
    ∃ c, processMachine.Reaches processConfig c ∧ c.Awaits .lifespan (.close .redis 0) ∧
      c.state.Ends .redis 0 := by
  have sweep : (processMachine.exec
      ([.start .lifespan .begin] ++ proceed 22 ++ sweepBegun) processConfig).map
          (fun c => (c.awaited (.loop 1 .cleanup), c.state.stale)) =
      some (some (.pass .cleanup 0), false) := by
    decide +kernel
  have closing : (processMachine.exec
      ([.start .lifespan .begin] ++ proceed 22 ++ sweepBegun ++ proceed 3 ++
        [.call (.loop 1 .cleanup) none, .unroll (.loop 1 .cleanup),
          .call (.loop 1 .cleanup) none, .finish (.loop 1 .cleanup)] ++ proceed 9 ++
        neverBegun .flusher ++ proceed 5) processConfig).map
          (fun c => c.awaited .lifespan) = some (some (.close .redis 0)) := by
    decide +kernel
  obtain ⟨c, reached, seen⟩ := Machine.Reaches.of_exec_map sweep
  obtain ⟨sweeping, fresh⟩ := Prod.mk.inj seen
  obtain ⟨d, reached', closing⟩ := Machine.Reaches.of_exec_map closing
  have sweeping := Config.awaits_iff.mpr sweeping
  have closing := Config.awaits_iff.mpr closing
  exact ⟨⟨c, reached, sweeping, (clients_used_before_their_end reached).1 _ _ _ sweeping fresh⟩,
    d, reached', closing, (clients_used_before_their_end reached').2 _ _ closing⟩

end RedditKafka
