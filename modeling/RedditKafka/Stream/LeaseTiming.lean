import Mathlib.Tactic.Linarith
import Mathlib.Data.Rat.Cast.Order
import Mathlib.Algebra.Order.Field.Rat
import RedditKafka.Stream.WorkerMachine

/-!
# The lease and its refresher in time

The refresher of one worker against a clock. Each of its awaits takes some
time, and the moments at which the stop event is not set are recorded together
with the expiry that the lease had then. The margin of the lease is what the
reply to a refresh, the heartbeat and the next refresh may take together.
-/
namespace RedditKafka
open Async

/-- The moments from `start` on and before `stop`, at which the lease expires at `expires`. -/
structure Span where
  start : ℚ
  stop : ℚ
  expires : ℚ
  deriving DecidableEq

/-- Each of the moments is strictly before the expiry. -/
def Span.Covered (p : Span) : Prop := ∀ t, p.start ≤ t → t < p.stop → t < p.expires

/-- From one setting of the lease to the end of the next refresh: how long the reply took from
its handling on, the heartbeat, and the refresh until it was handled or failed. -/
structure Round where
  lag : ℚ
  beat : ℚ
  request : ℚ
  deriving DecidableEq

structure Lease where
  now : ℚ
  expires : ℚ
  stopEvent : Bool := false
  /-- The moments so far at which the stop event was not set, one span for each wait. -/
  spans : List Span := []
  /-- The time that the reply which told of the present lease took after its handling. -/
  lag : ℚ := 0
  /-- The time that the heartbeat after it took. -/
  beat : ℚ := 0
  /-- The rounds that are over. -/
  rounds : List Round := []

/-- How one await ends, and when. -/
inductive Response where
  | immediate
  | done (wait : ℚ)
  | raised (wait : ℚ) (e : PyExc)
  /-- The server extends the lease `handled` seconds after the request. -/
  | refreshed (handled wait : ℚ)
  /-- The server extends the lease, and its reply is lost. -/
  | refreshedRaised (handled wait : ℚ) (e : PyExc)
  | refused (wait : ℚ)

namespace Lease

/-- Time passes while the refresher waits. -/
def pass (d : ℚ) (s : Lease) : Lease :=
  { s with
    now := s.now + d
    spans := if s.stopEvent then s.spans else s.spans ++ [⟨s.now, s.now + d, s.expires⟩] }

/-- A refresh ends after `d` seconds without an extension of the lease that is known of. -/
def fail (d : ℚ) (s : Lease) : Lease :=
  { s.pass d with rounds := s.rounds ++ [⟨s.lag, s.beat, d⟩] }

/-- The server extends the lease after `handled` seconds; the wait is over after `d`. -/
def extend (ttl : Nat) (handled d : ℚ) (s : Lease) : Lease :=
  pass (d - handled) { s.pass handled with
    expires := s.now + handled + ttl
    lag := d - handled
    beat := 0
    rounds := s.rounds ++ [⟨s.lag, s.beat, handled⟩] }

/-- A lease that has expired is not extended; a cancellation cuts a wait short. -/
def answer (w : StreamWorker) : (c : WorkerEff) → Response → Lease →
    Option (Except PyExc c.Answer × Lease)
  | .sleep n, .done d, s => if d = n then some (.ok (), s.pass n) else none
  | .sleep n, .raised d e, s =>
      if 0 ≤ d ∧ d ≤ n ∧ e.isException = false then some (.error e, s.pass d) else none
  | .refreshLock ttl, .refreshed handled d, s =>
      if 0 ≤ handled ∧ handled ≤ d ∧ d ≤ w.lockRefreshTimeout ∧ s.now + handled < s.expires then
        some (.ok true, s.extend ttl handled d)
      else none
  | .refreshLock ttl, .refreshedRaised handled d e, s =>
      if 0 ≤ handled ∧ handled ≤ d ∧ d ≤ w.lockRefreshTimeout ∧ s.now + handled < s.expires then
        some (.error e, s.extend ttl handled d)
      else none
  | .refreshLock _, .refused d, s =>
      if 0 ≤ d ∧ d ≤ w.lockRefreshTimeout then some (.ok false, s.fail d) else none
  | .refreshLock _, .raised d e, s =>
      if 0 ≤ d ∧ d ≤ w.lockRefreshTimeout then some (.error e, s.fail d) else none
  | .heartbeat, .done d, s => if 0 ≤ d then some (.ok (), { s.pass d with beat := d }) else none
  | .heartbeat, .raised d e, s =>
      if 0 ≤ d then some (.error e, { s.pass d with beat := d }) else none
  | .setStop, .immediate, s => some (.ok (), { s with stopEvent := true })
  | _, _, _ => none

end Lease

def refresherMachine (w : StreamWorker) :
    Machine WorkerEff WorkerEff.Answer PyExc Lease Unit Response Unit where
  answer _ := Lease.answer w
  start _ _ _ := none
  finish _ _ s := s
  tick _ _ := none

/-- The refresher is entered at the moment at which the lease was acquired. -/
def refresherConfig (w : StreamWorker) (acquired : ℚ) :
    Config WorkerEff WorkerEff.Answer PyExc Lease Unit :=
  ⟨{ now := acquired, expires := acquired + w.lockTtl }, fun _ => some w.lockRefreshLoop⟩

/-- What the lease leaves for everything but the sleep. -/
def StreamWorker.margin (w : StreamWorker) : ℚ := w.lockTtl - w.lockRefreshInterval

def Round.Prompt (w : StreamWorker) (r : Round) : Prop := r.lag + r.beat + r.request ≤ w.margin

namespace Lease

variable {w : StreamWorker} {s s' : Lease} {d : ℚ} {response : Response}

theorem answer_sleep {n : Nat} {r : Except PyExc Unit}
    (h : answer w (.sleep n) response s = some (r, s')) :
    (r = .ok () ∧ s' = s.pass n) ∨ ∃ (d : ℚ) (e : PyExc), d ≤ n ∧ r = .error e ∧ s' = s.pass d := by
  cases response with
  | done d =>
      simp only [answer, Option.ite_none_right_eq_some, Option.some.injEq, Prod.mk.injEq] at h
      exact .inl ⟨h.2.1.symm, h.2.2.symm⟩
  | raised d e =>
      simp only [answer, Option.ite_none_right_eq_some, Option.some.injEq, Prod.mk.injEq] at h
      exact .inr ⟨d, e, h.1.2.1, h.2.1.symm, h.2.2.symm⟩
  | _ => cases h

theorem answer_refreshLock {ttl : Nat} {r : Except PyExc Bool}
    (h : answer w (.refreshLock ttl) response s = some (r, s')) :
    (∃ handled d, 0 ≤ handled ∧ handled ≤ d ∧ (r = .ok true ∨ ∃ e, r = .error e) ∧
      s' = s.extend ttl handled d) ∨
      ∃ d, (r = .ok false ∨ ∃ e, r = .error e) ∧ s' = s.fail d := by
  cases response with
  | refreshed handled d =>
      simp only [answer, Option.ite_none_right_eq_some, Option.some.injEq, Prod.mk.injEq] at h
      exact .inl ⟨handled, d, h.1.1, h.1.2.1, .inl h.2.1.symm, h.2.2.symm⟩
  | refreshedRaised handled d e =>
      simp only [answer, Option.ite_none_right_eq_some, Option.some.injEq, Prod.mk.injEq] at h
      exact .inl ⟨handled, d, h.1.1, h.1.2.1, .inr ⟨e, h.2.1.symm⟩, h.2.2.symm⟩
  | refused d =>
      simp only [answer, Option.ite_none_right_eq_some, Option.some.injEq, Prod.mk.injEq] at h
      exact .inr ⟨d, .inl h.2.1.symm, h.2.2.symm⟩
  | raised d e =>
      simp only [answer, Option.ite_none_right_eq_some, Option.some.injEq, Prod.mk.injEq] at h
      exact .inr ⟨d, .inr ⟨e, h.2.1.symm⟩, h.2.2.symm⟩
  | _ => cases h

theorem answer_heartbeat {r : Except PyExc Unit} (h : answer w .heartbeat response s = some (r, s')) :
    ∃ d, 0 ≤ d ∧ s' = { s.pass d with beat := d } := by
  cases response with
  | done d | raised d e =>
      simp only [answer, Option.ite_none_right_eq_some, Option.some.injEq, Prod.mk.injEq] at h
      exact ⟨d, h.1, h.2.2.symm⟩
  | _ => cases h

theorem answer_setStop {r : Except PyExc Unit} (h : answer w .setStop response s = some (r, s')) :
    r = .ok () ∧ s' = { s with stopEvent := true } := by
  cases response with
  | immediate =>
      cases h
      exact ⟨rfl, rfl⟩
  | _ => cases h

/-- Every reply and every heartbeat so far was prompt. -/
structure Prompt (w : StreamWorker) (s : Lease) : Prop where
  rounds : ∀ r ∈ s.rounds, r.Prompt w
  current : s.lag + s.beat ≤ w.margin

/-- At no recorded moment has the lease expired. -/
def Watched (s : Lease) : Prop := ∀ p ∈ s.spans, p.Covered

/-- Promptness and the margin say the same of every run. -/
structure Timely (w : StreamWorker) (s : Lease) : Prop where
  watched : s.Prompt w → s.Watched
  prompt : s.Watched → ∀ r ∈ s.rounds, r.Prompt w

/-- Since the lease was set `passed` seconds have gone by, all of them recorded. -/
structure Since (w : StreamWorker) (passed : ℚ) (s : Lease) : Prop where
  timely : s.Timely w
  running : s.stopEvent = false
  now : s.now = s.expires - w.lockTtl + passed
  recorded : ∀ t, s.expires - w.lockTtl ≤ t → t < s.now →
    ∃ p ∈ s.spans, p.start ≤ t ∧ t < p.stop ∧ p.expires = s.expires
  nonneg : 0 ≤ s.lag ∧ 0 ≤ s.beat

theorem pass_watched (running : s.stopEvent = false) :
    (s.pass d).Watched ↔ s.Watched ∧ (⟨s.now, s.now + d, s.expires⟩ : Span).Covered := by
  simp [Watched, pass, running, or_imp, forall_and]

theorem pass_recorded {passed : ℚ} (h : s.Since w passed) :
    ∀ t, s.expires - w.lockTtl ≤ t → t < s.now + d →
      ∃ p ∈ (s.pass d).spans, p.start ≤ t ∧ t < p.stop ∧ p.expires = s.expires := by
  intro t first last
  simp only [pass, h.running, Bool.false_eq_true, if_false, List.mem_append, List.mem_singleton]
  rcases lt_or_ge t s.now with before | after
  · obtain ⟨p, there, inside⟩ := h.recorded t first before
    exact ⟨p, .inl there, inside⟩
  · exact ⟨_, .inr rfl, after, last, rfl⟩

/-- A recorded moment past the expiry is one that the lease did not cover. -/
theorem not_watched {passed : ℚ} (h : s.Since w passed) (late : w.lockTtl < passed + d) :
    ¬ (s.pass d).Watched := by
  intro watched
  have held : (0 : ℚ) ≤ w.lockTtl := Nat.cast_nonneg _
  obtain ⟨p, there, first, last, same⟩ := pass_recorded (d := d) h s.expires (by linarith)
    (by rw [h.now]; linarith)
  have := watched p there s.expires first last
  linarith

theorem pass_timely {passed : ℚ} (h : s.Since w passed)
    (fits : s.Prompt w → passed + d ≤ w.lockTtl) : (s.pass d).Timely w := by
  refine ⟨fun prompt => (pass_watched h.running).mpr ⟨h.timely.watched ⟨prompt.rounds, prompt.current⟩, ?_⟩,
    fun watched => h.timely.prompt ((pass_watched h.running).mp watched).1⟩
  intro t _ last
  have := fits ⟨prompt.rounds, prompt.current⟩
  have := h.now
  simp only at last ⊢
  linarith

/-- The sleep, all of it or a part. -/
theorem sleep_timely (h : s.Since w (s.lag + s.beat)) (part : d ≤ w.lockRefreshInterval) :
    (s.pass d).Timely w :=
  pass_timely h fun prompt => by
    have := prompt.current
    simp only [StreamWorker.margin] at this
    linarith

theorem sleep_since (h : s.Since w (s.lag + s.beat)) :
    (s.pass w.lockRefreshInterval).Since w (s.lag + s.beat + w.lockRefreshInterval) where
  timely := sleep_timely h le_rfl
  running := h.running
  now := by
    have := h.now
    simp only [pass]
    linarith
  recorded := pass_recorded h
  nonneg := h.nonneg

/-- A refresh that is over tells whether its round was prompt. -/
theorem round_timely (handled : ℚ) (h : s.Since w (s.lag + s.beat + w.lockRefreshInterval)) :
    (s.Prompt w ∧ (⟨s.lag, s.beat, handled⟩ : Round).Prompt w → (s.pass handled).Watched) ∧
      ((s.pass handled).Watched → (∀ r ∈ s.rounds, r.Prompt w) ∧
        (⟨s.lag, s.beat, handled⟩ : Round).Prompt w) := by
  refine ⟨fun ⟨prompt, round⟩ => ?_, fun watched => ⟨?_, ?_⟩⟩
  · refine (pass_watched h.running).mpr ⟨h.timely.watched prompt, fun t _ last => ?_⟩
    have := h.now
    simp only [Round.Prompt, StreamWorker.margin] at round last ⊢
    linarith
  · exact h.timely.prompt ((pass_watched h.running).mp watched).1
  · by_contra slow
    simp only [Round.Prompt, StreamWorker.margin, not_le] at slow
    exact not_watched h (by linarith) watched

theorem fail_timely (h : s.Since w (s.lag + s.beat + w.lockRefreshInterval)) :
    (s.fail d).Timely w := by
  obtain ⟨enough, needed⟩ := round_timely d h
  constructor
  · intro prompt
    refine enough ⟨⟨fun r there => prompt.rounds r ?_, prompt.current⟩, prompt.rounds _ ?_⟩
    · exact List.mem_append_left _ there
    · exact List.mem_append_right _ (List.mem_singleton_self _)
  · intro watched r there
    obtain ⟨before, last⟩ := needed watched
    rcases List.mem_append.mp there with old | new
    · exact before r old
    · exact List.mem_singleton.mp new ▸ last

/-- With the extension a new round begins. -/
theorem extend_since {handled : ℚ} (h : s.Since w (s.lag + s.beat + w.lockRefreshInterval))
    (first : 0 ≤ handled) (last : handled ≤ d) :
    (s.extend w.lockTtl handled d).Since w (d - handled) := by
  obtain ⟨enough, needed⟩ := round_timely handled h
  have lasts : (0 : ℚ) ≤ w.lockRefreshInterval := Nat.cast_nonneg _
  have nonneg := h.nonneg
  have watched : (s.extend w.lockTtl handled d).Watched ↔ (s.pass handled).Watched ∧
      (⟨s.now + handled, s.now + handled + (d - handled), s.now + handled + w.lockTtl⟩ : Span).Covered :=
    pass_watched h.running
  refine ⟨⟨fun prompt => watched.mpr ⟨enough ⟨⟨fun r there => prompt.rounds r ?_, ?_⟩,
    prompt.rounds _ ?_⟩, fun t _ before => ?_⟩, fun all r there => ?_⟩, h.running, ?_, ?_, ?_, le_rfl⟩
  · exact List.mem_append_left _ there
  · have round := prompt.rounds ⟨s.lag, s.beat, handled⟩
      (List.mem_append_right _ (List.mem_singleton_self _))
    simp only [Round.Prompt] at round
    linarith
  · exact List.mem_append_right _ (List.mem_singleton_self _)
  · have current := prompt.current
    simp only [extend, pass, StreamWorker.margin] at current before ⊢
    linarith
  · obtain ⟨before, round⟩ := needed (watched.mp all).1
    rcases List.mem_append.mp there with old | new
    · exact before r old
    · exact List.mem_singleton.mp new ▸ round
  · simp only [extend, pass]
    linarith
  · intro t after before
    simp only [extend, pass, h.running, Bool.false_eq_true, if_false, List.mem_append,
      List.mem_singleton] at after before ⊢
    exact ⟨_, .inr rfl, by linarith, before, rfl⟩
  · simp only [extend, pass]
    linarith

theorem beat_since (h : s.Since w s.lag) (none : s.beat = 0) (later : 0 ≤ d) :
    Since w (s.lag + d) { s.pass d with beat := d } where
  timely := by
    have nonneg := h.nonneg
    have lasts : (0 : ℚ) ≤ w.lockRefreshInterval := Nat.cast_nonneg _
    refine ⟨fun prompt => (pass_watched h.running).mpr ⟨h.timely.watched ⟨prompt.rounds, ?_⟩, ?_⟩,
      fun watched => h.timely.prompt ((pass_watched h.running).mp watched).1⟩
    · have := prompt.current
      simp only [pass, StreamWorker.margin] at this ⊢
      linarith
    · intro t _ last
      have := prompt.current
      have := h.now
      simp only [pass, StreamWorker.margin] at *
      linarith
  running := h.running
  now := by
    have := h.now
    simp only [pass]
    linarith
  recorded := pass_recorded h
  nonneg := ⟨h.nonneg.1, later⟩

end Lease

section program

variable {w : StreamWorker} {s : Lease}

abbrev TimelySafe (w : StreamWorker) {α : Type} (p : Coroutine α)
    (Q : Except PyExc α → Lease → Prop) (s : Lease) : Prop :=
  Safe (refresherMachine w) (.solo (refresherMachine w) (Lease.Timely w) (fun _ _ => True) fun _ _ => True)
    () p Q s

/-- Nothing happens to the lease but what the refresher awaits. -/
theorem settled_lease (I : Lease → Prop) : Settled (refresherMachine w) I :=
  fun _ _ _ moved _ => by cases moved

/-- One await of the refresher, in front of the rest of its program. -/
theorem TimelySafe.await {c : WorkerEff} {β : Type} {f : c.Answer → Coroutine β}
    {Q : Except PyExc β → Lease → Prop}
    (rest : ∀ response r s', Lease.answer w c response s = some (r, s') →
      s'.Timely w ∧ TimelySafe w (Prog.andThen f r) Q s') :
    TimelySafe w (RedditKafka.await c >>= f) Q s :=
  Safe.solo_await (fun s' => s' = s) (settled_lease _) rfl (fun _ _ _ => trivial)
    fun _ response r s' _ same _ answered => by
      subst same
      exact rest response r s' answered

/-- The flag is set at the moment at which the loss is known. -/
theorem recordLockLoss_lease {e : PyExc} {α : Type} (timely : s.Timely w) :
    TimelySafe w (StreamWorker.recordLockLoss >>= fun _ => (Prog.raise e : Coroutine α))
      (fun r s' => s'.Timely w ∧ ∃ e, r = .error e) s := by
  refine TimelySafe.await fun response r s' answered => ?_
  obtain ⟨rfl, rfl⟩ := Lease.answer_setStop answered
  have after : Lease.Timely w { s with stopEvent := true } :=
    ⟨fun prompt => timely.watched ⟨prompt.rounds, prompt.current⟩, timely.prompt⟩
  exact ⟨after, after, e, rfl⟩

theorem refresh_lease (h : s.Since w (s.lag + s.beat + w.lockRefreshInterval)) :
    TimelySafe w (exceptException (await (.refreshLock w.lockTtl)) fun _ => do
        StreamWorker.recordLockLoss
        Prog.raise (.lockLostError s!"Could not verify lock ownership for {w.subreddit}"))
      (fun r s' => s'.Timely w ∧ (r = .ok true → s'.Since w s'.lag ∧ s'.beat = 0)) s := by
  refine Safe.rescue h.timely
    (P := fun r s' => s'.Timely w ∧ (r = .ok true → s'.Since w s'.lag ∧ s'.beat = 0)) ?_
    (fun _ _ _ done => done) fun e s' _ failed => ?_
  · refine Safe.solo_perform (fun s' => s' = s) (settled_lease _) rfl (fun _ _ _ => trivial)
      fun s₁ response r s₂ _ same _ answered => ?_
    subst same
    rcases Lease.answer_refreshLock answered with ⟨handled, d, first, last, -, rfl⟩ | ⟨d, ended, rfl⟩
    · have since := Lease.extend_since h first last
      exact ⟨since.timely, since.timely, fun _ => ⟨since, rfl⟩⟩
    · have timely := Lease.fail_timely (d := d) h
      refine ⟨timely, timely, ?_⟩
      rintro rfl
      rcases ended with same | ⟨e, same⟩ <;> cases same
  · split
    · exact (recordLockLoss_lease failed.1).mono failed.1 fun r s₂ _ done =>
        ⟨done.1, fun same => by obtain ⟨e, rfl⟩ := done.2; cases same⟩
    · exact ⟨failed.1, fun same => by cases same⟩

theorem lockRefreshLoop_lease (h : s.Since w (s.lag + s.beat)) :
    TimelySafe w w.lockRefreshLoop (fun _ _ => True) s := by
  refine Safe.solo_forever (fun s => s.Since w (s.lag + s.beat)) (settled_lease _) h
    fun s₁ _ since => ?_
  refine TimelySafe.await fun response r s₂ answered => ?_
  rcases Lease.answer_sleep answered with ⟨rfl, rfl⟩ | ⟨d, e, part, rfl, rfl⟩
  · have slept := Lease.sleep_since since
    refine ⟨slept.timely, Safe.bind slept.timely (refresh_lease slept) (fun success s₃ _ done => ?_)
      fun _ _ _ _ => trivial⟩
    cases success with
    | true =>
        obtain ⟨renewed, none⟩ := done.2 rfl
        refine Safe.bind done.1 (P := fun _ s' => s'.Since w (s'.lag + s'.beat)) ?_
          (fun _ _ _ beaten => beaten) fun _ _ _ _ => trivial
        refine Safe.rescue done.1 (P := fun _ s' => s'.Since w (s'.lag + s'.beat)) ?_
          (fun _ _ _ beaten => beaten) fun e s₄ _ beaten => ?_
        · refine Safe.solo_perform (fun s' => s' = s₃) (settled_lease _) rfl (fun _ _ _ => trivial)
            fun s₄ response r s₅ _ same _ answered => ?_
          subst same
          obtain ⟨d, later, rfl⟩ := Lease.answer_heartbeat answered
          have beaten := Lease.beat_since renewed none later
          exact ⟨beaten.timely, beaten⟩
        · split <;> exact beaten
    | false =>
        exact (recordLockLoss_lease done.1).mono done.1 fun r s₄ _ lost => by
          obtain ⟨-, e, rfl⟩ := lost
          trivial
  · exact ⟨Lease.sleep_timely since part, trivial⟩

end program

/-- While the replies, the heartbeats and the refreshes together stay within the margin of the
lease, every moment without the stop event is before the expiry; and only then. -/
theorem lease_watched_while_prompt {w : StreamWorker} {acquired : ℚ}
    {c : Config WorkerEff WorkerEff.Answer PyExc Lease Unit}
    (reached : (refresherMachine w).Reaches (refresherConfig w acquired) c) :
    (c.state.Prompt w → c.state.Watched) ∧
      (c.state.Watched → ∀ r ∈ c.state.rounds, r.Prompt w) := by
  have start : Lease.Since w (0 + 0) { now := acquired, expires := acquired + w.lockTtl } :=
    ⟨⟨fun _ _ there => (by cases there), fun _ _ there => by cases there⟩, rfl, by simp,
      fun t first last => by simp at first last; linarith, le_rfl, le_rfl⟩
  have sound : Sound (refresherMachine w) (.solo (refresherMachine w) (Lease.Timely w) (fun _ _ => True)
      fun _ _ => True) fun _ _ _ => True :=
    Sound.solo (fun _ => settled_lease _) (fun _ _ _ _ _ started => by cases started)
      (fun _ _ hs _ => hs) (settled_lease _)
  have first : Orderly (refresherMachine w) (.solo (refresherMachine w) (Lease.Timely w)
      (fun _ _ => True) fun _ _ => True) (fun _ _ _ => True) (refresherConfig w acquired) :=
    ⟨start.timely, fun t p running => by
      cases running
      exact lockRefreshLoop_lease start⟩
  have orderly := sound.reaches first reached
  exact ⟨orderly.inv.watched, orderly.inv.prompt⟩

/-- A prompt refresh, and then a loss that is noticed in time. -/
theorem prompt_refresh_is_watched :
    ∃ c, (refresherMachine newsWorker).Reaches (refresherConfig newsWorker 0) c ∧
      c.state.rounds = [⟨0, 0, 2⟩, ⟨3, 10, 4⟩] ∧ c.state.stopEvent = true ∧ c.state.Watched := by
  have run : ((refresherMachine newsWorker).exec [.unroll (), .call () (.done 30),
      .call () (.refreshed 2 5), .call () (.done 10), .unroll (), .call () (.done 30),
      .call () (.refused 4), .call () .immediate] (refresherConfig newsWorker 0)).map
        (fun c => (c.state.rounds, c.state.lag, c.state.beat, c.state.stopEvent)) =
      some ([⟨0, 0, 2⟩, ⟨3, 10, 4⟩], 3, 10, true) := by decide +kernel
  obtain ⟨c, reached, seen⟩ := Machine.Reaches.of_exec_map run
  simp only [Prod.mk.injEq] at seen
  obtain ⟨rounds, lag, beat, lost⟩ := seen
  refine ⟨c, reached, rounds, lost, (lease_watched_while_prompt reached).1 ⟨?_, ?_⟩⟩
  · rw [rounds]
    simp [Round.Prompt, StreamWorker.margin, newsWorker]
    norm_num
  · rw [lag, beat]
    norm_num [StreamWorker.margin, newsWorker]

/-- A heartbeat that takes a minute: the lease expires at 90, the next refresh comes at 120. -/
theorem lease_expires_unnoticed :
    ∃ c, (refresherMachine newsWorker).Reaches (refresherConfig newsWorker 0) c ∧
      ∃ p ∈ c.state.spans, p.start ≤ 90 ∧ 90 < p.stop ∧ p.expires = 90 := by
  have run : ((refresherMachine newsWorker).exec [.unroll (), .call () (.done 30),
      .call () (.refreshed 0 0), .call () (.done 60), .unroll (), .call () (.done 30)]
      (refresherConfig newsWorker 0)).map (fun c => c.state.spans.getLast?) =
      some (some ⟨90, 120, 90⟩) := by decide +kernel
  obtain ⟨c, reached, seen⟩ := Machine.Reaches.of_exec_map run
  exact ⟨c, reached, _, List.mem_of_getLast? seen, by norm_num⟩

end RedditKafka
