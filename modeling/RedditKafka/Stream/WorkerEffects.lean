import RedditKafka.Stream.WorkerMachine

/-!
# What one awaited effect of the worker can do

One inversion lemma for each effect that the specifications of the worker's
functions look at: its possible results and the state after each.
-/
namespace RedditKafka
open Async
/-- Attribute accesses, and the breaker's locked sections after a call. -/
def WorkerEff.own : WorkerEff → Bool
  | .breakerRecordSuccess | .breakerRecordFailure _ | .commentsSinceCheckpoint
  | .setCommentsSinceCheckpoint _ | .takeDeliveryErrors | .stopIsSet | .setStop => true
  | _ => false

namespace Outside
variable {o : Outside} {s s' : World} {choice : Choice}

attribute [local simp] answer answers raises

theorem answer_getCheckpoint {r : Except PyExc Checkpoint}
    (h : o.answer .getCheckpoint choice s = some (r, s')) :
    (r = .ok s.checkpoint ∧ s' = s.readCheckpoint) ∨ ∃ e, r = .error e ∧ e.foreign ∧ s' = s := by
  cases choice <;> simp [answer, answers, raises, WorkerEff.external] at h
  · exact .inl ⟨h.1.symm, h.2.symm⟩
  · obtain ⟨own, rfl, rfl⟩ := h
    exact .inr ⟨_, rfl, own, rfl⟩

theorem answer_openComments {skip : Bool} {r : Except PyExc Unit}
    (h : o.answer (.openComments skip) choice s = some (r, s')) :
    (r = .ok () ∧ s' = s.openComments skip) ∨ ∃ e, r = .error e ∧ e.foreign ∧ s' = s := by
  cases choice <;> simp [answer, answers, raises, WorkerEff.external] at h
  · exact .inl ⟨h.1.symm, h.2.symm⟩
  · obtain ⟨own, rfl, rfl⟩ := h
    exact .inr ⟨_, rfl, own, rfl⟩

theorem answer_nextComment {r : Except PyExc Yielded}
    (h : o.answer .nextComment choice s = some (r, s')) :
    (∃ c, r = .ok (.item (some c)) ∧ o.yields s c ∧ s' = s.give c) ∨
      (s' = s ∧ (r = .ok (.item none) ∨ r = .ok .exhausted ∨ ∃ e, r = .error e ∧ e.foreign)) := by
  cases choice with
  | comment c =>
      cases c with
      | none =>
          simp [answer, answers] at h
          exact .inr ⟨h.2.symm, .inl h.1.symm⟩
      | some c =>
          by_cases yields : o.yields s c = true <;>
            simp [answer, answers, raises, yields] at h
          exact .inl ⟨c, h.1.symm, yields, h.2.symm⟩
  | exhausted =>
      simp [answer, answers] at h
      exact .inr ⟨h.2.symm, .inr (.inl h.1.symm)⟩
  | raised e =>
      simp [answer, answers, raises, WorkerEff.external] at h
      obtain ⟨own, rfl, rfl⟩ := h
      exact .inr ⟨rfl, .inr (.inr ⟨e, rfl, own⟩)⟩
  | _ => simp [answer, answers, raises] at h

theorem answer_sleep {n : Nat} {r : Except PyExc Unit}
    (h : o.answer (.sleep n) choice s = some (r, s')) :
    s' = s ∧ (r = .ok () ∨ ∃ e, r = .error e ∧ e.isException = false) := by
  cases choice <;> simp [answer, answers, raises] at h
  · exact ⟨h.2.symm, .inl h.1.symm⟩
  · obtain ⟨⟨cancelled, rfl⟩, rfl⟩ := h
    exact ⟨rfl, .inr ⟨_, rfl, cancelled⟩⟩

theorem answer_nowIso {r : Except PyExc String} (h : o.answer .nowIso choice s = some (r, s')) :
    ∃ now, r = .ok now ∧ s' = s := by
  cases choice <;> simp [answer, answers, raises, WorkerEff.external] at h
  exact ⟨_, h.1.symm, h.2.symm⟩

theorem answer_serialize {m : RedditCommentMessage} {r : Except PyExc (Option ByteArray)}
    (h : o.answer (.serialize m) choice s = some (r, s')) :
    s' = s ∧ ((∃ p, r = .ok p ∧ o.serializes s p.isSome) ∨
      ∃ e, r = .error e ∧ e.foreign ∧ o.serializes s false) := by
  cases choice with
  | payload p =>
      by_cases possible : o.serializes s p.isSome = true <;>
        simp [answer, answers, raises, possible] at h
      exact ⟨h.2.symm, .inl ⟨p, h.1.symm, possible⟩⟩
  | raised e =>
      simp [answer, answers, raises] at h
      obtain ⟨⟨possible, own⟩, rfl, rfl⟩ := h
      exact ⟨rfl, .inr ⟨e, rfl, own, possible⟩⟩
  | _ => simp [answer, answers, raises] at h

theorem answer_produce {topic key : String} {payload : ByteArray} {r : Except PyExc Unit}
    (h : o.answer (.produce topic payload key) choice s = some (r, s')) :
    (r = .ok () ∧ s' = s.produce) ∨ ∃ e, r = .error e ∧ e.foreign ∧ s' = s := by
  cases choice <;> simp [answer, answers, raises, WorkerEff.external] at h
  · exact .inl ⟨h.1.symm, h.2.symm⟩
  · obtain ⟨own, rfl, rfl⟩ := h
    exact .inr ⟨_, rfl, own, rfl⟩

theorem answer_flush {r : Except PyExc Nat} (h : o.answer .flush choice s = some (r, s')) :
    s' = s ∧ ((∃ n, r = .ok n ∧ o.flushReturns s n) ∨ ∃ e, r = .error e) := by
  cases choice with
  | count n =>
      by_cases possible : o.flushReturns s n = true <;>
        simp [answer, answers, raises, possible] at h
      exact ⟨h.2.symm, .inl ⟨n, h.1.symm, possible⟩⟩
  | raised e =>
      simp [answer, answers, raises, WorkerEff.external] at h
      obtain ⟨own, rfl, rfl⟩ := h
      exact ⟨rfl, .inr ⟨e, rfl⟩⟩
  | _ => simp [answer, answers, raises] at h

/-- A write that raises an `Exception` may be lost where `losesCheckpoint` says so. -/
theorem answer_setCheckpoint {id time : String} {r : Except PyExc Unit}
    (h : o.answer (.setCheckpoint id time) choice s = some (r, s')) :
    (∃ written, s' = s.setCheckpoint id time written) ∨
      (s' = s ∧ ∃ e, r = .error e ∧ (e.isException = true → o.losesCheckpoint s id = true)) := by
  cases choice <;> simp [answer, answers, raises] at h
  · obtain ⟨⟨lost, rfl⟩, rfl⟩ := h
    exact .inr ⟨rfl, _, rfl, lost⟩
  · exact .inl ⟨_, h.2.symm⟩
  · exact .inl ⟨_, h.2.symm⟩

theorem answer_recordError {kind text : String} {recoverable : Bool} {r : Except PyExc Unit}
    (h : o.answer (.recordError kind text recoverable) choice s = some (r, s')) :
    s' = s.recordError kind ∧ (r = .ok () ∨ o.recorderFails = true) := by
  cases choice <;> simp [answer, answers, raises] at h
  · exact ⟨h.2.symm, .inl h.1.symm⟩
  · exact ⟨h.2.2.symm, .inr h.1⟩

theorem answer_breakerAdmit {r : Except PyExc Unit}
    (h : o.answer .breakerAdmit choice s = some (r, s')) :
    ∃ later, (∃ b, s.breaker.enter s.clock later = .ok b ∧ r = .ok () ∧
      s' = { s with breaker := b }) ∨
        ∃ e, s.breaker.enter s.clock later = .error e ∧ r = .error e ∧ s' = s := by
  cases choice with
  | later q =>
      refine ⟨q, ?_⟩
      simp only [answer] at h
      split at h
      · rename_i b admitted
        cases h
        exact .inl ⟨b, admitted, rfl, rfl⟩
      · rename_i e refused
        cases h
        exact .inr ⟨e, refused, rfl, rfl⟩
  | raised e => simp [answer, answers, raises, WorkerEff.external] at h
  | _ => simp [answer, answers, raises] at h

/-- The worker's own attributes are read and written without fail. -/
theorem answer_own {c : WorkerEff} {a : c.Answer} {r : Except PyExc c.Answer} {s₂ : World}
    (own : c.own = true) (given : o.answers c .done s = some (a, s₂))
    (h : o.answer c choice s = some (r, s')) : r = .ok a ∧ s' = s₂ := by
  have only : choice = .done := by
    cases c <;> simp only [WorkerEff.own, Bool.false_eq_true] at own <;> cases choice <;>
      simp [answer, answers, raises, WorkerEff.external] at h ⊢
  subst only
  cases c <;> simp only [WorkerEff.own, Bool.false_eq_true] at own <;>
    simp only [answer, given, Option.some.injEq, Prod.mk.injEq] at h <;>
    exact ⟨h.1.symm, h.2.symm⟩

/-- The flag, the session's checkpoint and the stored one have one writer each. -/
theorem answer_frame {c : WorkerEff} {r : Except PyExc c.Answer}
    (h : o.answer c choice s = some (r, s')) :
    (c ≠ .setStop → s'.stopEvent = s.stopEvent) ∧
      (c ≠ .getCheckpoint → s'.sessionCheckpoint = s.sessionCheckpoint) ∧
      ((∀ id time, c ≠ .setCheckpoint id time) → s'.checkpoint = s.checkpoint) := by
  have still (same : s' = s) : (c ≠ .setStop → s'.stopEvent = s.stopEvent) ∧
      (c ≠ .getCheckpoint → s'.sessionCheckpoint = s.sessionCheckpoint) ∧
      ((∀ id time, c ≠ .setCheckpoint id time) → s'.checkpoint = s.checkpoint) := by
    subst same
    exact ⟨fun _ => rfl, fun _ => rfl, fun _ => rfl⟩
  by_cases inert : c.inert = true
  · exact still (answer_inert inert h).1
  by_cases own : c.own = true
  · obtain ⟨a, s₂, given⟩ : ∃ a s₂, o.answers c .done s = some (a, s₂) := by
      cases c <;> first | exact ⟨_, _, rfl⟩ | cases own
    obtain ⟨-, rfl⟩ := answer_own own given h
    cases c with
    | setStop => exact ⟨fun other => absurd rfl other, fun _ => by cases given; rfl,
        fun _ => by cases given; rfl⟩
    | breakerRecordSuccess | breakerRecordFailure | setCommentsSinceCheckpoint
    | takeDeliveryErrors =>
        cases given
        exact ⟨fun _ => rfl, fun _ => rfl, fun _ => rfl⟩
    | commentsSinceCheckpoint | stopIsSet => exact absurd rfl inert
    | _ => cases own
  cases c with
  | getCheckpoint =>
      rcases answer_getCheckpoint h with ⟨-, rfl⟩ | ⟨_, -, -, same⟩
      · exact ⟨fun _ => rfl, fun other => absurd rfl other, fun _ => rfl⟩
      · exact still same
  | openComments skip =>
      rcases answer_openComments h with ⟨-, rfl⟩ | ⟨_, -, -, rfl⟩ <;>
        exact ⟨fun _ => rfl, fun _ => rfl, fun _ => rfl⟩
  | nextComment =>
      rcases answer_nextComment h with ⟨_, -, -, rfl⟩ | ⟨rfl, -⟩ <;>
        exact ⟨fun _ => rfl, fun _ => rfl, fun _ => rfl⟩
  | produce =>
      rcases answer_produce h with ⟨-, rfl⟩ | ⟨_, -, -, rfl⟩ <;>
        exact ⟨fun _ => rfl, fun _ => rfl, fun _ => rfl⟩
  | setCheckpoint id time =>
      rcases answer_setCheckpoint h with ⟨_, rfl⟩ | ⟨same, -⟩
      · exact ⟨fun _ => rfl, fun _ => rfl, fun other => absurd rfl (other id time)⟩
      · exact still same
  | recordError =>
      obtain ⟨rfl, -⟩ := answer_recordError h
      unfold World.recordError
      split <;> exact ⟨fun _ => rfl, fun _ => rfl, fun _ => rfl⟩
  | breakerAdmit =>
      obtain ⟨_, ⟨_, -, -, rfl⟩ | ⟨_, -, -, rfl⟩⟩ := answer_breakerAdmit h <;>
        exact ⟨fun _ => rfl, fun _ => rfl, fun _ => rfl⟩
  | createTask | taskDone | cancelTask | awaitTask | gather =>
      cases choice <;> simp [answer, answers, raises, WorkerEff.external] at h
  | _ => first | exact absurd rfl inert | exact absurd rfl own

end Outside

/-! ## The effects and outcomes of the error handlers -/

namespace StreamWorker

theorem handleFetchException_uses (e : PyExc) :
    (handleFetchException e).Uses fun c => ∃ status, c = .updateStatus status := by
  unfold handleFetchException
  split
  · trivial
  split
  · exact Prog.Uses.bind (Prog.Uses.perform ⟨_, rfl⟩) fun _ => trivial
  · trivial

/-- `_handle_error` returns only for an error that the stream outlives. -/
theorem handleError_ends (e : PyExc) : (handleError e).Ends fun r =>
    r = .ok () → RecoveryStrategy.shouldAbandonStream e = false := by
  refine Prog.Ends.bindE (Prog.Ends.any _) fun r _ => ?_
  cases r with
  | error e' => exact fun same => by cases same
  | ok _ =>
      by_cases abandon : RecoveryStrategy.shouldAbandonStream e = true
      · simp only [Prog.andThen, if_pos abandon]
        refine Prog.Ends.bindE (Prog.Ends.any _) fun r _ => ?_
        cases r <;> exact fun same => by cases same
      · refine (Prog.Ends.any _).mono fun r _ _ => ?_
        simpa using abandon

theorem handleError_uses (e : PyExc) : (handleError e).Uses fun c =>
    c.inert = true ∨ ∃ kind text recoverable, c = .recordError kind text recoverable := by
  refine Prog.Uses.bind (Prog.Uses.perform (.inr ⟨_, _, _, rfl⟩)) fun _ => ?_
  split
  · exact Prog.Uses.bind (Prog.Uses.perform (.inl rfl)) fun _ => trivial
  split
  · exact Prog.Uses.perform (.inl rfl)
  split <;> trivial

end StreamWorker

/-! ## What happens while the worker waits -/

/-- Everything of the world that outside events leave alone. -/
structure World.Still (s s' : World) : Prop where
  commentsSinceCheckpoint : s'.commentsSinceCheckpoint = s.commentsSinceCheckpoint
  breaker : s'.breaker = s.breaker
  checkpoint : s'.checkpoint = s.checkpoint
  sessionCheckpoint : s'.sessionCheckpoint = s.sessionCheckpoint
  feed : s'.feed = s.feed
  given : s'.given = s.given
  recorded : s'.recorded = s.recorded
  published : s'.published = s.published
  publishedBefore : s'.publishedBefore = s.publishedBefore
  firstOpened : s'.firstOpened = s.firstOpened
  posted : s.posted ≤ s'.posted

theorem World.tick_still {event : Event} {s s' : World} (h : World.tick event s = some s') :
    s.Still s' := by
  cases event with
  | begin => cases h
  | report message error =>
      simp only [World.tick] at h
      split at h <;> cases h
      constructor <;> rfl
  | retain | stop | clock => cases h; constructor <;> rfl
  | post => cases h; constructor <;> first | rfl | exact Nat.le_succ _

theorem World.tick_stop {event : Event} {s s' : World} (h : World.tick event s = some s')
    (stopped : s.stopEvent = true) : s'.stopEvent = true := by
  cases event with
  | begin => cases h
  | report message error =>
      simp only [World.tick] at h
      split at h <;> cases h
      exact stopped
  | stop => cases h; rfl
  | post | retain | clock => cases h; exact stopped

/-- A fact about what outside events leave alone is settled. -/
theorem settled_of_still {o : Outside} {restart : Option (Coroutine Unit)} {I : World → Prop}
    (still : ∀ s s', s.Still s' → I s → I s') : Settled (workerMachine o restart) I :=
  fun _ _ _ moved start => still _ _ (World.tick_still moved) start

theorem settled_stop {o : Outside} {restart : Option (Coroutine Unit)} :
    Settled (workerMachine o restart) fun s => s.stopEvent = true :=
  fun _ _ _ moved start => World.tick_stop moved start

/-- `except Exception`: cancellations keep the outcome they had. -/
theorem Safe.exceptException {E σ τ χ κ : Type} {A : E → Type} {α : Type}
    {M : Machine E A PyExc σ τ χ κ} {D : Discipline E σ τ} {t : τ} {p : Prog E A PyExc α}
    {handler : PyExc → Prog E A PyExc α} {P Q : Except PyExc α → σ → Prop} {s : σ} (hs : D.inv s)
    (body : Safe M D t p P s) (returned : ∀ a s', D.inv s' → P (.ok a) s' → Q (.ok a) s')
    (cancelled : ∀ e s', D.inv s' → e.isException = false → P (.error e) s' → Q (.error e) s')
    (caught : ∀ e s', D.inv s' → e.isException = true → P (.error e) s' →
      Safe M D t (handler e) Q s') : Safe M D t (exceptException p handler) Q s :=
  body.rescue hs returned fun e s' hs' failed => by
    by_cases exception : e.isException = true
    · simpa only [if_pos exception] using caught e s' hs' exception failed
    · simp only [if_neg exception]
      exact cancelled e s' hs' (by simpa using exception) failed

/-! ## Rules for the effects that a specification does not look at -/

section rules

variable {o : Outside} {restart : Option (Coroutine Unit)} {inv : World → Prop}
  {ok pledge : WorkerEff → World → Prop} {s : World}

/-- One worker under an invariant, a condition on its answered effects and a pledge at its
awaits. -/
abbrev WorkerSafe (o : Outside) (restart : Option (Coroutine Unit)) (inv : World → Prop)
    (ok pledge : WorkerEff → World → Prop) {α : Type} (p : Coroutine α)
    (Q : Except PyExc α → World → Prop) (s : World) : Prop :=
  Safe (workerMachine o restart) (.solo (workerMachine o restart) inv ok pledge) () p Q s

/-- An effect that changes nothing, in front of the rest of a program. -/
theorem safe_inert {c : WorkerEff} {β : Type} {f : c.Answer → Coroutine β}
    {Q : Except PyExc β → World → Prop} (inert : c.inert = true) (I : World → Prop)
    (settled : Settled (workerMachine o restart) I) (start : I s)
    (pledged : ∀ s₁, I s₁ → pledge c s₁)
    (rest : ∀ a s', I s' → WorkerSafe o restart inv ok pledge (f a) Q s')
    (failed : ∀ e s', I s' → Q (.error e) s') :
    WorkerSafe o restart inv ok pledge (await c >>= f) Q s := by
  refine Safe.solo_await I settled start (fun s₁ _ => pledged s₁)
    fun s₁ choice r s₂ hs₁ holds _ answered => ?_
  obtain ⟨rfl, -⟩ := Outside.answer_inert inert answered
  cases r with
  | ok a => exact ⟨hs₁, rest a _ holds⟩
  | error e => exact ⟨hs₁, failed e _ holds⟩

/-- An attribute access, in front of the rest of a program. -/
theorem safe_own {c : WorkerEff} {β : Type} {f : c.Answer → Coroutine β}
    {Q : Except PyExc β → World → Prop} (own : c.own = true) (I : World → Prop)
    (settled : Settled (workerMachine o restart) I) (start : I s)
    (pledged : ∀ s₁, I s₁ → pledge c s₁)
    (rest : ∀ s₁ a s₂, I s₁ → inv s₁ → ok c s₁ → o.answers c .done s₁ = some (a, s₂) →
      inv s₂ ∧ WorkerSafe o restart inv ok pledge (f a) Q s₂) :
    WorkerSafe o restart inv ok pledge (await c >>= f) Q s := by
  refine Safe.solo_await I settled start (fun s₁ _ => pledged s₁)
    fun s₁ choice r s₂ hs₁ holds allowed answered => ?_
  obtain ⟨a, s₃, given⟩ : ∃ a s₃, o.answers c .done s₁ = some (a, s₃) := by
    cases c <;> first | exact ⟨_, _, rfl⟩ | cases own
  obtain ⟨rfl, rfl⟩ := Outside.answer_own own given answered
  exact rest s₁ a _ holds hs₁ allowed given

/-- A safe program, started again by each later worker, keeps every run orderly. -/
theorem WorkerSafe.orderly {program : Coroutine Unit} {Q : Except PyExc Unit → World → Prop}
    (settled : ∀ r, Settled (workerMachine o restart) (Q r))
    (settled_inv : Settled (workerMachine o restart) inv)
    (restarts : ∀ p, restart = some p → ∀ s, inv s →
      inv s.begin ∧ WorkerSafe o restart inv ok pledge p Q s.begin) {s₀ : World}
    (start : inv s₀.newHistory.begin)
    (safe : WorkerSafe o restart inv ok pledge program Q s₀.newHistory.begin)
    {c : Config WorkerEff WorkerEff.Answer PyExc World Unit}
    (reached : (workerMachine o restart).ReachesUnder (fun _ => ok) (workerConfig program s₀) c) :
    Orderly (workerMachine o restart) (.solo (workerMachine o restart) inv ok pledge)
      (fun _ => Q) c := by
  refine (Sound.solo settled (fun request s p s' hs started => ?_) (fun _ _ hs _ => hs)
    settled_inv).reaches (Orderly.mk (c := workerConfig program s₀) start fun t p running => ?_)
    reached
  · simp only [workerMachine] at started
    split at started
    · obtain ⟨p', next, same⟩ := Option.map_eq_some_iff.mp started
      cases same
      exact restarts p next s hs
    · cases started
  · cases running
    exact safe

end rules
end RedditKafka
