import RedditKafka.Async.Machine

/-!
# Reasoning about one thread at a time

A discipline names an invariant of the shared state, what every thread may rely
on while the others move, a condition under which effects are answered, and a
pledge that holds whenever a thread waits for an effect. `Safe` follows one
program through all answers and all interference; `Sound.reaches` puts the
threads together for every interleaving.
-/
namespace Async

structure Discipline (E σ τ : Type) where
  inv : σ → Prop
  /-- What thread `t` may rely on while other threads move. -/
  keeps : τ → σ → σ → Prop
  keeps_refl : ∀ t s, keeps t s s
  keeps_trans : ∀ t a b c, keeps t a b → keeps t b c → keeps t a c
  /-- The effects answered in the runs under study. -/
  ok : τ → E → σ → Prop
  /-- What holds while `t` waits for an effect. -/
  pledge : τ → E → σ → Prop

variable {E : Type} {A : E → Type} {ε σ τ χ κ : Type} {α β γ : Type}

/-- Every answer that the environment can give to `p` in the state `s`, after any
interference, keeps the discipline; the outcome of `p` satisfies `Q`. -/
def Safe (M : Machine E A ε σ τ χ κ) (D : Discipline E σ τ) (t : τ) :
    {α : Type} → Prog E A ε α → (Except ε α → σ → Prop) → σ → Prop
  | _, .ret a, Q, s => Q (.ok a) s
  | _, .raise e, Q, s => Q (.error e) s
  | _, .call c next, Q, s => ∀ s₁, D.keeps t s s₁ → D.inv s₁ → D.pledge t c s₁ ∧
      (D.ok t c s₁ → ∀ choice r s₂, M.answer t c choice s₁ = some (r, s₂) →
        D.inv s₂ ∧ (∀ u, u ≠ t → D.keeps u s₁ s₂) ∧ Safe M D t (next r) Q s₂)
  | _, .loop body next, Q, s => ∃ I : σ → Prop, I s ∧
      (∀ s₁ s₂, D.keeps t s₁ s₂ → D.inv s₂ → I s₁ → I s₂) ∧
      ∀ s₁, D.inv s₁ → I s₁ → Safe M D t body (fun r s₂ => match r with
        | .ok none => I s₂
        | .ok (some b) => Safe M D t (next (.ok b)) Q s₂
        | .error e => Safe M D t (next (.error e)) Q s₂) s₁

namespace Safe

variable {M : Machine E A ε σ τ χ κ} {D : Discipline E σ τ} {t : τ}

theorem mono {p : Prog E A ε α} {Q Q' : Except ε α → σ → Prop} {s : σ}
    (h : Safe M D t p Q s) (hs : D.inv s) (imp : ∀ r s', D.inv s' → Q r s' → Q' r s') :
    Safe M D t p Q' s := by
  induction p generalizing s with
  | ret a => exact imp _ _ hs h
  | raise e => exact imp _ _ hs h
  | call c next ih =>
      intro s₁ kept hs₁
      obtain ⟨pledged, answers⟩ := h s₁ kept hs₁
      refine ⟨pledged, fun allowed choice r s₂ answered => ?_⟩
      obtain ⟨hs₂, others, rest⟩ := answers allowed choice r s₂ answered
      exact ⟨hs₂, others, ih r rest hs₂ imp⟩
  | loop body next ihb ih =>
      obtain ⟨I, start, stable, turn⟩ := h
      refine ⟨I, start, stable, fun s₁ hs₁ holds => ihb (turn s₁ hs₁ holds) hs₁ ?_⟩
      rintro (e | (_ | b)) s₂ hs₂ after
      · exact ih _ after hs₂ imp
      · exact after
      · exact ih _ after hs₂ imp

theorem bindE_iff {p : Prog E A ε α} {f : Except ε α → Prog E A ε γ}
    {Q : Except ε γ → σ → Prop} {s : σ} :
    Safe M D t (p.bindE f) Q s ↔ Safe M D t p (fun r => Safe M D t (f r) Q) s := by
  induction p generalizing s with
  | ret a => rfl
  | raise e => rfl
  | call c next ih => simp only [Prog.bindE, Safe, ih]
  | loop body next _ ih => simp only [Prog.bindE, Safe, ih]

theorem bindE {p : Prog E A ε α} {f : Except ε α → Prog E A ε γ} {P : Except ε α → σ → Prop}
    {Q : Except ε γ → σ → Prop} {s : σ} (hs : D.inv s) (first : Safe M D t p P s)
    (rest : ∀ r s', D.inv s' → P r s' → Safe M D t (f r) Q s') : Safe M D t (p.bindE f) Q s :=
  bindE_iff.mpr (first.mono hs rest)

theorem bind {p : Prog E A ε α} {f : α → Prog E A ε γ} {P : Except ε α → σ → Prop}
    {Q : Except ε γ → σ → Prop} {s : σ} (hs : D.inv s) (first : Safe M D t p P s)
    (rest : ∀ a s', D.inv s' → P (.ok a) s' → Safe M D t (f a) Q s')
    (failed : ∀ e s', D.inv s' → P (.error e) s' → Q (.error e) s') :
    Safe M D t (p >>= f) Q s :=
  bindE hs first fun r s' hs' done => by
    cases r with
    | ok a => exact rest a s' hs' done
    | error e => exact failed e s' hs' done

/-- `let a ← perform c` in front of the rest of a program. -/
theorem await {c : E} {f : A c → Prog E A ε β} {Q : Except ε β → σ → Prop} {s : σ}
    (h : ∀ s₁, D.keeps t s s₁ → D.inv s₁ → D.pledge t c s₁ ∧
      (D.ok t c s₁ → ∀ choice r s₂, M.answer t c choice s₁ = some (r, s₂) →
        D.inv s₂ ∧ (∀ u, u ≠ t → D.keeps u s₁ s₂) ∧ Safe M D t (Prog.andThen f r) Q s₂)) :
    Safe M D t (Prog.perform c >>= f) Q s := by
  intro s₁ kept hs₁
  obtain ⟨pledged, answers⟩ := h s₁ kept hs₁
  refine ⟨pledged, fun allowed choice r s₂ answered => ?_⟩
  obtain ⟨hs₂, others, rest⟩ := answers allowed choice r s₂ answered
  refine ⟨hs₂, others, ?_⟩
  cases r with
  | ok a => exact rest
  | error e => exact rest

theorem rescue {p : Prog E A ε α} {handler : ε → Prog E A ε α} {P Q : Except ε α → σ → Prop}
    {s : σ} (hs : D.inv s) (body : Safe M D t p P s)
    (returned : ∀ a s', D.inv s' → P (.ok a) s' → Q (.ok a) s')
    (caught : ∀ e s', D.inv s' → P (.error e) s' → Safe M D t (handler e) Q s') :
    Safe M D t (p.rescue handler) Q s :=
  bindE hs body fun r s' hs' done => by
    cases r with
    | ok a => exact returned a s' hs' done
    | error e => exact caught e s' hs' done

theorem attempt {p : Prog E A ε α} {Q : Except ε (Except ε α) → σ → Prop} {s : σ}
    (body : Safe M D t p (fun r => Q (.ok r)) s) : Safe M D t p.attempt Q s :=
  bindE_iff.mpr body

/-- A safe program has only the outcomes that its text allows. -/
theorem ends {p : Prog E A ε α} {Q : Except ε α → σ → Prop} {R : Except ε α → Prop} {s : σ}
    (h : Safe M D t p Q s) (text : p.Ends R) : Safe M D t p (fun r s => Q r s ∧ R r) s := by
  induction p generalizing s with
  | ret a => exact ⟨h, text⟩
  | raise e => exact ⟨h, text⟩
  | call c next ih =>
      intro s₁ moved hs₁
      obtain ⟨pledged, answers⟩ := h s₁ moved hs₁
      refine ⟨pledged, fun allowed choice r s₂ answered => ?_⟩
      obtain ⟨hs₂, others, rest⟩ := answers allowed choice r s₂ answered
      exact ⟨hs₂, others, ih r rest (text r)⟩
  | loop body next _ ih =>
      obtain ⟨I, start, keep, turn⟩ := h
      refine ⟨I, start, keep, fun s₁ hs₁ holds => (turn s₁ hs₁ holds).mono hs₁ ?_⟩
      rintro (e | (_ | b)) s₂ _ after
      · exact ih _ after (text _)
      · exact after
      · exact ih _ after (text _)

/-- What neither the others nor the own answers undo holds at the end as well. -/
theorem also {p : Prog E A ε α} {Q : Except ε α → σ → Prop} {J : σ → Prop} {s : σ}
    (h : Safe M D t p Q s) (stable : ∀ a b, D.keeps t a b → D.inv b → J a → J b)
    (own : ∀ c choice s r s', M.answer t c choice s = some (r, s') → J s → J s') (holds : J s) :
    Safe M D t p (fun r s => Q r s ∧ J s) s := by
  induction p generalizing s with
  | ret a => exact ⟨h, holds⟩
  | raise e => exact ⟨h, holds⟩
  | call c next ih =>
      intro s₁ moved hs₁
      obtain ⟨pledged, answers⟩ := h s₁ moved hs₁
      refine ⟨pledged, fun allowed choice r s₂ answered => ?_⟩
      obtain ⟨hs₂, others, rest⟩ := answers allowed choice r s₂ answered
      exact ⟨hs₂, others, ih r rest (own c choice s₁ r s₂ answered (stable _ _ moved hs₁ holds))⟩
  | loop body next ihb ih =>
      obtain ⟨I, start, keep, turn⟩ := h
      refine ⟨fun s => I s ∧ J s, ⟨start, holds⟩, fun a b moved hb both =>
        ⟨keep a b moved hb both.1, stable a b moved hb both.2⟩, fun s₁ hs₁ both =>
        (ihb (turn s₁ hs₁ both.1) both.2).mono hs₁ ?_⟩
      rintro (e | (_ | b)) s₂ _ ⟨after, holds⟩
      · exact ih _ after holds
      · exact ⟨after, holds⟩
      · exact ih _ after holds

/-- What a thread may rely on carries its whole remaining program along. -/
theorem kept {p : Prog E A ε α} {Q : Except ε α → σ → Prop} {s s' : σ} (h : Safe M D t p Q s)
    (moved : D.keeps t s s') (hs' : D.inv s')
    (stable : ∀ r a b, D.keeps t a b → D.inv b → Q r a → Q r b) : Safe M D t p Q s' := by
  cases p with
  | ret a => exact stable _ _ _ moved hs' h
  | raise e => exact stable _ _ _ moved hs' h
  | call c next => exact fun s₁ later => h s₁ (D.keeps_trans _ _ _ _ moved later)
  | loop body next =>
      obtain ⟨I, start, keep, turn⟩ := h
      exact ⟨I, keep _ _ moved hs' start, keep, turn⟩

theorem unroll {body : Prog E A ε (Option β)} {next : Except ε β → Prog E A ε α}
    {Q : Except ε α → σ → Prop} {s : σ} (hs : D.inv s) (h : Safe M D t (.loop body next) Q s) :
    Safe M D t (body.unroll next) Q s := by
  obtain ⟨I, start, keep, turn⟩ := h
  refine bindE hs (turn s hs start) ?_
  rintro (e | (_ | b)) s' _ after
  · exact after
  · exact ⟨I, after, keep, turn⟩
  · exact after

theorem forever {body : Prog E A ε (Option β)} {Q : Except ε β → σ → Prop} (I : σ → Prop) {s : σ}
    (start : I s) (stable : ∀ a b, D.keeps t a b → D.inv b → I a → I b)
    (turn : ∀ s, D.inv s → I s → Safe M D t body (fun r s' => match r with
      | .ok none => I s'
      | .ok (some b) => Q (.ok b) s'
      | .error e => Q (.error e) s') s) : Safe M D t body.forever Q s := by
  refine ⟨I, start, stable, fun s₁ hs₁ holds => (turn s₁ hs₁ holds).mono hs₁ ?_⟩
  rintro (e | (_ | b)) s₂ _ after
  · exact after
  · exact after
  · exact after

/-- A program whose effects all keep `I` keeps it as a whole. -/
theorem of_uses {H : E → Prop} {p : Prog E A ε α} (uses : p.Uses H) (I : σ → Prop) {s : σ}
    (start : I s) (stable : ∀ a b, D.keeps t a b → D.inv b → I a → I b)
    (effect : ∀ c s₁, H c → D.inv s₁ → I s₁ → D.pledge t c s₁ ∧ (D.ok t c s₁ →
      ∀ choice r s₂, M.answer t c choice s₁ = some (r, s₂) →
        D.inv s₂ ∧ (∀ u, u ≠ t → D.keeps u s₁ s₂) ∧ I s₂)) :
    Safe M D t p (fun _ => I) s := by
  induction p generalizing s with
  | ret a => exact start
  | raise e => exact start
  | call c next ih =>
      intro s₁ moved hs₁
      obtain ⟨pledged, answers⟩ := effect c s₁ uses.1 hs₁ (stable _ _ moved hs₁ start)
      refine ⟨pledged, fun allowed choice r s₂ answered => ?_⟩
      obtain ⟨hs₂, others, holds⟩ := answers allowed choice r s₂ answered
      exact ⟨hs₂, others, ih r (uses.2 r) holds⟩
  | loop body next ihb ih =>
      refine ⟨I, start, stable, fun s₁ hs₁ holds => (ihb uses.1 holds).mono hs₁ ?_⟩
      rintro (e | (_ | b)) s₂ _ after
      · exact ih _ (uses.2 _) after
      · exact after
      · exact ih _ (uses.2 _) after

end Safe

/-- The obligations outside the programs: how threads start and end, and what
the environment does by itself. `post t` is what `t` leaves behind. -/
structure Sound (M : Machine E A ε σ τ χ κ) (D : Discipline E σ τ)
    (post : τ → Except ε Unit → σ → Prop) : Prop where
  post_stable : ∀ t r a b, D.keeps t a b → D.inv b → post t r a → post t r b
  start : ∀ t request s p s', D.inv s → M.start t request s = some (p, s') →
    D.inv s' ∧ (∀ u, u ≠ t → D.keeps u s s') ∧ Safe M D t p (post t) s'
  finish : ∀ t r s, D.inv s → post t r s →
    D.inv (M.finish t r s) ∧ ∀ u, u ≠ t → D.keeps u s (M.finish t r s)
  tick : ∀ event s s', D.inv s → M.tick event s = some s' →
    D.inv s' ∧ ∀ u, D.keeps u s s'

/-- The same of threads that start at rest, and are at rest again once they have ended. -/
structure Resting (M : Machine E A ε σ τ χ κ) (D : Discipline E σ τ)
    (post : τ → Except ε Unit → σ → Prop) (rest : τ → σ → Prop) : Prop where
  post_stable : ∀ t r a b, D.keeps t a b → D.inv b → post t r a → post t r b
  rest_stable : ∀ t a b, D.keeps t a b → D.inv b → rest t a → rest t b
  start : ∀ t request s p s', D.inv s → rest t s → M.start t request s = some (p, s') →
    D.inv s' ∧ (∀ u, u ≠ t → D.keeps u s s') ∧ Safe M D t p (post t) s'
  finish : ∀ t r s, D.inv s → post t r s → D.inv (M.finish t r s) ∧
    (∀ u, u ≠ t → D.keeps u s (M.finish t r s)) ∧ rest t (M.finish t r s)
  tick : ∀ event s s', D.inv s → M.tick event s = some s' →
    D.inv s' ∧ ∀ u, D.keeps u s s'

theorem Sound.resting {M : Machine E A ε σ τ χ κ} {D : Discipline E σ τ}
    {post : τ → Except ε Unit → σ → Prop} (sound : Sound M D post) {rest : τ → σ → Prop}
    (stable : ∀ t a b, D.keeps t a b → D.inv b → rest t a → rest t b)
    (finish : ∀ t r s, D.inv s → post t r s → rest t (M.finish t r s)) :
    Resting M D post rest where
  post_stable := sound.post_stable
  rest_stable := stable
  start t request s p s' hs _ := sound.start t request s p s' hs
  finish t r s hs left :=
    have ended := sound.finish t r s hs left
    ⟨ended.1, ended.2, finish t r s hs left⟩
  tick := sound.tick

/-- The invariant, and every running thread safe from here on. -/
structure Orderly (M : Machine E A ε σ τ χ κ) (D : Discipline E σ τ)
    (post : τ → Except ε Unit → σ → Prop) (c : Config E A ε σ τ) : Prop where
  inv : D.inv c.state
  threads : ∀ t p, c.threads t = some p → Safe M D t p (post t) c.state

/-- An orderly configuration in which every thread that is not running is at rest. -/
structure Rested (M : Machine E A ε σ τ χ κ) (D : Discipline E σ τ)
    (post : τ → Except ε Unit → σ → Prop) (rest : τ → σ → Prop) (c : Config E A ε σ τ) : Prop
    extends Orderly M D post c where
  idle : ∀ t, c.threads t = none → rest t c.state

namespace Orderly

variable {M : Machine E A ε σ τ χ κ} {D : Discipline E σ τ} {post : τ → Except ε Unit → σ → Prop}
  {c d : Config E A ε σ τ}

theorem initial {s : σ} (hs : D.inv s) : Orderly M D post (Config.initial s) :=
  ⟨hs, fun _ _ running => by cases running⟩

/-- The pledge of an effect holds in every configuration where a thread waits for it. -/
theorem pledged (h : Orderly M D post c) {t : τ} {e : E} (waits : c.Awaits t e) :
    D.pledge t e c.state := by
  obtain ⟨k, waits⟩ := waits
  exact (h.threads t _ waits c.state (D.keeps_refl _ _) h.inv).1

/-- What a program leaves behind holds as soon as it has an outcome. -/
theorem ended (h : Orderly M D post c) {t : τ} {r : Except ε Unit}
    (ended : c.threads t = some (.ofExcept r)) : post t r c.state := by
  have left := h.threads t _ ended
  cases r with
  | ok u => exact left
  | error e => exact left

end Orderly

section runs

variable [DecidableEq τ] {M : Machine E A ε σ τ χ κ} {D : Discipline E σ τ}
  {post : τ → Except ε Unit → σ → Prop} {rest : τ → σ → Prop} {c₀ c d : Config E A ε σ τ}

/-- Replacing the program of one thread, when the other threads keep what they rely on. -/
theorem Rested.put (h : Rested M D post rest c) (resting : Resting M D post rest) {t : τ} {s : σ}
    (hs : D.inv s) {p : Option (Prog E A ε Unit)} (others : ∀ u, u ≠ t → D.keeps u c.state s)
    (own : ∀ q, p = some q → Safe M D t q (post t) s) (ended : p = none → rest t s) :
    Rested M D post rest (c.put t p s) := by
  refine ⟨⟨hs, fun u q running => ?_⟩, fun u idle => ?_⟩ <;> by_cases same : u = t
  · subst same
    rw [Config.put_self] at running
    exact own q running
  · rw [Config.put_of_ne same] at running
    exact (h.threads u q running).kept (others u same) hs (resting.post_stable u)
  · subst same
    rw [Config.put_self] at idle
    exact ended idle
  · rw [Config.put_of_ne same] at idle
    exact resting.rest_stable u _ _ (others u same) hs (h.idle u idle)

/-- A step of one thread, or of none: all others keep what they rely on. -/
theorem Rested.step (h : Rested M D post rest c) (resting : Resting M D post rest)
    {a : Action τ χ κ} (allowed : Machine.Allows D.ok a c) (moved : M.next a c = some d) :
    Rested M D post rest d ∧ ∃ t : Option τ, ∀ u, some u ≠ t → D.keeps u c.state d.state := by
  cases a with
  | call t choice =>
      obtain ⟨e, k, r, s, waits, answered, rfl⟩ := Machine.next_call moved
      obtain ⟨-, answers⟩ := h.threads t _ waits c.state (D.keeps_refl _ _) h.inv
      obtain ⟨hs, others, safe⟩ :=
        answers (allowed t choice e rfl ⟨k, waits⟩) choice r s answered
      exact ⟨h.put resting hs others (fun q same => by cases same; exact safe) (by simp), some t,
        fun u other => others u (by simpa using other)⟩
  | unroll t =>
      obtain ⟨β, body, k, waits, rfl⟩ := Machine.next_unroll moved
      have others : ∀ u, u ≠ t → D.keeps u c.state c.state := fun u _ => D.keeps_refl u _
      refine ⟨h.put resting h.inv others (fun q same => ?_) (by simp), some t,
        fun u other => others u (by simpa using other)⟩
      cases same
      exact (h.threads t _ waits).unroll h.inv
  | finish t =>
      obtain ⟨r, ended, rfl⟩ := Machine.next_finish moved
      obtain ⟨hs, others, idle⟩ := resting.finish t r _ h.inv (h.ended ended)
      exact ⟨h.put resting hs others (fun q same => by cases same) fun _ => idle, some t,
        fun u other => others u (by simpa using other)⟩
  | start t request =>
      obtain ⟨p, s, free, started, rfl⟩ := Machine.next_start moved
      obtain ⟨hs, others, safe⟩ := resting.start t request _ p s h.inv (h.idle t free) started
      exact ⟨h.put resting hs others (fun q same => by cases same; exact safe) (by simp), some t,
        fun u other => others u (by simpa using other)⟩
  | tick event =>
      obtain ⟨s, ticked, rfl⟩ := Machine.next_tick moved
      obtain ⟨hs, others⟩ := resting.tick event _ s h.inv ticked
      exact ⟨⟨⟨hs, fun t p running =>
        (h.threads t p running).kept (others t) hs (resting.post_stable t)⟩, fun t idle =>
        resting.rest_stable t _ _ (others t) hs (h.idle t idle)⟩, none, fun u _ => others u⟩

/-- Every configuration of every run whose answered effects meet `D.ok` is orderly, and a
relation that all threads but one keep in each step holds between the ends of the run. -/
theorem Resting.along (resting : Resting M D post rest) {R : σ → σ → Prop} (refl : ∀ s, R s s)
    (trans : ∀ s₁ s₂ s₃, R s₁ s₂ → R s₂ s₃ → R s₁ s₃)
    (shared : ∀ (t : Option τ) s s', (∀ u, some u ≠ t → D.keeps u s s') → R s s')
    (h₀ : Rested M D post rest c₀) (h : M.ReachesUnder D.ok c₀ c) :
    Rested M D post rest c ∧ R c₀.state c.state := by
  induction h with
  | refl => exact ⟨h₀, refl _⟩
  | step _ allowed moved ih =>
      obtain ⟨rested, others⟩ := ih.1.step resting allowed moved
      obtain ⟨t, others⟩ := others
      exact ⟨rested, trans _ _ _ ih.2 (shared t _ _ others)⟩

theorem Resting.reaches (resting : Resting M D post rest) (h₀ : Rested M D post rest c₀)
    (h : M.ReachesUnder D.ok c₀ c) : Rested M D post rest c :=
  (resting.along (R := fun _ _ => True) (fun _ => trivial) (fun _ _ _ _ _ => trivial)
    (fun _ _ _ _ => trivial) h₀ h).1

/-- Every configuration of every run whose answered effects meet `D.ok` is orderly. -/
theorem Sound.reaches (sound : Sound M D post) (h₀ : Orderly M D post c₀)
    (h : M.ReachesUnder D.ok c₀ c) : Orderly M D post c :=
  have resting : Resting M D post fun _ _ => True :=
    sound.resting (fun _ _ _ _ _ _ => trivial) fun _ _ _ _ _ => trivial
  (resting.reaches ⟨h₀, fun _ _ => trivial⟩ h).toOrderly

/-- What holds of every thread before it starts, and again from its end on. -/
theorem Sound.idle (sound : Sound M D post) {R : τ → σ → Prop}
    (stable : ∀ t a b, D.keeps t a b → D.inv b → R t a → R t b)
    (finish : ∀ t r s, D.inv s → post t r s → R t (M.finish t r s)) (h₀ : Orderly M D post c₀)
    (idle₀ : ∀ t, c₀.threads t = none → R t c₀.state)
    (h : M.ReachesUnder D.ok c₀ c) {t : τ} (idle : c.threads t = none) : R t c.state :=
  ((sound.resting stable finish).reaches ⟨h₀, idle₀⟩ h).idle t idle

end runs

end Async
