import RedditKafka.Async.Safety
import RedditKafka.Async.Sequential

/-!
# Cooperative scheduling

One thread at a time is in control. It gives way only where it suspends, so
between two of its suspensions nothing else moves. Any machine becomes such a
one when it is told which of its effects suspend.
-/
namespace Async

/-- An effect that suspends has two parts: the thread gives way, and later it is answered. -/
inductive Paced (E : Type) where
  | giveWay
  | act (c : E)
  deriving DecidableEq

abbrev Paced.Answer {E : Type} (A : E → Type) : Paced E → Type
  | .giveWay => Unit
  | .act c => A c

/-- A shared state, and the thread that is in control of it. -/
structure Controlled (σ τ : Type) where
  control : Option τ
  state : σ

variable {E : Type} {A : E → Type} {ε σ τ χ κ : Type} {α β γ : Type}

/-- One effect of a thread that suspends only where `suspends` says so. -/
def pace (suspends : E → Bool) (c : E) : Prog (Paced E) (Paced.Answer A) ε (A c) :=
  if suspends c then .call .giveWay fun
    | .ok () => Prog.perform (Paced.act c)
    | .error e => .raise e
  else Prog.perform (Paced.act c)

/-- A program with its suspensions. -/
abbrev Prog.paced (suspends : E → Bool) (p : Prog E A ε α) : Prog (Paced E) (Paced.Answer A) ε α :=
  p.link (pace suspends)

/-- A thread starts, and goes on behind a suspension, when nobody is in control; so do outside
events come. A thread ends in control. -/
def Machine.cooperative [DecidableEq τ] (M : Machine E A ε σ τ χ κ) (suspends : E → Bool) :
    Machine (Paced E) (Paced.Answer A) ε (Controlled σ τ) τ χ κ where
  answer t
    | .giveWay, _, s => if s.control = some t then some (.ok (), ⟨none, s.state⟩) else none
    | .act c, choice, s =>
        if s.control = (if suspends c then none else some t) then
          (M.answer t c choice s.state).map fun a => (a.1, ⟨some t, a.2⟩)
        else none
  start t request s :=
    if s.control = none then
      (M.start t request s.state).map fun a => (a.1.paced suspends, ⟨some t, a.2⟩)
    else none
  finish t r s := if s.control = some t then ⟨none, M.finish t r s.state⟩ else s
  tick event s :=
    if s.control = none then (M.tick event s.state).map fun state => ⟨none, state⟩ else none

/-- An invariant that knows who is in control, and what a thread may rely on while it has given
way. -/
structure Cooperation (σ τ : Type) where
  inv : Option τ → σ → Prop
  keeps : τ → σ → σ → Prop
  keeps_refl : ∀ t s, keeps t s s
  keeps_trans : ∀ t a b c, keeps t a b → keeps t b c → keeps t a c

/-- While a thread is in control nothing moves. -/
def Cooperation.discipline (C : Cooperation σ τ) : Discipline (Paced E) (Controlled σ τ) τ where
  inv s := C.inv s.control s.state
  keeps t s s' := (s.control = some t → s' = s) ∧ C.keeps t s.state s'.state
  keeps_refl t s := ⟨fun _ => rfl, C.keeps_refl t s.state⟩
  keeps_trans t a b c first second := by
    refine ⟨fun held => ?_, C.keeps_trans t _ _ _ first.2 second.2⟩
    obtain rfl := first.1 held
    exact second.1 held
  ok _ _ _ := True
  pledge _ _ _ := True

section rules

variable [DecidableEq τ] (M : Machine E A ε σ τ χ κ) (suspends : E → Bool) (C : Cooperation σ τ)
  (t : τ)

/-- Every answer to `p`, which is in control of the state `s`, keeps the cooperation; it is in
control again when it ends, and its outcome satisfies `Q`. -/
def Cooperates (p : Prog E A ε α) (Q : Except ε α → σ → Prop) (s : σ) : Prop :=
  Safe (M.cooperative suspends) C.discipline t (p.paced suspends)
    (fun r s' => s'.control = some t ∧ Q r s'.state) ⟨some t, s⟩

/-- What an answered effect owes: the invariant, and what the other threads rely on. -/
def Cooperation.Answered (s s' : σ) : Prop :=
  C.inv (some t) s' ∧ ∀ u, u ≠ t → C.keeps u s s'

variable {M suspends C t} {s : σ}

namespace Cooperates

theorem ret {a : α} {Q : Except ε α → σ → Prop} (h : Q (.ok a) s) :
    Cooperates M suspends C t (.ret a) Q s :=
  ⟨rfl, h⟩

theorem raise {e : ε} {Q : Except ε α → σ → Prop} (h : Q (.error e) s) :
    Cooperates M suspends C t (.raise e) Q s :=
  ⟨rfl, h⟩

/-- An effect that does not suspend is answered in the very state in which it is issued. -/
theorem act {c : E} {next : Except ε (A c) → Prog E A ε α} {Q : Except ε α → σ → Prop}
    (plain : suspends c = false)
    (rest : ∀ choice r s', M.answer t c choice s = some (r, s') →
      C.Answered t s s' ∧ Cooperates M suspends C t (next r) Q s') :
    Cooperates M suspends C t (.call c next) Q s := by
  unfold Cooperates Prog.paced Prog.link pace
  rw [plain]
  intro s₁ kept _
  obtain rfl := kept.1 rfl
  refine ⟨trivial, fun _ choice r s₂ answered => ?_⟩
  simp only [Machine.cooperative, plain, Bool.false_eq_true, if_false, if_true,
    Option.map_eq_some_iff] at answered
  obtain ⟨⟨r', s'⟩, given, same⟩ := answered
  cases same
  obtain ⟨⟨inv, others⟩, goes⟩ := rest choice _ s' given
  refine ⟨inv, fun u other => ⟨fun held => ?_, others u other⟩, ?_⟩
  · exact absurd (Option.some.inj held).symm other
  · cases r' <;> exact goes

/-- An effect that suspends: the others move, and it is answered when nobody is in control. -/
theorem suspend {c : E} {next : Except ε (A c) → Prog E A ε α} {Q : Except ε α → σ → Prop}
    (away : suspends c = true) (left : C.inv none s)
    (rest : ∀ s₁, C.keeps t s s₁ → C.inv none s₁ → ∀ choice r s',
      M.answer t c choice s₁ = some (r, s') →
        C.Answered t s₁ s' ∧ Cooperates M suspends C t (next r) Q s') :
    Cooperates M suspends C t (.call c next) Q s := by
  unfold Cooperates Prog.paced Prog.link pace
  rw [away]
  intro s₁ kept _
  obtain rfl := kept.1 rfl
  refine ⟨trivial, fun _ choice r s₂ answered => ?_⟩
  simp only [Machine.cooperative, if_true, Option.some.injEq, Prod.mk.injEq] at answered
  obtain ⟨rfl, rfl⟩ := answered
  refine ⟨left, fun u other => ⟨fun held => ?_, C.keeps_refl u s⟩, fun s₃ kept₃ inv₃ => ?_⟩
  · exact absurd (Option.some.inj held).symm other
  refine ⟨trivial, fun _ choice r s₂ answered => ?_⟩
  simp only [Machine.cooperative, away, if_true] at answered
  split at answered
  · rename_i free
    obtain ⟨⟨r', s'⟩, given, same⟩ := Option.map_eq_some_iff.mp answered
    cases same
    have inv₃' : C.inv none s₃.state := free ▸ inv₃
    obtain ⟨⟨inv, others⟩, goes⟩ := rest s₃.state kept₃.2 inv₃' choice _ s' given
    refine ⟨inv, fun u other => ⟨fun held => ?_, others u other⟩, ?_⟩
    · cases free.symm.trans held
    · cases r' <;> exact goes
  · cases answered

theorem bindE {p : Prog E A ε α} {f : Except ε α → Prog E A ε γ} {P : Except ε α → σ → Prop}
    {Q : Except ε γ → σ → Prop} (hs : C.inv (some t) s) (first : Cooperates M suspends C t p P s)
    (rest : ∀ r s', C.inv (some t) s' → P r s' → Cooperates M suspends C t (f r) Q s') :
    Cooperates M suspends C t (p.bindE f) Q s := by
  unfold Cooperates Prog.paced
  rw [Prog.link_bindE]
  refine Safe.bindE hs first fun r s' hs' ended => ?_
  obtain ⟨control, state⟩ := s'
  obtain ⟨rfl, post⟩ := ended
  exact rest r state hs' post

theorem rescue {p : Prog E A ε α} {handler : ε → Prog E A ε α} {P Q : Except ε α → σ → Prop}
    (hs : C.inv (some t) s) (body : Cooperates M suspends C t p P s)
    (returned : ∀ a s', C.inv (some t) s' → P (.ok a) s' → Q (.ok a) s')
    (caught : ∀ e s', C.inv (some t) s' → P (.error e) s' →
      Cooperates M suspends C t (handler e) Q s') :
    Cooperates M suspends C t (p.rescue handler) Q s :=
  bindE hs body fun r s' hs' done => by
    cases r with
    | ok a => exact ret (returned a s' hs' done)
    | error e => exact caught e s' hs' done

theorem bind {p : Prog E A ε α} {f : α → Prog E A ε γ} {P : Except ε α → σ → Prop}
    {Q : Except ε γ → σ → Prop} (hs : C.inv (some t) s) (first : Cooperates M suspends C t p P s)
    (rest : ∀ a s', C.inv (some t) s' → P (.ok a) s' → Cooperates M suspends C t (f a) Q s')
    (failed : ∀ e s', C.inv (some t) s' → P (.error e) s' → Q (.error e) s') :
    Cooperates M suspends C t (p >>= f) Q s :=
  bindE hs first fun r s' hs' done => by
    cases r with
    | ok a => exact rest a s' hs' done
    | error e => exact raise (failed e s' hs' done)

theorem attempt {p : Prog E A ε α} {P : Except ε α → σ → Prop}
    {Q : Except ε (Except ε α) → σ → Prop} (hs : C.inv (some t) s)
    (body : Cooperates M suspends C t p P s)
    (ended : ∀ r s', C.inv (some t) s' → P r s' → Q (.ok r) s') :
    Cooperates M suspends C t p.attempt Q s :=
  bindE hs body fun r s' hs' done => ret (ended r s' hs' done)

/-- A loop: each turn begins in control and in a state of `I`, or it ends the loop. -/
theorem forever {body : Prog E A ε (Option β)} {Q : Except ε β → σ → Prop} (I : σ → Prop)
    (start : I s)
    (turn : ∀ s, C.inv (some t) s → I s → Cooperates M suspends C t body (fun r s' => match r with
      | .ok none => I s'
      | .ok (some b) => Q (.ok b) s'
      | .error e => Q (.error e) s') s) : Cooperates M suspends C t body.forever Q s := by
  refine ⟨fun s => s.control = some t ∧ I s.state, ⟨rfl, start⟩, fun a b kept _ here => ?_, ?_⟩
  · obtain rfl := kept.1 here.1
    exact here
  · rintro ⟨control, state⟩ hs ⟨rfl, holds⟩
    refine Safe.mono (turn state hs holds) hs ?_
    rintro (e | (_ | b)) s' _ ended <;> exact ended

/-- A program whose effects all keep `I`, with an invariant that allows it to give way. -/
theorem of_uses {H : E → Prop} {p : Prog E A ε α} (uses : p.Uses H) (I : σ → Prop)
    (stable : ∀ a b, C.keeps t a b → I a → I b)
    (away : ∀ s, I s → C.inv (some t) s → C.inv none s)
    (effect : ∀ c s₁ choice r s₂, H c → C.inv (if suspends c then none else some t) s₁ → I s₁ →
      M.answer t c choice s₁ = some (r, s₂) → C.Answered t s₁ s₂ ∧ I s₂)
    (hs : C.inv (some t) s) (start : I s) :
    Cooperates M suspends C t p (fun _ => I) s := by
  induction p generalizing s with
  | ret a => exact ret start
  | raise e => exact raise start
  | call c next ih =>
      by_cases suspends_ : suspends c = true
      · refine suspend suspends_ (away s start hs) fun s₁ kept inv₁ choice r s₂ answered => ?_
        obtain ⟨owed, holds⟩ := effect c s₁ choice r s₂ uses.1 (by rwa [if_pos suspends_])
          (stable _ _ kept start) answered
        exact ⟨owed, ih r (uses.2 r) owed.1 holds⟩
      · refine act (by simpa using suspends_) fun choice r s₂ answered => ?_
        obtain ⟨owed, holds⟩ := effect c s choice r s₂ uses.1 (by rwa [if_neg suspends_]) start
          answered
        exact ⟨owed, ih r (uses.2 r) owed.1 holds⟩
  | loop body next ihb ih =>
      refine ⟨fun s => s.control = some t ∧ I s.state, ⟨rfl, start⟩, fun a b kept _ here => ?_, ?_⟩
      · obtain rfl := kept.1 here.1
        exact here
      · rintro ⟨control, state⟩ hs ⟨rfl, holds⟩
        refine Safe.mono (ihb uses.1 hs holds) hs ?_
        rintro (e | (_ | b)) ⟨control', s'⟩ inv' ⟨rfl, holds'⟩
        · exact ih _ (uses.2 _) inv' holds'
        · exact ⟨rfl, holds'⟩
        · exact ih _ (uses.2 _) inv' holds'

end Cooperates

/-- The obligations outside the programs. A thread that ends is in control, and hands it back. -/
structure Cooperation.Sound (M : Machine E A ε σ τ χ κ) (suspends : E → Bool)
    (C : Cooperation σ τ) (post : τ → Except ε Unit → σ → Prop) : Prop where
  start : ∀ t request s p s', C.inv none s → M.start t request s = some (p, s') →
    C.Answered t s s' ∧ Cooperates M suspends C t p (post t) s'
  finish : ∀ t r s, C.inv (some t) s → post t r s →
    C.inv none (M.finish t r s) ∧ ∀ u, u ≠ t → C.keeps u s (M.finish t r s)
  tick : ∀ event s, M.tick event s = none

theorem Cooperation.Sound.discipline {post : τ → Except ε Unit → σ → Prop}
    (sound : C.Sound M suspends post) : Async.Sound (M.cooperative suspends) C.discipline
      fun t r s => s.control = some t ∧ post t r s.state where
  post_stable t r a b kept _ ended := by
    obtain rfl := kept.1 ended.1
    exact ended
  start t request s p s' inv started := by
    simp only [Machine.cooperative] at started
    split at started
    · rename_i free
      obtain ⟨⟨q, s₁⟩, given, same⟩ := Option.map_eq_some_iff.mp started
      cases same
      have inv' : C.inv none s.state := free ▸ inv
      obtain ⟨⟨invs, others⟩, goes⟩ := sound.start t request s.state q s₁ inv' given
      refine ⟨invs, fun u other => ⟨fun held => ?_, others u other⟩, goes⟩
      cases free.symm.trans held
    · cases started
  finish t r s inv ended := by
    obtain ⟨held, post⟩ := ended
    have inv' : C.inv (some t) s.state := held ▸ inv
    obtain ⟨invs, others⟩ := sound.finish t r s.state inv' post
    refine ⟨?_, fun u other => ⟨fun held' => ?_, ?_⟩⟩
    · simp only [Machine.cooperative, held, if_true]
      exact invs
    · exact absurd (Option.some.inj (held.symm.trans held')).symm other
    · simpa only [Machine.cooperative, held, if_true] using others u other
  tick event s s' _ ticked := by
    simp [Machine.cooperative, sound.tick] at ticked

end rules

end Async
