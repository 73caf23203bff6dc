import RedditKafka.Async.Cooperative

/-!
# Bringing a cooperative thread to its end

Where a thread stands in its program is known in every run. If what is left of
the program can be brought to an end, some continuation of the run does so,
and no scheduling of the other threads has made that impossible.
-/
namespace Async

variable {E : Type} {A : E → Type} {ε σ τ χ κ : Type} {α β γ : Type}

/-! ## Programs that can be brought to an end -/

/-- Wherever the program stands it can be brought to an end: its effects are in `H`, and from a
state of `I` each loop has a turn that leaves it. -/
def Prog.Stoppable (answer : (c : E) → χ → σ → Option (Except ε (A c) × σ)) (H : E → Prop)
    (I : σ → Prop) : {α : Type} → Prog E A ε α → Prop
  | _, .ret _ => True
  | _, .raise _ => True
  | _, .call c next => H c ∧ ∀ r, (next r).Stoppable answer H I
  | _, .loop body next => body.Stoppable answer H I ∧
      (∀ s, I s → ∃ trace r s', Runs answer body s trace r s' ∧ I s' ∧ r ≠ .ok none) ∧
      ∀ r, (next r).Stoppable answer H I

namespace Prog.Stoppable

variable {answer : (c : E) → χ → σ → Option (Except ε (A c) × σ)} {H : E → Prop} {I : σ → Prop}

theorem of_straight {p : Prog E A ε α} (straight : p.Straight H) : p.Stoppable answer H I := by
  induction p with
  | ret | raise => trivial
  | call c next ih => exact ⟨straight.1, fun r => ih r (straight.2 r)⟩
  | loop => cases straight

theorem bindE {p : Prog E A ε α} {f : Except ε α → Prog E A ε γ} (hp : p.Stoppable answer H I)
    (hf : ∀ r, (f r).Stoppable answer H I) : (p.bindE f).Stoppable answer H I := by
  induction p with
  | ret a => exact hf _
  | raise e => exact hf _
  | call c next ih => exact ⟨hp.1, fun r => ih r (hp.2 r) hf⟩
  | loop body next _ ih => exact ⟨hp.1, hp.2.1, fun r => ih r (hp.2.2 r) hf⟩

theorem bind {p : Prog E A ε α} {f : α → Prog E A ε γ} (hp : p.Stoppable answer H I)
    (hf : ∀ a, (f a).Stoppable answer H I) : (p >>= f).Stoppable answer H I :=
  hp.bindE fun r => by
    cases r with
    | ok a => exact hf a
    | error e => trivial

theorem rescue {p : Prog E A ε α} {f : ε → Prog E A ε α} (hp : p.Stoppable answer H I)
    (hf : ∀ e, (f e).Stoppable answer H I) : (p.rescue f).Stoppable answer H I :=
  hp.bindE fun r => by
    cases r with
    | ok a => trivial
    | error e => exact hf e

theorem forever {body : Prog E A ε (Option β)} (hp : body.Stoppable answer H I)
    (leave : ∀ s, I s → ∃ trace r s', Runs answer body s trace r s' ∧ I s' ∧ r ≠ .ok none) :
    body.forever.Stoppable answer H I :=
  ⟨hp, leave, fun r => by cases r <;> trivial⟩

theorem unroll {body : Prog E A ε (Option β)} {next : Except ε β → Prog E A ε α}
    (h : (Prog.loop body next).Stoppable answer H I) : (body.unroll next).Stoppable answer H I :=
  h.1.bindE fun r => by
    rcases r with e | (_ | b)
    · exact h.2.2 _
    · exact h
    · exact h.2.2 _

/-- It has a run, if its effects can be answered within `I`. -/
theorem runs {p : Prog E A ε α} (h : p.Stoppable answer H I)
    (answers : ∀ c s, H c → I s → ∃ choice r s', answer c choice s = some (r, s') ∧ I s') {s : σ}
    (start : I s) : ∃ trace out s', Runs answer p s trace out s' ∧ I s' := by
  induction p generalizing s with
  | ret a => exact ⟨[], _, s, .ret a s, start⟩
  | raise e => exact ⟨[], _, s, .raise e s, start⟩
  | call c next ih =>
      obtain ⟨choice, r, s₁, answered, holds⟩ := answers c s h.1 start
      obtain ⟨trace, out, s', ran, still⟩ := ih r (h.2 r) holds
      exact ⟨_, out, s', .call answered ran, still⟩
  | loop body next _ ih =>
      obtain ⟨turn, r, s₁, left, holds, ends⟩ := h.2.1 s start
      have rest (q : Except ε _) (leaves : r = q.map some) :
          ∃ trace out s', Runs answer (body.unroll next) s trace out s' ∧ I s' := by
        obtain ⟨trace, out, s', ran, still⟩ := ih q (h.2.2 q) holds
        have ran' : Runs answer (body.unroll next) s (turn ++ trace) out s' := left.bindE (by
          subst leaves
          cases q <;> exact ran)
        exact ⟨_, out, s', ran', still⟩
      have goes : ∃ trace out s', Runs answer (body.unroll next) s trace out s' ∧ I s' := by
        rcases r with e | (_ | b)
        · exact rest (.error e) rfl
        · exact absurd rfl ends
        · exact rest (.ok b) rfl
      obtain ⟨trace, out, s', ran, still⟩ := goes
      exact ⟨trace, out, s', .loop ran, still⟩

end Prog.Stoppable

/-! ## Where a thread stands in its program -/

/-- The thread is in control in front of `q`, or it has given way for the first effect of `q`. -/
inductive Standing (suspends : E → Bool) (t : τ) :
    Prog E A ε Unit → Prog (Paced E) (Paced.Answer A) ε Unit → Option τ → Prop
  | here (q : Prog E A ε Unit) : Standing suspends t q (q.paced suspends) (some t)
  | away {c : E} (next : Except ε (A c) → Prog E A ε Unit) {control : Option τ} :
      suspends c = true → control ≠ some t →
      Standing suspends t (.call c next)
        (.call (Paced.act c) fun r => (next r).paced suspends) control

theorem pace_suspends {suspends : E → Bool} {c : E} (away : suspends c = true)
    (f : Except ε (A c) → Prog (Paced E) (Paced.Answer A) ε α) :
    (pace suspends c).bindE f = .call Paced.giveWay fun
      | .ok () => .call (Paced.act c) f
      | .error e => f (.error e) := by
  simp only [pace, away, if_true, Prog.bindE]
  congr 1
  funext r
  cases r with
  | error e => rfl
  | ok u =>
      simp only [Prog.perform, Prog.bindE]
      congr 1
      funext r
      cases r <;> rfl

theorem pace_plain {suspends : E → Bool} {c : E} (plain : suspends c = false)
    (f : Except ε (A c) → Prog (Paced E) (Paced.Answer A) ε α) :
    (pace suspends c).bindE f = .call (Paced.act c) f := by
  simp only [pace, plain, Bool.false_eq_true, if_false, Prog.perform, Prog.bindE]
  congr 1
  funext r
  cases r <;> rfl

theorem paced_unroll {suspends : E → Bool} (body : Prog E A ε (Option β))
    (next : Except ε β → Prog E A ε α) : (body.unroll next).paced suspends =
      (body.paced suspends).unroll fun r => (next r).paced suspends := by
  rw [Prog.paced, Prog.unroll, Prog.link_bindE, Prog.unroll]
  congr 1
  funext r
  rcases r with e | (_ | b) <;> rfl

section course

variable {M : Machine E A ε σ τ χ κ} {suspends : E → Bool} {t : τ}
  {c₀ c d : Config (Paced E) (Paced.Answer A) ε (Controlled σ τ) τ}

/-- A property of what is left of the program of `t`, kept by its own steps. Behind a suspension
the others have moved the state. -/
structure Course (M : Machine E A ε σ τ χ κ) (suspends : E → Bool) (t : τ)
    (G : Prog E A ε Unit → σ → Prop) : Prop where
  started : ∀ request s p s', M.start t request s = some (p, s') → G p s'
  answered : ∀ {c next} choice r s s', G (.call c next) s → M.answer t c choice s = some (r, s') →
    G (next r) s'
  unrolled : ∀ {β : Type} {body : Prog E A ε (Option β)} {next} s, G (.loop body next) s →
    G (body.unroll next) s
  aside : ∀ {c next} s s', suspends c = true → G (.call c next) s → G (.call c next) s'

/-- Where a program with an end in reach stands, there is an end in reach. -/
theorem Course.of_stoppable {H : E → Prop} {I : σ → Prop}
    (starts : ∀ request s p s', M.start t request s = some (p, s') → p.Stoppable (M.answer t) H I) :
    Course M suspends t fun q _ => q.Stoppable (M.answer t) H I where
  started := starts
  answered _ r _ _ h _ := h.2 r
  unrolled _ h := h.unroll
  aside _ _ _ h := h

/-- Where `t` stands in a configuration. -/
def Placed (suspends : E → Bool) (t : τ) (G : Prog E A ε Unit → σ → Prop)
    (c : Config (Paced E) (Paced.Answer A) ε (Controlled σ τ) τ) : Prop :=
  ∀ p, c.threads t = some p → ∃ q, G q c.state.state ∧ Standing suspends t q p c.state.control

/-- A thread that is suspended stands where it stood, whatever the others do. -/
theorem Placed.aside {G : Prog E A ε Unit → σ → Prop} (course : Course M suspends t G)
    {p : Prog (Paced E) (Paced.Answer A) ε Unit} {s s' : Controlled σ τ}
    (away : s.control ≠ some t) (away' : s'.control ≠ some t)
    (placed : ∃ q, G q s.state ∧ Standing suspends t q p s.control) :
    ∃ q, G q s'.state ∧ Standing suspends t q p s'.control := by
  obtain ⟨q, holds, standing⟩ := placed
  generalize same : s.control = control at standing away
  cases standing with
  | here => exact absurd rfl away
  | away next suspends_ _ => exact ⟨_, course.aside _ _ suspends_ holds, .away next suspends_ away'⟩

variable [DecidableEq τ]

/-- An answered effect of `t` itself. -/
theorem Placed.answered {G : Prog E A ε Unit → σ → Prop} (course : Course M suspends t G)
    {e : Paced E} {k : Except ε (Paced.Answer A e) → Prog (Paced E) (Paced.Answer A) ε Unit}
    {choice : χ} {r : Except ε (Paced.Answer A e)} {s s' : Controlled σ τ}
    (placed : ∃ q, G q s.state ∧ Standing suspends t q (.call e k) s.control)
    (given : (M.cooperative suspends).answer t e choice s = some (r, s')) :
    ∃ q, G q s'.state ∧ Standing suspends t q (k r) s'.control := by
  obtain ⟨q, holds, standing⟩ := placed
  generalize samep : Prog.call e k = p at standing
  generalize same : s.control = control at standing
  cases standing with
  | here =>
      cases q with
      | ret | raise | loop => cases samep
      | call c next =>
          by_cases away : suspends c = true
          · rw [Prog.paced, Prog.link, pace_suspends away] at samep
            cases samep
            simp only [Machine.cooperative, same, if_true, Option.some.injEq, Prod.mk.injEq] at given
            obtain ⟨rfl, rfl⟩ := given
            exact ⟨_, holds, .away next away (Option.some_ne_none t).symm⟩
          · have plain : suspends c = false := by simpa using away
            rw [Prog.paced, Prog.link, pace_plain plain] at samep
            cases samep
            simp only [Machine.cooperative, same, plain, Bool.false_eq_true, if_false, if_true,
              Option.map_eq_some_iff] at given
            obtain ⟨⟨r', state⟩, given', equal⟩ := given
            cases equal
            exact ⟨_, course.answered choice r' _ _ holds given', .here _⟩
  | away next suspends_ _ =>
      cases samep
      simp only [Machine.cooperative, suspends_, if_true] at given
      split at given
      · obtain ⟨⟨r', state⟩, given', equal⟩ := Option.map_eq_some_iff.mp given
        cases equal
        exact ⟨_, course.answered choice r' _ _ holds given', .here _⟩
      · cases given

/-- What an effect of `u` does to who is in control. -/
theorem control_of_answer {u : τ} {e : Paced E} {r : Except ε (Paced.Answer A e)} {choice : χ}
    {s s' : Controlled σ τ}
    (given : (M.cooperative suspends).answer u e choice s = some (r, s')) :
    (s.control = none ∨ s.control = some u) ∧ (s'.control = none ∨ s'.control = some u) := by
  cases e with
  | giveWay =>
      simp only [Machine.cooperative] at given
      split at given <;> cases given
      rename_i held
      exact ⟨.inr held, .inl rfl⟩
  | act e =>
      simp only [Machine.cooperative] at given
      by_cases held : s.control = if suspends e then none else some u
      · rw [if_pos held] at given
        obtain ⟨a, -, same⟩ := Option.map_eq_some_iff.mp given
        cases same
        refine ⟨?_, .inr rfl⟩
        split at held
        · exact .inl held
        · exact .inr held
      · rw [if_neg held] at given
        cases given

theorem Placed.step {G : Prog E A ε Unit → σ → Prop} (course : Course M suspends t G)
    {a : Action τ χ κ} (placed : Placed suspends t G c)
    (moved : (M.cooperative suspends).next a c = some d) : Placed suspends t G d := by
  have other {u : τ} (apart : t ≠ u) {control : Option τ} (mine : control = none ∨ control = some u) :
      control ≠ some t := by
    rcases mine with rfl | rfl
    · nofun
    · exact fun same => apart (Option.some.inj same).symm
  intro p running
  cases a with
  | call u choice =>
      obtain ⟨e, k, r, s, waits, given, rfl⟩ := Machine.next_call moved
      by_cases same : t = u
      · subst same
        rw [Config.put_self] at running
        cases running
        exact Placed.answered course (placed _ waits) given
      · rw [Config.put_of_ne same] at running
        have controls := control_of_answer given
        exact Placed.aside course (other same controls.1) (other same controls.2) (placed _ running)
  | unroll u =>
      obtain ⟨β, body, k, waits, rfl⟩ := Machine.next_unroll moved
      by_cases same : t = u
      · subst same
        rw [Config.put_self] at running
        cases running
        obtain ⟨q, holds, standing⟩ := placed _ waits
        generalize samep : Prog.loop body k = p at standing
        generalize control : c.state.control = held at standing
        cases standing with
        | away => cases samep
        | here =>
            cases q with
            | ret | raise => cases samep
            | call e next =>
                rw [Prog.paced, Prog.link, pace] at samep
                split at samep <;> cases samep
            | loop body' next =>
                cases samep
                refine ⟨_, course.unrolled _ holds, ?_⟩
                rw [Config.put_state, control, ← paced_unroll]
                exact .here _
      · rw [Config.put_of_ne same] at running
        exact placed _ running
  | finish u =>
      obtain ⟨r, ended, rfl⟩ := Machine.next_finish moved
      by_cases same : t = u
      · subst same
        rw [Config.put_self] at running
        cases running
      rw [Config.put_of_ne same] at running
      by_cases held : c.state.control = some u
      · simp only [Config.put_state, Machine.cooperative, if_pos held]
        have gone : (⟨none, M.finish u r c.state.state⟩ : Controlled σ τ).control ≠ some t :=
          (Option.some_ne_none t).symm
        exact Placed.aside course (other same (.inr held)) gone (placed _ running)
      · simp only [Config.put_state, Machine.cooperative, if_neg held]
        exact placed _ running
  | start u request =>
      obtain ⟨q, s, free, started, rfl⟩ := Machine.next_start moved
      simp only [Machine.cooperative] at started
      split at started
      · rename_i nobody
        obtain ⟨⟨q', state⟩, given, equal⟩ := Option.map_eq_some_iff.mp started
        cases equal
        by_cases same : t = u
        · subst same
          rw [Config.put_self] at running
          cases running
          exact ⟨q', course.started request _ _ _ given, .here _⟩
        · rw [Config.put_of_ne same] at running
          exact Placed.aside course (other same (.inl nobody)) (other same (.inr rfl))
            (placed _ running)
      · cases started
  | tick event =>
      obtain ⟨s, ticked, rfl⟩ := Machine.next_tick moved
      simp only [Machine.cooperative] at ticked
      split at ticked
      · rename_i nobody
        obtain ⟨state, -, equal⟩ := Option.map_eq_some_iff.mp ticked
        cases equal
        have idle : c.state.control ≠ some t := by
          rw [nobody]
          nofun
        exact Placed.aside course idle (Option.some_ne_none t).symm (placed _ running)
      · cases ticked

theorem Course.reaches {G : Prog E A ε Unit → σ → Prop} (course : Course M suspends t G)
    (start : Placed suspends t G c₀) (h : (M.cooperative suspends).Reaches c₀ c) :
    Placed suspends t G c := by
  induction h with
  | refl => exact start
  | step _ _ moved ih => exact ih.step course moved

/-- The step in which an effect is answered. -/
theorem act_step {e : E} {k : Except ε (A e) → Prog (Paced E) (Paced.Answer A) ε Unit} {choice : χ}
    {r : Except ε (A e)} {s' : σ} (h : (M.cooperative suspends).Reaches c₀ c)
    (held : c.state.control = if suspends e then none else some t)
    (waits : c.threads t = some (.call (Paced.act e) k))
    (given : M.answer t e choice c.state.state = some (r, s')) :
    (M.cooperative suspends).Reaches c₀ (c.put t (some (k r)) ⟨some t, s'⟩) := by
  refine h.step (a := .call t choice) ?_
  simp only [Machine.next, waits, Machine.cooperative, if_pos held, given, Option.map_some]

/-- The step in which a thread gives way. -/
theorem give_step {p : Prog (Paced E) (Paced.Answer A) ε Unit}
    {k : Except ε Unit → Prog (Paced E) (Paced.Answer A) ε Unit}
    (h : (M.cooperative suspends).Reaches c₀ c) (choice : χ) (held : c.state.control = some t)
    (waits : c.threads t = some (.call Paced.giveWay k)) (rest : k (.ok ()) = p) :
    (M.cooperative suspends).Reaches c₀ (c.put t (some p) ⟨none, c.state.state⟩) := by
  refine h.step (a := .call t choice) ?_
  simp only [Machine.next, waits, Machine.cooperative, if_pos held, Option.map_some, rest]

theorem finish_step {r : Except ε Unit} (h : (M.cooperative suspends).Reaches c₀ c)
    (held : c.state.control = some t) (ended : c.threads t = some (.ofExcept r)) :
    (M.cooperative suspends).Reaches c₀
      (c.put t none ⟨none, M.finish t r c.state.state⟩) := by
  refine h.step (a := .finish t) ?_
  cases r <;> simp [Machine.next, ended, Prog.ofExcept, Machine.cooperative, held]

/-- A run of the rest of a program, while the others are not scheduled. -/
theorem Standing.drives {q : Prog E A ε Unit} {trace : List (E × χ)} {out : Except ε Unit}
    {s s' : σ} (ran : Runs (M.answer t) q s trace out s')
    (h : (M.cooperative suspends).Reaches c₀ c) (here : c.state.state = s)
    (free : c.state.control = none ∨ c.state.control = some t)
    {p : Prog (Paced E) (Paced.Answer A) ε Unit} (running : c.threads t = some p)
    (standing : Standing suspends t q p c.state.control) :
    ∃ d, (M.cooperative suspends).Reaches c₀ d ∧ d.state = ⟨some t, s'⟩ ∧
      d.threads t = some (.ofExcept out) := by
  induction ran generalizing c p with
  | ret a s =>
      subst here
      generalize same : c.state.control = control at standing
      cases standing
      exact ⟨c, h, by rw [← same], running⟩
  | raise e s =>
      subst here
      generalize same : c.state.control = control at standing
      cases standing
      exact ⟨c, h, by rw [← same], running⟩
  | @call e next choice r s s₁ s' trace out given _ ih =>
      subst here
      -- The effect is answered, whoever had control before it was given up.
      have go {c : Config (Paced E) (Paced.Answer A) ε (Controlled σ τ) τ}
          (h : (M.cooperative suspends).Reaches c₀ c)
          (held : c.state.control = if suspends e then none else some t)
          (waits : c.threads t = some (.call (Paced.act e) fun r => (next r).paced suspends))
          (given : M.answer t e choice c.state.state = some (r, s₁)) :
          ∃ d, (M.cooperative suspends).Reaches c₀ d ∧ d.state = ⟨some t, s'⟩ ∧
            d.threads t = some (.ofExcept out) :=
        ih (act_step h held waits given) rfl (.inr rfl) (Config.put_self ..) (.here _)
      generalize same : c.state.control = control at standing
      cases standing with
      | away next suspends_ apart =>
          refine go h ?_ running given
          rw [if_pos suspends_]
          exact free.resolve_right (same ▸ apart)
      | here =>
          by_cases suspends_ : suspends e = true
          · rw [Prog.paced, Prog.link, pace_suspends suspends_] at running
            refine go (give_step h choice same running rfl) ?_ (Config.put_self ..) given
            rw [if_pos suspends_]
            rfl
          · rw [Prog.paced, Prog.link, pace_plain (by simpa using suspends_)] at running
            exact go h (by rw [if_neg suspends_, same]) running given
  | @loop _ body next _ _ _ _ _ ih =>
      subst here
      generalize same : c.state.control = control at standing
      cases standing
      have turned : (M.cooperative suspends).next (.unroll t) c = some (c.put t
          (some ((body.unroll next).paced suspends)) c.state) := by
        rw [paced_unroll]
        simp only [Machine.next, running, Prog.paced, Prog.link]
      refine ih (h.step turned) rfl (.inr same) (Config.put_self ..) ?_
      rw [Config.put_state, same]
      exact .here _

/-- A thread that can be brought to an end is, and hands control back. -/
theorem Standing.ends {H : E → Prop} {I : σ → Prop} {q : Prog E A ε Unit}
    (stoppable : q.Stoppable (M.answer t) H I)
    (answers : ∀ e s, H e → I s → ∃ choice r s', M.answer t e choice s = some (r, s') ∧ I s')
    (holds : I c.state.state) (free : c.state.control = none ∨ c.state.control = some t)
    {p : Prog (Paced E) (Paced.Answer A) ε Unit} (running : c.threads t = some p)
    (standing : Standing suspends t q p c.state.control) :
    ∃ d out s, (M.cooperative suspends).Reaches c d ∧ I s ∧ d.state = ⟨none, M.finish t out s⟩ := by
  obtain ⟨trace, out, s, ran, still⟩ := stoppable.runs answers holds
  obtain ⟨d, reached, state, ended⟩ := standing.drives ran .refl rfl free running
  refine ⟨_, out, s, finish_step reached (by rw [state]) ended, still, ?_⟩
  rw [Config.put_state, state]

/-- A thread in control without a loop in front of it gives way, or comes to the end of `q`. -/
theorem yields_bindE {H : E → Prop} {I : σ → Prop} {q : Prog E A ε α} (straight : q.Straight H)
    (answers : ∀ e s, H e → suspends e = false → I s →
      ∃ choice r s', M.answer t e choice s = some (r, s') ∧ I s')
    (holds : I c.state.state) (held : c.state.control = some t)
    {k : Except ε α → Prog (Paced E) (Paced.Answer A) ε Unit}
    (running : c.threads t = some ((q.paced suspends).bindE k)) (any : χ) :
    ∃ d, (M.cooperative suspends).Reaches c d ∧ I d.state.state ∧
      (d.state.control = none ∨ d.state.control = some t ∧ ∃ r, d.threads t = some (k r)) := by
  induction q generalizing c with
  | ret a => exact ⟨c, .refl, holds, .inr ⟨held, .ok a, running⟩⟩
  | raise e => exact ⟨c, .refl, holds, .inr ⟨held, .error e, running⟩⟩
  | call e next ih =>
      by_cases suspends_ : suspends e = true
      · rw [Prog.paced, Prog.link, pace_suspends suspends_, Prog.bindE] at running
        exact ⟨_, give_step .refl any held running rfl, holds, .inl rfl⟩
      · have plain : suspends e = false := by simpa using suspends_
        rw [Prog.paced, Prog.link, pace_plain plain, Prog.bindE] at running
        obtain ⟨choice, r, s, given, still⟩ := answers e _ straight.1 plain holds
        have moved : (M.cooperative suspends).Reaches c
            (c.put t (some (((next r).paced suspends).bindE k)) ⟨some t, s⟩) :=
          act_step .refl (by rw [plain]; exact held) running given
        obtain ⟨d, reached, rest⟩ := ih r (straight.2 r) (c := c.put t _ ⟨some t, s⟩) still rfl
          (Config.put_self ..)
        exact ⟨d, moved.trans reached, rest⟩
  | loop => cases straight

theorem yields {H : E → Prop} {I : σ → Prop} {q : Prog E A ε Unit} (straight : q.Straight H)
    (answers : ∀ e s, H e → suspends e = false → I s →
      ∃ choice r s', M.answer t e choice s = some (r, s') ∧ I s')
    (finishes : ∀ r s, I s → I (M.finish t r s)) (holds : I c.state.state)
    (held : c.state.control = some t) (running : c.threads t = some (q.paced suspends)) (any : χ) :
    ∃ d, (M.cooperative suspends).Reaches c d ∧ I d.state.state ∧ d.state.control = none := by
  rw [← Prog.bindE_ofExcept (q.paced suspends)] at running
  obtain ⟨d, reached, still, idle | ⟨mine, r, ended⟩⟩ :=
    yields_bindE straight answers holds held running any
  · exact ⟨d, reached, still, idle⟩
  · exact ⟨_, finish_step reached mine ended, finishes r _ still, rfl⟩

/-- Whoever is in control is a thread that runs. -/
theorem controlled_runs (start : ∀ u, c₀.state.control = some u → ∃ p, c₀.threads u = some p)
    (h : (M.cooperative suspends).Reaches c₀ c) {u : τ} (held : c.state.control = some u) :
    ∃ p, c.threads u = some p := by
  induction h generalizing u with
  | refl => exact start u held
  | @step a c d _ _ moved ih =>
      cases a with
      | call v choice =>
          obtain ⟨e, k, r, s, waits, given, rfl⟩ := Machine.next_call moved
          rcases (control_of_answer given).2 with idle | mine
          · cases idle.symm.trans held
          · cases mine.symm.trans held
            exact ⟨_, Config.put_self ..⟩
      | unroll v =>
          obtain ⟨β, body, k, waits, rfl⟩ := Machine.next_unroll moved
          by_cases same : u = v
          · subst same
            exact ⟨_, Config.put_self ..⟩
          · rw [Config.put_of_ne same]
            exact ih held
      | finish v =>
          obtain ⟨r, ended, rfl⟩ := Machine.next_finish moved
          simp only [Config.put_state, Machine.cooperative] at held
          split at held
          · cases held
          · rename_i apart
            have same : u ≠ v := by
              rintro rfl
              exact apart held
            rw [Config.put_of_ne same]
            exact ih held
      | start v request =>
          obtain ⟨q, s, free, started, rfl⟩ := Machine.next_start moved
          simp only [Machine.cooperative] at started
          split at started
          · obtain ⟨a, -, equal⟩ := Option.map_eq_some_iff.mp started
            cases equal
            cases held
            exact ⟨_, Config.put_self ..⟩
          · cases started
      | tick event =>
          obtain ⟨s, ticked, rfl⟩ := Machine.next_tick moved
          simp only [Machine.cooperative] at ticked
          split at ticked
          · obtain ⟨a, -, equal⟩ := Option.map_eq_some_iff.mp ticked
            cases equal
            cases held
          · cases ticked

end course
end Async
