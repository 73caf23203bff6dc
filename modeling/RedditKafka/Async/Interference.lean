import RedditKafka.Async.Sequential

/-!
# One thread among others

Runs of one program while other threads move the state between its awaits. Each
effect is noted with the state in which it was issued and the one that answered it.
-/
namespace Async

variable {E : Type} {A : E → Type} {ε σ χ γ : Type} {α β : Type}

/-- Before an answer the others have moved the state along `rely`. -/
def amid (rely : σ → σ → Bool) (answer : (c : E) → χ → σ → Option (Except ε (A c) × σ))
    (note : E → σ → σ × χ → γ → γ) :
    (c : E) → σ × χ → σ × γ → Option (Except ε (A c) × (σ × γ))
  | c, (now, choice), (issued, g) =>
      if rely issued now then
        (answer c choice now).map fun a => (a.1, a.2, note c issued (now, choice) g)
      else none

section amid

variable {rely : σ → σ → Bool} {answer : (c : E) → χ → σ → Option (Except ε (A c) × σ)}
  {note : E → σ → σ × χ → γ → γ}

/-- One answer: the state has moved, and the effect is answered there. -/
theorem amid_answered {c : E} {moment : σ × χ} {s s' : σ × γ} {r : Except ε (A c)}
    (answered : amid rely answer note c moment s = some (r, s')) :
    rely s.1 moment.1 = true ∧ answer c moment.2 moment.1 = some (r, s'.1) ∧
      s'.2 = note c s.1 moment s.2 := by
  obtain ⟨now, choice⟩ := moment
  simp only [amid] at answered
  split at answered
  · rename_i moved
    obtain ⟨⟨r', after⟩, given, same⟩ := Option.map_eq_some_iff.mp answered
    cases same
    exact ⟨moved, given, rfl⟩
  · cases answered

end amid

/-! ## Exceptions that nothing handles -/

/-- The program ends with the first fatal exception that it meets, and raises no other. -/
def Prog.Transparent (fatal : ε → Bool) : {α : Type} → Prog E A ε α → Prop
  | _, .ret _ => True
  | _, .raise e => fatal e = false
  | _, .call _ next => (∀ e, fatal e = true → next (.error e) = .raise e) ∧
      ∀ r, (∀ e, r = .error e → fatal e = false) → (next r).Transparent fatal
  | _, .loop _ _ => False

namespace Prog.Transparent

variable {fatal : ε → Bool}

theorem bindE {p : Prog E A ε α} {f : Except ε α → Prog E A ε β} (hp : p.Transparent fatal)
    (through : ∀ e, fatal e = true → f (.error e) = .raise e)
    (rest : ∀ r, (∀ e, r = .error e → fatal e = false) → (f r).Transparent fatal) :
    (p.bindE f).Transparent fatal := by
  induction p with
  | ret a => exact rest _ nofun
  | raise e => exact rest _ fun e' same => by cases same; exact hp
  | call c next ih =>
      refine ⟨fun e deadly => ?_, fun r mild => ih r (hp.2 r mild) through rest⟩
      simp only [hp.1 e deadly, Prog.bindE_raise, through e deadly]
  | loop => cases hp

theorem ofExcept {r : Except ε α} (mild : ∀ e, r = .error e → fatal e = false) :
    (Prog.ofExcept r : Prog E A ε α).Transparent fatal := by
  cases r with
  | ok a => trivial
  | error e => exact mild e rfl

theorem perform (c : E) : (Prog.perform c : Prog E A ε (A c)).Transparent fatal :=
  ⟨fun _ _ => rfl, fun _ mild => ofExcept mild⟩

theorem bind {p : Prog E A ε α} {f : α → Prog E A ε β} (hp : p.Transparent fatal)
    (hf : ∀ a, (f a).Transparent fatal) : (p >>= f).Transparent fatal := by
  refine hp.bindE (fun _ _ => rfl) fun r mild => ?_
  cases r with
  | ok a => exact hf a
  | error e => exact mild e rfl

theorem link {E' : Type} {A' : E' → Type} {impl : (c : E) → Prog E' A' ε (A c)}
    (himpl : ∀ c, (impl c).Transparent fatal) {p : Prog E A ε α} (hp : p.Transparent fatal) :
    (p.link impl).Transparent fatal := by
  induction p with
  | ret a => trivial
  | raise e => exact hp
  | call c next ih =>
      refine (himpl c).bindE (fun e deadly => ?_) fun r mild => ih r (hp.2 r mild)
      simp only [hp.1 e deadly, Prog.link]
  | loop => cases hp

end Prog.Transparent

namespace Runs

variable {answer : (c : E) → χ → σ → Option (Except ε (A c) × σ)} {s s' : σ}
  {trace : List (E × χ)}

/-- A run awaits only what its program can await. -/
theorem uses {H : E → Prop} {p : Prog E A ε α} {out : Except ε α}
    (h : Runs answer p s trace out s') (uses : p.Uses H) : ∀ entry ∈ trace, H entry.1 := by
  induction h with
  | ret | raise => nofun
  | call _ _ ih => exact List.forall_mem_cons.mpr ⟨uses.1, ih (uses.2 _)⟩
  | loop _ ih => exact ih uses.unroll

/-- A run ends as its program can end. -/
theorem ends {R : Except ε α → Prop} {p : Prog E A ε α} {out : Except ε α}
    (h : Runs answer p s trace out s') (ends : p.Ends R) : R out := by
  induction h with
  | ret | raise => exact ends
  | call _ _ ih => exact ih (ends _)
  | loop _ ih =>
      refine ih ((Prog.Ends.any _).bindE fun r _ => ?_)
      rcases r with e | (_ | b)
      · exact ends _
      · exact ends
      · exact ends _

/-- A relation that every answered effect of the program moves along. -/
theorem moves {H : E → Prop} {R : σ → σ → Prop} (refl : ∀ s, R s s)
    (trans : ∀ a b c, R a b → R b c → R a c)
    (effect : ∀ c choice r s₁ s₂, H c → answer c choice s₁ = some (r, s₂) → R s₁ s₂)
    {p : Prog E A ε α} {out : Except ε α} (h : Runs answer p s trace out s') (uses : p.Uses H) :
    R s s' := by
  induction h with
  | ret | raise => exact refl _
  | call answered _ ih => exact trans _ _ _ (effect _ _ _ _ _ uses.1 answered) (ih (uses.2 _))
  | loop _ ih => exact ih uses.unroll

/-- A transparent program ends fatally exactly when one of its awaits does. -/
theorem transparent {H : E → Prop} {fatal : ε → Bool} (cuts : E → χ → Bool)
    (answers : ∀ c choice s r s', H c → answer c choice s = some (r, s') →
      ((∃ e, r = .error e ∧ fatal e = true) ↔ cuts c choice = true))
    {p : Prog E A ε α} {out : Except ε α} (h : Runs answer p s trace out s') (uses : p.Uses H)
    (open_ : p.Transparent fatal) :
    (∃ e, out = .error e ∧ fatal e = true) ↔ ∃ entry ∈ trace, cuts entry.1 entry.2 = true := by
  induction h with
  | ret => simp
  | raise e =>
      have mild : fatal e = false := open_
      simp [mild]
  | @call _ _ _ r _ _ _ _ _ answered rest ih =>
      have cut := answers _ _ _ _ _ uses.1 answered
      rw [List.exists_mem_cons_iff]
      by_cases deadly : ∃ e, r = .error e ∧ fatal e = true
      · obtain ⟨e, rfl, fatal_⟩ := deadly
        rw [open_.1 e fatal_] at rest
        obtain ⟨-, rfl, -⟩ := rest.raise_inv
        exact iff_of_true ⟨e, rfl, fatal_⟩ (.inl (cut.mp ⟨e, rfl, fatal_⟩))
      · have mild : ∀ e, r = .error e → fatal e = false := fun e same => by
          simpa using fun deadly_ => deadly ⟨e, same, deadly_⟩
        rw [ih (uses.2 r) (open_.2 r mild), or_iff_right (fun cut' => deadly (cut.mpr cut'))]
  | loop => cases open_

/-- `try p except`: the body returned, or the handler went on from its exception. -/
theorem rescue_inv {p : Prog E A ε α} {handler : ε → Prog E A ε α} {out : Except ε α}
    (h : Runs answer (p.rescue handler) s trace out s') :
    (∃ a, out = .ok a ∧ Runs answer p s trace (.ok a) s') ∨
      ∃ e before after s₁, trace = before ++ after ∧ Runs answer p s before (.error e) s₁ ∧
        Runs answer (handler e) s₁ after out s' := by
  obtain ⟨before, after, r, s₁, rfl, first, rest⟩ := h.bindE_inv
  cases r with
  | ok a =>
      obtain ⟨rfl, rfl, rfl⟩ := rest.ret_inv
      exact .inl ⟨a, rfl, by simpa using first⟩
  | error e => exact .inr ⟨e, before, after, s₁, rfl, first, rest⟩

theorem attempt_inv {p : Prog E A ε α} {out : Except ε (Except ε α)}
    (h : Runs answer p.attempt s trace out s') : ∃ r, out = .ok r ∧ Runs answer p s trace r s' := by
  obtain ⟨before, after, r, s₁, rfl, first, rest⟩ := h.bindE_inv
  obtain ⟨rfl, rfl, rfl⟩ := rest.ret_inv
  exact ⟨r, rfl, by simpa using first⟩

/-- `try p finally f`: both parts ran. -/
theorem ensure_inv {p : Prog E A ε α} {f : Prog E A ε Unit} {out : Except ε α}
    (h : Runs answer (p.ensure f) s trace out s') :
    ∃ before after r r' s₁, trace = before ++ after ∧ Runs answer p s before r s₁ ∧
      Runs answer f s₁ after r' s' ∧ (out = match r' with
        | .ok _ => r
        | .error e => .error e) := by
  obtain ⟨before, after, r, s₁, rfl, first, rest⟩ := h.bindE_inv
  obtain ⟨between, last, r', s₂, rfl, closing, rest⟩ := rest.bindE_inv
  cases r' with
  | ok u =>
      obtain ⟨rfl, rfl, rfl⟩ := rest.ofExcept_inv
      exact ⟨before, between, _, .ok u, s₁, by simp, first, closing, rfl⟩
  | error e =>
      obtain ⟨rfl, rfl, rfl⟩ := rest.raise_inv
      exact ⟨before, between, r, .error e, s₁, by simp, first, closing, rfl⟩

end Runs

namespace Machine

variable {τ κ : Type} {M : Machine E A ε σ τ χ κ} {ok : τ → E → σ → Prop}
  {c₀ c d : Config E A ε σ τ} {t : τ} {rely : σ → σ → Bool} {note : E → σ → σ × χ → γ → γ}

/-- What has happened so far in a thread that began with `p` in state `s₀`: however the thread
goes on from here, it is a run of `p` amid the others. -/
def Story (M : Machine E A ε σ τ χ κ) (t : τ) (rely : σ → σ → Bool)
    (note : E → σ → σ × χ → γ → γ) (p : Prog E A ε Unit) (s₀ : σ) (g₀ : γ)
    (q : Prog E A ε Unit) (s : σ) : Prop :=
  ∃ before issued g, rely issued s = true ∧ ∀ after out s',
    Runs (amid rely (M.answer t) note) q (issued, g) after out s' →
    Runs (amid rely (M.answer t) note) p (s₀, g₀) (before ++ after) out s'

theorem Story.moved {p q : Prog E A ε Unit} {s₀ s s' : σ} {g₀ : γ}
    (trans : ∀ a b c, rely a b = true → rely b c = true → rely a c = true)
    (h : Story M t rely note p s₀ g₀ q s) (moved : rely s s' = true) :
    Story M t rely note p s₀ g₀ q s' := by
  obtain ⟨before, issued, g, near, goes⟩ := h
  exact ⟨before, issued, g, trans _ _ _ near moved, goes⟩

theorem Story.ended {p : Prog E A ε Unit} {s₀ s : σ} {g₀ : γ} {r : Except ε Unit}
    (h : Story M t rely note p s₀ g₀ (.ofExcept r) s) :
    ∃ trace s' g, rely s' s = true ∧
      Runs (amid rely (M.answer t) note) p (s₀, g₀) trace r (s', g) := by
  obtain ⟨before, issued, g, near, goes⟩ := h
  exact ⟨_, issued, g, near, goes [] r (issued, g) (.ofExcept r _)⟩

variable [DecidableEq τ]

/-- Every thread of a machine run has such a story, if the steps of the others move along `rely`. -/
theorem ReachesUnder.story (note : E → σ → σ × χ → γ → γ) (refl : ∀ s, rely s s = true)
    (trans : ∀ a b c, rely a b = true → rely b c = true → rely a c = true)
    (others : ∀ a c d, M.ReachesUnder ok c₀ c → M.next a c = some d → a.thread ≠ some t →
      rely c.state d.state = true)
    (g₀ : γ) (h : M.ReachesUnder ok c₀ c) (idle : c₀.threads t = none) {q : Prog E A ε Unit}
    (running : c.threads t = some q) : ∃ request s p s₀, M.start t request s = some (p, s₀) ∧
      Story M t rely note p s₀ g₀ q c.state := by
  induction h generalizing q with
  | refl =>
      rw [idle] at running
      cases running
  | step reached allowed moved ih =>
      rename_i a c d
      by_cases own : a.thread = some t
      · cases a with
        | call u choice =>
            cases own
            obtain ⟨e, k, r, s, waits, answered, rfl⟩ := next_call moved
            obtain ⟨request, s', p, s₀, started, before, issued, g, near, goes⟩ := ih waits
            rw [Config.put_self] at running
            cases running
            refine ⟨request, s', p, s₀, started, before ++ [(e, c.state, choice)], s,
              note e issued (c.state, choice) g, refl _, fun after out last rest => ?_⟩
            rw [List.append_assoc]
            refine goes _ _ _ (.call ?_ rest)
            simp only [amid, near, if_true, answered, Option.map_some]
        | unroll u =>
            cases own
            obtain ⟨β, body, k, waits, rfl⟩ := next_unroll moved
            obtain ⟨request, s', p, s₀, started, before, issued, g, near, goes⟩ := ih waits
            rw [Config.put_self] at running
            cases running
            exact ⟨request, s', p, s₀, started, before, issued, g, near,
              fun after out last rest => goes _ _ _ (.loop rest)⟩
        | finish u =>
            cases own
            obtain ⟨r, ended, rfl⟩ := next_finish moved
            rw [Config.put_self] at running
            cases running
        | start u request =>
            cases own
            obtain ⟨p, s, free, started, rfl⟩ := next_start moved
            rw [Config.put_self] at running
            cases running
            exact ⟨request, _, _, _, started, [], _, g₀, refl _, fun _ _ _ rest => rest⟩
        | tick event => cases own
      · rw [next_aside moved own] at running
        obtain ⟨request, s, p, s₀, started, story⟩ := ih running
        exact ⟨request, s, p, s₀, started, story.moved trans (others _ _ _ reached moved own)⟩

end Machine
end Async
