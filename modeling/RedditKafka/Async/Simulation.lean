import RedditKafka.Async.Sequential

/-!
# Calls as steps, and simulation

A program that runs to its end by itself is one step of a larger system, whose
label says what was called and how the call ended. A forward simulation carries
every sequence of such steps over to another system.
-/
namespace Async

variable {E : Type} {A : E → Type} {ε σ χ : Type} {α β γ : Type}

/-- The program can end so, whatever it awaits on its way. -/
def Concludes (answer : (c : E) → χ → σ → Option (Except ε (A c) × σ)) (p : Prog E A ε α) (s : σ)
    (out : Except ε α) (s' : σ) : Prop :=
  ∃ trace, Runs answer p s trace out s'

namespace Concludes

variable {answer : (c : E) → χ → σ → Option (Except ε (A c) × σ)} {s s' : σ} {out : Except ε α}

theorem ret {a : α} (h : Concludes answer (.ret a) s out s') : out = .ok a ∧ s' = s :=
  h.elim fun _ ran => ran.ret_inv.2

theorem raise {e : ε} (h : Concludes answer (.raise e) s out s') : out = .error e ∧ s' = s :=
  h.elim fun _ ran => ran.raise_inv.2

theorem perform {c : E} {out : Except ε (A c)} (h : Concludes answer (Prog.perform c) s out s') :
    ∃ choice, answer c choice s = some (out, s') := by
  obtain ⟨trace, ran⟩ := h
  obtain ⟨choice, -, answered⟩ := ran.perform_inv
  exact ⟨choice, answered⟩

theorem bindE {p : Prog E A ε β} {f : Except ε β → Prog E A ε α}
    (h : Concludes answer (p.bindE f) s out s') :
    ∃ r s₁, Concludes answer p s r s₁ ∧ Concludes answer (f r) s₁ out s' := by
  obtain ⟨trace, ran⟩ := h
  obtain ⟨before, after, r, s₁, -, first, rest⟩ := ran.bindE_inv
  exact ⟨r, s₁, ⟨before, first⟩, after, rest⟩

theorem bind {p : Prog E A ε β} {f : β → Prog E A ε α} (h : Concludes answer (p >>= f) s out s') :
    (∃ e, out = .error e ∧ Concludes answer p s (.error e) s') ∨
      ∃ b s₁, Concludes answer p s (.ok b) s₁ ∧ Concludes answer (f b) s₁ out s' := by
  obtain ⟨r, s₁, first, rest⟩ := bindE h
  cases r with
  | error e =>
      obtain ⟨rfl, rfl⟩ := raise rest
      exact .inl ⟨e, rfl, first⟩
  | ok b => exact .inr ⟨b, s₁, first, rest⟩

/-- Behind a first part that cannot raise, the rest runs. -/
theorem after {p : Prog E A ε β} {f : β → Prog E A ε α} (h : Concludes answer (p >>= f) s out s')
    (quiet : ∀ e s₁, ¬ Concludes answer p s (.error e) s₁) :
    ∃ b s₁, Concludes answer p s (.ok b) s₁ ∧ Concludes answer (f b) s₁ out s' := by
  rcases bind h with ⟨e, -, raised⟩ | rest
  · exact (quiet e s' raised).elim
  · exact rest

end Concludes

/-! ## Labelled steps -/

variable {τ ℓ μ : Type*}

/-- Steps in a row with their labels, the first one first. -/
inductive Path {σ : Type*} (step : σ → ℓ → σ → Prop) : σ → List ℓ → σ → Prop
  | nil (s : σ) : Path step s [] s
  | cons {s s₁ s' : σ} {l : ℓ} {ls : List ℓ} :
      step s l s₁ → Path step s₁ ls s' → Path step s (l :: ls) s'

namespace Path

variable {σ : Type*} {step : σ → ℓ → σ → Prop} {s s₁ s' : σ} {l : ℓ} {ls ls' : List ℓ}

theorem single (h : step s l s') : Path step s [l] s' := .cons h (.nil s')

theorem append (first : Path step s ls s₁) (rest : Path step s₁ ls' s') :
    Path step s (ls ++ ls') s' := by
  induction first with
  | nil => exact rest
  | cons here _ ih => exact .cons here (ih rest)

/-- What every step keeps holds at the end. -/
theorem keeps {I : σ → Prop} (effect : ∀ {s l s'}, I s → step s l s' → I s')
    (h : Path step s ls s') (start : I s) : I s' := by
  induction h with
  | nil => exact start
  | cons here _ ih => exact ih (effect start here)

end Path

/-- Each step from a related state is answered by a step with a matching label, and the states
stay related. -/
def Simulates {σ : Type*} (step : σ → ℓ → σ → Prop) (step' : τ → μ → τ → Prop) (R : σ → τ → Prop)
    (same : ℓ → μ → Prop) : Prop :=
  ∀ {s s' : σ} {t : τ} {l : ℓ}, R s t → step s l s' → ∃ m t', same l m ∧ step' t m t' ∧ R s' t'

theorem Simulates.path {σ : Type*} {step : σ → ℓ → σ → Prop} {step' : τ → μ → τ → Prop}
    {R : σ → τ → Prop} {same : ℓ → μ → Prop} (sim : Simulates step step' R same) {s s' : σ}
    {ls : List ℓ} (h : Path step s ls s') {t : τ} (start : R s t) :
    ∃ ms t', List.Forall₂ same ls ms ∧ Path step' t ms t' ∧ R s' t' := by
  induction h generalizing t with
  | nil => exact ⟨[], t, .nil, .nil t, start⟩
  | cons here _ ih =>
      obtain ⟨m, t₁, label, moved, related⟩ := sim start here
      obtain ⟨ms, t', labels, rest, last⟩ := ih related
      exact ⟨m :: ms, t', .cons label labels, .cons moved rest, last⟩

end Async
