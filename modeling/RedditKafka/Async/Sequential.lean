import Mathlib.Data.Set.Finite.Basic
import RedditKafka.Async.Machine

/-!
# One program run to its end

Big-step runs of a program by itself: the effects it awaited with the choices
the environment made for them, the outcome, and the state it leaves behind.
-/
namespace Async

variable {E : Type} {A : E → Type} {ε σ χ : Type} {α β γ : Type}

namespace Prog

/-- A program without loops whose effects all satisfy `H`. -/
def Straight (H : E → Prop) : {α : Type} → Prog E A ε α → Prop
  | _, .ret _ => True
  | _, .raise _ => True
  | _, .call c next => H c ∧ ∀ r, (next r).Straight H
  | _, .loop _ _ => False

namespace Straight

variable {H : E → Prop}

theorem bindE {p : Prog E A ε α} {f : Except ε α → Prog E A ε γ} (hp : p.Straight H)
    (hf : ∀ r, (f r).Straight H) : (p.bindE f).Straight H := by
  induction p with
  | ret a => exact hf _
  | raise e => exact hf _
  | call c next ih => exact ⟨hp.1, fun r => ih r (hp.2 r) hf⟩
  | loop => cases hp

theorem andThen {f : α → Prog E A ε β} (hf : ∀ a, (f a).Straight H) (r : Except ε α) :
    (Prog.andThen f r).Straight H := by
  cases r with
  | ok a => exact hf a
  | error e => trivial

theorem bind {p : Prog E A ε α} {f : α → Prog E A ε β} (hp : p.Straight H)
    (hf : ∀ a, (f a).Straight H) : (p >>= f).Straight H :=
  hp.bindE (andThen hf)

theorem perform {c : E} (h : H c) : (Prog.perform c : Prog E A ε (A c)).Straight H :=
  ⟨h, fun r => by cases r <;> trivial⟩

theorem rescue {p : Prog E A ε α} {f : ε → Prog E A ε α} (hp : p.Straight H)
    (hf : ∀ e, (f e).Straight H) : (p.rescue f).Straight H :=
  hp.bindE fun
    | .ok _ => trivial
    | .error e => hf e

theorem ensure {p : Prog E A ε α} {f : Prog E A ε Unit} (hp : p.Straight H)
    (hf : f.Straight H) : (p.ensure f).Straight H := by
  refine hp.bindE fun r => hf.bindE fun r' => ?_
  cases r' with
  | ok u => cases r <;> trivial
  | error e => trivial

theorem uses {p : Prog E A ε α} (hp : p.Straight H) : p.Uses H := by
  induction p with
  | ret a => trivial
  | raise e => trivial
  | call c next ih => exact ⟨hp.1, fun r => ih r (hp.2 r)⟩
  | loop => cases hp

theorem mono {H' : E → Prop} {p : Prog E A ε α} (hp : p.Straight H) (imp : ∀ c, H c → H' c) :
    p.Straight H' := by
  induction p with
  | ret a => trivial
  | raise e => trivial
  | call c next ih => exact ⟨imp c hp.1, fun r => ih r (hp.2 r)⟩
  | loop => cases hp

theorem forEach {f : β → Prog E A ε Unit} {bs : List β} (hf : ∀ b, (f b).Straight H) :
    (Prog.forEach f bs).Straight H := by
  induction bs with
  | nil => trivial
  | cons b bs ih => exact (hf b).bindE (andThen fun _ => ih)

end Straight

end Prog

/-- `Runs answer p s trace r s'`: in `s`, the program awaits the effects of the trace and ends. -/
inductive Runs (answer : (c : E) → χ → σ → Option (Except ε (A c) × σ)) :
    {α : Type} → Prog E A ε α → σ → List (E × χ) → Except ε α → σ → Prop
  | ret {α : Type} (a : α) (s : σ) : Runs answer (.ret a) s [] (.ok a) s
  | raise {α : Type} (e : ε) (s : σ) : Runs answer (.raise e : Prog E A ε α) s [] (.error e) s
  | call {α : Type} {c : E} {next : Except ε (A c) → Prog E A ε α} {choice : χ}
      {r : Except ε (A c)} {s s₁ s' : σ} {trace : List (E × χ)} {out : Except ε α} :
      answer c choice s = some (r, s₁) → Runs answer (next r) s₁ trace out s' →
      Runs answer (.call c next) s ((c, choice) :: trace) out s'
  | loop {α β : Type} {body : Prog E A ε (Option β)} {next : Except ε β → Prog E A ε α}
      {s s' : σ} {trace : List (E × χ)} {out : Except ε α} :
      Runs answer (body.unroll next) s trace out s' →
      Runs answer (.loop body next) s trace out s'

namespace Runs

variable {answer : (c : E) → χ → σ → Option (Except ε (A c) × σ)} {s s' : σ}
  {trace : List (E × χ)}

theorem ofExcept (r : Except ε α) (s : σ) :
    Runs answer (Prog.ofExcept r : Prog E A ε α) s [] r s := by
  cases r with
  | ok a => exact .ret a s
  | error e => exact .raise e s

theorem ret_inv {a : α} {out : Except ε α} (h : Runs answer (.ret a : Prog E A ε α) s trace out s') :
    trace = [] ∧ out = .ok a ∧ s' = s := by
  cases h
  exact ⟨rfl, rfl, rfl⟩

theorem raise_inv {e : ε} {out : Except ε α}
    (h : Runs answer (.raise e : Prog E A ε α) s trace out s') :
    trace = [] ∧ out = .error e ∧ s' = s := by
  cases h
  exact ⟨rfl, rfl, rfl⟩

theorem ofExcept_inv {r out : Except ε α}
    (h : Runs answer (Prog.ofExcept r : Prog E A ε α) s trace out s') :
    trace = [] ∧ out = r ∧ s' = s := by
  cases r with
  | ok a => exact h.ret_inv
  | error e => exact h.raise_inv

theorem perform {c : E} {choice : χ} {r : Except ε (A c)} (answered : answer c choice s = some (r, s')) :
    Runs answer (Prog.perform c : Prog E A ε (A c)) s [(c, choice)] r s' :=
  .call answered (.ofExcept r s')

theorem perform_inv {c : E} {out : Except ε (A c)}
    (h : Runs answer (Prog.perform c : Prog E A ε (A c)) s trace out s') :
    ∃ choice, trace = [(c, choice)] ∧ answer c choice s = some (out, s') := by
  cases h with
  | call answered rest =>
      obtain ⟨rfl, rfl, rfl⟩ := rest.ofExcept_inv
      exact ⟨_, rfl, answered⟩

/-- Sequencing: the runs of a composed program are the runs of its parts in a row. -/
theorem bindE {p : Prog E A ε α} {f : Except ε α → Prog E A ε γ} {r : Except ε α}
    {out : Except ε γ} {s₁ : σ} {before after : List (E × χ)} (first : Runs answer p s before r s₁)
    (rest : Runs answer (f r) s₁ after out s') :
    Runs answer (p.bindE f) s (before ++ after) out s' := by
  induction first with
  | ret | raise => exact rest
  | call answered _ ih => exact .call answered (ih rest)
  | loop _ ih => exact .loop (Prog.unroll_bindE .. ▸ ih rest)

/-- The parts of a run of `q`, where `q` is `p` in front of `f`. -/
def Splits (answer : (c : E) → χ → σ → Option (Except ε (A c) × σ)) (p : Prog E A ε α)
    (f : Except ε α → Prog E A ε γ) (s : σ) (trace : List (E × χ)) (out : Except ε γ) (s' : σ) :
    Prop :=
  ∃ before after r s₁, trace = before ++ after ∧ Runs answer p s before r s₁ ∧
    Runs answer (f r) s₁ after out s'

theorem Splits.ofExcept {r : Except ε α} {f : Except ε α → Prog E A ε γ} {q : Prog E A ε γ}
    {out : Except ε γ} (same : f r = q) (h : Runs answer q s trace out s') :
    Splits answer (Prog.ofExcept r) f s trace out s' :=
  ⟨[], trace, r, s, rfl, .ofExcept r s, same ▸ h⟩

theorem bindE_inv {p : Prog E A ε α} {f : Except ε α → Prog E A ε γ} {out : Except ε γ}
    (h : Runs answer (p.bindE f) s trace out s') : Splits answer p f s trace out s' := by
  generalize same : p.bindE f = q at h
  induction h generalizing p with
  | ret a s =>
      cases p with
      | ret b => exact Splits.ofExcept (r := .ok b) same (.ret a s)
      | raise e => exact Splits.ofExcept (r := .error e) same (.ret a s)
      | call | loop => cases same
  | raise e' s =>
      cases p with
      | ret b => exact Splits.ofExcept (r := .ok b) same (.raise e' s)
      | raise e => exact Splits.ofExcept (r := .error e) same (.raise e' s)
      | call | loop => cases same
  | call answered rest ih =>
      cases p with
      | ret b => exact Splits.ofExcept (r := .ok b) same (.call answered rest)
      | raise e => exact Splits.ofExcept (r := .error e) same (.call answered rest)
      | call c next =>
          cases same
          obtain ⟨before, after, r, s₁, rfl, first, second⟩ := ih rfl
          exact ⟨_ :: before, after, r, s₁, rfl, .call answered first, second⟩
      | loop => cases same
  | loop rest ih =>
      cases p with
      | ret b => exact Splits.ofExcept (r := .ok b) same (.loop rest)
      | raise e => exact Splits.ofExcept (r := .error e) same (.loop rest)
      | call => cases same
      | loop body next =>
          cases same
          obtain ⟨before, after, r, s₁, rfl, first, second⟩ := ih (Prog.unroll_bindE ..)
          exact ⟨before, after, r, s₁, rfl, .loop first, second⟩

/-- The first part of a program raised, or it returned and the rest ran. -/
theorem bind_inv {p : Prog E A ε α} {f : α → Prog E A ε γ} {out : Except ε γ}
    (h : Runs answer (p >>= f) s trace out s') :
    (∃ e, out = .error e ∧ Runs answer p s trace (.error e) s') ∨
      ∃ before after a s₁, trace = before ++ after ∧ Runs answer p s before (.ok a) s₁ ∧
        Runs answer (f a) s₁ after out s' := by
  obtain ⟨before, after, r, s₁, rfl, first, rest⟩ := h.bindE_inv
  cases r with
  | error e =>
      obtain ⟨rfl, rfl, rfl⟩ := rest.raise_inv
      exact .inl ⟨e, rfl, by simpa using first⟩
  | ok a => exact .inr ⟨before, after, a, s₁, rfl, first, rest⟩

theorem bind_ok {p : Prog E A ε α} {f : α → Prog E A ε γ} {c : γ}
    (h : Runs answer (p >>= f) s trace (.ok c) s') :
    ∃ before after a s₁, trace = before ++ after ∧ Runs answer p s before (.ok a) s₁ ∧
      Runs answer (f a) s₁ after (.ok c) s' := by
  rcases h.bind_inv with ⟨e, same, -⟩ | parts
  · cases same
  · exact parts

/-- Run a program without loops on the given choices. -/
def replay (answer : (c : E) → χ → σ → Option (Except ε (A c) × σ)) :
    {α : Type} → Prog E A ε α → List χ → σ → Option (List (E × χ) × Except ε α × σ)
  | _, .ret a, [], s => some ([], .ok a, s)
  | _, .raise e, [], s => some ([], .error e, s)
  | _, .call c next, choice :: choices, s =>
      (answer c choice s).bind fun (r, s₁) =>
        (replay answer (next r) choices s₁).map fun (trace, out, s') =>
          ((c, choice) :: trace, out, s')
  | _, _, _, _ => none

theorem of_replay {p : Prog E A ε α} {choices : List χ} {out : Except ε α}
    (done : replay answer p choices s = some (trace, out, s')) : Runs answer p s trace out s' := by
  induction p generalizing choices s trace with
  | ret a =>
      cases choices with
      | nil => cases done; exact .ret a _
      | cons => cases done
  | raise e =>
      cases choices with
      | nil => cases done; exact .raise e _
      | cons => cases done
  | call c next ih =>
      cases choices with
      | nil => cases done
      | cons choice choices =>
          simp only [replay, Option.bind_eq_some_iff, Option.map_eq_some_iff] at done
          obtain ⟨⟨r, s₁⟩, answered, ⟨trace, out, s''⟩, rest, same⟩ := done
          cases same
          exact .call answered (ih r rest)
  | loop => cases choices <;> cases done

/-- A replayed run, seen through what it is asked about. -/
theorem of_replay_map {β : Type*} {p : Prog E A ε α} {choices : List χ}
    {f : List (E × χ) × Except ε α × σ → β} {b : β}
    (done : (replay answer p choices s).map f = some b) :
    ∃ trace out s', Runs answer p s trace out s' ∧ f (trace, out, s') = b := by
  obtain ⟨⟨trace, out, s'⟩, ran, seen⟩ := Option.map_eq_some_iff.mp done
  exact ⟨trace, out, s', of_replay ran, seen⟩

/-- A state fact that every answered effect keeps holds at the end of a run. -/
theorem keeps {H : E → Prop} (I : σ → Prop)
    (effect : ∀ c choice r s₁ s₂, H c → I s₁ → answer c choice s₁ = some (r, s₂) → I s₂)
    {p : Prog E A ε α} {out : Except ε α} (h : Runs answer p s trace out s') (uses : p.Uses H)
    (start : I s) : I s' := by
  induction h with
  | ret | raise => exact start
  | call answered _ ih => exact ih (uses.2 _) (effect _ _ _ _ _ uses.1 start answered)
  | loop _ ih => exact ih uses.unroll start

/-- A program without loops ends, when all of its effects can be answered. -/
theorem of_straight {H : E → Prop} {ok : E → χ → Prop} (I : σ → Prop)
    (answers : ∀ c s, H c → I s →
      ∃ choice r s', ok c choice ∧ answer c choice s = some (r, s') ∧ I s')
    {p : Prog E A ε α} (straight : p.Straight H) (start : I s) :
    ∃ trace out s', Runs answer p s trace out s' ∧ ∀ entry ∈ trace, ok entry.1 entry.2 := by
  induction p generalizing s with
  | ret a => exact ⟨[], _, s, .ret a s, fun _ member => by cases member⟩
  | raise e => exact ⟨[], _, s, .raise e s, fun _ member => by cases member⟩
  | call c next ih =>
      obtain ⟨choice, r, s₁, allowed, answered, holds⟩ := answers c s straight.1 start
      obtain ⟨trace, out, s', ran, rest⟩ := ih r (straight.2 r) holds
      exact ⟨_, out, s', .call answered ran, List.forall_mem_cons.mpr ⟨allowed, rest⟩⟩
  | loop => cases straight

end Runs

namespace Machine

variable {τ κ : Type} [DecidableEq τ] {M : Machine E A ε σ τ χ κ} {ok : τ → E → σ → Prop}
  {c₀ c : Config E A ε σ τ} {t : τ}

/-- A run of a program is a run of the thread that begins with it, while the others wait. -/
theorem ReachesUnder.runs {p : Prog E A ε α} {trace : List (E × χ)} {out : Except ε α} {s s' : σ}
    (ran : Runs (M.answer t) p s trace out s') (allowed : ∀ e s, ok t e s)
    (h : M.ReachesUnder ok c₀ c) (here : c.state = s) {k : Except ε α → Prog E A ε Unit}
    (running : c.threads t = some (p.bindE k)) :
    ∃ d, M.ReachesUnder ok c₀ d ∧ d.state = s' ∧ d.threads t = some (k out) := by
  induction ran generalizing c with
  | ret | raise => exact ⟨c, h, here, running⟩
  | @call e next choice r s s₁ _ _ _ answered _ ih =>
      subst here
      have moved : M.next (.call t choice) c =
          some (c.put t (some ((next r).bindE k)) s₁) := by
        simp [Machine.next, running, Prog.bindE, answered]
      refine ih (h.step (fun u choice e same waits => ?_) moved) rfl (Config.put_self ..)
      cases same
      exact allowed _ _
  | @loop _ body next _ _ _ _ _ ih =>
      have moved : M.next (.unroll t) c =
          some (c.put t (some ((body.unroll next).bindE k)) c.state) := by
        simp [Machine.next, running, Prog.bindE, Prog.unroll_bindE]
      exact ih (h.step (fun u choice e same => by cases same) moved) here (Config.put_self ..)

/-- Only finitely many threads run at a time. -/
theorem ReachesUnder.finite_threads (h : M.ReachesUnder ok c₀ c)
    (start : {t | c₀.threads t ≠ none}.Finite) : {t | c.threads t ≠ none}.Finite := by
  induction h with
  | refl => exact start
  | step _ _ moved ih =>
      rename_i a c d _ _
      refine (ih.union (Set.finite_singleton a.thread |>.preimage (f := some) ?_)).subset ?_
      · exact fun _ _ _ _ same => Option.some.inj same
      · intro t running
        by_cases own : a.thread = some t
        · exact .inr own.symm
        · exact .inl (by rwa [Set.mem_ofPred_eq, ← next_aside moved own])

end Machine
end Async
