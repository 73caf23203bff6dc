import Mathlib.Logic.Relation
import RedditKafka.Async.Safety

/-!
# One thread and its environment

The case of a machine with a single thread: what it may rely on is exactly what
outside events can do while it waits.
-/
namespace Async

variable {E : Type} {A : E → Type} {ε σ χ κ : Type} {α β : Type}

/-- The state after some outside events. -/
def Drift (M : Machine E A ε σ Unit χ κ) : σ → σ → Prop :=
  Relation.ReflTransGen fun a b => ∃ event, M.tick event a = some b

/-- A fact that no outside event can end. -/
def Settled (M : Machine E A ε σ Unit χ κ) (I : σ → Prop) : Prop :=
  ∀ event a b, M.tick event a = some b → I a → I b

def Discipline.solo (M : Machine E A ε σ Unit χ κ) (inv : σ → Prop) (ok pledge : E → σ → Prop) :
    Discipline E σ Unit where
  inv := inv
  keeps _ := Drift M
  keeps_refl _ _ := .refl
  keeps_trans _ _ _ _ := Relation.ReflTransGen.trans
  ok _ := ok
  pledge _ := pledge

variable {M : Machine E A ε σ Unit χ κ} {inv : σ → Prop} {ok pledge : E → σ → Prop}

theorem Settled.drift {I : σ → Prop} (settled : Settled M I) {a b : σ} (h : Drift M a b)
    (start : I a) : I b := by
  induction h with
  | refl => exact start
  | tail _ moved ih =>
      obtain ⟨event, moved⟩ := moved
      exact settled event _ _ moved ih

theorem Settled.and {I J : σ → Prop} (hi : Settled M I) (hj : Settled M J) :
    Settled M fun s => I s ∧ J s :=
  fun event a b moved start => ⟨hi event a b moved start.1, hj event a b moved start.2⟩

/-- The rule for one awaited effect: a settled fact holds when the answer comes. -/
theorem Safe.solo_call {c : E} {next : Except ε (A c) → Prog E A ε α}
    {Q : Except ε α → σ → Prop} {s : σ} (I : σ → Prop) (settled : Settled M I) (start : I s)
    (pledged : ∀ s₁, inv s₁ → I s₁ → pledge c s₁)
    (answers : ∀ s₁ choice r s₂, inv s₁ → I s₁ → ok c s₁ →
      M.answer () c choice s₁ = some (r, s₂) →
        inv s₂ ∧ Safe M (.solo M inv ok pledge) () (next r) Q s₂) :
    Safe M (.solo M inv ok pledge) () (.call c next) Q s := by
  intro s₁ moved hs₁
  have holds := settled.drift moved start
  refine ⟨pledged s₁ hs₁ holds, fun allowed choice r s₂ answered => ?_⟩
  obtain ⟨hs₂, rest⟩ := answers s₁ choice r s₂ hs₁ holds allowed answered
  exact ⟨hs₂, fun u other => absurd (Subsingleton.elim u ()) other, rest⟩

theorem Safe.solo_perform {c : E} {Q : Except ε (A c) → σ → Prop} {s : σ} (I : σ → Prop)
    (settled : Settled M I) (start : I s) (pledged : ∀ s₁, inv s₁ → I s₁ → pledge c s₁)
    (answers : ∀ s₁ choice r s₂, inv s₁ → I s₁ → ok c s₁ →
      M.answer () c choice s₁ = some (r, s₂) → inv s₂ ∧ Q r s₂) :
    Safe M (.solo M inv ok pledge) () (Prog.perform c) Q s := by
  refine Safe.solo_call I settled start pledged fun s₁ choice r s₂ hs₁ holds allowed answered => ?_
  obtain ⟨hs₂, result⟩ := answers s₁ choice r s₂ hs₁ holds allowed answered
  refine ⟨hs₂, ?_⟩
  cases r with
  | ok a => exact result
  | error e => exact result

/-- `let a ← perform c` in front of the rest of a program. -/
theorem Safe.solo_await {c : E} {f : A c → Prog E A ε β} {Q : Except ε β → σ → Prop} {s : σ}
    (I : σ → Prop) (settled : Settled M I) (start : I s)
    (pledged : ∀ s₁, inv s₁ → I s₁ → pledge c s₁)
    (answers : ∀ s₁ choice r s₂, inv s₁ → I s₁ → ok c s₁ →
      M.answer () c choice s₁ = some (r, s₂) →
        inv s₂ ∧ Safe M (.solo M inv ok pledge) () (Prog.andThen f r) Q s₂) :
    Safe M (.solo M inv ok pledge) () (Prog.perform c >>= f) Q s :=
  Safe.bindE_iff.mpr (Safe.solo_perform I settled start pledged answers)

theorem Safe.solo_forever {body : Prog E A ε (Option β)} {Q : Except ε β → σ → Prop} (I : σ → Prop)
    {s : σ} (settled : Settled M I) (start : I s)
    (turn : ∀ s, inv s → I s → Safe M (.solo M inv ok pledge) () body (fun r s' => match r with
      | .ok none => I s'
      | .ok (some b) => Q (.ok b) s'
      | .error e => Q (.error e) s') s) :
    Safe M (.solo M inv ok pledge) () body.forever Q s :=
  Safe.forever I start (fun _ _ moved _ => settled.drift moved) turn

/-- A program whose effects all keep a settled fact keeps it. -/
theorem Safe.solo_uses {H : E → Prop} {p : Prog E A ε α} (uses : p.Uses H) (I : σ → Prop) {s : σ}
    (settled : Settled M I) (start : I s)
    (pledged : ∀ c s₁, H c → inv s₁ → I s₁ → pledge c s₁)
    (answers : ∀ c s₁ choice r s₂, H c → inv s₁ → I s₁ → ok c s₁ →
      M.answer () c choice s₁ = some (r, s₂) → inv s₂ ∧ I s₂) :
    Safe M (.solo M inv ok pledge) () p (fun _ => I) s := by
  refine Safe.of_uses uses I start (fun _ _ moved _ => settled.drift moved) ?_
  intro c s₁ used hs₁ holds
  refine ⟨pledged c s₁ used hs₁ holds, fun allowed choice r s₂ answered => ?_⟩
  obtain ⟨hs₂, after⟩ := answers c s₁ choice r s₂ used hs₁ holds allowed answered
  exact ⟨hs₂, fun u other => absurd (Subsingleton.elim u ()) other, after⟩

/-- With one thread, start, end and outside events only have to keep the invariant. -/
theorem Sound.solo {post : Except ε Unit → σ → Prop}
    (settled : ∀ r, Settled M (post r))
    (start : ∀ request s p s', inv s → M.start () request s = some (p, s') →
      inv s' ∧ Safe M (.solo M inv ok pledge) () p post s')
    (finish : ∀ r s, inv s → post r s → inv (M.finish () r s)) (tick : Settled M inv) :
    Sound M (.solo M inv ok pledge) (fun _ => post) where
  post_stable _ r _ _ moved _ := (settled r).drift moved
  start _ request s p s' hs started :=
    have ⟨hs', safe⟩ := start request s p s' hs started
    ⟨hs', fun u other => absurd (Subsingleton.elim u ()) other, safe⟩
  finish _ r s hs done :=
    ⟨finish r s hs done, fun u other => absurd (Subsingleton.elim u ()) other⟩
  tick event s s' hs moved := ⟨tick event s s' moved hs, fun _ => .single ⟨event, moved⟩⟩

end Async
