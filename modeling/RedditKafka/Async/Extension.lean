import RedditKafka.Async.Safety

/-!
# Programs among further effects

A program over one kind of effect, used where effects of a second kind are
awaited too: its result can be reported, for one. What is proved of the program
by itself holds of it inside.
-/
namespace Async

/-- Effects of two kinds. -/
inductive Extended (E F : Type) where
  | inner (c : E)
  | outer (c : F)
  deriving DecidableEq

abbrev Extended.Answer {E F : Type} (A : E → Type) (B : F → Type) : Extended E F → Type
  | .inner c => A c
  | .outer c => B c

variable {E F : Type} {A : E → Type} {B : F → Type} {ε σ τ χ κ : Type} {α γ : Type}

namespace Prog

def lift (B : F → Type) (p : Prog E A ε α) : Prog (Extended E F) (Extended.Answer A B) ε α :=
  p.link fun c => perform (A := Extended.Answer A B) (.inner c)

/-- Run `p` to its end and report its outcome, whatever it is. -/
def reported (p : Prog E A ε α) :
    Prog (Extended E (Except ε α)) (Extended.Answer A fun _ => Unit) ε Unit :=
  (p.lift fun _ => Unit).bindE fun r => perform (A := Extended.Answer A fun _ => Unit) (.outer r)

end Prog

/-- The machine as the programs of the first kind see it. -/
def Machine.inner (M : Machine (Extended E F) (Extended.Answer A B) ε σ τ χ κ) :
    Machine E A ε σ τ χ κ where
  answer t c := M.answer t (.inner c)
  start _ _ _ := none
  finish _ _ s := s
  tick _ _ := none

def Discipline.inner (D : Discipline (Extended E F) σ τ) : Discipline E σ τ where
  inv := D.inv
  keeps := D.keeps
  keeps_refl := D.keeps_refl
  keeps_trans := D.keeps_trans
  ok t c := D.ok t (.inner c)
  pledge t c := D.pledge t (.inner c)

variable {M : Machine (Extended E F) (Extended.Answer A B) ε σ τ χ κ}
  {D : Discipline (Extended E F) σ τ} {t : τ}

/-- A program is as safe among the further effects as it is by itself. -/
theorem Safe.lift {p : Prog E A ε α} {Q : Except ε α → σ → Prop} {s : σ}
    (h : Safe M.inner D.inner t p Q s) : Safe M D t (p.lift B) Q s := by
  induction p generalizing s with
  | ret a => exact h
  | raise e => exact h
  | call c next ih =>
      intro s₁ moved hs₁
      obtain ⟨pledged, answers⟩ := h s₁ moved hs₁
      refine ⟨pledged, fun allowed choice r s₂ answered => ?_⟩
      obtain ⟨hs₂, others, rest⟩ := answers allowed choice r s₂ answered
      refine ⟨hs₂, others, ?_⟩
      cases r with
      | ok a => exact ih (.ok a) rest
      | error e => exact ih (.error e) rest
  | loop body next ihb ih =>
      obtain ⟨I, start, stable, turn⟩ := h
      refine ⟨I, start, stable, fun s₁ hs₁ holds => ?_⟩
      refine (ihb (turn s₁ hs₁ holds)).mono hs₁ ?_
      rintro (e | (_ | b)) s₂ _ after
      · exact ih _ after
      · exact after
      · exact ih _ after

/-- A program whose outcome is reported, by the outcomes it can have. -/
theorem Safe.reported {M : Machine (Extended E (Except ε α)) (Extended.Answer A fun _ => Unit) ε σ τ χ κ}
    {D : Discipline (Extended E (Except ε α)) σ τ} {p : Prog E A ε α} {P : Except ε α → σ → Prop}
    {Q : Except ε Unit → σ → Prop} {s : σ} (hs : D.inv s) (body : Safe M.inner D.inner t p P s)
    (rest : ∀ r s', D.inv s' → P r s' → Safe M D t
      (Prog.perform (A := Extended.Answer A fun _ => Unit) (.outer r)) Q s') :
    Safe M D t p.reported Q s :=
  Safe.bindE hs body.lift rest

end Async
