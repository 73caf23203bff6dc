import RedditKafka.Async.Solo

/-!
# Any answer to any effect

The environment of which nothing is known: an awaited effect may return any value
of its type or raise anything, and the state only takes notes. What a program does
here, it does wherever it runs.
-/
namespace Async

variable {E : Type} {A : E → Type} {ε σ : Type} {α β : Type} [DecidableEq E]

/-- A choice is an effect with its answer. -/
def recorder (note : (c : E) → Except ε (A c) → σ → σ) :
    Machine E A ε σ Unit ((c : E) × Except ε (A c)) Empty where
  answer _ c given s :=
    if same : given.1 = c then
      let r : Except ε (A c) := same ▸ given.2
      some (r, note c r s)
    else none
  start _ request _ := request.elim
  finish _ _ s := s
  tick event _ := event.elim

variable {note : (c : E) → Except ε (A c) → σ → σ} {inv : σ → Prop} {pledge : E → σ → Prop}

theorem recorder_answer {c : E} {given : (c : E) × Except ε (A c)} {s s' : σ}
    {r : Except ε (A c)} (answered : (recorder note).answer () c given s = some (r, s')) :
    s' = note c r s := by
  simp only [recorder] at answered
  split at answered
  · cases answered
    rfl
  · cases answered

theorem recorder_settled (I : σ → Prop) : Settled (recorder note) I :=
  fun event => event.elim

/-- The answers keep `inv`, and `pledge` holds whenever the program waits. -/
abbrev Recorded (note : (c : E) → Except ε (A c) → σ → σ) (inv : σ → Prop)
    (pledge : E → σ → Prop) {α : Type} (p : Prog E A ε α) (Q : Except ε α → σ → Prop)
    (s : σ) : Prop :=
  Safe (recorder note) (.solo (recorder note) inv (fun _ _ => True) pledge) () p Q s

namespace Recorded

variable {s : σ}

theorem perform {c : E} {Q : Except ε (A c) → σ → Prop} (pledged : pledge c s)
    (answers : ∀ r, inv s → inv (note c r s) ∧ Q r (note c r s)) :
    Recorded note inv pledge (Prog.perform c) Q s := by
  refine Safe.solo_perform (· = s) (recorder_settled _) rfl (fun s₁ _ same => same ▸ pledged) ?_
  intro s₁ choice r s₂ hs₁ same _ answered
  subst same
  rw [recorder_answer answered]
  exact answers r hs₁

/-- `let a ← perform c` in front of the rest of a program. -/
theorem await {c : E} {f : A c → Prog E A ε β} {Q : Except ε β → σ → Prop} (pledged : pledge c s)
    (answers : ∀ r, inv s → inv (note c r s) ∧
      Recorded note inv pledge (Prog.andThen f r) Q (note c r s)) :
    Recorded note inv pledge (Prog.perform c >>= f) Q s :=
  Safe.bindE_iff.mpr (perform pledged answers)

theorem forever {body : Prog E A ε (Option β)} {Q : Except ε β → σ → Prop} (I : σ → Prop)
    (start : I s) (turn : ∀ s, inv s → I s → Recorded note inv pledge body (fun r s' => match r with
      | .ok none => I s'
      | .ok (some b) => Q (.ok b) s'
      | .error e => Q (.error e) s') s) :
    Recorded note inv pledge body.forever Q s :=
  Safe.solo_forever I (recorder_settled I) start turn

/-- A program whose effects all keep a fact keeps it. -/
theorem uses {H : E → Prop} {p : Prog E A ε α} (uses : p.Uses H) (I : σ → Prop) (start : I s)
    (pledged : ∀ c s, H c → I s → pledge c s)
    (answers : ∀ c r s, H c → inv s → I s → inv (note c r s) ∧ I (note c r s)) :
    Recorded note inv pledge p (fun _ => I) s := by
  refine Safe.solo_uses uses I (recorder_settled I) start (fun c s₁ used _ => pledged c s₁ used) ?_
  intro c s₁ choice r s₂ used hs₁ holds _ answered
  rw [recorder_answer answered]
  exact answers c r s₁ used hs₁ holds

/-- Every moment of every run of a recorded program. -/
theorem reaches {p : Prog E A ε Unit} {Q : Except ε Unit → σ → Prop} (start : inv s)
    (recorded : Recorded note inv pledge p Q s) {c : Config E A ε σ Unit}
    (reached : (recorder note).Reaches ⟨s, fun _ => some p⟩ c) :
    inv c.state ∧ ∀ e, c.Awaits () e → pledge e c.state := by
  have sound : Sound (recorder note) (.solo (recorder note) inv (fun _ _ => True) pledge)
      fun _ => Q :=
    Sound.solo (fun r => recorder_settled _) (fun request => request.elim) (fun _ _ hs _ => hs)
      (recorder_settled inv)
  have orderly := sound.reaches (Orderly.mk (c := ⟨s, fun _ => some p⟩) start fun t p' running => by
    cases running
    exact recorded) reached
  exact ⟨orderly.1, fun e => orderly.pledged⟩

end Recorded
end Async
