import RedditKafka.Async.Interference

/-!
# Programs that always end

A program may await without bound: `forever` repeats as long as its answers let
it. `Halts` says that no sequence of answers keeps it going.
-/
namespace Async

variable {E : Type} {A : E → Type} {ε σ χ : Type} {α β : Type}

/-- Whatever is answered from `s` on, the program ends: the tree of its executions has no
infinite branch. -/
inductive Halts (answer : (c : E) → χ → σ → Option (Except ε (A c) × σ)) :
    {α : Type} → Prog E A ε α → σ → Prop
  | ret {α : Type} (a : α) (s : σ) : Halts answer (.ret a) s
  | raise {α : Type} (e : ε) (s : σ) : Halts answer (.raise e : Prog E A ε α) s
  | call {α : Type} {c : E} {next : Except ε (A c) → Prog E A ε α} {s : σ} :
      (∀ choice r s', answer c choice s = some (r, s') → Halts answer (next r) s') →
      Halts answer (.call c next) s
  | loop {α β : Type} {body : Prog E A ε (Option β)} {next : Except ε β → Prog E A ε α} {s : σ} :
      Halts answer (body.unroll next) s → Halts answer (.loop body next) s

namespace Halts

variable {answer : (c : E) → χ → σ → Option (Except ε (A c) × σ)} {s : σ}

theorem ofExcept (r : Except ε α) : Halts answer (Prog.ofExcept r : Prog E A ε α) s := by
  cases r with
  | ok a => exact .ret a s
  | error e => exact .raise e s

/-- The rest has to end only behind the runs of the first part. -/
theorem bindE {p : Prog E A ε α} {f : Except ε α → Prog E A ε β} (first : Halts answer p s)
    (rest : ∀ trace r s', Runs answer p s trace r s' → Halts answer (f r) s') :
    Halts answer (p.bindE f) s := by
  induction first with
  | ret a s => exact rest _ _ _ (.ret a s)
  | raise e s => exact rest _ _ _ (.raise e s)
  | call _ ih =>
      refine .call fun choice r s₁ answered => ih choice r s₁ answered fun trace r' s' ran => ?_
      exact rest _ _ _ (.call answered ran)
  | loop _ ih =>
      refine .loop (Prog.unroll_bindE .. ▸ ih fun trace r s' ran => ?_)
      exact rest _ _ _ (.loop ran)

/-- A program without loops. -/
theorem of_straight {H : E → Prop} {p : Prog E A ε α} (straight : p.Straight H) :
    Halts answer p s := by
  induction p generalizing s with
  | ret a => exact .ret a s
  | raise e => exact .raise e s
  | call c next ih => exact .call fun choice r s' _ => ih r (straight.2 r)
  | loop => cases straight

/-- A loop whose turns end, and that has a bound on the number of turns still to come. -/
theorem forever {body : Prog E A ε (Option β)} (I : σ → Prop) (bound : σ → Nat)
    (ends : ∀ s, I s → Halts answer body s)
    (turn : ∀ s trace s', I s → Runs answer body s trace (.ok none) s' →
      I s' ∧ bound s' < bound s) (start : I s) : Halts answer body.forever s := by
  induction left : bound s using Nat.strong_induction_on generalizing s with
  | _ n ih =>
      refine .loop ((ends s start).bindE fun trace r s' ran => ?_)
      rcases r with e | (_ | b)
      · exact .ofExcept (.error e)
      · obtain ⟨again, fewer⟩ := turn s trace s' start ran
        exact ih _ (left ▸ fewer) again rfl
      · exact .ofExcept (.ok b)

/-- A program that always ends has a run, if each of its effects can be answered. -/
theorem runs {p : Prog E A ε α} (h : Halts answer p s)
    (answers : ∀ c s, ∃ choice r s', answer c choice s = some (r, s')) :
    ∃ trace out s', Runs answer p s trace out s' := by
  induction h with
  | ret a s => exact ⟨[], _, s, .ret a s⟩
  | raise e s => exact ⟨[], _, s, .raise e s⟩
  | @call c _ s _ ih =>
      obtain ⟨choice, r, s₁, answered⟩ := answers c s
      obtain ⟨trace, out, s', ran⟩ := ih choice r s₁ answered
      exact ⟨_, out, s', .call answered ran⟩
  | loop _ ih =>
      obtain ⟨trace, out, s', ran⟩ := ih
      exact ⟨trace, out, s', .loop ran⟩

end Halts
end Async
