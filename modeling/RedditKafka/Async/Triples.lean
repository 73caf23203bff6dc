import RedditKafka.Async.Interference

/-!
# Pre- and postconditions

Rules for runs of one program whose answers meet a condition. A postcondition
speaks about the outcome, so an exception carries its own facts.
-/
namespace Async

variable {E : Type} {A : E → Type} {ε σ χ : Type} {α β : Type}

/-- From a state in `P`, every run whose awaits all meet `ok` ends as `Q` says. -/
def Triple (answer : (c : E) → χ → σ → Option (Except ε (A c) × σ)) (ok : E → χ → Prop)
    (P : σ → Prop) (p : Prog E A ε α) (Q : Except ε α → σ → Prop) : Prop :=
  ∀ s trace out s', P s → Runs answer p s trace out s' → (∀ entry ∈ trace, ok entry.1 entry.2) →
    Q out s'

namespace Triple

variable {answer : (c : E) → χ → σ → Option (Except ε (A c) × σ)} {ok : E → χ → Prop}
  {P P' : σ → Prop} {Q Q' : Except ε α → σ → Prop}

theorem consequence {p : Prog E A ε α} (h : Triple answer ok P p Q) (pre : ∀ s, P' s → P s)
    (post : ∀ r s, Q r s → Q' r s) : Triple answer ok P' p Q' :=
  fun s trace out s' start ran allowed => post _ _ (h s trace out s' (pre s start) ran allowed)

/-- A condition that every effect of the program keeps. -/
theorem keeps {H : E → Prop} {p : Prog E A ε α}
    (effect : ∀ c choice r s s', H c → P s → answer c choice s = some (r, s') → P s')
    (uses : p.Uses H) : Triple answer ok P p fun _ s => P s :=
  fun _ _ _ _ start ran _ => ran.keeps P effect uses start

theorem ret {a : α} (post : ∀ s, P s → Q (.ok a) s) :
    Triple answer ok P (.ret a : Prog E A ε α) Q := by
  intro s trace out s' start ran _
  obtain ⟨-, rfl, rfl⟩ := ran.ret_inv
  exact post _ start

theorem perform {c : E} {Q : Except ε (A c) → σ → Prop}
    (post : ∀ s choice r s', P s → ok c choice → answer c choice s = some (r, s') → Q r s') :
    Triple answer ok P (Prog.perform c) Q := by
  intro s trace out s' start ran allowed
  obtain ⟨choice, rfl, answered⟩ := ran.perform_inv
  exact post _ _ _ _ start (allowed _ (List.mem_singleton_self _)) answered

/-- Two parts in a row: an exception of the first one is the outcome. -/
theorem bind {p : Prog E A ε α} {f : α → Prog E A ε β} {R : Except ε α → σ → Prop}
    {Q : Except ε β → σ → Prop} (first : Triple answer ok P p R)
    (raised : ∀ e s, R (.error e) s → Q (.error e) s)
    (rest : ∀ a, Triple answer ok (R (.ok a)) (f a) Q) : Triple answer ok P (p >>= f) Q := by
  intro s trace out s' start ran allowed
  rcases ran.bind_inv with ⟨e, rfl, failed⟩ | ⟨before, after, a, s₁, rfl, done, goes⟩
  · exact raised _ _ (first _ _ _ _ start failed allowed)
  · rw [List.forall_mem_append] at allowed
    exact rest a _ _ _ _ (first _ _ _ _ start done allowed.1) goes allowed.2

theorem rescue {p : Prog E A ε α} {handler : ε → Prog E A ε α}
    {R : Except ε α → σ → Prop} (body : Triple answer ok P p R)
    (returned : ∀ a s, R (.ok a) s → Q (.ok a) s)
    (handles : ∀ e, Triple answer ok (R (.error e)) (handler e) Q) :
    Triple answer ok P (p.rescue handler) Q := by
  intro s trace out s' start ran allowed
  rcases ran.rescue_inv with ⟨a, rfl, done⟩ | ⟨e, before, after, s₁, rfl, failed, goes⟩
  · exact returned _ _ (body _ _ _ _ start done allowed)
  · rw [List.forall_mem_append] at allowed
    exact handles e _ _ _ _ (body _ _ _ _ start failed allowed.1) goes allowed.2

/-- What a turn of a loop leaves: a state for the next one, or the outcome of the loop. -/
def Turned (P : σ → Prop) (Q : Except ε α → σ → Prop) : Except ε (Option α) → σ → Prop
  | .ok none, s => P s
  | .ok (some a), s => Q (.ok a) s
  | .error e, s => Q (.error e) s

/-- How a loop goes on from the end of a turn. -/
def again (body : Prog E A ε (Option α)) : Except ε (Option α) → Prog E A ε α
  | .ok none => .loop body .ofExcept
  | .ok (some a) => .ofExcept (.ok a)
  | .error e => .ofExcept (.error e)

/-- The rest `q` of a turn, and the turns behind it: each one keeps what `turn` says. -/
theorem turns {body : Prog E A ε (Option α)} (turn : Triple answer ok P body (Turned P Q))
    {p : Prog E A ε α} {s s' : σ} {trace : List (E × χ)} {out : Except ε α}
    (ran : Runs answer p s trace out s') {q : Prog E A ε (Option α)}
    (same : q.bindE (again body) = p)
    (here : ∀ trace r s₁, Runs answer q s trace r s₁ → (∀ entry ∈ trace, ok entry.1 entry.2) →
      Turned P Q r s₁)
    (allowed : ∀ entry ∈ trace, ok entry.1 entry.2) : Q out s' := by
  induction ran generalizing q with
  | ret b s =>
      cases q with
      | ret left =>
          have left_ := here _ _ _ (.ret left s) nofun
          cases left with
          | none => cases same
          | some => cases same; exact left_
      | raise | call | loop => cases same
  | raise e s =>
      cases q with
      | ret left => cases left <;> cases same
      | raise => cases same; exact here _ _ _ (.raise _ s) nofun
      | call | loop => cases same
  | call answered _ ih =>
      cases q with
      | ret left => cases left <;> cases same
      | call c next =>
          cases same
          rw [List.forall_mem_cons] at allowed
          exact ih rfl (fun _ _ _ ran allowed' => here _ _ _ (.call answered ran)
            (List.forall_mem_cons.mpr ⟨allowed.1, allowed'⟩)) allowed.2
      | raise | loop => cases same
  | loop _ ih =>
      cases q with
      | ret left =>
          cases left with
          | none =>
              have start := here _ _ _ (.ret none _) nofun
              cases same
              exact ih rfl (fun _ _ _ ran => turn _ _ _ _ start ran) allowed
          | some => cases same
      | loop inner next =>
          cases same
          exact ih (Prog.unroll_bindE ..) (fun _ _ _ ran => here _ _ _ (.loop ran)) allowed
      | raise | call => cases same

/-- A loop: each turn goes on from a state in `P`, or ends it. -/
theorem forever {body : Prog E A ε (Option α)} (turn : Triple answer ok P body (Turned P Q)) :
    Triple answer ok P body.forever Q := by
  intro s trace out s' start ran allowed
  refine turns turn ran (q := .ret none) rfl (fun _ _ _ ran _ => ?_) allowed
  obtain ⟨-, rfl, rfl⟩ := ran.ret_inv
  exact start

/-- The `finally` part runs behind any outcome, and passes it on or raises its own exception. -/
theorem ensure {p : Prog E A ε α} {f : Prog E A ε Unit} {R : Except ε α → σ → Prop}
    (body : Triple answer ok P p R)
    (closes : ∀ r, Triple answer ok (R r) f fun r' s => match r' with
      | .ok _ => Q r s
      | .error e => Q (.error e) s) : Triple answer ok P (p.ensure f) Q := by
  intro s trace out s' start ran allowed
  obtain ⟨before, after, r, r', s₁, rfl, done, closed, same⟩ := ran.ensure_inv
  rw [List.forall_mem_append] at allowed
  have last := closes r _ _ _ _ (body _ _ _ _ start done allowed.1) closed allowed.2
  cases r' <;> (rw [same]; exact last)

end Triple
end Async
