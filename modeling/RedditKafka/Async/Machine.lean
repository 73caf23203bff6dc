import RedditKafka.Async.Program

/-!
# Interleaved programs over a shared state

A machine fixes what each effect does to a shared state. Its configurations
hold that state and one program for each thread that is running. Every step is
one awaited effect of one thread, one turn of a loop, the end of a thread, the
start of one, or an outside event; any thread that can move may move.
All nondeterminism is in the action, so runs can be replayed.
-/
namespace Async

/-- `answer` receives the choice the environment makes for this one effect.
`none` means that the effect cannot be answered so in this state. -/
structure Machine (E : Type) (A : E → Type) (ε σ τ χ κ : Type) where
  answer : τ → (c : E) → χ → σ → Option (Except ε (A c) × σ)
  start : τ → κ → σ → Option (Prog E A ε Unit × σ)
  finish : τ → Except ε Unit → σ → σ
  tick : κ → σ → Option σ

structure Config (E : Type) (A : E → Type) (ε σ τ : Type) where
  state : σ
  threads : τ → Option (Prog E A ε Unit)

inductive Action (τ χ κ : Type) where
  | call (t : τ) (choice : χ)
  | unroll (t : τ)
  | finish (t : τ)
  | start (t : τ) (request : κ)
  | tick (event : κ)
  deriving DecidableEq, Repr

/-- The thread that an action is of. -/
def Action.thread {τ χ κ : Type} : Action τ χ κ → Option τ
  | .call t _ | .unroll t | .finish t | .start t _ => some t
  | .tick _ => none

variable {E : Type} {A : E → Type} {ε σ τ χ κ : Type}

namespace Config

def initial (s : σ) : Config E A ε σ τ := ⟨s, fun _ => none⟩

/-- Thread `t` waits for the answer to `e`. -/
def Awaits (c : Config E A ε σ τ) (t : τ) (e : E) : Prop :=
  ∃ next, c.threads t = some (.call e next)

/-- The effect that thread `t` waits for. -/
def awaited (c : Config E A ε σ τ) (t : τ) : Option E :=
  match c.threads t with
  | some (.call e _) => some e
  | _ => none

/-- The outcome of thread `t`, once it has one. -/
def outcome (c : Config E A ε σ τ) (t : τ) : Option (Except ε Unit) :=
  match c.threads t with
  | some (.ret a) => some (.ok a)
  | some (.raise e) => some (.error e)
  | _ => none

theorem awaits_iff {c : Config E A ε σ τ} {t : τ} {e : E} :
    c.Awaits t e ↔ c.awaited t = some e := by
  constructor
  · rintro ⟨k, waits⟩
    simp only [awaited, waits]
  · intro h
    unfold awaited at h
    split at h
    · rename_i e' k waits
      cases h
      exact ⟨k, waits⟩
    · cases h

theorem threads_of_outcome {c : Config E A ε σ τ} {t : τ} {r : Except ε Unit}
    (h : c.outcome t = some r) : c.threads t = some (.ofExcept r) := by
  unfold outcome at h
  split at h
  · rename_i a ended
    cases h
    exact ended
  · rename_i e ended
    cases h
    exact ended
  · cases h

variable [DecidableEq τ]

def put (c : Config E A ε σ τ) (t : τ) (p : Option (Prog E A ε Unit)) (s : σ) :
    Config E A ε σ τ :=
  ⟨s, Function.update c.threads t p⟩

@[simp] theorem put_state (c : Config E A ε σ τ) (t : τ) (p : Option (Prog E A ε Unit)) (s : σ) :
    (c.put t p s).state = s := rfl

@[simp] theorem put_self (c : Config E A ε σ τ) (t : τ) (p : Option (Prog E A ε Unit)) (s : σ) :
    (c.put t p s).threads t = p := by simp [put]

theorem put_of_ne {c : Config E A ε σ τ} {t u : τ} (h : u ≠ t) (p : Option (Prog E A ε Unit))
    (s : σ) : (c.put t p s).threads u = c.threads u := by simp [put, h]

end Config

namespace Machine

/-- The effect answered in this step, if it answers one, meets `ok`. -/
def Allows (ok : τ → E → σ → Prop) (a : Action τ χ κ) (c : Config E A ε σ τ) : Prop :=
  ∀ t choice e, a = .call t choice → c.Awaits t e → ok t e c.state

variable [DecidableEq τ] (M : Machine E A ε σ τ χ κ)

def next : Action τ χ κ → Config E A ε σ τ → Option (Config E A ε σ τ)
  | .call t choice, c =>
      match c.threads t with
      | some (.call e k) => (M.answer t e choice c.state).map fun a => c.put t (some (k a.1)) a.2
      | _ => none
  | .unroll t, c =>
      match c.threads t with
      | some (.loop body k) => some (c.put t (some (body.unroll k)) c.state)
      | _ => none
  | .finish t, c =>
      match c.threads t with
      | some (.ret _) => some (c.put t none (M.finish t (.ok ()) c.state))
      | some (.raise e) => some (c.put t none (M.finish t (.error e) c.state))
      | _ => none
  | .start t request, c =>
      match c.threads t with
      | none => (M.start t request c.state).map fun a => c.put t (some a.1) a.2
      | some _ => none
  | .tick event, c => (M.tick event c.state).map fun s => ⟨s, c.threads⟩

/-- Replay a list of actions; `none` when one of them is not possible. -/
def exec : List (Action τ χ κ) → Config E A ε σ τ → Option (Config E A ε σ τ)
  | [], c => some c
  | a :: as, c => (M.next a c).bind (exec as)

/-- Configurations reached by steps whose effects all meet `ok` when they are answered. -/
inductive ReachesUnder (ok : τ → E → σ → Prop) (c₀ : Config E A ε σ τ) : Config E A ε σ τ → Prop
  | refl : ReachesUnder ok c₀ c₀
  | step {a : Action τ χ κ} {c d : Config E A ε σ τ} : ReachesUnder ok c₀ c → Allows ok a c →
      M.next a c = some d → ReachesUnder ok c₀ d

/-- Configurations reached by any steps. -/
abbrev Reaches (c₀ c : Config E A ε σ τ) : Prop := M.ReachesUnder (fun _ _ _ => True) c₀ c

variable {M} {c₀ c d : Config E A ε σ τ}

theorem ReachesUnder.mono {ok ok' : τ → E → σ → Prop} (h : M.ReachesUnder ok c₀ c)
    (imp : ∀ t e s, ok t e s → ok' t e s) : M.ReachesUnder ok' c₀ c := by
  induction h with
  | refl => exact .refl
  | step _ allowed moved ih =>
      exact ih.step (fun t choice e same waits => imp t e _ (allowed t choice e same waits)) moved

theorem Reaches.step (h : M.Reaches c₀ c) {a : Action τ χ κ} (moved : M.next a c = some d) :
    M.Reaches c₀ d :=
  ReachesUnder.step h (fun _ _ _ _ _ => trivial) moved

theorem Reaches.trans (h : M.Reaches c₀ c) (onward : M.Reaches c d) : M.Reaches c₀ d := by
  induction onward with
  | refl => exact h
  | step _ _ moved ih => exact ih.step moved

theorem Reaches.exec (h : M.Reaches c₀ c) {as : List (Action τ χ κ)}
    (done : M.exec as c = some d) : M.Reaches c₀ d := by
  induction as generalizing c with
  | nil => cases done; exact h
  | cons a as ih =>
      simp only [Machine.exec, Option.bind_eq_some_iff] at done
      obtain ⟨mid, moved, rest⟩ := done
      exact ih (h.step moved) rest

theorem Reaches.of_exec {as : List (Action τ χ κ)} (done : M.exec as c₀ = some d) :
    M.Reaches c₀ d :=
  Reaches.exec .refl done

/-- A replayed run, seen through what it is asked about. -/
theorem Reaches.of_exec_map {α : Type*} {as : List (Action τ χ κ)} {f : Config E A ε σ τ → α}
    {a : α} (done : (M.exec as c₀).map f = some a) : ∃ c, M.Reaches c₀ c ∧ f c = a := by
  obtain ⟨c, ran, seen⟩ := Option.map_eq_some_iff.mp done
  exact ⟨c, Reaches.of_exec ran, seen⟩

/-- Replay a list of actions as long as every answered effect meets `ok`. -/
def execUnder (M : Machine E A ε σ τ χ κ) (ok : τ → E → σ → Bool) :
    List (Action τ χ κ) → Config E A ε σ τ → Option (Config E A ε σ τ)
  | [], c => some c
  | .call t choice :: as, c =>
      if (c.awaited t).all fun e => ok t e c.state then
        (M.next (.call t choice) c).bind (M.execUnder ok as)
      else none
  | a :: as, c => (M.next a c).bind (M.execUnder ok as)

theorem exec_of_execUnder {ok : τ → E → σ → Bool} {as : List (Action τ χ κ)}
    (done : M.execUnder ok as c = some d) : M.exec as c = some d := by
  induction as generalizing c with
  | nil => exact done
  | cons a as ih =>
      have step : (M.next a c).bind (M.execUnder ok as) = some d := by
        cases a with
        | call t choice =>
            simp only [Machine.execUnder] at done
            split at done
            · exact done
            · cases done
        | _ => exact done
      obtain ⟨mid, moved, rest⟩ := Option.bind_eq_some_iff.mp step
      exact Option.bind_eq_some_iff.mpr ⟨mid, moved, ih rest⟩

theorem ReachesUnder.execUnder {ok : τ → E → σ → Bool}
    (h : M.ReachesUnder (fun t e s => ok t e s = true) c₀ c) {as : List (Action τ χ κ)}
    (done : M.execUnder ok as c = some d) :
    M.ReachesUnder (fun t e s => ok t e s = true) c₀ d := by
  induction as generalizing c with
  | nil => cases done; exact h
  | cons a as ih =>
      cases a with
      | call t choice =>
          simp only [Machine.execUnder] at done
          split at done
          · rename_i allowed
            obtain ⟨mid, moved, rest⟩ := Option.bind_eq_some_iff.mp done
            refine ih (h.step (fun u choice' e same waits => ?_) moved) rest
            cases same
            simpa [Config.awaits_iff.mp waits] using allowed
          · cases done
      | unroll | finish | start | tick =>
          obtain ⟨mid, moved, rest⟩ := Option.bind_eq_some_iff.mp done
          exact ih (h.step (fun u choice' e same => by cases same) moved) rest

theorem ReachesUnder.of_execUnder_map {α : Type*} {ok : τ → E → σ → Bool}
    {as : List (Action τ χ κ)} {f : Config E A ε σ τ → α} {a : α}
    (done : (M.execUnder ok as c₀).map f = some a) :
    ∃ c, M.ReachesUnder (fun t e s => ok t e s = true) c₀ c ∧ f c = a := by
  obtain ⟨c, ran, seen⟩ := Option.map_eq_some_iff.mp done
  exact ⟨c, ReachesUnder.execUnder .refl ran, seen⟩

/-- The answered effect of a `call` step, with the state before and after it. -/
theorem next_call {t : τ} {choice : χ} (h : M.next (.call t choice) c = some d) :
    ∃ e k r s, c.threads t = some (.call e k) ∧ M.answer t e choice c.state = some (r, s) ∧
      d = c.put t (some (k r)) s := by
  simp only [next] at h
  split at h
  · rename_i e k waits
    simp only [Option.map_eq_some_iff] at h
    obtain ⟨⟨r, s⟩, answered, rfl⟩ := h
    exact ⟨e, k, r, s, waits, answered, rfl⟩
  · cases h

theorem next_unroll {t : τ} (h : M.next (.unroll t) c = some d) :
    ∃ (β : Type) (body : Prog E A ε (Option β)) (k : Except ε β → Prog E A ε Unit),
      c.threads t = some (.loop body k) ∧ d = c.put t (some (body.unroll k)) c.state := by
  simp only [next] at h
  split at h
  · rename_i β body k waits
    cases h
    exact ⟨β, body, k, waits, rfl⟩
  · cases h

theorem next_finish {t : τ} (h : M.next (.finish t) c = some d) :
    ∃ r : Except ε Unit, c.threads t = some (.ofExcept r) ∧
      d = c.put t none (M.finish t r c.state) := by
  simp only [next] at h
  split at h
  · rename_i a ended
    cases h
    exact ⟨.ok (), ended, rfl⟩
  · rename_i e ended
    cases h
    exact ⟨.error e, ended, rfl⟩
  · cases h

theorem next_start {t : τ} {request : κ} (h : M.next (.start t request) c = some d) :
    ∃ p s, c.threads t = none ∧ M.start t request c.state = some (p, s) ∧
      d = c.put t (some p) s := by
  simp only [next] at h
  split at h
  · rename_i free
    simp only [Option.map_eq_some_iff] at h
    obtain ⟨⟨p, s⟩, started, rfl⟩ := h
    exact ⟨p, s, free, started, rfl⟩
  · cases h

theorem next_tick {event : κ} (h : M.next (.tick event) c = some d) :
    ∃ s, M.tick event c.state = some s ∧ d = ⟨s, c.threads⟩ := by
  simp only [next, Option.map_eq_some_iff] at h
  obtain ⟨s, ticked, rfl⟩ := h
  exact ⟨s, ticked, rfl⟩

/-- A step leaves the threads alone that it is not of. -/
theorem next_aside {a : Action τ χ κ} (h : M.next a c = some d) {t : τ} (other : a.thread ≠ some t) :
    d.threads t = c.threads t := by
  cases a with
  | call u choice =>
      obtain ⟨e, k, r, s, -, -, rfl⟩ := next_call h
      exact Config.put_of_ne (fun same => other (congrArg some same.symm)) _ _
  | unroll u =>
      obtain ⟨β, body, k, -, rfl⟩ := next_unroll h
      exact Config.put_of_ne (fun same => other (congrArg some same.symm)) _ _
  | finish u =>
      obtain ⟨r, -, rfl⟩ := next_finish h
      exact Config.put_of_ne (fun same => other (congrArg some same.symm)) _ _
  | start u request =>
      obtain ⟨p, s, -, -, rfl⟩ := next_start h
      exact Config.put_of_ne (fun same => other (congrArg some same.symm)) _ _
  | tick event =>
      obtain ⟨s, -, rfl⟩ := next_tick h
      rfl

theorem exec_aside {as : List (Action τ χ κ)} (done : M.exec as c = some d) {t : τ}
    (others : ∀ a ∈ as, a.thread ≠ some t) : d.threads t = c.threads t := by
  induction as generalizing c with
  | nil => cases done; rfl
  | cons a as ih =>
      obtain ⟨mid, moved, rest⟩ := Option.bind_eq_some_iff.mp done
      rw [ih rest fun b member => others b (List.mem_cons_of_mem _ member),
        next_aside moved (others a (List.mem_cons_self ..))]

/-- A replayed run has ended once every thread that it names has. -/
theorem exec_idle {as : List (Action τ χ κ)} {threads : List τ} (done : M.exec as c = some d)
    (idle : ∀ t, c.threads t = none) (named : as.all fun a => a.thread.all (· ∈ threads))
    (ended : threads.all fun t => (d.threads t).isNone) (t : τ) : d.threads t = none := by
  by_cases member : t ∈ threads
  · simpa using List.all_eq_true.mp ended t member
  · rw [exec_aside done fun a there same => ?_, idle t]
    have := List.all_eq_true.mp named a there
    simp [same, member] at this

/-- Every thread that runs in `d` is one that ran in `c`, or that this step started. -/
theorem next_threads {a : Action τ χ κ} (h : M.next a c = some d) {t : τ}
    {p : Prog E A ε Unit} (running : d.threads t = some p) :
    c.threads t = some p ∨
      (∃ e k r choice s, c.threads t = some (.call e k) ∧ p = k r ∧
        M.answer t e choice c.state = some (r, s)) ∨
      (∃ (β : Type) (body : Prog E A ε (Option β)) (k : Except ε β → Prog E A ε Unit),
        c.threads t = some (.loop body k) ∧ p = body.unroll k) ∨
      ∃ request, M.start t request c.state = some (p, d.state) := by
  cases a with
  | call u choice =>
      obtain ⟨e, k, r, s, waits, answered, rfl⟩ := next_call h
      by_cases same : t = u
      · subst same
        rw [Config.put_self] at running
        cases running
        exact .inr (.inl ⟨e, k, r, choice, s, waits, rfl, answered⟩)
      · rw [Config.put_of_ne same] at running
        exact .inl running
  | unroll u =>
      obtain ⟨β, body, k, waits, rfl⟩ := next_unroll h
      by_cases same : t = u
      · subst same
        rw [Config.put_self] at running
        cases running
        exact .inr (.inr (.inl ⟨β, body, k, waits, rfl⟩))
      · rw [Config.put_of_ne same] at running
        exact .inl running
  | finish u =>
      obtain ⟨r, ended, rfl⟩ := next_finish h
      by_cases same : t = u
      · subst same
        rw [Config.put_self] at running
        cases running
      · rw [Config.put_of_ne same] at running
        exact .inl running
  | start u request =>
      obtain ⟨q, s, free, started, rfl⟩ := next_start h
      by_cases same : t = u
      · subst same
        rw [Config.put_self] at running
        cases running
        exact .inr (.inr (.inr ⟨request, started⟩))
      · rw [Config.put_of_ne same] at running
        exact .inl running
  | tick event =>
      obtain ⟨s, -, rfl⟩ := next_tick h
      exact .inl running

/-- Which effects each thread can still await, once it is known of the programs that start. -/
theorem ReachesUnder.uses {ok : τ → E → σ → Prop} {H : τ → σ → E → Prop}
    (starts : ∀ t request s p s', M.start t request s = some (p, s') → p.Uses (H t s'))
    (stable : ∀ a c d, M.next a c = some d → ∀ t e, H t c.state e → H t d.state e)
    (h₀ : ∀ t p, c₀.threads t = some p → p.Uses (H t c₀.state)) (h : M.ReachesUnder ok c₀ c)
    {t : τ} {p : Prog E A ε Unit} (running : c.threads t = some p) : p.Uses (H t c.state) := by
  induction h generalizing p with
  | refl => exact h₀ t p running
  | step _ _ moved ih =>
      rcases next_threads moved running with before | ⟨e, k, r, choice, s, waits, rfl, -⟩ |
          ⟨β, body, k, waits, rfl⟩ | ⟨request, started⟩
      · exact (ih before).mono fun e => stable _ _ _ moved t e
      · exact ((ih waits).2 r).mono fun e => stable _ _ _ moved t e
      · exact (ih waits).unroll.mono fun e => stable _ _ _ moved t e
      · exact starts t request _ p _ started

end Machine
end Async
