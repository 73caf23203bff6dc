import Mathlib.Logic.Function.Basic

/-!
# Programs over awaited effects

A coroutine is a tree: it has returned, it has raised, it awaits the answer to
one effect, or it repeats a body until the body yields a value. An effect is
answered by a reply of its own type or by an exception, so an exception can
surface at every await. Nothing here fixes what an effect does.
-/
namespace Async

/-- `loop` is `while True`: the body ends the loop by returning `some`. -/
inductive Prog (E : Type) (A : E → Type) (ε : Type) : Type → Type 1 where
  | ret {α : Type} (a : α) : Prog E A ε α
  | raise {α : Type} (e : ε) : Prog E A ε α
  | call {α : Type} (c : E) (next : Except ε (A c) → Prog E A ε α) : Prog E A ε α
  | loop {α β : Type} (body : Prog E A ε (Option β)) (next : Except ε β → Prog E A ε α) :
      Prog E A ε α

namespace Prog

variable {E : Type} {A : E → Type} {ε : Type} {α β γ : Type}

/-- Sequencing that also sees an exception; every other combinator is built from it. -/
def bindE : Prog E A ε α → (Except ε α → Prog E A ε γ) → Prog E A ε γ
  | .ret a, f => f (.ok a)
  | .raise e, f => f (.error e)
  | .call c next, f => .call c fun r => (next r).bindE f
  | .loop body next, f => .loop body fun r => (next r).bindE f

def ofExcept : Except ε α → Prog E A ε α
  | .ok a => .ret a
  | .error e => .raise e

def andThen (f : α → Prog E A ε β) : Except ε α → Prog E A ε β
  | .ok a => f a
  | .error e => .raise e

instance : Monad (Prog E A ε) where
  pure := .ret
  bind p f := p.bindE (andThen f)

/-- Await one effect. -/
def perform (c : E) : Prog E A ε (A c) := .call c ofExcept

/-- `try p except` with a handler that sees every exception. -/
def rescue (p : Prog E A ε α) (handler : ε → Prog E A ε α) : Prog E A ε α :=
  p.bindE fun
    | .ok a => .ret a
    | .error e => handler e

/-- The outcome of `p` as a value. -/
def attempt (p : Prog E A ε α) : Prog E A ε (Except ε α) := p.bindE .ret

/-- `try p finally f`: an exception of `f` replaces the outcome of `p`. -/
def ensure (p : Prog E A ε α) (f : Prog E A ε Unit) : Prog E A ε α :=
  p.bindE fun r => f.bindE fun
    | .ok _ => ofExcept r
    | .error e => .raise e

def forever (body : Prog E A ε (Option β)) : Prog E A ε β := .loop body ofExcept

/-- One `for` pass over a list that is already at hand. -/
def forEach (body : β → Prog E A ε Unit) : List β → Prog E A ε Unit
  | [] => .ret ()
  | b :: bs => (body b).bindE (andThen fun _ => forEach body bs)

/-- One more turn of a loop. -/
def unroll (body : Prog E A ε (Option β)) (next : Except ε β → Prog E A ε α) : Prog E A ε α :=
  body.bindE fun
    | .ok none => .loop body next
    | .ok (some b) => next (.ok b)
    | .error e => next (.error e)

@[simp] theorem pure_eq (a : α) : (pure a : Prog E A ε α) = .ret a := rfl

@[simp] theorem bind_eq (p : Prog E A ε α) (f : α → Prog E A ε β) :
    (p >>= f) = p.bindE (andThen f) := rfl

theorem bindE_raise (e : ε) (f : Except ε α → Prog E A ε γ) :
    (raise e : Prog E A ε α).bindE f = f (.error e) := rfl

theorem bindE_assoc (p : Prog E A ε α) (f : Except ε α → Prog E A ε β)
    (g : Except ε β → Prog E A ε γ) : (p.bindE f).bindE g = p.bindE fun r => (f r).bindE g := by
  induction p with
  | ret a => rfl
  | raise e => rfl
  | call c next ih =>
      simp only [bindE]
      congr 1
      funext r
      exact ih r f
  | loop body next _ ih =>
      simp only [bindE]
      congr 1
      funext r
      exact ih r f

theorem unroll_bindE (body : Prog E A ε (Option β)) (next : Except ε β → Prog E A ε α)
    (f : Except ε α → Prog E A ε γ) :
    (body.unroll next).bindE f = body.unroll fun r => (next r).bindE f := by
  rw [unroll, unroll, bindE_assoc]
  congr 1
  funext r
  rcases r with e | (_ | b) <;> rfl

/-! ## Replacing effects by programs -/

variable {E' : Type} {A' : E' → Type}

/-- Link a program against an implementation of its effects. -/
def link (impl : (c : E) → Prog E' A' ε (A c)) : {α : Type} → Prog E A ε α → Prog E' A' ε α
  | _, .ret a => .ret a
  | _, .raise e => .raise e
  | _, .call c next => (impl c).bindE fun r => (next r).link impl
  | _, .loop body next => .loop (body.link impl) fun r => (next r).link impl

theorem link_bindE (impl : (c : E) → Prog E' A' ε (A c)) (p : Prog E A ε α)
    (f : Except ε α → Prog E A ε γ) :
    (p.bindE f).link impl = (p.link impl).bindE fun r => (f r).link impl := by
  induction p with
  | ret a => rfl
  | raise e => rfl
  | call c next ih =>
      simp only [bindE, link, bindE_assoc]
      congr 1
      funext r
      exact ih r f
  | loop body next _ ih =>
      simp only [bindE, link]
      congr 1
      funext r
      exact ih r f

theorem bindE_ofExcept (p : Prog E A ε α) : p.bindE ofExcept = p := by
  induction p with
  | ret a => rfl
  | raise e => rfl
  | call c next ih =>
      simp only [bindE]
      congr 1
      funext r
      exact ih r
  | loop body next _ ih =>
      simp only [bindE]
      congr 1
      funext r
      exact ih r

theorem link_ofExcept (impl : (c : E) → Prog E' A' ε (A c)) (r : Except ε α) :
    (ofExcept r).link impl = ofExcept r := by
  cases r <;> rfl

theorem link_perform (impl : (c : E) → Prog E' A' ε (A c)) (c : E) :
    (perform c).link impl = impl c := by
  simp only [perform, link, link_ofExcept, bindE_ofExcept]

theorem link_bind (impl : (c : E) → Prog E' A' ε (A c)) (p : Prog E A ε α)
    (f : α → Prog E A ε β) : (p >>= f).link impl = p.link impl >>= fun a => (f a).link impl := by
  rw [bind_eq, link_bindE]
  congr 1
  funext r
  cases r <;> rfl

theorem link_rescue (impl : (c : E) → Prog E' A' ε (A c)) (p : Prog E A ε α)
    (handler : ε → Prog E A ε α) :
    (p.rescue handler).link impl = (p.link impl).rescue fun e => (handler e).link impl := by
  rw [rescue, link_bindE, rescue]
  congr 1
  funext r
  cases r <;> rfl

theorem link_attempt (impl : (c : E) → Prog E' A' ε (A c)) (p : Prog E A ε α) :
    p.attempt.link impl = (p.link impl).attempt := by
  rw [attempt, link_bindE]
  rfl

theorem link_ensure (impl : (c : E) → Prog E' A' ε (A c)) (p : Prog E A ε α)
    (f : Prog E A ε Unit) : (p.ensure f).link impl = (p.link impl).ensure (f.link impl) := by
  rw [ensure, link_bindE, ensure]
  congr 1
  funext r
  rw [link_bindE]
  congr 1
  funext r'
  cases r' with
  | ok u => exact link_ofExcept impl r
  | error e => rfl

/-! ## The effects a program can issue -/

/-- Every effect the program can ever await satisfies `H`, whatever is answered. -/
def Uses (H : E → Prop) : {α : Type} → Prog E A ε α → Prop
  | _, .ret _ => True
  | _, .raise _ => True
  | _, .call c next => H c ∧ ∀ r, (next r).Uses H
  | _, .loop body next => body.Uses H ∧ ∀ r, (next r).Uses H

theorem Uses.bindE {H : E → Prop} {p : Prog E A ε α} {f : Except ε α → Prog E A ε γ}
    (hp : p.Uses H) (hf : ∀ r, (f r).Uses H) : (p.bindE f).Uses H := by
  induction p with
  | ret a => exact hf _
  | raise e => exact hf _
  | call c next ih => exact ⟨hp.1, fun r => ih r (hp.2 r) hf⟩
  | loop body next _ ih => exact ⟨hp.1, fun r => ih r (hp.2 r) hf⟩

theorem Uses.mono {H K : E → Prop} {p : Prog E A ε α} (hp : p.Uses H) (hk : ∀ c, H c → K c) :
    p.Uses K := by
  induction p with
  | ret a => trivial
  | raise e => trivial
  | call c next ih => exact ⟨hk c hp.1, fun r => ih r (hp.2 r)⟩
  | loop body next ihb ih => exact ⟨ihb hp.1, fun r => ih r (hp.2 r)⟩

theorem Uses.and {H K : E → Prop} {p : Prog E A ε α} (hp : p.Uses H) (kp : p.Uses K) :
    p.Uses fun c => H c ∧ K c := by
  induction p with
  | ret | raise => trivial
  | call c next ih => exact ⟨⟨hp.1, kp.1⟩, fun r => ih r (hp.2 r) (kp.2 r)⟩
  | loop body next ihb ih => exact ⟨ihb hp.1 kp.1, fun r => ih r (hp.2 r) (kp.2 r)⟩

theorem Uses.any (p : Prog E A ε α) : p.Uses fun _ => True := by
  induction p with
  | ret a => trivial
  | raise e => trivial
  | call c next ih => exact ⟨trivial, ih⟩
  | loop body next ihb ih => exact ⟨ihb, ih⟩

theorem Uses.ofExcept {H : E → Prop} (r : Except ε α) : (ofExcept r : Prog E A ε α).Uses H := by
  cases r <;> trivial

theorem Uses.andThen {H : E → Prop} {f : α → Prog E A ε β} (hf : ∀ a, (f a).Uses H)
    (r : Except ε α) : (andThen f r).Uses H := by
  cases r with
  | ok a => exact hf a
  | error e => trivial

theorem Uses.bind {H : E → Prop} {p : Prog E A ε α} {f : α → Prog E A ε β} (hp : p.Uses H)
    (hf : ∀ a, (f a).Uses H) : (p >>= f).Uses H :=
  hp.bindE (Uses.andThen hf)

theorem Uses.perform {H : E → Prop} {c : E} (h : H c) :
    (Prog.perform c : Prog E A ε (A c)).Uses H :=
  ⟨h, Uses.ofExcept⟩

theorem Uses.rescue {H : E → Prop} {p : Prog E A ε α} {f : ε → Prog E A ε α} (hp : p.Uses H)
    (hf : ∀ e, (f e).Uses H) : (p.rescue f).Uses H :=
  hp.bindE fun
    | .ok _ => trivial
    | .error e => hf e

theorem Uses.ensure {H : E → Prop} {p : Prog E A ε α} {f : Prog E A ε Unit} (hp : p.Uses H)
    (hf : f.Uses H) : (p.ensure f).Uses H :=
  hp.bindE fun r => hf.bindE fun
    | .ok _ => Uses.ofExcept r
    | .error _ => trivial

theorem Uses.forever {H : E → Prop} {p : Prog E A ε (Option β)} (hp : p.Uses H) :
    p.forever.Uses H :=
  ⟨hp, Uses.ofExcept⟩

theorem Uses.forEach {H : E → Prop} {f : β → Prog E A ε Unit} {bs : List β}
    (hf : ∀ b ∈ bs, (f b).Uses H) : (Prog.forEach f bs).Uses H := by
  induction bs with
  | nil => trivial
  | cons b bs ih =>
      exact (hf b (by simp)).bindE (Uses.andThen fun _ => ih fun x hx => hf x (by simp [hx]))

theorem Uses.link {H : E' → Prop} {impl : (c : E) → Prog E' A' ε (A c)} {K : E → Prop}
    (himpl : ∀ c, K c → (impl c).Uses H) {p : Prog E A ε α} (hp : p.Uses K) :
    (p.link impl).Uses H := by
  induction p with
  | ret a => trivial
  | raise e => trivial
  | call c next ih => exact (himpl c hp.1).bindE fun r => ih r (hp.2 r)
  | loop body next ihb ih => exact ⟨ihb hp.1, fun r => ih r (hp.2 r)⟩

theorem Uses.unroll {H : E → Prop} {body : Prog E A ε (Option β)}
    {next : Except ε β → Prog E A ε α} (h : (loop body next).Uses H) : (body.unroll next).Uses H :=
  h.1.bindE fun
    | .ok none => h
    | .ok (some _) => h.2 _
    | .error _ => h.2 _

/-! ## The outcomes a program can have -/

/-- Every outcome the program can have satisfies `R`, whatever is answered. -/
def Ends (R : Except ε α → Prop) : Prog E A ε α → Prop
  | .ret a => R (.ok a)
  | .raise e => R (.error e)
  | .call _ next => ∀ r, (next r).Ends R
  | .loop _ next => ∀ r, (next r).Ends R

theorem Ends.bindE {R : Except ε α → Prop} {R' : Except ε β → Prop} {p : Prog E A ε α}
    {f : Except ε α → Prog E A ε β} (hp : p.Ends R) (hf : ∀ r, R r → (f r).Ends R') :
    (p.bindE f).Ends R' := by
  induction p with
  | ret a => exact hf _ hp
  | raise e => exact hf _ hp
  | call c next ih => exact fun r => ih r (hp r) hf
  | loop body next _ ih => exact fun r => ih r (hp r) hf

theorem Ends.mono {R R' : Except ε α → Prop} {p : Prog E A ε α} (hp : p.Ends R)
    (imp : ∀ r, R r → R' r) : p.Ends R' := by
  induction p with
  | ret a => exact imp _ hp
  | raise e => exact imp _ hp
  | call c next ih => exact fun r => ih r (hp r) imp
  | loop body next _ ih => exact fun r => ih r (hp r) imp

theorem Ends.any (p : Prog E A ε α) : p.Ends fun _ => True := by
  induction p with
  | ret a => trivial
  | raise e => trivial
  | call c next ih => exact ih
  | loop body next _ ih => exact ih

theorem Ends.link (impl : (c : E) → Prog E' A' ε (A c)) {R : Except ε α → Prop}
    {p : Prog E A ε α} (hp : p.Ends R) : (p.link impl).Ends R := by
  induction p with
  | ret a => exact hp
  | raise e => exact hp
  | call c next ih => exact (Ends.any (impl c)).bindE fun r _ => ih r (hp r)
  | loop body next _ ih => exact fun r => ih r (hp r)

/-- Only the part behind the first one decides, if the conclusion allows every exception. -/
theorem Ends.bind {R : Except ε β → Prop} {p : Prog E A ε α} {f : α → Prog E A ε β}
    (raised : ∀ e, R (.error e)) (rest : ∀ a, (f a).Ends R) : (p >>= f).Ends R :=
  (Ends.any p).bindE fun r _ => by
    cases r with
    | ok a => exact rest a
    | error e => exact raised e

theorem Ends.attempt (p : Prog E A ε α) : p.attempt.Ends fun r => ∃ a, r = .ok a :=
  (Ends.any p).bindE fun r _ => ⟨r, rfl⟩

end Prog
end Async
