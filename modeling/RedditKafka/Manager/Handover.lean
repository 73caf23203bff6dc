import RedditKafka.Manager.Service
import RedditKafka.Stream.WorkerEffects

/-!
# The last save of a worker that lost its lease

Workers of one stream that shut down after the loss of the lease, beside the
saves of the worker that holds it now, interleaved between single commands. The
final save reads the checkpoint and writes the comment id back, without a look
at the lease.
-/
namespace RedditKafka
open Async Redis StreamRegistry DistributedLockManager

inductive Party where
  | former (worker : Nat)
  | holder (save : Nat)
  deriving DecidableEq, Repr

inductive HandoverEvent where
  | shutDown (w : StreamWorker)
  | save (w : StreamWorker) (commentId : String)
  | elapse (milliseconds : Nat)

structure Handover where
  redis : Store := {}
  /-- The comment id that the holder wrote last; before its first save, the stored one. -/
  newest : Option String := none
  /-- The comment id in the checkpoint that a former worker has read. -/
  seen : Nat → Option String := fun _ => none

namespace Handover

variable (streamId : String)

/-- The stored comment id. -/
def stored (s : Handover) : Option String := s.redis.hget (checkpointKey streamId) "last_comment_id"

def note (t : Party) (c : RedisCmd) (s : Handover) : Handover :=
  match t, c with
  | .former worker, .hgetall _ =>
      { s with seen := Function.update s.seen worker (s.stored streamId) }
  | .holder _, .hset _ mapping => { s with newest := mapping.lookup "last_comment_id" }
  | _, _ => s

def execute (t : Party) (c : RedisCmd) (s : Handover) : Handover :=
  { s.note streamId t c with redis := (c.run s.redis).2 }

def answer (t : Party) : (c : Effect) → Turn → Handover →
    Option (Except PyExc c.Answer × Handover)
  | .redis c, .answered, s => some ((c.run s.redis).1, s.execute streamId t c)
  | .redis _, .raised e, s => some (.error e, s)
  | .redis c, .raisedAfter e, s => some (.error e, s.execute streamId t c)
  | .nowIso, .named text, s => some (.ok text, s)
  | _, _, _ => none

def start : Party → HandoverEvent → Handover → Option (Program Unit × Handover)
  | .former _, .shutDown w, s | .holder _, .shutDown w, s =>
      if w.streamId = streamId then some (w.served (StreamWorker.shutDown true), s) else none
  | .holder _, .save w commentId, s =>
      if w.streamId = streamId then
        some (w.served (StreamWorker.saveCheckpointForCommentId commentId), s)
      else none
  | _, _, _ => none

def tick : HandoverEvent → Handover → Option Handover
  | .elapse n, s => some { s with redis := s.redis.elapse n }
  | _, _ => none

end Handover

/-- Any command may fail, before or after it was executed, and any await may be cancelled. -/
def handoverMachine (streamId : String) :
    Machine Effect Effect.Answer PyExc Handover Party Turn HandoverEvent where
  answer := Handover.answer streamId
  start := Handover.start streamId
  finish _ _ s := s
  tick := Handover.tick

def handoverConfig (streamId : String) (store : Store) :
    Config Effect Effect.Answer PyExc Handover Party :=
  Config.initial
    { redis := store, newest := store.hget (checkpointKey streamId) "last_comment_id" }

/-- The save of a former worker lands while the id that it has read is the newest one. -/
def unsurpassed (t : Party) (c : Effect) (s : Handover) : Bool :=
  match t, c with
  | .former worker, .redis (.hset _ _) => s.seen worker = s.newest
  | _, _ => true

/-- What the parties wait for; a former worker writes the id that it has read. -/
inductive Handover.Expects (streamId : String) (t : Party) (s : Handover) : Effect → Prop
  | nowIso : Expects streamId t s .nowIso
  | read : Expects streamId t s (.redis (.hgetall (checkpointKey streamId)))
  | save {commentId processedAt now : String}
      (read : ∀ worker, t = .former worker → s.seen worker = some commentId) :
      Expects streamId t s (.redis (.hset (checkpointKey streamId)
        [("last_comment_id", commentId), ("last_processed_at", processedAt), ("updated_at", now)]))
  | release (subreddit token : String) :
      Expects streamId t s (.redis (.eval (.deleteIfOwner (lockKey subreddit) token)))

def handoverDiscipline (streamId : String) : Discipline Effect Handover Party where
  inv s := s.stored streamId = s.newest
  keeps
    | .former worker, s, s' => s'.seen worker = s.seen worker
    | .holder _, _, _ => True
  keeps_refl t s := by cases t <;> simp
  keeps_trans t a b c first second := by
    cases t with
    | former worker => exact second.trans first
    | holder save => trivial
  ok t c s := unsurpassed t c s = true
  pledge t c s := s.Expects streamId t c

namespace Handover

variable {streamId : String} {t : Party} {c : Effect} {s s' : Handover}

/-- What a save writes is what is stored afterwards. -/
theorem stored_save {commentId processedAt now : String} :
    (s.execute streamId t (.hset (checkpointKey streamId) [("last_comment_id", commentId),
      ("last_processed_at", processedAt), ("updated_at", now)])).stored streamId = some commentId := by
  simp [execute, stored, RedisCmd.run, Store.hget]

theorem execute_inv (hs : s.stored streamId = s.newest) {cmd : RedisCmd}
    (expected : s.Expects streamId t (.redis cmd))
    (allowed : unsurpassed t (.redis cmd) s = true) :
    (s.execute streamId t cmd).stored streamId = (s.execute streamId t cmd).newest := by
  cases expected with
  | read => cases t <;> exact hs
  | @save commentId processedAt now read =>
      rw [stored_save]
      cases t with
      | former worker =>
          have newest : s.seen worker = s.newest := by simpa [unsurpassed] using allowed
          exact (read worker rfl).symm.trans newest
      | holder save => rfl
  | release subreddit token =>
      have kept : ((RedisCmd.eval (.deleteIfOwner (lockKey subreddit) token)).run s.redis).2.hashes
          (checkpointKey streamId) = s.redis.hashes (checkpointKey streamId) := by
        simp only [RedisCmd.run, Script.run]
        split <;> simp
      cases t <;> simpa [execute, note, stored, Store.hget, kept] using hs

/-- A read changes what one former worker has seen, and nothing else does. -/
theorem execute_seen {cmd : RedisCmd} {worker : Nat} (other : Party.former worker ≠ t) :
    (s.execute streamId t cmd).seen worker = s.seen worker := by
  cases t with
  | former reader =>
      have ne : worker ≠ reader := fun same => other (congrArg _ same)
      cases cmd <;> simp [execute, note, ne]
  | holder save => cases cmd <;> rfl

/-- Either the command was executed, or nothing has happened. -/
theorem answer_redis {cmd : RedisCmd} {turn : Turn} {r : Except PyExc cmd.Reply}
    (answered : Handover.answer streamId t (.redis cmd) turn s = some (r, s')) :
    (s' = s ∧ ∃ e, r = .error e) ∨
      (s' = s.execute streamId t cmd ∧ (r = (cmd.run s.redis).1 ∨ ∃ e, r = .error e)) := by
  cases turn with
  | answered => cases answered; exact .inr ⟨rfl, .inl rfl⟩
  | raised e => cases answered; exact .inl ⟨rfl, e, rfl⟩
  | raisedAfter e => cases answered; exact .inr ⟨rfl, .inr ⟨e, rfl⟩⟩
  | named | worker => cases answered

theorem answer_nowIso {turn : Turn} {r : Except PyExc String}
    (answered : Handover.answer streamId t .nowIso turn s = some (r, s')) :
    s' = s ∧ ∃ now, r = .ok now := by
  cases turn with
  | named now => cases answered; exact ⟨rfl, now, rfl⟩
  | answered | raised | raisedAfter | worker => cases answered

theorem answer_inv {turn : Turn} {r : Except PyExc c.Answer}
    (hs : (handoverDiscipline streamId).inv s) (expected : s.Expects streamId t c)
    (allowed : unsurpassed t c s = true)
    (answered : Handover.answer streamId t c turn s = some (r, s')) :
    (handoverDiscipline streamId).inv s' ∧
      ∀ u, u ≠ t → (handoverDiscipline streamId).keeps u s s' := by
  have kept : ∀ cmd, c = .redis cmd → (handoverDiscipline streamId).inv s' ∧
      ∀ u, u ≠ t → (handoverDiscipline streamId).keeps u s s' := by
    rintro cmd rfl
    obtain ⟨rfl, -⟩ | ⟨rfl, -⟩ := answer_redis answered
    · exact ⟨hs, fun u _ => (handoverDiscipline streamId).keeps_refl u _⟩
    · refine ⟨execute_inv hs expected allowed, fun u other => ?_⟩
      cases u with
      | former worker => exact execute_seen other
      | holder save => trivial
  cases expected with
  | nowIso =>
      obtain ⟨rfl, -⟩ := answer_nowIso answered
      exact ⟨hs, fun u _ => (handoverDiscipline streamId).keeps_refl u _⟩
  | read => exact kept _ rfl
  | save read => exact kept _ rfl
  | release subreddit token => exact kept _ rfl

end Handover

section programs

variable {streamId : String} {t : Party} {s : Handover} {w : StreamWorker} {α β : Type}

abbrev HandoverSafe (streamId : String) (t : Party) (p : Program α)
    (Q : Except PyExc α → Handover → Prop) (s : Handover) : Prop :=
  Safe (handoverMachine streamId) (handoverDiscipline streamId) t p Q s

namespace HandoverSafe

/-- One expected effect, in front of the rest of the program. -/
theorem await {c : Effect} {f : c.Answer → Program β} {Q : Except PyExc β → Handover → Prop}
    (expected : ∀ s₁, (handoverDiscipline streamId).keeps t s s₁ → s₁.Expects streamId t c)
    (rest : ∀ s₁ turn r s₂, (handoverDiscipline streamId).keeps t s s₁ →
      Handover.answer streamId t c turn s₁ = some (r, s₂) → (handoverDiscipline streamId).inv s₂ →
      HandoverSafe streamId t (Prog.andThen f r) Q s₂) :
    HandoverSafe streamId t (Prog.perform c >>= f) Q s := by
  refine Safe.await fun s₁ kept hs₁ => ⟨expected s₁ kept, fun allowed turn r s₂ answered => ?_⟩
  obtain ⟨hs₂, others⟩ := Handover.answer_inv hs₁ (expected s₁ kept) allowed answered
  exact ⟨hs₂, others, rest s₁ turn r s₂ kept answered hs₂⟩

/-- One expected effect at the end of a program. -/
theorem perform {c : Effect}
    (expected : ∀ s₁, (handoverDiscipline streamId).keeps t s s₁ → s₁.Expects streamId t c) :
    HandoverSafe streamId t (Prog.perform c) (fun _ _ => True) s := by
  rw [← Prog.bindE_ofExcept (Prog.perform c)]
  refine await (f := Prog.ret) expected fun s₁ turn r s₂ _ _ _ => ?_
  cases r <;> trivial

end HandoverSafe

/-- A save, by the holder or of the id that the former worker has read. -/
theorem saveCheckpointForCommentId_handover {commentId : String} (here : w.streamId = streamId)
    (hs : (handoverDiscipline streamId).inv s)
    (read : ∀ worker, t = .former worker → s.seen worker = some commentId) :
    HandoverSafe streamId t (w.served (StreamWorker.saveCheckpointForCommentId commentId))
      (fun _ _ => True) s := by
  rw [StreamWorker.saveCheckpointForCommentId, StreamWorker.served_exceptException,
    StreamWorker.served_bind, StreamWorker.served_await]
  refine Safe.exceptException hs (P := fun _ _ => True) ?_ (fun _ _ _ _ => trivial)
    (fun _ _ _ _ _ => trivial) fun _ _ _ _ _ => trivial
  refine HandoverSafe.await (fun _ _ => .nowIso) fun s₁ turn r s₂ kept answered hs₂ => ?_
  obtain ⟨rfl, processedAt, rfl⟩ := Handover.answer_nowIso answered
  rw [Prog.andThen, StreamWorker.served_await]
  refine HandoverSafe.await (fun _ _ => .nowIso) fun s₃ turn r s₄ kept₂ answered hs₄ => ?_
  obtain ⟨rfl, now, rfl⟩ := Handover.answer_nowIso answered
  refine HandoverSafe.perform fun s₅ kept₃ => here ▸ .save fun worker same => ?_
  subst same
  exact (kept₃.trans (kept₂.trans kept)).trans (read worker rfl)

/-- What a former worker gets is what it has read. -/
theorem getCheckpoint_handover :
    HandoverSafe streamId t (getCheckpoint streamId) (fun r s' => ∀ checkpoint, r = .ok checkpoint →
      ∀ worker, t = .former worker → s'.seen worker = checkpoint.lastCommentId) s := by
  refine HandoverSafe.await (fun _ _ => .read) fun s₁ turn r s₂ kept answered hs₂ => ?_
  obtain ⟨-, e, rfl⟩ | ⟨rfl, rfl | ⟨e, rfl⟩⟩ := Handover.answer_redis answered
  · intro _ failed
    cases failed
  · rintro _ ⟨⟩ worker rfl
    simp [Handover.execute, Handover.note, Handover.stored, Store.hget]
  · intro _ failed
    cases failed

/-- The final save writes back what it has read, whoever makes it. -/
theorem saveCheckpoint_handover (here : w.streamId = streamId)
    (hs : (handoverDiscipline streamId).inv s) :
    HandoverSafe streamId t (w.served StreamWorker.saveCheckpoint) (fun _ _ => True) s := by
  subst here
  rw [StreamWorker.saveCheckpoint, StreamWorker.served_bind, StreamWorker.served_await]
  refine Safe.bind hs getCheckpoint_handover (fun checkpoint s' hs' read => ?_) fun _ _ _ _ => trivial
  cases found : checkpoint.lastCommentId with
  | none => trivial
  | some lastCommentId =>
      by_cases empty : lastCommentId = ""
      · simp only [empty, ne_eq, not_true_eq_false, if_false]
        trivial
      · simp only [ne_eq, empty, not_false_eq_true, if_true]
        exact saveCheckpointForCommentId_handover rfl hs' fun worker same =>
          (read checkpoint rfl worker same).trans found

theorem shutDown_handover (here : w.streamId = streamId) (hs : (handoverDiscipline streamId).inv s)
    (shutdownEvent : Bool) :
    HandoverSafe streamId t (w.served (StreamWorker.shutDown shutdownEvent)) (fun _ _ => True) s := by
  have release {s : Handover} (hs : (handoverDiscipline streamId).inv s) : HandoverSafe streamId t
      (w.served (exceptException (RedditKafka.await .releaseLock) fun _ => pure ()))
      (fun _ _ => True) s := by
    rw [StreamWorker.served_exceptException, StreamWorker.served_await]
    refine Safe.exceptException hs (P := fun _ _ => True) ?_ (fun _ _ _ _ => trivial)
      (fun _ _ _ _ _ => trivial) fun _ _ _ _ _ => trivial
    refine HandoverSafe.await (fun _ _ => .release _ _) fun s₁ turn r s₂ _ _ _ => ?_
    cases r <;> trivial
  rw [StreamWorker.shutDown]
  cases shutdownEvent with
  | false => exact release hs
  | true =>
      rw [if_pos rfl, StreamWorker.served_bind, StreamWorker.served_exceptException]
      refine Safe.bind hs (P := fun _ _ => True) ?_ (fun _ s' hs' _ => release hs')
        fun _ _ _ _ => trivial
      exact Safe.exceptException hs (P := fun _ _ => True) (saveCheckpoint_handover here hs)
        (fun _ _ _ _ => trivial) (fun _ _ _ _ _ => trivial) fun _ _ _ _ _ => trivial

theorem handover_sound :
    Sound (handoverMachine streamId) (handoverDiscipline streamId) fun _ _ _ => True where
  post_stable _ _ _ _ _ _ _ := trivial
  start t request s p s' hs started := by
    have others u (_ : u ≠ t) := (handoverDiscipline streamId).keeps_refl u s
    cases t with
    | former worker =>
        cases request with
        | shutDown w =>
            obtain ⟨here, same⟩ := Option.ite_none_right_eq_some.mp started
            cases same
            exact ⟨hs, others, shutDown_handover here hs true⟩
        | save | elapse => cases started
    | holder save =>
        cases request with
        | shutDown w =>
            obtain ⟨here, same⟩ := Option.ite_none_right_eq_some.mp started
            cases same
            exact ⟨hs, others, shutDown_handover here hs true⟩
        | save w commentId =>
            obtain ⟨here, same⟩ := Option.ite_none_right_eq_some.mp started
            cases same
            exact ⟨hs, others,
              saveCheckpointForCommentId_handover here hs fun worker same => by cases same⟩
        | elapse => cases started
  finish t _ s hs _ := ⟨hs, fun u _ => (handoverDiscipline streamId).keeps_refl u s⟩
  tick event s s' hs ticked := by
    cases event with
    | elapse n =>
        cases ticked
        exact ⟨hs, fun u => by cases u <;> trivial⟩
    | shutDown | save => cases ticked

end programs

/-- The checkpoint `t1` of a stream that is handed over. -/
def handedOver : Config Effect Effect.Answer PyExc Handover Party :=
  handoverConfig "s" (Store.hset {} (checkpointKey "s") [("last_comment_id", "t1")])

/-- A save of the next comment by the holder, from its beginning to its end. -/
def holderSaves (w : StreamWorker) : List (Action Party Turn HandoverEvent) :=
  [.start (.holder 0) (.save w "t2"), .call (.holder 0) (.named "now"),
    .call (.holder 0) (.named "now"), .call (.holder 0) .answered, .finish (.holder 0)]

/-- The rest of a final save that has read the checkpoint, and the release. -/
def formerSaves : List (Action Party Turn HandoverEvent) :=
  [.call (.former 0) (.named "now"), .call (.former 0) (.named "now"),
    .call (.former 0) .answered, .call (.former 0) .answered, .finish (.former 0)]

end RedditKafka
