import RedditKafka.Stream.WorkerOutline

/-!
# Checkpoint safety

A checkpoint written while comments are processed covers only comments that are
done with: delivered, skipped as the session's own checkpoint, or recorded as
errors. The invariant accounts for every comment given so far: it is done with,
its message is still queued, or its failed delivery is still in the list that
the next flush takes.
-/
namespace RedditKafka
open Async

namespace World

/-- The comment is done with. -/
def Resolved (s : World) (j : Nat) : Prop :=
  (j, none) ∈ s.reports ∨
    (∃ comment checkpoint, s.given[j]? = some (comment, checkpoint) ∧
      StreamWorker.alreadyProcessed comment checkpoint = true) ∨
    j ∈ s.recorded

def Accounted (s : World) (j : Nat) : Prop :=
  s.Resolved j ∨ j ∈ s.queued ∨ ((∃ error, (j, some error) ∈ s.reports) ∧ s.deliveryErrors ≠ [])

def AllAccounted (s : World) : Prop := ∀ j, j < s.given.length → s.Accounted j

/-- All but the comment given last. -/
def OthersAccounted (s : World) : Prop := ∀ j, j + 1 < s.given.length → s.Accounted j

/-- Between two comments of a session that read `checkpoint`. -/
structure Between (checkpoint : Checkpoint) (s : World) : Prop where
  accounted : s.AllAccounted
  session : s.sessionCheckpoint = checkpoint

/-- After the message of `comment` has been produced. -/
structure Produced (comment : Comment) (checkpoint : Checkpoint) (s : World) : Prop extends
    Between checkpoint s where
  last : s.given.getLast? = some (comment, checkpoint)

/-- While `comment` is processed. -/
structure Processing (comment : Comment) (checkpoint : Checkpoint) (s : World) : Prop where
  accounted : s.OthersAccounted
  session : s.sessionCheckpoint = checkpoint
  last : s.given.getLast? = some (comment, checkpoint)

/-- The comment given last and its predecessors are all done with. -/
def Covered (s : World) (commentId : String) : Prop :=
  (∃ comment checkpoint, s.given.getLast? = some (comment, checkpoint) ∧ comment.id = commentId) ∧
    ∀ j, j < s.given.length → s.Resolved j

end World

/-- Where checkpoints are written, they cover only comments that are done with. -/
def checkpointPledge : WorkerEff → World → Prop
  | .setCheckpoint commentId _, s => s.Covered commentId
  | _, _ => True

namespace World

variable {s s' : World} {event : Event} {j : Nat}

theorem Resolved.tick (h : s.Resolved j) (moved : World.tick event s = some s') :
    s'.Resolved j := by
  cases event with
  | begin => cases moved
  | report message error =>
      simp only [World.tick] at moved
      split at moved <;> cases moved
      exact h.imp_left fun delivered => by simp [World.report, delivered]
  | stop | post | retain | clock => cases moved; exact h

theorem Accounted.tick (h : s.Accounted j) (moved : World.tick event s = some s') :
    s'.Accounted j := by
  obtain resolved | pending := h
  · exact .inl (resolved.tick moved)
  cases event with
  | begin => cases moved
  | report message error =>
      simp only [World.tick] at moved
      split at moved
      · cases moved
        obtain queued | ⟨⟨error', reported⟩, errors⟩ := pending
        · by_cases same : j = message
          · subst same
            cases error with
            | none => exact .inl (.inl (by simp [World.report]))
            | some text =>
                refine .inr (.inr ⟨⟨text, by simp [World.report]⟩, ?_⟩)
                simp [World.report, StreamWorker.onDelivery]
          · exact .inr (.inl ((List.mem_erase_of_ne same).mpr queued))
        · refine .inr (.inr ⟨⟨error', by simp [World.report, reported]⟩, ?_⟩)
          cases error <;> simp [World.report, StreamWorker.onDelivery, errors]
      · cases moved
  | stop | post | retain | clock => cases moved; exact .inr pending

end World

section settled

variable {o : Outside}

theorem settled_all : Settled (workerMachine o none) World.AllAccounted := by
  intro event s s' moved start j bound
  rw [(World.tick_still moved).given] at bound
  exact (start j bound).tick moved

theorem settled_others : Settled (workerMachine o none) World.OthersAccounted := by
  intro event s s' moved start j bound
  rw [(World.tick_still moved).given] at bound
  exact (start j bound).tick moved

theorem settled_between (checkpoint : Checkpoint) :
    Settled (workerMachine o none) (World.Between checkpoint) := by
  intro event s s' moved start
  exact ⟨settled_all event s s' moved start.accounted,
    (World.tick_still moved).sessionCheckpoint.trans start.session⟩

theorem settled_processing (comment : Comment) (checkpoint : Checkpoint) :
    Settled (workerMachine o none) (World.Processing comment checkpoint) := by
  intro event s s' moved start
  have still := World.tick_still moved
  exact ⟨settled_others event s s' moved start.accounted,
    still.sessionCheckpoint.trans start.session, by rw [still.given]; exact start.last⟩

theorem settled_produced (comment : Comment) (checkpoint : Checkpoint) :
    Settled (workerMachine o none) (World.Produced comment checkpoint) := by
  intro event s s' moved start
  exact ⟨settled_between checkpoint event s s' moved start.toBetween,
    by rw [(World.tick_still moved).given]; exact start.last⟩

theorem settled_covered (commentId : String) :
    Settled (workerMachine o none) fun s => s.Covered commentId := by
  intro event s s' moved start
  have same := (World.tick_still moved).given
  refine ⟨by rw [same]; exact start.1, fun j bound => ?_⟩
  rw [same] at bound
  exact (start.2 j bound).tick moved

/-- An empty queue stays empty until the next `produce`. -/
theorem settled_drained : Settled (workerMachine o none) fun s => s.queued = [] := by
  intro event s s' moved start
  cases event with
  | begin => cases moved
  | report message error => simp [workerMachine, World.tick, start] at moved
  | stop | post | retain | clock => cases moved; exact start

end settled

namespace World

variable {s : World} {comment : Comment} {checkpoint : Checkpoint}

theorem Processing.last_index (h : s.Processing comment checkpoint) :
    s.given[s.current]? = some (comment, checkpoint) ∧ s.current + 1 = s.given.length := by
  have last := h.last
  rw [List.getLast?_eq_getElem?] at last
  obtain ⟨bound, -⟩ := List.getElem?_eq_some_iff.mp last
  exact ⟨last, by simp only [current]; omega⟩

/-- The comment given last is the only one that still has to be accounted for. -/
theorem Processing.between (h : s.Processing comment checkpoint)
    (own : s.Accounted s.current) : s.Between checkpoint := by
  refine ⟨fun j bound => ?_, h.session⟩
  by_cases last : j + 1 < s.given.length
  · exact h.accounted j last
  · have := h.last_index.2
    rwa [show j = s.current by omega]

theorem Between.give (h : s.Between checkpoint) :
    (s.give comment).Processing comment checkpoint := by
  refine ⟨fun j bound => ?_, h.session, by simp [World.give, h.session]⟩
  have old : j < s.given.length := by simpa [World.give] using bound
  refine (h.accounted j old).imp_left (Or.imp_right (Or.imp_left ?_))
  rintro ⟨comment', checkpoint', found, skipped⟩
  exact ⟨comment', checkpoint', by simp [World.give, List.getElem?_append_left old, found], skipped⟩

theorem Processing.skip (h : s.Processing comment checkpoint)
    (skipped : StreamWorker.alreadyProcessed comment checkpoint = true) : s.Between checkpoint :=
  h.between (.inl (.inr (.inl ⟨comment, checkpoint, h.last_index.1, skipped⟩)))

theorem Accounted.produce {j : Nat} (h : s.Accounted j) : s.produce.Accounted j :=
  h.imp_right (Or.imp_left fun queued => by simp [World.produce, queued])

theorem Processing.produce (h : s.Processing comment checkpoint) :
    s.produce.Produced comment checkpoint := by
  have after : s.produce.Processing comment checkpoint :=
    ⟨fun j bound => (h.accounted j bound).produce, h.session, h.last⟩
  exact ⟨after.between (.inr (.inl (by simp [World.produce, World.current]))), h.last⟩

theorem Accounted.recordError {j : Nat} (h : s.Accounted j) (errorType : String) :
    (s.recordError errorType).Accounted j := by
  unfold World.recordError
  split
  · exact h.imp_left (Or.imp_right (Or.imp_right fun recorded => by simp [recorded]))
  · exact h

theorem recordError_given (errorType : String) : (s.recordError errorType).given = s.given := by
  unfold World.recordError
  split <;> rfl

theorem AllAccounted.recordError (h : s.AllAccounted) (errorType : String) :
    (s.recordError errorType).AllAccounted := by
  intro j bound
  rw [recordError_given] at bound
  exact (h j bound).recordError errorType

theorem Processing.recordError (h : s.Processing comment checkpoint) :
    (s.recordError "CommentProcessingError").Between checkpoint := by
  have after : (s.recordError "CommentProcessingError").Processing comment checkpoint :=
    ⟨fun j bound => (h.accounted j bound).recordError _, h.session, h.last⟩
  exact after.between (.inl (.inr (.inr (by simp [World.recordError, World.current]))))

/-- With an empty queue and no delivery error left, every comment is done with. -/
theorem Accounted.resolved {j : Nat} (h : s.Accounted j) (drained : s.queued = [])
    (clean : s.deliveryErrors = []) : s.Resolved j := by
  obtain resolved | queued | ⟨-, errors⟩ := h
  · exact resolved
  · simp [drained] at queued
  · exact absurd clean errors

end World

/-! ## The outline -/

section outline

variable {o : Outside}

def checkpointStage : Stage → World → Prop
  | .rest, s => s.AllAccounted ∨ s.stopEvent = true
  | .ready, s => s.AllAccounted
  | .begun checkpoint, s | .idle checkpoint, s => s.Between checkpoint
  | .busy comment checkpoint, s => s.Processing comment checkpoint
  | .made comment checkpoint, s | .counted comment checkpoint, s
  | .saved comment checkpoint, s => s.Produced comment checkpoint
  | .drained remaining comment checkpoint, s =>
      s.Produced comment checkpoint ∧ (remaining = 0 → s.queued = [])
  | .flushed comment checkpoint, s => s.Produced comment checkpoint ∧ s.Covered comment.id

theorem checkpointStage_settled (stage : Stage) :
    Settled (workerMachine o none) (checkpointStage stage) := by
  cases stage with
  | rest =>
      exact fun event a b moved start =>
        start.imp (settled_all event a b moved) (settled_stop event a b moved)
  | ready => exact settled_all
  | begun k | idle k => exact settled_between k
  | busy c k => exact settled_processing c k
  | made c k | counted c k | saved c k => exact settled_produced c k
  | drained n c k =>
      exact (settled_produced c k).and fun event a b moved start none =>
        settled_drained event a b moved (start none)
  | flushed c k => exact (settled_produced c k).and (settled_covered c.id)

/-- The accounting survives every stage of the loop. When the worker stops, the comment
given last is left alone, and no later stage writes a checkpoint. -/
def checkpointOutline (drains : ∀ s, o.flushReturns s 0 = true → s.queued = [])
    (w : StreamWorker) : Outline o none (fun _ _ => True) checkpointPledge w where
  holds := checkpointStage
  always _ := True
  settled := checkpointStage_settled
  always_of _ _ _ := trivial
  always_same _ _ _ _ := trivial
  quiet c s watched := by cases c <;> trivial
  breaker stage s b holds := by
    cases stage with
    | rest | ready => exact holds
    | begun k | idle k => exact ⟨holds.accounted, holds.session⟩
    | busy c k => exact ⟨holds.accounted, holds.session, holds.last⟩
    | made c k | counted c k | saved c k => exact ⟨⟨holds.accounted, holds.session⟩, holds.last⟩
    | drained n c k | flushed c k =>
        exact ⟨⟨⟨holds.1.accounted, holds.1.session⟩, holds.1.last⟩, holds.2⟩
  record s kind rest := rest.imp (fun all => all.recordError kind) fun stop => by
    unfold World.recordError
    split <;> exact stop
  goes s rest running := rest.resolve_right (by simp [running])
  unread s all := .inl all
  read s all := ⟨all, rfl⟩
  unopened k s begun := .inl begun.accounted
  opened k s begun _ := ⟨begun.accounted, begun.session⟩
  closed k s idle := .inl idle.accounted
  yielded c k s idle _ := idle.give
  stopped c k s _ stop := .inr stop
  skipped c k s busy read := busy.skip read
  produced c k s s₁ now m topic payload key busy _ _ _ _ := ⟨trivial, busy.produce⟩
  recorded c k s busy _ := busy.recordError
  counts c k s made := ⟨⟨made.accounted, made.session⟩, made.last⟩
  more c k s counted _ := counted.toBetween
  drained n c k s counted _ returned := ⟨counted, fun none => drains s (none ▸ returned)⟩
  flushed c k s drained clean := by
    have covered : ∀ j, j < s.given.length → s.Resolved j := fun j bound =>
      (drained.1.accounted j bound).resolved (drained.2 rfl) clean
    exact ⟨⟨⟨fun j bound => .inl (covered j bound), drained.1.session⟩, drained.1.last⟩,
      ⟨c, k, drained.1.last, rfl⟩, covered⟩
  saves c k s time flushed := flushed.2
  saved c k s time written flushed :=
    ⟨⟨flushed.1.accounted, flushed.1.session⟩, flushed.1.last⟩
  lost c k s flushed _ := flushed.1
  reset c k s saved := ⟨saved.accounted, saved.session⟩

end outline

/-- Checkpoint safety: a checkpoint that is about to be stored names the comment given
last, and that comment and all before it are done with. -/
theorem checkpoint_covers_done_comments (w : StreamWorker) (o : Outside)
    (drains : ∀ s, o.flushReturns s 0 = true → s.queued = []) (s₀ : World)
    {c : Config WorkerEff WorkerEff.Answer PyExc World Unit}
    (reached : (workerMachine o none).Reaches (workerConfig w.streamLoop s₀) c)
    {commentId time : String} (saving : c.Awaits () (.setCheckpoint commentId time)) :
    c.state.Covered commentId :=
  have start : checkpointStage .rest s₀.newHistory.begin :=
    .inl fun j bound => absurd bound (Nat.not_lt_zero j)
  ((checkpointOutline drains w).orderly start reached).pledged saving

/-- A run in which the first comment is delivered while its batch is flushed. -/
theorem checkpoint_covers_delivered_comment :
    ∃ c, (workerMachine {} none).Reaches (workerConfig (StreamWorker.streamLoop
        { newsWorker with checkpointInterval := 1 }) {}) c ∧
      c.Awaits () (.setCheckpoint "c1" "now") ∧ c.state.Covered "c1" := by
  have run : ((workerMachine {} none).exec
      [.unroll (), .call () .done, .call () (.later 0), .call () .done, .call () .done,
        .call () .done, .unroll (), .call () (.comment (some ⟨"c1", none, "text"⟩)),
        .call () .done, .call () .done, .call () .done, .call () (.text "now"),
        .call () (.payload (some ⟨#[]⟩)), .call () .done, .call () .done, .call () .done,
        .call () .done, .tick (.report 0 none), .call () (.count 0), .call () .done,
        .call () (.text "now")]
      (workerConfig (StreamWorker.streamLoop
        { newsWorker with checkpointInterval := 1 }) {})).map (·.awaited ()) =
        some (some (.setCheckpoint "c1" "now")) := by rfl
  obtain ⟨c, reached, waits⟩ := Machine.Reaches.of_exec_map run
  have saving := Config.awaits_iff.mpr waits
  refine ⟨c, reached, saving, checkpoint_covers_done_comments _ _ (fun s drained => ?_) _ reached saving⟩
  simpa [eq_comm] using drained

end RedditKafka
