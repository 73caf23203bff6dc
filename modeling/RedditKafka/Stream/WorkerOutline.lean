import RedditKafka.Stream.WorkerEffects

/-!
# A proof outline of the stream loop

The points of the loop at which a specification says something are stages. An
outline gives an assertion for each stage and shows that the effect between two
stages carries one to the next. The theorems follow the functions of the worker
from the inside out; each later claim about the loop is one outline.
-/
namespace RedditKafka
open Async

inductive Stage where
  /-- Between two sessions. -/
  | rest
  /-- The loop goes on to another session. -/
  | ready
  /-- The session has read its checkpoint. -/
  | begun (checkpoint : Checkpoint)
  /-- Between two comments of a session. -/
  | idle (checkpoint : Checkpoint)
  /-- A comment has been given. -/
  | busy (comment : Comment) (checkpoint : Checkpoint)
  /-- The producer has accepted its message. -/
  | made (comment : Comment) (checkpoint : Checkpoint)
  | counted (comment : Comment) (checkpoint : Checkpoint)
  /-- The flush has returned this number of messages. -/
  | drained (remaining : Nat) (comment : Comment) (checkpoint : Checkpoint)
  /-- The batch has been delivered. -/
  | flushed (comment : Comment) (checkpoint : Checkpoint)
  /-- The write of the checkpoint has been tried. -/
  | saved (comment : Comment) (checkpoint : Checkpoint)

namespace World

/-- The two worlds tell the same about the stream: only the worker's own attributes and
the delivery reports may differ. -/
structure SameStream (s s' : World) : Prop where
  checkpoint : s'.checkpoint = s.checkpoint
  sessionCheckpoint : s'.sessionCheckpoint = s.sessionCheckpoint
  feed : s'.feed = s.feed
  published : s'.published = s.published
  publishedBefore : s'.publishedBefore = s.publishedBefore
  firstOpened : s'.firstOpened = s.firstOpened
  posted : s.posted ≤ s'.posted

theorem Still.sameStream {s s' : World} (still : s.Still s') : s.SameStream s' :=
  ⟨still.checkpoint, still.sessionCheckpoint, still.feed, still.published, still.publishedBefore,
    still.firstOpened, still.posted⟩

theorem recordError_sameStream (s : World) (kind : String) : s.SameStream (s.recordError kind) := by
  unfold World.recordError
  split <;> exact ⟨rfl, rfl, rfl, rfl, rfl, rfl, le_rfl⟩

end World

/-- The effects at which an outline has to keep a pledge. -/
def WorkerEff.watched : WorkerEff → Bool
  | .produce _ _ _ | .setCheckpoint _ _ => true
  | _ => false

structure Outline (o : Outside) (restart : Option (Coroutine Unit))
    (ok pledge : WorkerEff → World → Prop) (w : StreamWorker) where
  holds : Stage → World → Prop
  /-- What holds at every moment, and once the loop has ended. -/
  always : World → Prop
  settled : ∀ stage, Settled (workerMachine o restart) (holds stage)
  always_of : ∀ stage s, holds stage s → always s
  always_same : ∀ s s', s.SameStream s' → always s → always s'
  quiet : ∀ c s, c.watched = false → pledge c s
  breaker : ∀ stage s b, holds stage s → holds stage { s with breaker := b }
  record : ∀ s kind, holds .rest s → holds .rest (s.recordError kind)
  goes : ∀ s, holds .rest s → s.stopEvent = false → holds .ready s
  unread : ∀ s, holds .ready s → holds .rest s
  read : ∀ s, holds .ready s → holds (.begun s.checkpoint) s.readCheckpoint
  unopened : ∀ k s, holds (.begun k) s → holds .rest s
  opened : ∀ k s, holds (.begun k) s → ok (.openComments k.lastCommentId.isNone) s →
    holds (.idle k) (s.openComments k.lastCommentId.isNone)
  closed : ∀ k s, holds (.idle k) s → holds .rest s
  yielded : ∀ c k s, holds (.idle k) s → o.yields s c = true → holds (.busy c k) (s.give c)
  stopped : ∀ c k s, holds (.busy c k) s → s.stopEvent = true → holds .rest s
  skipped : ∀ c k s, holds (.busy c k) s → StreamWorker.alreadyProcessed c k = true →
    holds (.idle k) s
  produced : ∀ c k s s₁ now m topic payload key, holds (.busy c k) s → holds (.busy c k) s₁ →
    StreamWorker.alreadyProcessed c k = false → (w.messageOf c now).build = .ok m →
    o.serializes s₁ true = true →
    pledge (.produce topic payload key) s ∧ holds (.made c k) s.produce
  recorded : ∀ c k s, holds (.busy c k) s →
    ((∃ now e, (w.messageOf c now).build = .error e) ∨
      ∃ s₁, holds (.busy c k) s₁ ∧ o.serializes s₁ false = true) →
    holds (.idle k) (s.recordError "CommentProcessingError")
  counts : ∀ c k s, holds (.made c k) s →
    holds (.counted c k) { s with commentsSinceCheckpoint := s.commentsSinceCheckpoint + 1 }
  more : ∀ c k s, holds (.counted c k) s → s.commentsSinceCheckpoint < w.checkpointInterval →
    holds (.idle k) s
  drained : ∀ n c k s, holds (.counted c k) s → w.checkpointInterval ≤ s.commentsSinceCheckpoint →
    o.flushReturns s n = true → holds (.drained n c k) s
  flushed : ∀ c k s, holds (.drained 0 c k) s → s.deliveryErrors = [] →
    holds (.flushed c k) { s with deliveryErrors := [] }
  saves : ∀ c k s time, holds (.flushed c k) s → pledge (.setCheckpoint c.id time) s
  saved : ∀ c k s time written, holds (.flushed c k) s →
    holds (.saved c k) (s.setCheckpoint c.id time written)
  lost : ∀ c k s, holds (.flushed c k) s → o.losesCheckpoint s c.id = true → holds (.saved c k) s
  reset : ∀ c k s, holds (.saved c k) s → holds (.idle k) { s with commentsSinceCheckpoint := 0 }

namespace Outline

variable {o : Outside} {restart : Option (Coroutine Unit)} {ok pledge : WorkerEff → World → Prop}
  {w : StreamWorker} (h : Outline o restart ok pledge w) {s : World} {c : Comment} {k : Checkpoint}

/-- An exception after which the loop does not go on. -/
def Fatal (e : PyExc) : Prop := e.isException = false ∨ ∃ message, e = .kafkaDeliveryError message

/-- What a session leaves behind when it raises. -/
def Left (e : PyExc) (s : World) : Prop := h.holds .rest s ∨ Fatal e

/-- The comment was refused before it reached the producer. -/
def Refused (c : Comment) (k : Checkpoint) : Prop :=
  (∃ now e, (w.messageOf c now).build = .error e) ∨
    ∃ s, h.holds (.busy c k) s ∧ o.serializes s false = true

theorem settled_always : Settled (workerMachine o restart) h.always := fun _ a b moved start =>
  h.always_same a b (World.tick_still moved).sameStream start

theorem settled_left (e : PyExc) : Settled (workerMachine o restart) (h.Left e) :=
  fun event a b moved start => start.imp_left (h.settled .rest event a b moved)

theorem always_record {kind : String} (start : h.always s) : h.always (s.recordError kind) :=
  h.always_same s _ (s.recordError_sameStream kind) start

theorem Left.breaker {e : PyExc} (left : h.Left e s) (b : CircuitBreaker) :
    h.Left e { s with breaker := b } :=
  left.imp_left (h.breaker .rest s b)

/-! ## One comment -/

/-- What `publish` leaves behind when it raises. -/
def Unpublished (c : Comment) (k : Checkpoint) (e : PyExc) (s : World) : Prop :=
  Fatal e ∨ (e.foreign = true ∧ h.holds (.busy c k) s ∧ h.Refused c k)

theorem build_foreign {m : RedditCommentMessage} {e : PyExc} (failed : m.build = .error e) :
    e.foreign = true := by
  unfold RedditCommentMessage.build at failed
  split at failed <;> cases failed
  rfl

theorem publish_safe (start : h.holds (.busy c k) s)
    (unread : StreamWorker.alreadyProcessed c k = false) :
    WorkerSafe o restart h.always ok pledge (w.publish c) (fun r s' => match r with
      | .ok _ => h.holds (.made c k) s'
      | .error e => h.Unpublished c k e s') s := by
  have busy := h.settled (.busy c k)
  refine Safe.solo_await _ busy start (fun s₁ _ _ => h.quiet _ s₁ rfl)
    fun s₁ choice r s₂ always start _ answered => ?_
  obtain ⟨now, rfl, rfl⟩ := Outside.answer_nowIso answered
  refine ⟨always, ?_⟩
  cases built : (w.messageOf c now).build with
  | error e =>
      rw [Prog.andThen, built]
      exact .inr ⟨build_foreign built, start, .inl ⟨now, e, built⟩⟩
  | ok m =>
      rw [Prog.andThen, built]
      refine Safe.solo_await _ busy start (fun s₁ _ _ => h.quiet _ s₁ rfl)
        fun s₃ choice r s₄ always start _ answered => ?_
      obtain ⟨rfl, ⟨payload, rfl, possible⟩ | ⟨e, rfl, foreign, possible⟩⟩ :=
        Outside.answer_serialize answered
      · refine ⟨always, ?_⟩
        cases payload with
        | none => exact .inr ⟨rfl, start, .inr ⟨_, start, possible⟩⟩
        | some payload =>
            have produced := fun s topic payload key holds =>
              h.produced c k s s₄ now m topic payload key holds start unread built possible
            refine Safe.exceptException always (P := fun r s' => match r with
              | .ok _ => h.holds (.made c k) s'
              | .error _ => True) ?_ (fun _ _ _ done => done)
              (fun e _ _ cancelled _ => .inl (.inl cancelled))
              fun e s' _ _ _ => .inl (.inr ⟨_, rfl⟩)
            refine Safe.solo_await _ busy start (fun s₅ _ holds => (produced s₅ _ _ _ holds).1)
              fun s₅ choice r s₆ always start _ answered => ?_
            obtain ⟨rfl, rfl⟩ | ⟨e, rfl, -, rfl⟩ := Outside.answer_produce answered
            · have made := (produced s₅ w.kafkaTopic payload w.subreddit start).2
              refine ⟨h.always_of _ _ made, Safe.solo_perform _ (h.settled (.made c k)) made
                (fun s₇ _ _ => h.quiet _ s₇ rfl) fun s₇ choice r s₈ always made _ answered => ?_⟩
              obtain ⟨rfl, -⟩ := Outside.answer_inert (c := .poll) rfl answered
              refine ⟨always, ?_⟩
              cases r with
              | ok _ => exact made
              | error _ => trivial
            · exact ⟨always, trivial⟩
      · exact ⟨always, .inr ⟨foreign, start, .inr ⟨_, start, possible⟩⟩⟩

/-- A flush that returns has found every message delivered. -/
theorem flushDeliveryBatch_safe (start : h.holds (.counted c k) s)
    (due : w.checkpointInterval ≤ s.commentsSinceCheckpoint) :
    WorkerSafe o restart h.always ok pledge StreamWorker.flushDeliveryBatch
      (fun r s' => match r with
        | .ok _ => h.holds (.flushed c k) s'
        | .error e => Fatal e) s := by
  have always := h.always_of _ _ start
  refine Safe.bind always (P := fun r s' => match r with
    | .ok n => h.holds (.drained n c k) s'
    | .error e => Fatal e) ?_ (fun n s₁ _ drained => ?_) fun e s₁ _ failed => failed
  · refine Safe.exceptException always (P := fun r s' => match r with
      | .ok n => h.holds (.drained n c k) s'
      | .error _ => True) ?_ (fun _ _ _ done => done) (fun _ _ _ cancelled _ => .inl cancelled)
      fun e s' _ _ _ => .inr ⟨_, rfl⟩
    have settled : Settled (workerMachine o restart) fun s =>
        h.holds (.counted c k) s ∧ w.checkpointInterval ≤ s.commentsSinceCheckpoint :=
      (h.settled (.counted c k)).and
        (settled_of_still fun _ _ still due => still.commentsSinceCheckpoint.symm ▸ due)
    refine Safe.solo_perform _ settled ⟨start, due⟩ (fun s₁ _ _ => h.quiet _ s₁ rfl)
      fun s₁ choice r s₂ always counted _ answered => ?_
    obtain ⟨rfl, ⟨n, rfl, returned⟩ | ⟨e, rfl⟩⟩ := Outside.answer_flush answered
    · exact ⟨always, h.drained n c k _ counted.1 counted.2 returned⟩
    · exact ⟨always, trivial⟩
  · refine safe_own rfl _ (h.settled (.drained n c k)) drained (fun s₂ _ => h.quiet _ s₂ rfl)
      fun s₂ errors s₃ drained always _ given => ?_
    cases given
    refine ⟨h.always_same s₂ _ ⟨rfl, rfl, rfl, rfl, rfl, rfl, le_rfl⟩ always, ?_⟩
    by_cases remaining : n ≠ 0
    · rw [if_pos remaining]
      exact .inr ⟨_, rfl⟩
    · rw [if_neg remaining]
      cases errors : s₂.deliveryErrors with
      | cons first rest => exact .inr ⟨_, rfl⟩
      | nil => exact h.flushed c k s₂ (not_not.mp remaining ▸ drained) errors

/-- A failed save is swallowed; only a cancellation comes through. -/
theorem saveCheckpointForCommentId_safe (start : h.holds (.flushed c k) s) :
    WorkerSafe o restart h.always ok pledge (StreamWorker.saveCheckpointForCommentId c.id)
      (fun r s' => match r with
        | .ok _ => h.holds (.saved c k) s'
        | .error e => Fatal e) s := by
  have flushed := h.settled (.flushed c k)
  refine Safe.exceptException (h.always_of _ _ start) (P := fun r s' => match r with
    | .ok _ => h.holds (.saved c k) s'
    | .error e => e.isException = true → h.holds (.saved c k) s') ?_
    (fun _ _ _ done => done) (fun e _ _ cancelled _ => .inl cancelled)
    fun e s' _ exception failed => failed exception
  refine Safe.solo_await _ flushed start (fun s₁ _ _ => h.quiet _ s₁ rfl)
    fun s₁ choice r s₂ always start _ answered => ?_
  obtain ⟨now, rfl, rfl⟩ := Outside.answer_nowIso answered
  refine ⟨always, Safe.solo_perform _ flushed start (fun s₃ _ holds => h.saves c k s₃ now holds)
    fun s₃ choice r s₄ always start _ answered => ?_⟩
  obtain ⟨written, rfl⟩ | ⟨rfl, e, rfl, lost⟩ := Outside.answer_setCheckpoint answered
  · have saved := h.saved c k s₃ now written start
    refine ⟨h.always_of _ _ saved, ?_⟩
    cases r with
    | ok _ => exact saved
    | error _ => exact fun _ => saved
  · exact ⟨always, fun exception => h.lost c k _ start (lost exception)⟩

theorem countComment_safe (start : h.holds (.made c k) s) :
    WorkerSafe o restart h.always ok pledge (w.countComment c) (fun r s' => match r with
      | .ok _ => h.holds (.idle k) s'
      | .error e => Fatal e) s := by
  refine safe_own rfl _ (h.settled (.made c k)) start (fun s₁ _ => h.quiet _ s₁ rfl)
    fun s₁ n _ made always _ given => ?_
  cases given
  have settled : Settled (workerMachine o restart) fun s =>
      h.holds (.made c k) s ∧ s.commentsSinceCheckpoint = s₁.commentsSinceCheckpoint :=
    (h.settled (.made c k)).and
      (settled_of_still fun _ _ still same => still.commentsSinceCheckpoint.trans same)
  refine ⟨always, safe_own rfl _ settled ⟨made, rfl⟩ (fun s₂ _ => h.quiet _ s₂ rfl)
    fun s₂ _ s₃ made _ _ given => ?_⟩
  cases given
  have counted := h.counts c k s₂ made.1
  rw [made.2] at counted
  refine ⟨h.always_of _ _ counted, ?_⟩
  by_cases due : w.checkpointInterval ≤ s₁.commentsSinceCheckpoint + 1
  · rw [if_pos due]
    refine Safe.bind (h.always_of _ _ counted) (h.flushDeliveryBatch_safe counted due)
      (fun _ s₄ always flushed => ?_) fun _ _ _ failed => failed
    refine Safe.bind always (h.saveCheckpointForCommentId_safe flushed) (fun _ s₅ _ saved => ?_)
      fun _ _ _ failed => failed
    refine Safe.solo_perform _ (h.settled (.saved c k)) saved (fun s₆ _ _ => h.quiet _ s₆ rfl)
      fun s₆ choice r s₇ _ saved _ answered => ?_
    obtain ⟨rfl, rfl⟩ := Outside.answer_own (c := .setCommentsSinceCheckpoint 0) rfl rfl answered
    have idle := h.reset c k s₆ saved
    exact ⟨h.always_of _ _ idle, idle⟩
  · rw [if_neg due]
    exact h.more c k _ counted (not_le.mp due)

theorem processComment_safe (start : h.holds (.busy c k) s) :
    WorkerSafe o restart h.always ok pledge (w.processComment c k) (fun r s' => match r with
      | .ok _ => h.holds (.idle k) s'
      | .error e => h.Left e s') s := by
  unfold StreamWorker.processComment
  by_cases skipped : StreamWorker.alreadyProcessed c k = true
  · rw [if_pos skipped]
    exact h.skipped c k s start skipped
  rw [if_neg skipped]
  have always := h.always_of _ _ start
  refine Safe.exceptException always (P := fun r s' => match r with
    | .ok _ => h.holds (.idle k) s'
    | .error e => h.Unpublished c k e s') ?_ (fun _ _ _ done => done)
    (fun _ _ _ cancelled _ => .inr (.inl cancelled)) ?_
  · refine Safe.bind always (h.publish_safe start (by simpa using skipped))
      (fun _ s₁ always made => ?_) fun _ _ _ failed => failed
    refine (h.countComment_safe made).mono always fun r s₂ _ counted => ?_
    cases r with
    | ok _ => exact counted
    | error e => exact .inl counted
  · rintro e s' - exception ((cancelled | ⟨message, rfl⟩) | ⟨foreign, busy, refused⟩)
    · simp [cancelled] at exception
    · exact .inr (.inr ⟨message, rfl⟩)
    · rw [if_neg (by simpa [PyExc.foreign] using foreign)]
      refine Safe.solo_perform _ (h.settled (.busy c k)) busy (fun s₂ _ _ => h.quiet _ s₂ rfl)
        fun s₂ choice r s₃ _ busy _ answered => ?_
      obtain ⟨rfl, -⟩ := Outside.answer_recordError answered
      have idle := h.recorded c k s₂ busy refused
      refine ⟨h.always_of _ _ idle, ?_⟩
      cases r with
      | ok _ => exact idle
      | error _ => exact .inl (h.closed k _ idle)

/-! ## One session -/

/-- The cooperative stop and the cancellation point of an iteration. -/
theorem checkStop_safe {stage : Stage} {f : Coroutine (Option Unit)}
    {Q : Except PyExc (Option Unit) → World → Prop} (start : h.holds stage s)
    (stop : ∀ s', h.holds stage s' → s'.stopEvent = true → Q (.ok (some ())) s')
    (cancelled : ∀ e s', h.holds stage s' → e.isException = false → Q (.error e) s')
    (rest : ∀ s', h.holds stage s' → WorkerSafe o restart h.always ok pledge f Q s') :
    WorkerSafe o restart h.always ok pledge (do
      if ← await .stopIsSet then return some ()
      await (.sleep 0)
      f) Q s := by
  refine safe_own rfl _ (h.settled stage) start (fun s₁ _ => h.quiet _ s₁ rfl)
    fun s₁ _ _ holds always _ given => ?_
  cases given
  refine ⟨always, ?_⟩
  by_cases set : s₁.stopEvent = true
  · rw [if_pos set]
    exact stop s₁ holds set
  rw [if_neg set]
  refine Safe.solo_await _ (h.settled stage) holds (fun s₂ _ _ => h.quiet _ s₂ rfl)
    fun s₂ choice r s₃ always holds _ answered => ?_
  obtain ⟨rfl, rfl | ⟨e, rfl, passed⟩⟩ := Outside.answer_sleep answered
  · exact ⟨always, rest _ holds⟩
  · exact ⟨always, cancelled e _ holds passed⟩

theorem eachComment_safe (start : h.holds (.idle k) s) :
    WorkerSafe o restart h.always ok pledge (w.eachComment k) (fun r s' => match r with
      | .ok none => h.holds (.idle k) s'
      | .ok (some _) => h.holds .rest s'
      | .error e => h.Left e s') s := by
  refine Safe.solo_await _ (h.settled (.idle k)) start (fun s₁ _ _ => h.quiet _ s₁ rfl)
    fun s₁ choice r s₂ always idle _ answered => ?_
  obtain ⟨c, rfl, yields, rfl⟩ | ⟨rfl, rfl | rfl | ⟨e, rfl, -⟩⟩ :=
    Outside.answer_nextComment answered
  · have busy := h.yielded c k s₁ idle yields
    refine ⟨h.always_of _ _ busy, h.checkStop_safe busy (h.stopped c k)
      (fun e s' busy passed => .inr (.inl passed)) fun s₃ busy => ?_⟩
    refine safe_own rfl _ (h.settled (.busy c k)) busy (fun s₄ _ => h.quiet _ s₄ rfl)
      fun s₄ _ _ busy _ _ given => ?_
    cases given
    have busy := h.breaker _ _ s₄.breaker.recordSuccess busy
    have always := h.always_of _ _ busy
    exact ⟨always, Safe.bind always (h.processComment_safe busy) (fun _ _ _ done => done)
      fun _ _ _ left => left⟩
  · exact ⟨always, h.checkStop_safe idle (fun s' idle _ => h.closed k s' idle)
      (fun e s' _ passed => .inr (.inl passed)) fun _ idle => idle⟩
  · exact ⟨always, h.closed k _ idle⟩
  · exact ⟨always, .inl (h.closed k _ idle)⟩

theorem handleFetchException_safe {e : PyExc} (exception : e.isException = true)
    (left : h.Left e s) :
    WorkerSafe o restart h.always ok pledge (StreamWorker.handleFetchException e)
      (fun r s' => match r with
        | .ok _ => h.holds .rest s'
        | .error e => h.Left e s') s := by
  obtain rest | cancelled | ⟨message, rfl⟩ := left
  · unfold StreamWorker.handleFetchException
    by_cases limited : e.isInstance [.tooManyRequests] = true
    · simp only [if_pos limited]
      exact .inl rest
    simp only [if_neg limited]
    by_cases unavailable : e.isInstance [.notFound, .forbidden] = true
    · simp only [if_pos unavailable]
      exact safe_inert rfl _ (h.settled .rest) rest (fun s₁ _ => h.quiet _ s₁ rfl)
        (fun _ _ rest => .inl rest) fun _ _ rest => .inl rest
    · simp only [if_neg unavailable]
      exact .inl rest
  · simp [cancelled] at exception
  · exact .inr (.inr ⟨message, rfl⟩)

theorem fetchAndProcessComments_safe (start : h.holds .ready s) :
    WorkerSafe o restart h.always ok pledge w.fetchAndProcessComments (fun r s' => match r with
      | .ok _ => h.holds .rest s'
      | .error e => h.Left e s') s := by
  refine safe_inert rfl _ (h.settled .ready) start (fun s₁ _ => h.quiet _ s₁ rfl)
    (fun _ s₁ ready => ?_) fun _ _ ready => .inl (h.unread _ ready)
  refine Safe.solo_await _ (h.settled .ready) ready (fun s₂ _ _ => h.quiet _ s₂ rfl)
    fun s₂ choice r s₃ always ready _ answered => ?_
  obtain ⟨rfl, rfl⟩ | ⟨e, rfl, -, rfl⟩ := Outside.answer_getCheckpoint answered
  · have begun := h.read s₂ ready
    have always := h.always_of _ _ begun
    refine ⟨always, Safe.exceptException always (P := fun r s' => match r with
      | .ok _ => h.holds .rest s'
      | .error e => h.Left e s') ?_ (fun _ _ _ done => done) (fun _ _ _ _ left => left)
      fun e s' _ exception left => h.handleFetchException_safe exception left⟩
    refine Safe.solo_await _ (h.settled (.begun s₂.checkpoint)) begun
      (fun s₄ _ _ => h.quiet _ s₄ rfl) fun s₄ choice r s₅ always begun allowed answered => ?_
    obtain ⟨rfl, rfl⟩ | ⟨e, rfl, -, rfl⟩ := Outside.answer_openComments answered
    · have idle := h.opened _ s₄ begun allowed
      refine ⟨h.always_of _ _ idle, Safe.solo_forever _ (h.settled (.idle s₂.checkpoint)) idle
        fun s₆ always idle => ?_⟩
      refine (h.eachComment_safe idle).mono always fun r s₇ _ after => ?_
      rcases r with e | _ | _ <;> exact after
    · exact ⟨always, .inl (h.unopened _ _ begun)⟩
  · exact ⟨always, .inl (h.unread _ ready)⟩

/-! ## The loop -/

/-- The effects of the error handlers keep what outside events and error records keep. -/
theorem handler_safe (h : Outline o restart ok pledge w) {p : Coroutine Unit} (uses : p.Uses fun c =>
      c.inert = true ∨ ∃ kind text recoverable, c = .recordError kind text recoverable)
    {I : World → Prop} (settled : Settled (workerMachine o restart) I)
    (records : ∀ s kind, I s → I (s.recordError kind)) (start : I s) :
    WorkerSafe o restart h.always ok pledge p (fun _ => I) s := by
  refine Safe.solo_uses uses _ settled start (fun c s₁ used _ _ => h.quiet c s₁ ?_)
    fun c s₁ choice r s₂ used always holds _ answered => ?_
  · obtain inert | ⟨_, _, _, rfl⟩ := used
    · cases c <;> trivial
    · rfl
  · obtain inert | ⟨_, _, _, rfl⟩ := used
    · exact (Outside.answer_inert inert answered).1 ▸ ⟨always, holds⟩
    · exact (Outside.answer_recordError answered).1 ▸ ⟨h.always_record always, records _ _ holds⟩

theorem handleError_safe {e : PyExc} (exception : e.isException = true) (always : h.always s)
    (left : h.Left e s) :
    WorkerSafe o restart h.always ok pledge (StreamWorker.handleError e)
      (fun r s' => r = .ok () → h.holds .rest s') s := by
  obtain rest | cancelled | ⟨message, rfl⟩ := left
  · exact (h.handler_safe (StreamWorker.handleError_uses e) (h.settled .rest) h.record rest).mono
      always fun r s' _ rest _ => rest
  · simp [cancelled] at exception
  · -- Kafka's failures are fatal: the handler raises again, and the loop has ended
    refine ((h.handler_safe (StreamWorker.handleError_uses _) h.settled_always
      (fun _ _ => h.always_record) always).ends (StreamWorker.handleError_ends _)).mono always
      fun r s' _ ended returned => ?_
    exact absurd (ended.2 returned) (by simp [kafkaDeliveryError_abandons])

theorem call_safe (start : h.holds .ready s) :
    WorkerSafe o restart h.always ok pledge (CircuitBreaker.call w.fetchAndProcessComments)
      (fun r s' => match r with
        | .ok _ => h.holds .rest s'
        | .error e => h.Left e s') s := by
  refine Safe.solo_await _ (h.settled .ready) start (fun s₁ _ _ => h.quiet _ s₁ rfl)
    fun s₁ choice r s₂ always ready _ answered => ?_
  obtain ⟨later, ⟨b, -, rfl, rfl⟩ | ⟨e, -, rfl, rfl⟩⟩ := Outside.answer_breakerAdmit answered
  · have ready := h.breaker _ _ b ready
    have always := h.always_of _ _ ready
    refine ⟨always, Safe.exceptException always (P := fun r s' => match r with
      | .ok _ => h.holds .rest s'
      | .error e => h.Left e s') ?_ (fun _ _ _ done => done) (fun _ _ _ _ left => left)
      fun e s' always exception left => ?_⟩
    · refine Safe.bind always (h.fetchAndProcessComments_safe ready)
        (fun _ s₄ _ rest => ?_) fun _ _ _ left => left
      refine safe_own rfl _ (h.settled .rest) rest (fun s₅ _ => h.quiet _ s₅ rfl)
        fun s₅ _ _ rest _ _ given => ?_
      cases given
      have rest := h.breaker _ _ s₅.breaker.recordSuccess rest
      exact ⟨h.always_of _ _ rest, rest⟩
    · refine safe_own rfl _ (h.settled_left e) left (fun s₆ _ => h.quiet _ s₆ rfl)
        fun s₆ _ _ left always _ given => ?_
      cases given
      exact ⟨h.always_same s₆ _ ⟨rfl, rfl, rfl, rfl, rfl, rfl, le_rfl⟩ always, left.breaker h _⟩
  · exact ⟨always, .inl (h.unread _ ready)⟩

theorem streamLoop_safe (start : h.holds .rest s) :
    WorkerSafe o restart h.always ok pledge w.streamLoop (fun _ _ => True) s := by
  refine Safe.solo_forever _ (h.settled .rest) start fun s₁ _ rest => ?_
  refine safe_own rfl _ (h.settled .rest) rest (fun s₂ _ => h.quiet _ s₂ rfl)
    fun s₂ _ _ rest always _ given => ?_
  cases given
  refine ⟨always, ?_⟩
  by_cases stop : s₂.stopEvent = true
  · rw [if_pos stop]
    trivial
  rw [if_neg stop]
  have ready := h.goes s₂ rest (by simpa using stop)
  refine Safe.bind always (P := fun r s' => r = .ok () → h.holds .rest s') ?_
    (fun _ _ _ rest => rest rfl) fun _ _ _ _ => trivial
  exact Safe.exceptException always (h.call_safe ready) (fun _ _ _ rest _ => rest)
    (fun _ _ _ _ _ returned => by cases returned)
    fun e s' always exception left => h.handleError_safe exception always left

/-- Every configuration of a single worker's run keeps the outline. -/
theorem orderly (h : Outline o none ok pledge w) {s₀ : World}
    (start : h.holds .rest s₀.newHistory.begin)
    {c : Config WorkerEff WorkerEff.Answer PyExc World Unit}
    (reached : (workerMachine o none).ReachesUnder (fun _ => ok)
      (workerConfig w.streamLoop s₀) c) :
    Orderly (workerMachine o none) (.solo (workerMachine o none) h.always ok pledge)
      (fun _ _ _ => True) c :=
  WorkerSafe.orderly (fun _ _ _ _ _ _ => trivial) h.settled_always (fun _ same => by cases same)
    (h.always_of _ _ start) (h.streamLoop_safe start) reached


/-! ## The life of a worker -/

/-- What holds at every moment depends on the checkpoint only through the stored id, and that
id may be written again. -/
structure Restorable : Prop where
  read : ∀ s, h.always s → h.always s.readCheckpoint
  rewrite : ∀ s k, k.lastCommentId = s.checkpoint.lastCommentId → h.always s →
    h.always { s with checkpoint := k }
  saves : ∀ s id time, h.always s → s.checkpoint.lastCommentId = some id →
    pledge (.setCheckpoint id time) s

variable {h}

theorem saveStored_safe (again : h.Restorable) {id : String}
    (stored : s.checkpoint.lastCommentId = some id) (always : h.always s) :
    WorkerSafe o restart h.always ok pledge (StreamWorker.saveCheckpointForCommentId id)
      (fun _ _ => True) s := by
  have settled : Settled (workerMachine o restart) fun s => s.checkpoint.lastCommentId = some id :=
    settled_of_still fun _ _ still stored => still.checkpoint ▸ stored
  refine Safe.exceptException always (P := fun _ _ => True) ?_ (fun _ _ _ _ => trivial)
    (fun _ _ _ _ _ => trivial) fun _ _ _ _ _ => trivial
  refine safe_inert (c := .nowIso) rfl _ settled stored (fun s _ => h.quiet _ s rfl)
    (fun now s₁ stored => ?_) fun _ _ _ => trivial
  refine Safe.solo_perform _ settled stored (fun s₂ always stored => again.saves s₂ id now always stored)
    fun s₂ choice r s₃ always stored _ answered => ⟨?_, trivial⟩
  obtain ⟨written, rfl⟩ | ⟨rfl, -⟩ := Outside.answer_setCheckpoint answered
  · exact again.rewrite s₂ ⟨some id, some now, some written⟩ stored.symm always
  · exact always

/-- The last save of a worker writes the id that is stored. -/
theorem saveCheckpoint_safe (again : h.Restorable) :
    WorkerSafe o restart h.always ok pledge StreamWorker.saveCheckpoint (fun _ _ => True) s := by
  refine Safe.solo_await (fun _ => True) (fun _ _ _ _ _ => trivial) trivial
    (fun s₁ _ _ => h.quiet _ s₁ rfl) fun s₁ choice r s₂ always _ _ answered => ?_
  obtain ⟨rfl, rfl⟩ | ⟨e, rfl, -, rfl⟩ := Outside.answer_getCheckpoint answered
  · have read := again.read s₁ always
    refine ⟨read, ?_⟩
    cases stored : s₁.checkpoint.lastCommentId with
    | none => simp only [Prog.andThen, stored]; trivial
    | some id =>
        simp only [Prog.andThen, stored]
        split
        · exact saveStored_safe again stored read
        · trivial
  · exact ⟨always, trivial⟩

theorem shutDown_safe (again : h.Restorable) (always : h.always s) (shutdownEvent : Bool) :
    WorkerSafe o restart h.always ok pledge (StreamWorker.shutDown shutdownEvent)
      (fun _ _ => True) s := by
  have release : ∀ {s}, h.always s → WorkerSafe o restart h.always ok pledge
      (exceptException (await .releaseLock) fun _ => pure ()) (fun _ _ => True) s := by
    intro s always
    refine Safe.exceptException always (P := fun _ _ => True) ?_ (fun _ _ _ _ => trivial)
      (fun _ _ _ _ _ => trivial) fun _ _ _ _ _ => trivial
    refine Safe.solo_perform (fun _ => True) (fun _ _ _ _ _ => trivial) trivial
      (fun s₁ _ _ => h.quiet _ s₁ rfl) fun s₁ choice r s₂ always _ _ answered => ⟨?_, trivial⟩
    exact (Outside.answer_inert (c := .releaseLock) rfl answered).1 ▸ always
  unfold StreamWorker.shutDown
  cases shutdownEvent with
  | false => exact release always
  | true =>
      refine Safe.bind always (P := fun _ _ => True) ?_ (fun _ s₁ always _ => release always)
        fun _ _ _ _ => trivial
      exact Safe.exceptException always (saveCheckpoint_safe again) (fun _ _ _ _ => trivial)
        (fun _ _ _ _ _ => trivial) fun _ _ _ _ _ => trivial

theorem ensure_safe {p f : Coroutine Unit} (always : h.always s)
    (body : WorkerSafe o restart h.always ok pledge p (fun _ _ => True) s)
    (last : ∀ {s}, h.always s → WorkerSafe o restart h.always ok pledge f (fun _ _ => True) s) :
    WorkerSafe o restart h.always ok pledge (p.ensure f) (fun _ _ => True) s := by
  refine Safe.bindE always body fun r s₁ always _ => Safe.bindE always (last always) ?_
  intro outcome s₂ _ _
  cases outcome with
  | ok _ => cases r <;> trivial
  | error _ => trivial

theorem lifetime_safe (again : h.Restorable) (start : h.holds .rest s) :
    WorkerSafe o restart h.always ok pledge w.lifetime (fun _ _ => True) s := by
  refine Safe.bind (h.always_of _ _ start) (P := fun _ _ => True)
    (Safe.attempt (h.streamLoop_safe start)) (fun outcome s₁ always _ => ?_) fun _ _ _ _ => trivial
  refine Safe.bind always (P := fun _ _ => True) (Safe.attempt ?_) (fun done s₂ always _ => ?_)
    fun _ _ _ _ => trivial
  · refine Safe.solo_perform (fun _ => True) (fun _ _ _ _ _ => trivial) trivial
      (fun s₂ _ _ => h.quiet _ s₂ rfl) fun s₂ choice r s₃ always _ _ answered => ⟨?_, trivial⟩
    exact (Outside.answer_inert (c := .waitFirst) rfl answered).1 ▸ always
  · cases done with
    | ok children =>
        refine ensure_safe always ?_ fun always => shutDown_safe again always _
        cases outcome <;> trivial
    | error e => exact ensure_safe always trivial fun always => shutDown_safe again always true

end Outline
end RedditKafka
