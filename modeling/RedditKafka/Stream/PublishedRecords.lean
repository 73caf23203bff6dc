import RedditKafka.Async.Recorder
import RedditKafka.Stream.WorkerEffects
import RedditKafka.Stream.WorkerFootprint

/-!
# What is published

The records that the stream loop hands to the Kafka client, whatever Reddit,
Redis, Postgres, the serializer and the client answer or raise: one for a comment
at most, in the order of the comments, and made of that comment.
-/
namespace RedditKafka
open Async

/-- A call of `produce`. -/
structure Offer where
  /-- The comment given last, by its position. -/
  comment : Nat
  /-- The clock as read last. -/
  now : String
  /-- What was last given to the serializer, and what it returned. -/
  serialized : Option (RedditCommentMessage × Option ByteArray)
  topic : String
  payload : ByteArray
  key : String
  accepted : Bool

/-- What has happened so far in the stream loop. -/
structure Ledger where
  checkpoint : Checkpoint := {}
  /-- The comments that Reddit yielded, with the checkpoint of their session. -/
  given : List (Comment × Checkpoint) := []
  /-- How many of them were given before the running session was opened. -/
  opened : Nat := 0
  now : String := ""
  serialized : Option (RedditCommentMessage × Option ByteArray) := none
  offers : List Offer := []
  /-- How many comments had been given at each `CommentProcessingError`. -/
  reported : List Nat := []

namespace Ledger

/-- The comment given last. -/
def current (s : Ledger) : Nat := s.given.length - 1

def give (s : Ledger) (comment : Comment) : Ledger :=
  { s with given := s.given ++ [(comment, s.checkpoint)] }

def offer (s : Ledger) (topic : String) (payload : ByteArray) (key : String) (accepted : Bool) :
    Ledger :=
  { s with
    offers := s.offers ++ [⟨s.current, s.now, s.serialized, topic, payload, key, accepted⟩] }

/-- An error of the comment given last. -/
def report (s : Ledger) : Ledger := { s with reported := s.reported ++ [s.given.length] }

def note : (c : WorkerEff) → Except PyExc c.Answer → Ledger → Ledger
  | .getCheckpoint, .ok checkpoint, s => { s with checkpoint := checkpoint }
  | .openComments _, .ok _, s => { s with opened := s.given.length }
  | .nextComment, .ok (.item (some comment)), s => s.give comment
  | .nowIso, .ok now, s => { s with now := now }
  | .serialize message, .ok payload, s => { s with serialized := some (message, payload) }
  | .produce topic payload key, .ok _, s => s.offer topic payload key true
  | .produce topic payload key, .error _, s => s.offer topic payload key false
  | .recordError errorType _ _, _, s =>
      if errorType = "CommentProcessingError" then s.report else s
  | _, _, s => s

/-- Published, recorded as an error, or the one that the session's checkpoint names. -/
def Settled (s : Ledger) (j : Nat) : Prop :=
  (∃ offer ∈ s.offers, offer.comment = j ∧ offer.accepted = true) ∨ j + 1 ∈ s.reported ∨
    ∃ comment checkpoint, s.given[j]? = some (comment, checkpoint) ∧
      StreamWorker.alreadyProcessed comment checkpoint = true

/-- No comment of the running session was passed over. -/
def NoneMissed (s : Ledger) : Prop := ∀ j, s.opened ≤ j → j < s.given.length → s.Settled j

end Ledger

/-- The record of one given comment, as the serializer made it from the comment's
message at the time that the clock showed. -/
structure StreamWorker.Genuine (w : StreamWorker) (given : List (Comment × Checkpoint))
    (offer : Offer) : Prop where
  topic : offer.topic = w.kafkaTopic
  key : offer.key = w.subreddit
  message : ∃ comment checkpoint message, given[offer.comment]? = some (comment, checkpoint) ∧
    alreadyProcessed comment checkpoint = false ∧
    (w.messageOf comment offer.now).build = .ok message ∧
    offer.serialized = some (message, some offer.payload)

/-- The records follow the comments, and none is made of anything else. -/
structure StreamWorker.Faithful (w : StreamWorker) (s : Ledger) : Prop where
  ordered : (s.offers.map Offer.comment).Pairwise (· < ·)
  given : ∀ offer ∈ s.offers, offer.comment < s.given.length
  genuine : ∀ offer ∈ s.offers, w.Genuine s.given offer

/-- Another comment is asked for only when none of the session was passed over. -/
def publishPledge : WorkerEff → Ledger → Prop
  | .nextComment, s => s.NoneMissed
  | _, _ => True

variable {w : StreamWorker} {s : Ledger} {comment : Comment} {checkpoint : Checkpoint}

/-! ## Notes that keep the records -/

namespace Ledger

/-- The effects that add to the comments or to the records. -/
def grows : WorkerEff → Bool
  | .nextComment | .produce _ _ _ => true
  | _ => false

theorem note_kept {c : WorkerEff} (quiet : grows c = false) (r : Except PyExc c.Answer) :
    (note c r s).given = s.given ∧ (note c r s).offers = s.offers := by
  unfold note
  split <;> first | exact ⟨rfl, rfl⟩ | cases quiet
  split <;> exact ⟨rfl, rfl⟩

end Ledger

namespace StreamWorker

theorem Genuine.append {given more : List (Comment × Checkpoint)} {offer : Offer}
    (h : w.Genuine given offer) : w.Genuine (given ++ more) offer := by
  obtain ⟨comment, checkpoint, message, found, rest⟩ := h.message
  refine ⟨h.topic, h.key, comment, checkpoint, message, ?_, rest⟩
  obtain ⟨bound, -⟩ := List.getElem?_eq_some_iff.mp found
  rw [List.getElem?_append_left bound, found]

namespace Faithful

theorem initial : w.Faithful {} :=
  ⟨.nil, fun _ none => absurd none List.not_mem_nil, fun _ none => absurd none List.not_mem_nil⟩

theorem same {s' : Ledger} (h : w.Faithful s) (given : s'.given = s.given)
    (offers : s'.offers = s.offers) : w.Faithful s' := by
  refine ⟨?_, ?_, ?_⟩
  · rw [offers]
    exact h.ordered
  · rw [offers, given]
    exact h.given
  · rw [offers, given]
    exact h.genuine

theorem quiet (h : w.Faithful s) {c : WorkerEff} (quiet : Ledger.grows c = false)
    (r : Except PyExc c.Answer) : w.Faithful (Ledger.note c r s) :=
  have ⟨given, offers⟩ := Ledger.note_kept quiet r
  h.same given offers

theorem give (h : w.Faithful s) (comment : Comment) : w.Faithful (s.give comment) where
  ordered := h.ordered
  given offer offered := (h.given offer offered).trans_le (by simp [Ledger.give])
  genuine offer offered := (h.genuine offer offered).append

/-- The record of the comment given last, when no record has been made of it yet. -/
theorem offer (h : w.Faithful s) {new : Offer} (first : ∀ old ∈ s.offers, old.comment < new.comment)
    (given : new.comment < s.given.length) (genuine : w.Genuine s.given new) :
    w.Faithful { s with offers := s.offers ++ [new] } where
  ordered := by
    rw [List.map_append, List.pairwise_append]
    refine ⟨h.ordered, List.pairwise_singleton .., fun i before j last => ?_⟩
    obtain ⟨old, offered, rfl⟩ := List.mem_map.mp before
    rw [List.mem_singleton.mp last]
    exact first old offered
  given offer offered := by
    rcases List.mem_append.mp offered with before | last
    · exact h.given offer before
    · rw [List.mem_singleton.mp last]
      exact given
  genuine offer offered := by
    rcases List.mem_append.mp offered with before | last
    · exact h.genuine offer before
    · rw [List.mem_singleton.mp last]
      exact genuine

end Faithful
end StreamWorker

/-! ## Between two comments and at one -/

namespace Ledger

/-- Between two comments of a session that read `checkpoint`. -/
structure Between (checkpoint : Checkpoint) (s : Ledger) : Prop where
  noneMissed : s.NoneMissed
  session : s.checkpoint = checkpoint

/-- At `comment`, of which no record has been made yet. -/
structure At (comment : Comment) (checkpoint : Checkpoint) (s : Ledger) : Prop where
  session : s.checkpoint = checkpoint
  last : s.given[s.current]? = some (comment, checkpoint)
  others : ∀ j, s.opened ≤ j → j < s.current → s.Settled j
  unpublished : ∀ offer ∈ s.offers, offer.comment < s.current

namespace At

theorem bound (h : s.At comment checkpoint) : s.current < s.given.length :=
  (List.getElem?_eq_some_iff.mp h.last).1

/-- The comment given last is the only one that is still open. -/
theorem between (h : s.At comment checkpoint) (done : s.Settled s.current) :
    s.Between checkpoint := by
  refine ⟨fun j here bound => ?_, h.session⟩
  have current : s.current = s.given.length - 1 := rfl
  by_cases last : j < s.current
  · exact h.others j here last
  · rwa [show j = s.current by omega]

end At

@[simp] theorem current_give : (s.give comment).current = s.given.length := by
  simp [current, give]

theorem Between.give (h : s.Between checkpoint) (faithful : w.Faithful s) :
    (s.give comment).At comment checkpoint := by
  refine ⟨h.session, ?_, fun j here before => ?_, ?_⟩
  · rw [current_give]
    simp [Ledger.give, h.session]
  · rw [current_give] at before
    refine (h.noneMissed j here before).imp_right (Or.imp_right ?_)
    rintro ⟨comment', checkpoint', found, skipped⟩
    exact ⟨comment', checkpoint', by rw [Ledger.give, List.getElem?_append_left before, found],
      skipped⟩
  · rw [current_give]
    exact faithful.given

/-- A comment that the session's checkpoint names is done with. -/
theorem At.skip (h : s.At comment checkpoint)
    (skipped : StreamWorker.alreadyProcessed comment checkpoint = true) : s.Between checkpoint :=
  h.between (.inr (.inr ⟨comment, checkpoint, h.last, skipped⟩))

theorem At.publish (h : s.At comment checkpoint) (topic : String) (payload : ByteArray)
    (key : String) : (s.offer topic payload key true).Between checkpoint := by
  have after : (s.offer topic payload key true).NoneMissed := by
    intro j here bound
    have current : s.current = s.given.length - 1 := rfl
    by_cases last : j < s.current
    · refine (h.others j here last).imp_left ?_
      rintro ⟨offer, offered, rest⟩
      exact ⟨offer, List.mem_append_left _ offered, rest⟩
    · refine .inl ⟨_, List.mem_append_right _ (List.mem_singleton_self _), ?_, rfl⟩
      have bound : j < s.given.length := bound
      show s.current = j
      omega
  exact ⟨after, h.session⟩

theorem Settled.report {j : Nat} (h : s.Settled j) : s.report.Settled j :=
  h.imp_right (Or.imp_left (List.mem_append_left _))

theorem Between.report (h : s.Between checkpoint) : s.report.Between checkpoint :=
  ⟨fun j here bound => (h.noneMissed j here bound).report, h.session⟩

theorem At.report (h : s.At comment checkpoint) : s.report.Between checkpoint := by
  have after : s.report.At comment checkpoint :=
    ⟨h.session, h.last, fun j here before => (h.others j here before).report, h.unpublished⟩
  refine after.between (.inr (.inl (List.mem_append_right _ (List.mem_singleton.mpr ?_))))
  have := h.bound
  have current : s.current = s.given.length - 1 := rfl
  show s.current + 1 = s.given.length
  omega

end Ledger

namespace StreamWorker

/-- The record that `publish` makes of the comment given last. -/
theorem Faithful.publish (h : w.Faithful s) (at' : s.At comment checkpoint)
    (unread : alreadyProcessed comment checkpoint = false) {message : RedditCommentMessage}
    {payload : ByteArray} (built : (w.messageOf comment s.now).build = .ok message)
    (serialized : s.serialized = some (message, some payload)) (accepted : Bool) :
    w.Faithful (s.offer w.kafkaTopic payload w.subreddit accepted) :=
  h.offer at'.unpublished at'.bound
    ⟨rfl, rfl, comment, checkpoint, message, at'.last, unread, built, serialized⟩

/-! ## The functions of the loop -/

/-- A coroutine of the worker under any answers. -/
abbrev Publishes (w : StreamWorker) {α : Type} (p : Coroutine α)
    (Q : Except PyExc α → Ledger → Prop) (s : Ledger) : Prop :=
  Recorded Ledger.note w.Faithful publishPledge p Q s

theorem publishPledge_of_quiet {c : WorkerEff} (quiet : Ledger.grows c = false) :
    publishPledge c s := by
  cases c <;> trivial

/-- An effect that is neither a comment nor a record, in front of the rest of a program. -/
theorem publishes_await {c : WorkerEff} {β : Type} {f : c.Answer → Coroutine β}
    {Q : Except PyExc β → Ledger → Prop} (quiet : Ledger.grows c = false)
    (rest : ∀ a, w.Publishes (f a) Q (Ledger.note c (.ok a) s))
    (failed : ∀ e, Q (.error e) (Ledger.note c (.error e) s)) :
    w.Publishes (await c >>= f) Q s :=
  Recorded.await (publishPledge_of_quiet quiet) fun r faithful =>
    ⟨faithful.quiet quiet r, by
      cases r with
      | ok a => exact rest a
      | error e => exact failed e⟩

theorem publish_publishes (faithful : w.Faithful s) (at' : s.At comment checkpoint)
    (unread : alreadyProcessed comment checkpoint = false) :
    w.Publishes (w.publish comment) (fun r s' => match r with
      | .ok _ => s'.Between checkpoint
      | .error e => e.isException = true →
          e.isInstance [.kafkaDeliveryError] = true ∨ s'.At comment checkpoint) s := by
  refine publishes_await rfl (fun now => ?_) fun e _ => .inr at'
  cases built : (w.messageOf comment now).build with
  | error e => exact fun _ => .inr ⟨at'.session, at'.last, at'.others, at'.unpublished⟩
  | ok message =>
      refine publishes_await rfl (fun serialized => ?_)
        fun e _ => .inr ⟨at'.session, at'.last, at'.others, at'.unpublished⟩
      cases serialized with
      | none => exact fun _ => .inr ⟨at'.session, at'.last, at'.others, at'.unpublished⟩
      | some payload =>
          have here : Ledger.At comment checkpoint
              (Ledger.note (.serialize message) (.ok (some payload))
                (Ledger.note .nowIso (.ok now) s)) :=
            ⟨at'.session, at'.last, at'.others, at'.unpublished⟩
          refine Safe.exceptException (P := fun r s' => match r with
            | .ok _ => s'.Between checkpoint
            | .error _ => True) ((faithful.quiet rfl _).quiet rfl _) ?_
            (fun _ _ _ done => done)
            (fun e _ _ cancelled _ exception => by rw [cancelled] at exception; cases exception)
            fun e _ _ _ _ _ => .inl rfl
          refine Recorded.await trivial fun r faithful => ?_
          cases r with
          | error e => exact ⟨faithful.publish here unread built rfl false, trivial⟩
          | ok _ =>
              refine ⟨faithful.publish here unread built rfl true, ?_⟩
              refine Recorded.perform trivial fun r faithful => ⟨faithful.quiet rfl r, ?_⟩
              cases r with
              | error e => trivial
              | ok _ => exact here.publish ..

/-- The batch and its checkpoint change nothing that was noted of the comments. -/
theorem countComment_publishes (between : s.Between checkpoint) :
    w.Publishes (w.countComment comment) (fun _ s' => s'.Between checkpoint) s := by
  refine Recorded.uses (w.countComment_uses comment) _ between (fun c s₁ used _ => ?_) ?_
  · cases c <;> trivial
  · intro c r s₁ used faithful between
    have quiet : Ledger.grows c = false := by cases c <;> first | rfl | cases used
    refine ⟨faithful.quiet quiet r, ?_⟩
    unfold Ledger.note
    split <;> first
      | exact between
      | exact ⟨between.noneMissed, between.session⟩
      | cases used

/-- A comment is done with, or the session ends. -/
theorem processComment_publishes (faithful : w.Faithful s) (at' : s.At comment checkpoint) :
    w.Publishes (w.processComment comment checkpoint) (fun r s' => match r with
      | .ok _ => s'.Between checkpoint
      | .error _ => True) s := by
  unfold processComment
  split
  · rename_i skipped
    exact at'.skip skipped
  · rename_i unread
    refine Safe.exceptException (P := fun r s' => match r with
      | .ok _ => s'.Between checkpoint
      | .error e => e.isException = true → e.isInstance [.kafkaDeliveryError] = true ∨
          s'.At comment checkpoint ∨ s'.Between checkpoint) faithful ?_
      (fun _ _ _ done => done) (fun _ _ _ _ _ => trivial) fun e s' faithful exception failed => ?_
    · refine Safe.bind faithful (publish_publishes faithful at' (by simpa using unread))
        (fun _ s₁ faithful between => ?_)
        fun e s₁ _ failed exception => (failed exception).imp_right .inl
      exact (countComment_publishes between).mono faithful fun r s₂ _ between => by
        cases r with
        | ok _ => exact between
        | error e => exact fun _ => .inr (.inr between)
    · split
      · trivial
      · rename_i other
        refine Recorded.perform trivial fun r faithful => ⟨faithful.quiet rfl r, ?_⟩
        cases r with
        | error e => trivial
        | ok _ =>
            obtain at' | between := (failed exception).resolve_left other
            · exact at'.report
            · exact between.report

theorem eachComment_publishes (between : s.Between checkpoint) :
    w.Publishes (w.eachComment checkpoint) (fun r s' => match r with
      | .ok none => s'.Between checkpoint
      | _ => True) s := by
  refine Recorded.await between.noneMissed fun r faithful => ?_
  rcases r with e | (comment | _)
  · exact ⟨faithful, trivial⟩
  · cases comment with
    | none =>
        refine ⟨faithful, publishes_await rfl (fun stopped => ?_) fun _ => trivial⟩
        split
        · trivial
        · exact publishes_await rfl (fun _ => between) fun _ => trivial
    | some comment =>
        refine ⟨faithful.give comment, publishes_await rfl (fun stopped => ?_) fun _ => trivial⟩
        split
        · trivial
        refine publishes_await rfl (fun _ => ?_) fun _ => trivial
        refine publishes_await rfl (fun _ => ?_) fun _ => trivial
        exact Safe.bind (faithful.give comment)
          (processComment_publishes (faithful.give comment) (between.give faithful))
          (fun _ _ _ done => done) fun _ _ _ _ => trivial
  · exact ⟨faithful, trivial⟩

/-- A program that neither asks for a comment nor makes a record. -/
theorem publishes_quiet {α : Type} {p : Coroutine α}
    (quiet : p.Uses fun c => Ledger.grows c = false) : w.Publishes p (fun _ _ => True) s :=
  Recorded.uses quiet _ trivial (fun _ _ quiet _ => publishPledge_of_quiet quiet)
    fun _ r _ quiet faithful _ => ⟨faithful.quiet quiet r, trivial⟩

theorem fetchAndProcessComments_publishes :
    w.Publishes w.fetchAndProcessComments (fun _ _ => True) s := by
  refine publishes_await rfl (fun _ => ?_) fun _ => trivial
  refine Recorded.await trivial fun r faithful => ⟨faithful.quiet rfl r, ?_⟩
  cases r with
  | error e => trivial
  | ok checkpoint =>
      refine Safe.exceptException (P := fun _ _ => True) (faithful.quiet rfl _) ?_
        (fun _ _ _ _ => trivial) (fun _ _ _ _ _ => trivial) fun e s' _ _ _ =>
          publishes_quiet
            (handleFetchException_straight (H := fun c => Ledger.grows c = false) rfl e).uses
      refine publishes_await rfl (fun _ => ?_) fun _ => trivial
      have opened : Ledger.Between checkpoint
          (Ledger.note (.openComments checkpoint.lastCommentId.isNone) (.ok ())
            (Ledger.note .getCheckpoint (.ok checkpoint) s)) :=
        ⟨fun j here bound => absurd bound (Nat.not_lt.mpr here), rfl⟩
      refine Recorded.forever _ opened fun s' faithful between =>
        (eachComment_publishes between).mono faithful fun r s'' _ after => ?_
      rcases r with e | (_ | _)
      · trivial
      · exact after
      · trivial

theorem handleError_publishes (e : PyExc) : w.Publishes (handleError e) (fun _ _ => True) s :=
  publishes_quiet (handleError_straight (H := fun c => Ledger.grows c = false) (fun _ _ _ => rfl)
    rfl (fun _ => rfl) e).uses

theorem streamLoop_publishes : w.Publishes w.streamLoop (fun _ _ => True) s := by
  refine Recorded.forever (fun _ => True) trivial fun s faithful _ => ?_
  refine publishes_await rfl (fun stopped => ?_) fun _ => trivial
  split
  · trivial
  refine Safe.bind (P := fun _ _ => True) faithful ?_ (fun _ _ _ _ => trivial)
    fun _ _ _ _ => trivial
  refine Safe.exceptException (P := fun _ _ => True) faithful ?_ (fun _ _ _ _ => trivial)
    (fun _ _ _ _ _ => trivial) fun e _ _ _ _ => handleError_publishes e
  refine publishes_await rfl (fun _ => ?_) fun _ => trivial
  refine Safe.exceptException (P := fun _ _ => True) faithful ?_ (fun _ _ _ _ => trivial)
    (fun _ _ _ _ _ => trivial) fun e _ _ _ _ =>
      publishes_await rfl (fun _ => trivial) fun _ => trivial
  exact Safe.bind faithful fetchAndProcessComments_publishes
    (fun _ _ _ _ => publishes_await rfl (fun _ => trivial) fun _ => trivial) fun _ _ _ _ => trivial

end StreamWorker

/-- Whatever is answered or raised: the records are in the order of the comments, one for a
comment at most, each is the serialized message of its comment, and another comment is
asked for only when every earlier one of the session is published, recorded as an error or
the one that the session's checkpoint names. -/
theorem records_follow_comments (w : StreamWorker)
    {c : Config WorkerEff WorkerEff.Answer PyExc Ledger Unit}
    (reached : (recorder Ledger.note).Reaches ⟨{}, fun _ => some w.streamLoop⟩ c) :
    w.Faithful c.state ∧ (c.Awaits () .nextComment → c.state.NoneMissed) :=
  have ⟨faithful, pledged⟩ := Recorded.reaches StreamWorker.Faithful.initial
    (StreamWorker.streamLoop_publishes (w := w)) reached
  ⟨faithful, pledged .nextComment⟩

/-- Two comments of one session: a record of the first, and the second has no text. -/
theorem second_comment_refused :
    ∃ c, (recorder Ledger.note).Reaches ⟨{}, fun _ => some newsWorker.streamLoop⟩ c ∧
      c.Awaits () .nextComment ∧ c.state.offers.map Offer.comment = [0] ∧ c.state.reported = [2] ∧
      newsWorker.Faithful c.state ∧ c.state.NoneMissed := by
  have run : ((recorder Ledger.note).exec
      [.unroll (), .call () ⟨.stopIsSet, .ok false⟩, .call () ⟨.breakerAdmit, .ok ()⟩,
        .call () ⟨.subreddit, .ok ()⟩, .call () ⟨.getCheckpoint, .ok {}⟩,
        .call () ⟨.openComments true, .ok ()⟩, .unroll (),
        .call () ⟨.nextComment, .ok (.item (some ⟨"c1", some "a", "text"⟩))⟩,
        .call () ⟨.stopIsSet, .ok false⟩, .call () ⟨.sleep 0, .ok ()⟩,
        .call () ⟨.breakerRecordSuccess, .ok ()⟩, .call () ⟨.nowIso, .ok "t1"⟩,
        .call () ⟨.serialize ⟨"news", "a", "text", "t1Z"⟩, .ok (some ⟨#[1]⟩)⟩,
        .call () ⟨.produce "reddit-comments" ⟨#[1]⟩ "news", .ok ()⟩, .call () ⟨.poll, .ok ()⟩,
        .call () ⟨.commentsSinceCheckpoint, .ok 0⟩,
        .call () ⟨.setCommentsSinceCheckpoint 1, .ok ()⟩, .unroll (),
        .call () ⟨.nextComment, .ok (.item (some ⟨"c2", none, ""⟩))⟩,
        .call () ⟨.stopIsSet, .ok false⟩, .call () ⟨.sleep 0, .ok ()⟩,
        .call () ⟨.breakerRecordSuccess, .ok ()⟩, .call () ⟨.nowIso, .ok "t2"⟩,
        .call () ⟨.recordError "CommentProcessingError"
          "String should have at least 1 character" true, .ok ()⟩, .unroll ()]
      ⟨{}, fun _ => some newsWorker.streamLoop⟩).map
        (fun c => (c.awaited (), c.state.offers.map Offer.comment, c.state.reported)) =
      some (some .nextComment, [0], [2]) := by rfl
  obtain ⟨c, reached, seen⟩ := Machine.Reaches.of_exec_map run
  obtain ⟨waits, offers, reported⟩ : c.awaited () = some .nextComment ∧
      c.state.offers.map Offer.comment = [0] ∧ c.state.reported = [2] := by simpa using seen
  obtain ⟨faithful, noneMissed⟩ := records_follow_comments newsWorker reached
  have waits := Config.awaits_iff.mpr waits
  exact ⟨c, reached, waits, offers, reported, faithful, noneMissed waits⟩

end RedditKafka
