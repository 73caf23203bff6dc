import RedditKafka.Stream.WorkerOutline

/-!
# At-least-once across sessions

The posts of the subreddit in posting order, listed from the oldest retained
one or from the moment of the opening. A session without a stored checkpoint
skips what exists when it opens. Within a session no post is passed over, so
everything turns on what a later listing leaves out when it opens.
-/
namespace RedditKafka
open Async

/-- The comments of a subreddit, in the order of their posting. -/
structure Posts where
  comment : Nat → Comment
  named : ∀ p, (comment p).id ≠ ""
  distinct : ∀ p q, (comment p).id = (comment q).id → p = q

/-- Listings yield the posts in order, and every post is well formed. -/
structure Listed (o : Outside) (posts : Posts) (w : StreamWorker) : Prop where
  yields : ∀ s c, o.yields s c = true → c = posts.comment s.feed
  wellFormed : ∀ p now, ∃ m, (w.messageOf (posts.comment p) now).build = .ok m
  serialized : ∀ s, o.serializes s false = false

/-- The stored checkpoint, if there is one, names no post that is still to come. -/
def Posts.Knows (posts : Posts) (s : World) : Prop :=
  ∀ p, s.checkpoint.lastCommentId = some (posts.comment p).id → p < s.posted

namespace World

/-- Posts since the first session that a listing from `start` on leaves out, and that no
session has passed to the producer. -/
def missed (s : World) (start : Nat) : List Nat :=
  match s.firstOpened with
  | none => []
  | some first => (List.range start).filter fun p => first ≤ p ∧ p ∉ s.published

theorem mem_published_of_missed {s : World} {start first p : Nat} (none : s.missed start = [])
    (opened : s.firstOpened = some first) (since : first ≤ p) (before : p < start) :
    p ∈ s.published := by
  by_contra unpublished
  have missing : p ∈ s.missed start := by simp [missed, opened, since, before, unpublished]
  simp [none] at missing

/-- No post is missing before one that has been passed to the producer. -/
def NoGap (s : World) : Prop :=
  ∀ first, s.firstOpened = some first → ∀ q ∈ s.published, ∀ p, first ≤ p → p < q →
    p ∈ s.published

end World

/-- Each listing that is opened leaves no unpublished post behind. -/
def nothingMissed : WorkerEff → World → Bool
  | .openComments skipExisting, s => (s.missed (s.start skipExisting)).isEmpty
  | _, _ => true

/-- The post that the checkpoint names was there before the first session, or is published. -/
def Covers (posts : Posts) (base : Nat) (checkpoint : Checkpoint) (s : World) : Prop :=
  ∀ p, checkpoint.lastCommentId = some (posts.comment p).id → p < base ∨ p ∈ s.published

/-- What holds between sessions. `base` is what was posted when the worker started. -/
structure History (posts : Posts) (base : Nat) (s : World) : Prop where
  since : base ≤ s.posted
  opened : ∀ first, s.firstOpened = some first → base ≤ first
  unopened : s.firstOpened = none → s.published = []
  noGap : s.NoGap
  stored : Covers posts base s.checkpoint s

/-- A session that read `checkpoint` has passed every post before position `n`. -/
structure Reading (posts : Posts) (base : Nat) (checkpoint : Checkpoint) (n : Nat) (s : World) :
    Prop extends History posts base s where
  session : Covers posts base checkpoint s
  running : s.firstOpened ≠ none
  read : ∀ first, s.firstOpened = some first → ∀ p, first ≤ p → p < n → p ∈ s.published

def deliveryStage (posts : Posts) (base : Nat) : Stage → World → Prop
  | .rest, s | .ready, s => History posts base s
  | .begun k, s => History posts base s ∧ Covers posts base k s
  | .idle k, s => Reading posts base k s.feed s
  | .busy c k, s => ∃ n, s.feed = n + 1 ∧ c = posts.comment n ∧ Reading posts base k n s
  | .made c k, s | .counted c k, s | .drained _ c k, s | .flushed c k, s | .saved c k, s =>
      ∃ n, s.feed = n + 1 ∧ c = posts.comment n ∧ n ∈ s.published ∧
        Reading posts base k (n + 1) s

section history

variable {posts : Posts} {base n : Nat} {k : Checkpoint} {s s' : World}

theorem Covers.same (h : Covers posts base k s) (same : s.SameStream s') :
    Covers posts base k s' := by
  intro p names
  rw [same.published]
  exact h p names

theorem World.NoGap.same (h : s.NoGap) (same : s.SameStream s') : s'.NoGap := by
  intro first opened
  rw [same.firstOpened] at opened
  rw [same.published]
  exact h first opened

theorem History.same (h : History posts base s) (same : s.SameStream s') :
    History posts base s' where
  since := h.since.trans same.posted
  opened first opened := h.opened first (same.firstOpened ▸ opened)
  unopened none := by rw [same.published]; exact h.unopened (same.firstOpened ▸ none)
  noGap := h.noGap.same same
  stored := by rw [same.checkpoint]; exact h.stored.same same

theorem Reading.same (h : Reading posts base k n s) (same : s.SameStream s') :
    Reading posts base k n s' where
  toHistory := h.toHistory.same same
  session := h.session.same same
  running := by rw [same.firstOpened]; exact h.running
  read first opened := by
    rw [same.published]
    exact h.read first (same.firstOpened ▸ opened)

theorem deliveryStage_same (stage : Stage) (same : s.SameStream s')
    (h : deliveryStage posts base stage s) : deliveryStage posts base stage s' := by
  cases stage with
  | rest | ready => exact History.same h same
  | begun k => exact ⟨h.1.same same, h.2.same same⟩
  | idle k =>
      simp only [deliveryStage, same.feed]
      exact Reading.same h same
  | busy c k =>
      obtain ⟨n, feed, own, reading⟩ := h
      exact ⟨n, same.feed.trans feed, own, reading.same same⟩
  | made c k | counted c k | drained _ c k | flushed c k | saved c k =>
      obtain ⟨n, feed, own, published, reading⟩ := h
      exact ⟨n, same.feed.trans feed, own, same.published ▸ published, reading.same same⟩

theorem deliveryStage_history (stage : Stage) (h : deliveryStage posts base stage s) :
    History posts base s := by
  cases stage with
  | rest | ready => exact h
  | begun k => exact h.1
  | idle k => exact Reading.toHistory h
  | busy c k =>
      obtain ⟨n, -, -, reading⟩ := h
      exact reading.toHistory
  | made c k | counted c k | drained _ c k | flushed c k | saved c k =>
      obtain ⟨n, -, -, -, reading⟩ := h
      exact reading.toHistory

theorem Covers.mono {published : List Nat} (h : Covers posts base k s) :
    Covers posts base k { s with published := s.published ++ published } :=
  fun p names => (h p names).imp_right fun old => List.mem_append_left _ old

/-- A session starts where the last ones have left nothing behind. -/
theorem History.openComments (h : History posts base s) (session : Covers posts base k s)
    {skip : Bool} (none : s.missed (s.start skip) = []) :
    Reading posts base k (s.start skip) (s.openComments skip) := by
  cases opened : s.firstOpened with
  | none =>
      have nothing : s.published = [] := h.unopened opened
      have first : (s.openComments skip).firstOpened = some s.posted := by
        simp [World.openComments, opened]
      have bound : s.start skip ≤ s.posted := by
        unfold World.start
        split
        · exact le_rfl
        · exact min_le_right _ _
      refine ⟨⟨h.since, fun first' same => ?_, fun none => ?_, fun _ _ q published => ?_, h.stored⟩,
        session, by simp [first], fun first' same p since before => ?_⟩
      · rw [first] at same
        cases same
        exact h.since
      · simp [first] at none
      · simp [World.openComments, nothing] at published
      · rw [first] at same
        cases same
        omega
  | some first =>
      have same : (s.openComments skip).firstOpened = s.firstOpened := by
        simp [World.openComments, opened]
      refine ⟨⟨h.since, fun first' => ?_, fun none => ?_, fun first' opened' => ?_, h.stored⟩, session,
        by simp [same, opened], fun first' opened' p since before => ?_⟩
      · rw [same]
        exact h.opened first'
      · simp [same, opened] at none
      · exact h.noGap first' (same ▸ opened')
      · exact World.mem_published_of_missed (s := s) none (same ▸ opened') since before

/-- The next post is behind all that are published, so it closes no gap and opens none. -/
theorem Reading.produce (h : Reading posts base k n s) (feed : s.feed = n + 1) :
    Reading posts base k (n + 1) s.produce := by
  have position : s.produce.published = s.published ++ [n] := by simp [World.produce, feed]
  have upTo : ∀ first, s.firstOpened = some first → ∀ p, first ≤ p → p < n + 1 →
      p ∈ s.published ++ [n] := by
    intro first opened p since before
    by_cases last : p = n
    · simp [last]
    · exact List.mem_append_left _ (h.read first opened p since (by omega))
  refine ⟨⟨h.since, h.opened, fun none => absurd none h.running, fun first opened q published p
    since before => ?_, ?_⟩, ?_, h.running, fun first opened p since before => ?_⟩
  · rw [position] at published ⊢
    rcases List.mem_append.mp published with old | new
    · exact List.mem_append_left _ (h.noGap first opened q old p since before)
    · rw [List.mem_singleton] at new
      exact upTo first opened p since (by omega)
  · exact h.stored.mono
  · exact h.session.mono
  · rw [position]
    exact upTo first opened p since before

/-- The skipped comment is the one that the session's checkpoint names. -/
theorem Reading.skip (h : Reading posts base k n s)
    (names : k.lastCommentId = some (posts.comment n).id) : Reading posts base k (n + 1) s := by
  refine ⟨h.toHistory, h.session, h.running, fun first opened p since before => ?_⟩
  by_cases last : p = n
  · subst last
    have := h.opened first opened
    exact (h.session p names).resolve_left (by omega)
  · exact h.read first opened p since (by omega)

theorem Reading.setCheckpoint (h : Reading posts base k (n + 1) s) (published : n ∈ s.published)
    (time written : String) :
    Reading posts base k (n + 1) (s.setCheckpoint (posts.comment n).id time written) := by
  refine ⟨⟨h.since, h.opened, h.unopened, h.noGap, fun p names => ?_⟩, h.session, h.running, h.read⟩
  have same : p = n := posts.distinct p n (by simpa [World.setCheckpoint, eq_comm] using names)
  exact .inr (same ▸ published)

end history

/-- With every post well formed, the worker passes over none of them in a session. -/
def deliveryOutline {o : Outside} {posts : Posts} {w : StreamWorker} (listed : Listed o posts w)
    (base : Nat) : Outline o none (fun c s => nothingMissed c s = true) (fun _ _ => True) w where
  holds := deliveryStage posts base
  always := World.NoGap
  settled stage _ s s' moved holds :=
    deliveryStage_same stage (World.tick_still moved).sameStream holds
  always_of stage s holds := (deliveryStage_history stage holds).noGap
  always_same s s' same noGap := noGap.same same
  quiet _ _ _ := trivial
  breaker stage s b holds :=
    deliveryStage_same stage (s := s) ⟨rfl, rfl, rfl, rfl, rfl, rfl, le_rfl⟩ holds
  record s kind history := History.same history (s.recordError_sameStream kind)
  goes s history _ := history
  unread s history := history
  read s history :=
    ⟨⟨history.since, history.opened, history.unopened, history.noGap, history.stored⟩,
      history.stored⟩
  unopened k s begun := begun.1
  opened k s begun none := begun.1.openComments begun.2 (by simpa [nothingMissed] using none)
  closed k s reading := Reading.toHistory reading
  yielded c k s reading yields :=
    ⟨s.feed, rfl, listed.yields s c yields, ⟨⟨reading.since, reading.opened, reading.unopened,
      reading.noGap, reading.stored⟩, reading.session, reading.running, reading.read⟩⟩
  stopped c k s busy _ := deliveryStage_history (.busy c k) busy
  skipped c k s busy read := by
    obtain ⟨n, feed, rfl, reading⟩ := busy
    simp only [deliveryStage, feed]
    exact reading.skip (by simpa using (Bool.and_eq_true_iff.mp read).2)
  produced c k s s₁ now m topic payload key busy _ _ _ _ := by
    obtain ⟨n, feed, own, reading⟩ := busy
    exact ⟨trivial, n, feed, own, by simp [World.produce, feed], reading.produce feed⟩
  recorded c k s busy refused := by
    obtain ⟨n, -, rfl, -⟩ := busy
    rcases refused with ⟨now, e, failed⟩ | ⟨s₁, -, failed⟩
    · obtain ⟨m, built⟩ := listed.wellFormed n now
      simp [built] at failed
    · simp [listed.serialized] at failed
  counts c k s made :=
    deliveryStage_same (.counted c k) (s := s) ⟨rfl, rfl, rfl, rfl, rfl, rfl, le_rfl⟩ made
  more c k s counted _ := by
    obtain ⟨n, feed, -, -, reading⟩ := counted
    simp only [deliveryStage, feed]
    exact reading
  drained _ c k s counted _ _ := counted
  flushed c k s drained _ :=
    deliveryStage_same (.flushed c k) (s := s) ⟨rfl, rfl, rfl, rfl, rfl, rfl, le_rfl⟩ drained
  saves _ _ _ _ _ := trivial
  saved c k s time written flushed := by
    obtain ⟨n, feed, rfl, published, reading⟩ := flushed
    exact ⟨n, feed, rfl, published, reading.setCheckpoint published time written⟩
  lost c k s flushed _ := flushed
  reset c k s saved := by
    obtain ⟨n, feed, -, -, reading⟩ := saved
    refine deliveryStage_same (.idle k) (s := s) ⟨rfl, rfl, rfl, rfl, rfl, rfl, le_rfl⟩ ?_
    simp only [deliveryStage, feed]
    exact reading

/-- Posts of the concrete runs; a post's id is as long as its place. -/
def newsPosts : Posts where
  comment p := ⟨String.ofList (List.replicate (p + 1) 'c'), none, "text"⟩
  named p none := by simpa using congrArg String.length none
  distinct p q same := by
    have := congrArg String.length same
    simpa using this

/-- Reddit, Kafka and the registry in working order, with `record_error` never failing. -/
def newsOutside : Outside where
  yields s c := decide (s.feed < s.posted) && decide (c = newsPosts.comment s.feed)
  serializes _ serialized := serialized
  recorderFails := false

theorem newsListed (interval : Nat) :
    Listed newsOutside newsPosts { newsWorker with checkpointInterval := interval } where
  yields s c h := by simpa [newsOutside] using (Bool.and_eq_true_iff.mp h).2
  wellFormed p now := by
    have valid : RedditCommentMessage.validateSubreddit "news" ++
      RedditCommentMessage.validateAuthorId "[deleted]" ++
        RedditCommentMessage.validateText "text" = [] := by decide
    exact ⟨_, RedditCommentMessage.build_ok valid⟩
  serialized s := rfl

/-- The worker opens a session, and one that has read the checkpoint, from its start. -/
def opening : List (Action Unit Choice Event) :=
  [.unroll (), .call () .done, .call () (.later 0), .call () .done, .call () .done, .call () .done]

/-- The next post is published and counted, short of a checkpoint. -/
def publishing (p : Nat) : List (Action Unit Choice Event) :=
  [.unroll (), .call () (.comment (some (newsPosts.comment p))), .call () .done, .call () .done,
    .call () .done, .call () (.text "now"), .call () (.payload (some ⟨#[]⟩)), .call () .done,
    .call () .done, .call () .done, .call () .done]

/-- The session fails while it waits for a comment, and the loop takes it. -/
def failing : List (Action Unit Choice Event) :=
  [.unroll (), .call () (.raised ⟨"RequestException", [.requestException, .exception], "timeout"⟩),
    .call () .done, .call () .done]

end RedditKafka
