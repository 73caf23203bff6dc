import Mathlib.Order.Interval.Finset.Nat
import Mathlib.Order.Nat
import Mathlib.Data.Nat.Count
import RedditKafka.Stream.AtLeastOnce

/-!
# The replay window

Successive workers of one stream, each a life of the loop and its shutdown. The
counter measures the distance from the stored checkpoint only as long as every
listing starts at that checkpoint, no write of it is lost, and the first
checkpoint is written by the first worker that publishes.
-/
namespace RedditKafka
open Async

/-- The checkpoint names the post at this position. -/
def Posts.Names (posts : Posts) (checkpoint : Checkpoint) (p : Nat) : Prop :=
  checkpoint.lastCommentId = some (posts.comment p).id

theorem Posts.Names.unique {posts : Posts} {k : Checkpoint} {p q : Nat} (hp : posts.Names k p)
    (hq : posts.Names k q) : p = q :=
  posts.distinct p q (by simpa using hp.symm.trans hq)

/-- Whether a comment can be published does not depend on when it is tried. -/
structure Steady (o : Outside) (posts : Posts) (w : StreamWorker) (serializable : Nat → Bool) :
    Prop where
  yields : ∀ s c, o.yields s c = true → c = posts.comment s.feed ∧ s.feed < s.posted
  serializes : ∀ s b n, o.serializes s b = true → s.feed = n + 1 → b = serializable n

/-- The post can be published. -/
def publishable (posts : Posts) (w : StreamWorker) (serializable : Nat → Bool) (p : Nat) : Bool :=
  (w.messageOf (posts.comment p) "").build.isOk && serializable p

/-- The timestamp is no part of the validation. -/
theorem build_isOk (w : StreamWorker) (c : Comment) (now : String) :
    (w.messageOf c now).build.isOk = (w.messageOf c "").build.isOk := by
  simp only [RedditCommentMessage.build, StreamWorker.messageOf]
  split <;> rfl

/-- Each listing starts at the stored checkpoint's post or right behind it; without a stored
checkpoint, everything published so far has been counted. -/
def listingFits (posts : Posts) : WorkerEff → World → Bool
  | .openComments true, s => decide (s.published.length ≤ s.commentsSinceCheckpoint)
  | .openComments false, s =>
      decide (s.checkpoint.lastCommentId = some (posts.comment (s.start false)).id) ||
        (decide (0 < s.start false) &&
          decide (s.checkpoint.lastCommentId = some (posts.comment (s.start false - 1)).id))
  | _, _ => true

/-- What a comment that is published again has to satisfy. -/
def replayPledge (posts : Posts) : WorkerEff → World → Prop
  | .produce _ _ _, s => s.feed - 1 ∈ s.published →
      s.feed - 1 ∈ s.publishedBefore ∧ ∃ p, posts.Names s.sessionCheckpoint p ∧ p < s.feed - 1
  | _, _ => True

section window

variable (posts : Posts) (fit : Nat → Bool) (interval : Nat)

/-- The publishable posts before position `n`. -/
def rank (n : Nat) : Nat := Nat.count (fun p => fit p = true) n

/-- What holds at every moment: the published posts newer than the stored checkpoint lie
within one interval of it. -/
structure Window (s : World) : Prop where
  posted : ∀ p ∈ s.published, p < s.posted
  fits : ∀ p ∈ s.published, fit p = true
  stored : s.checkpoint.lastCommentId = none ∨ ∃ c, posts.Names s.checkpoint c
  fresh : s.checkpoint.lastCommentId = none →
    s.published.Nodup ∧ s.published.length ≤ interval
  near : ∀ c, posts.Names s.checkpoint c → ∀ q ∈ s.published, c < q →
    rank fit (q + 1) ≤ rank fit (c + 1) + interval

/-- A session that read `k` is at position `n`. -/
structure Replaying (k : Checkpoint) (n : Nat) (s : World) : Prop extends
    Window posts fit interval s where
  session : s.sessionCheckpoint = k
  named : k.lastCommentId = none ∨ ∃ c, posts.Names k c
  reach : ∀ c, posts.Names k c → c ≤ n ∧ ∃ c', posts.Names s.checkpoint c' ∧ c ≤ c'
  behind : ∀ c, posts.Names s.checkpoint c → c ≤ n
  old : ∀ p ∈ s.published, p < n ∨ p ∈ s.publishedBefore
  first : k.lastCommentId = none → ∀ p ∈ s.published, p < n
  counted : ∀ c, posts.Names s.checkpoint c →
    rank fit n ≤ rank fit (c + 1) + s.commentsSinceCheckpoint
  uncounted : s.checkpoint.lastCommentId = none → k.lastCommentId = none ∧
    s.published.length ≤ s.commentsSinceCheckpoint

end window

section rank

variable {f : Nat → Bool}

theorem rank_mono {m n : Nat} (h : m ≤ n) : rank f m ≤ rank f n := Nat.count_monotone _ h

theorem rank_succ_le (n : Nat) : rank f (n + 1) ≤ rank f n + 1 := by
  rw [rank, Nat.count_succ]
  split <;> simp [rank]

theorem rank_succ_of_not {n : Nat} (h : f n = false) : rank f (n + 1) = rank f n := by
  simp [rank, Nat.count_succ, h]

theorem rank_lt {m n : Nat} (h : f m = true) (below : m < n) : rank f m < rank f n :=
  Nat.count_strict_mono h below

/-- Distinct publishable posts within one interval of a checkpoint are at most an interval. -/
theorem length_le_of_rank {l : List Nat} {c interval : Nat} (nodup : l.Nodup)
    (newer : ∀ q ∈ l, c < q) (fits : ∀ q ∈ l, f q = true)
    (near : ∀ q ∈ l, rank f (q + 1) ≤ rank f (c + 1) + interval) : l.length ≤ interval := by
  have inj : (l.map (rank f)).Nodup := by
    refine nodup.map_on fun a ha b hb same => ?_
    rcases lt_trichotomy a b with less | equal | more
    · exact absurd same (rank_lt (fits a ha) less).ne
    · exact equal
    · exact absurd same (rank_lt (fits b hb) more).ne'
  have within : l.map (rank f) ⊆ List.range' (rank f (c + 1)) interval := by
    intro r member
    obtain ⟨q, hq, rfl⟩ := List.mem_map.mp member
    rw [List.mem_range'_1]
    have := rank_lt (fits q hq) (Nat.lt_succ_self q)
    exact ⟨rank_mono (newer q hq), lt_of_lt_of_le this (near q hq)⟩
  simpa using (inj.subperm within).length_le

end rank
section replay

variable {posts : Posts} {fit : Nat → Bool} {interval n : Nat} {k : Checkpoint} {s s' : World}

theorem Window.same (h : Window posts fit interval s) (same : s.SameStream s') :
    Window posts fit interval s' where
  posted p published := (h.posted p (same.published ▸ published)).trans_le same.posted
  fits p published := h.fits p (same.published ▸ published)
  stored := by rw [same.checkpoint]; exact h.stored
  fresh none := by rw [same.published]; exact h.fresh (same.checkpoint ▸ none)
  near c names q published := h.near c (same.checkpoint ▸ names) q (same.published ▸ published)

/-- Only the id of the stored checkpoint matters. -/
theorem Window.rewrite (h : Window posts fit interval s)
    (same : k.lastCommentId = s.checkpoint.lastCommentId) :
    Window posts fit interval { s with checkpoint := k } where
  posted := h.posted
  fits := h.fits
  stored := by simpa only [Posts.Names, same] using h.stored
  fresh none := h.fresh (same.symm.trans none)
  near c names := h.near c (same.symm.trans names)

theorem Replaying.same (h : Replaying posts fit interval k n s) (same : s.SameStream s')
    (count : s'.commentsSinceCheckpoint = s.commentsSinceCheckpoint) :
    Replaying posts fit interval k n s' where
  toWindow := h.toWindow.same same
  session := same.sessionCheckpoint.trans h.session
  named := h.named
  reach c names := by rw [same.checkpoint]; exact h.reach c names
  behind c names := h.behind c (same.checkpoint ▸ names)
  old p published := by rw [same.publishedBefore]; exact h.old p (same.published ▸ published)
  first none p published := h.first none p (same.published ▸ published)
  counted c names := by rw [count]; exact h.counted c (same.checkpoint ▸ names)
  uncounted none := by rw [count, same.published]; exact h.uncounted (same.checkpoint ▸ none)

/-- A session opens at its checkpoint, or it has counted all that is published. -/
theorem Window.openComments (h : Window posts fit interval s) (session : s.sessionCheckpoint = k)
    (read : k.lastCommentId = s.checkpoint.lastCommentId) (before : s.publishedBefore = s.published)
    (fits : listingFits posts (.openComments k.lastCommentId.isNone) s = true) :
    Replaying posts fit interval k (s.start k.lastCommentId.isNone)
      (s.openComments k.lastCommentId.isNone) := by
  have window : Window posts fit interval (s.openComments k.lastCommentId.isNone) :=
    ⟨h.posted, h.fits, h.stored, h.fresh, h.near⟩
  have old : ∀ p ∈ s.published, p ∈ s.publishedBefore := fun p published => before ▸ published
  rcases h.stored with absent | ⟨c, names⟩
  · have kNone : k.lastCommentId = none := read.trans absent
    have unnamed : ∀ c, ¬ posts.Names s.checkpoint c := fun c names => by
      simp [Posts.Names, absent] at names
    simp only [kNone, Option.isNone_none] at fits window ⊢
    have count : s.published.length ≤ s.commentsSinceCheckpoint := by simpa [listingFits] using fits
    refine ⟨window, session, .inl kNone, fun c names => ?_, fun c names => absurd names (unnamed c),
      fun p published => .inr (old p published), fun _ p published => h.posted p published,
      fun c names => absurd names (unnamed c), fun _ => ⟨kNone, count⟩⟩
    simp [Posts.Names, kNone] at names
  · have kNames : posts.Names k c := read.trans names
    have some : k.lastCommentId.isNone = false := by rw [Posts.Names.eq_1] at kNames; simp [kNames]
    simp only [some] at fits window ⊢
    -- the listing starts at the checkpoint's post or right behind it
    have start : s.start false = c ∨ s.start false = c + 1 := by
      simp only [listingFits, Bool.or_eq_true, Bool.and_eq_true, decide_eq_true_eq] at fits
      rcases fits with at_ | ⟨positive, behind⟩
      · exact .inl (Posts.Names.unique at_ names)
      · have := Posts.Names.unique behind names
        exact .inr (by omega)
    have here : c ≤ s.start false := by omega
    refine ⟨window, session, .inr ⟨c, kNames⟩, fun c' names' => ?_, fun c' names' => ?_,
      fun p published => .inr (old p published), fun none => ?_, fun c' names' => ?_, fun none => ?_⟩
    · rw [names'.unique kNames]
      exact ⟨here, c, names, le_rfl⟩
    · rw [Posts.Names.unique names' names]
      exact here
    · simp [none] at some
    · rw [Posts.Names.unique names' names]
      exact (rank_mono (show s.start false ≤ c + 1 by omega)).trans (Nat.le_add_right _ _)
    · rw [Posts.Names] at names
      exact absurd (names.symm.trans none) (by simp)

/-- The next comment of the session is published and counted. -/
theorem Replaying.produce (h : Replaying posts fit interval k n s) (feed : s.feed = n + 1)
    (posted : n < s.posted) (fits : fit n = true) (ahead : ¬ posts.Names k n)
    (room : s.commentsSinceCheckpoint < interval) :
    Replaying posts fit interval k (n + 1)
      { s.produce with commentsSinceCheckpoint := s.commentsSinceCheckpoint + 1 } := by
  have position : s.produce.published = s.published ++ [n] := by simp [World.produce, feed]
  have member : ∀ p, p ∈ s.produce.published → p ∈ s.published ∨ p = n := by
    intro p published
    simpa [position] using published
  refine ⟨⟨fun p published => ?_, fun p published => ?_, h.stored, fun none => ?_,
    fun c names q published newer => ?_⟩, h.session, h.named, fun c names => ?_,
    fun c names => (h.behind c names).trans (Nat.le_succ n), fun p published => ?_,
    fun none p published => ?_, fun c names => ?_, fun none => ?_⟩
  · rcases member p published with old | rfl
    · exact h.posted p old
    · exact posted
  · rcases member p published with old | rfl
    · exact h.fits p old
    · exact fits
  · obtain ⟨kNone, count⟩ := h.uncounted none
    obtain ⟨nodup, -⟩ := h.fresh none
    have new : n ∉ s.published := fun published => (h.first kNone n published).ne rfl
    show s.produce.published.Nodup ∧ s.produce.published.length ≤ interval
    rw [position]
    refine ⟨?_, by simp; omega⟩
    rw [List.nodup_append]
    exact ⟨nodup, by simp, fun a old b here => by
      rw [List.mem_singleton] at here
      exact fun same => new (here ▸ same ▸ old)⟩
  · rcases member q published with old | rfl
    · exact h.near c names q old newer
    · have := h.counted c names
      have := rank_succ_le (f := fit) q
      omega
  · obtain ⟨here, c', names', le⟩ := h.reach c names
    exact ⟨here.trans (Nat.le_succ n), c', names', le⟩
  · rcases member p published with old | rfl
    · exact (h.old p old).imp_left fun below => below.trans (Nat.lt_succ_self n)
    · exact .inl (Nat.lt_succ_self p)
  · rcases member p published with old | rfl
    · exact (h.first none p old).trans (Nat.lt_succ_self n)
    · exact Nat.lt_succ_self p
  · have := h.counted c names
    have := rank_succ_le (f := fit) n
    show rank fit (n + 1) ≤ rank fit (c + 1) + (s.commentsSinceCheckpoint + 1)
    omega
  · obtain ⟨kNone, count⟩ := h.uncounted none
    refine ⟨kNone, ?_⟩
    show s.produce.published.length ≤ s.commentsSinceCheckpoint + 1
    rw [position]
    simp
    omega

/-- A comment that is not published leaves its position behind without counting. -/
theorem Replaying.pass (h : Replaying posts fit interval k n s)
    (uncounted : ∀ c, posts.Names s.checkpoint c →
      rank fit (n + 1) ≤ rank fit (c + 1) + s.commentsSinceCheckpoint) :
    Replaying posts fit interval k (n + 1) s := by
  refine ⟨h.toWindow, h.session, h.named, fun c names => ?_,
    fun c names => (h.behind c names).trans (Nat.le_succ n),
    fun p published => (h.old p published).imp_left fun below => below.trans (Nat.lt_succ_self n),
    fun none p published => (h.first none p published).trans (Nat.lt_succ_self n), uncounted,
    h.uncounted⟩
  obtain ⟨here, c', names', le⟩ := h.reach c names
  exact ⟨here.trans (Nat.le_succ n), c', names', le⟩

/-- The checkpoint moves to the comment just counted. -/
theorem Replaying.setCheckpoint (h : Replaying posts fit interval k (n + 1) s)
    (behind : ∀ c, posts.Names s.checkpoint c → c ≤ n) (time written : String) :
    Replaying posts fit interval k (n + 1)
      (s.setCheckpoint (posts.comment n).id time written) := by
  have names : posts.Names (s.setCheckpoint (posts.comment n).id time written).checkpoint n := rfl
  have only : ∀ {c}, posts.Names (s.setCheckpoint (posts.comment n).id time written).checkpoint c →
      c = n := fun names' => names'.unique names
  refine ⟨⟨h.posted, h.fits, .inr ⟨n, names⟩, fun none => ?_, fun c names' q published newer => ?_⟩,
    h.session, h.named, fun c names' => ?_, fun c names' => ?_, h.old, h.first, fun c names' => ?_,
    fun none => ?_⟩
  · simp [World.setCheckpoint] at none
  · rw [only names'] at newer ⊢
    rcases h.stored with none | ⟨c₀, stored⟩
    · have := h.first (h.uncounted none).1 q published
      omega
    · have le := behind c₀ stored
      have := h.near c₀ stored q published (by omega)
      have := rank_mono (f := fit) (show c₀ + 1 ≤ n + 1 by omega)
      omega
  · obtain ⟨here, c', stored, le⟩ := h.reach c names'
    exact ⟨here, n, names, le.trans (behind c' stored)⟩
  · rw [only names']
    exact Nat.le_succ n
  · rw [only names']
    exact Nat.le_add_right _ _
  · simp [World.setCheckpoint] at none

/-- After a comment has been counted: its position, and room for one more checkpoint. -/
def Counted (posts : Posts) (fit : Nat → Bool) (interval : Nat) (c : Comment) (k : Checkpoint)
    (s : World) : Prop :=
  ∃ n, s.feed = n + 1 ∧ c = posts.comment n ∧ Replaying posts fit interval k (n + 1) s ∧
    s.commentsSinceCheckpoint ≤ interval ∧ ∀ p, posts.Names s.checkpoint p → p ≤ n

def replayStage (posts : Posts) (fit : Nat → Bool) (interval : Nat) : Stage → World → Prop
  | .rest, s | .ready, s =>
      Window posts fit interval s ∧ s.commentsSinceCheckpoint < interval
  | .begun k, s => Window posts fit interval s ∧ s.commentsSinceCheckpoint < interval ∧
      s.sessionCheckpoint = k ∧ k.lastCommentId = s.checkpoint.lastCommentId ∧
        s.publishedBefore = s.published
  | .idle k, s => Replaying posts fit interval k s.feed s ∧ s.commentsSinceCheckpoint < interval
  | .busy c k, s => ∃ n, s.feed = n + 1 ∧ c = posts.comment n ∧ n < s.posted ∧
      Replaying posts fit interval k n s ∧ s.commentsSinceCheckpoint < interval
  | .made c k, s => Counted posts fit interval c k
      { s with commentsSinceCheckpoint := s.commentsSinceCheckpoint + 1 }
  | .counted c k, s | .drained _ c k, s | .flushed c k, s => Counted posts fit interval c k s
  | .saved _ k, s => ∃ n, s.feed = n + 1 ∧ posts.Names s.checkpoint n ∧
      Replaying posts fit interval k (n + 1) s

theorem Counted.same {c : Comment} (h : Counted posts fit interval c k s) (same : s.SameStream s')
    (count : s'.commentsSinceCheckpoint = s.commentsSinceCheckpoint) :
    Counted posts fit interval c k s' := by
  obtain ⟨n, feed, own, replaying, room, behind⟩ := h
  exact ⟨n, same.feed.trans feed, own, replaying.same same count, count ▸ room,
    fun p names => behind p (same.checkpoint ▸ names)⟩

theorem replayStage_same (stage : Stage) (same : s.SameStream s')
    (count : s'.commentsSinceCheckpoint = s.commentsSinceCheckpoint)
    (h : replayStage posts fit interval stage s) : replayStage posts fit interval stage s' := by
  cases stage with
  | rest | ready => exact ⟨h.1.same same, by rw [count]; exact h.2⟩
  | begun k =>
      obtain ⟨window, room, session, read, before⟩ := h
      exact ⟨window.same same, by rw [count]; exact room, same.sessionCheckpoint.trans session,
        by rw [same.checkpoint]; exact read, by rw [same.publishedBefore, same.published, before]⟩
  | idle k =>
      simp only [replayStage, same.feed, count]
      exact ⟨h.1.same same count, h.2⟩
  | busy c k =>
      obtain ⟨n, feed, own, posted, replaying, room⟩ := h
      exact ⟨n, same.feed.trans feed, own, posted.trans_le same.posted, replaying.same same count,
        by rw [count]; exact room⟩
  | made c k =>
      exact Counted.same h ⟨same.checkpoint, same.sessionCheckpoint, same.feed, same.published,
        same.publishedBefore, same.firstOpened, same.posted⟩ (congrArg (· + 1) count)
  | counted c k | drained _ c k | flushed c k => exact Counted.same h same count
  | saved _ k =>
      obtain ⟨n, feed, names, replaying⟩ := h
      exact ⟨n, same.feed.trans feed, by rw [same.checkpoint]; exact names,
        replaying.same same count⟩

theorem replayStage_window (stage : Stage) (h : replayStage posts fit interval stage s) :
    Window posts fit interval s := by
  cases stage with
  | rest | ready | begun _ => exact h.1
  | idle k => exact h.1.toWindow
  | busy c k =>
      obtain ⟨n, -, -, -, replaying, -⟩ := h
      exact replaying.toWindow
  | made c k =>
      obtain ⟨n, -, -, replaying, -⟩ := h
      exact ⟨replaying.posted, replaying.fits, replaying.stored, replaying.fresh, replaying.near⟩
  | counted c k | drained _ c k | flushed c k =>
      obtain ⟨n, -, -, replaying, -⟩ := h
      exact replaying.toWindow
  | saved _ k =>
      obtain ⟨n, -, -, replaying⟩ := h
      exact replaying.toWindow

/-- The post that is skipped is the session's checkpoint, so nothing lies in between. -/
theorem replayStage_skip {c : Comment} {k : Checkpoint}
    (busy : replayStage posts fit interval (.busy c k) s)
    (read : StreamWorker.alreadyProcessed c k = true) : replayStage posts fit interval (.idle k) s := by
  obtain ⟨n, feed, rfl, -, h, room⟩ := busy
  have names : k.lastCommentId = some (posts.comment n).id := by
    simpa using (Bool.and_eq_true_iff.mp read).2
  simp only [replayStage, feed]
  refine ⟨h.pass fun c stored => ?_, room⟩
  obtain ⟨-, c', stored', le⟩ := h.reach n names
  have below : n + 1 ≤ c + 1 := by
    rw [stored.unique stored']
    omega
  have := rank_mono (f := fit) below
  omega

end replay

/-- Checkpoint writes that fail have no effect only where the id is stored already. -/
def Lossless (o : Outside) : Prop :=
  ∀ s id, o.losesCheckpoint s id = true → s.checkpoint.lastCommentId = some id

/-- The window is kept by every session whose listing fits. -/
def replayOutline {o : Outside} {posts : Posts} {w : StreamWorker} {serializable : Nat → Bool}
    (steady : Steady o posts w serializable) (lossless : Lossless o)
    (positive : 0 < w.checkpointInterval) (restart : Option (Coroutine Unit)) :
    Outline o restart (fun c s => listingFits posts c s = true) (replayPledge posts) w where
  holds := replayStage posts (publishable posts w serializable) w.checkpointInterval
  always := Window posts (publishable posts w serializable) w.checkpointInterval
  settled stage _ s s' moved holds :=
    have still := World.tick_still moved
    replayStage_same stage still.sameStream still.commentsSinceCheckpoint holds
  always_of stage s holds := replayStage_window stage holds
  always_same s s' same window := window.same same
  quiet c s watched := by cases c <;> trivial
  breaker stage s b holds :=
    replayStage_same stage (s := s) ⟨rfl, rfl, rfl, rfl, rfl, rfl, le_rfl⟩ rfl holds
  record s kind rest := by
    refine replayStage_same .rest (s.recordError_sameStream kind) ?_ rest
    unfold World.recordError
    split <;> rfl
  goes s rest _ := rest
  unread s ready := ready
  read s ready := ⟨⟨ready.1.posted, ready.1.fits, ready.1.stored, ready.1.fresh, ready.1.near⟩,
    ready.2, rfl, rfl, rfl⟩
  unopened k s begun := ⟨begun.1, begun.2.1⟩
  opened k s begun fits := by
    obtain ⟨window, room, session, read, before⟩ := begun
    exact ⟨window.openComments session read before fits, room⟩
  closed k s idle := ⟨idle.1.toWindow, idle.2⟩
  yielded c k s idle yields := by
    obtain ⟨own, posted⟩ := steady.yields s c yields
    obtain ⟨h, room⟩ := idle
    exact ⟨s.feed, rfl, own, posted, ⟨⟨h.posted, h.fits, h.stored, h.fresh, h.near⟩, h.session,
      h.named, h.reach, h.behind, h.old, h.first, h.counted, h.uncounted⟩, room⟩
  stopped c k s busy _ := by
    obtain ⟨n, -, -, -, h, room⟩ := busy
    exact ⟨h.toWindow, room⟩
  skipped _ _ _ := replayStage_skip
  produced c k s s₁ now m topic payload key busy busy₁ unread built possible := by
    obtain ⟨n, feed, rfl, posted, h, room⟩ := busy
    obtain ⟨n₁, feed₁, same, -, -, -⟩ := busy₁
    have position : n = n₁ := posts.distinct n n₁ (congrArg Comment.id same)
    have fits : publishable posts w serializable n = true := by
      have isOk : (w.messageOf (posts.comment n) "").build.isOk = true := by
        rw [← build_isOk w (posts.comment n) now, built]
        rfl
      simp [publishable, isOk, position ▸ (steady.serializes s₁ true n₁ possible feed₁).symm]
    have ahead : ¬ posts.Names k n := fun names => by
      rw [Posts.Names] at names
      simp [StreamWorker.alreadyProcessed, truthy, names, posts.named] at unread
    refine ⟨fun again => ?_, n, feed, rfl, h.produce feed posted fits ahead room, room,
      fun p names => h.behind p names⟩
    rw [feed, Nat.add_sub_cancel] at again ⊢
    refine ⟨(h.old n again).resolve_left (lt_irrefl n), ?_⟩
    rcases h.named with none | ⟨p, names⟩
    · exact absurd (h.first none n again) (lt_irrefl n)
    · refine ⟨p, by rw [h.session]; exact names, lt_of_le_of_ne (h.reach p names).1 ?_⟩
      exact fun same => ahead (same ▸ names)
  recorded c k s busy refused := by
    obtain ⟨n, feed, rfl, -, h, room⟩ := busy
    have unfit : publishable posts w serializable n = false := by
      rcases refused with ⟨now, e, failed⟩ | ⟨s₁, ⟨n₁, feed₁, same, -⟩, failed⟩
      · have : (w.messageOf (posts.comment n) "").build.isOk = false := by
          rw [← build_isOk w (posts.comment n) now, failed]
          rfl
        simp [publishable, this]
      · have position : n = n₁ := posts.distinct n n₁ (congrArg Comment.id same)
        simp [publishable, position ▸ (steady.serializes s₁ false n₁ failed feed₁).symm]
    have passed : replayStage posts (publishable posts w serializable) w.checkpointInterval
        (.idle k) s := by
      simp only [replayStage, feed]
      exact ⟨h.pass fun c stored => (rank_succ_of_not unfit).trans_le (h.counted c stored), room⟩
    refine replayStage_same (.idle k) (s.recordError_sameStream _) ?_ passed
    unfold World.recordError
    split <;> rfl
  counts c k s made := made
  more c k s counted room := by
    obtain ⟨n, feed, -, h, -⟩ := counted
    simp only [replayStage, feed]
    exact ⟨h, room⟩
  drained _ c k s counted _ _ := counted
  flushed c k s drained _ :=
    replayStage_same (.flushed c k) (s := s) ⟨rfl, rfl, rfl, rfl, rfl, rfl, le_rfl⟩ rfl drained
  saves _ _ _ _ _ := trivial
  saved c k s time written flushed := by
    obtain ⟨n, feed, rfl, h, -, behind⟩ := flushed
    exact ⟨n, feed, rfl, h.setCheckpoint behind time written⟩
  lost c k s flushed lost := by
    obtain ⟨n, feed, rfl, h, -, -⟩ := flushed
    exact ⟨n, feed, lossless s _ lost, h⟩
  reset c k s saved := by
    obtain ⟨n, feed, names, h⟩ := saved
    simp only [replayStage, feed]
    refine ⟨⟨⟨h.posted, h.fits, h.stored, h.fresh, h.near⟩, h.session, h.named, h.reach, h.behind,
      h.old, h.first, fun p names' => ?_, fun none => ?_⟩, positive⟩
    · rw [names'.unique names]
      exact Nat.le_add_right _ _
    · rw [Posts.Names] at names
      exact absurd (names.symm.trans none) (by simp)

/-- The last save of a worker keeps the window. -/
theorem replayOutline_restorable {o : Outside} {posts : Posts} {w : StreamWorker}
    {serializable : Nat → Bool} (steady : Steady o posts w serializable) (lossless : Lossless o)
    (positive : 0 < w.checkpointInterval) (restart : Option (Coroutine Unit)) :
    (replayOutline steady lossless positive restart).Restorable where
  read _ window := ⟨window.posted, window.fits, window.stored, window.fresh, window.near⟩
  rewrite _ _ same window := Window.rewrite window same
  saves _ _ _ _ _ := trivial

/-- Distinct published posts newer than the stored checkpoint. -/
def World.NewerPublished (posts : Posts) (s : World) (l : List Nat) : Prop :=
  l.Nodup ∧ ∀ q ∈ l, q ∈ s.published ∧ ∀ c, posts.Names s.checkpoint c → c < q

theorem Window.bound {posts : Posts} {fit : Nat → Bool} {interval : Nat} {s : World}
    (h : Window posts fit interval s) {l : List Nat} (newer : s.NewerPublished posts l) :
    l.length ≤ interval := by
  obtain ⟨nodup, newer⟩ := newer
  rcases h.stored with absent | ⟨c, names⟩
  · exact (nodup.subperm fun q member => (newer q member).1).length_le.trans (h.fresh absent).2
  · exact length_le_of_rank nodup (fun q member => (newer q member).2 c names)
      (fun q member => h.fits q (newer q member).1)
      fun q member => h.near c names q (newer q member).1 ((newer q member).2 c names)

/-- In every run of successive workers whose listings fit, whose checkpoint writes are not
lost and whose comments are published or refused alike each time, the published posts newer
than the stored checkpoint are at most one interval, and a post is published again only when
it was published before the session and is newer than the session's checkpoint. -/
theorem replay_within_window (w : StreamWorker) (o : Outside) (posts : Posts)
    (serializable : Nat → Bool) (steady : Steady o posts w serializable) (lossless : Lossless o)
    (positive : 0 < w.checkpointInterval) (s₀ : World)
    (known : s₀.checkpoint.lastCommentId = none ∨ ∃ p, posts.Names s₀.checkpoint p)
    {c : Config WorkerEff WorkerEff.Answer PyExc World Unit}
    (reached : (workerMachine o (some w.lifetime)).ReachesUnder
      (fun _ e s => listingFits posts e s = true) (workerConfig w.lifetime s₀) c) :
    (∀ l, c.state.NewerPublished posts l → l.length ≤ w.checkpointInterval) ∧
      ∀ topic payload key, c.Awaits () (.produce topic payload key) →
        c.state.feed - 1 ∈ c.state.published → c.state.feed - 1 ∈ c.state.publishedBefore ∧
          ∃ p, posts.Names c.state.sessionCheckpoint p ∧ p < c.state.feed - 1 := by
  have fresh : Window posts (publishable posts w serializable) w.checkpointInterval
      s₀.newHistory :=
    ⟨nofun, nofun, known, fun _ => ⟨.nil, Nat.zero_le _⟩, fun _ _ _ => nofun⟩
  have begun : ∀ s, Window posts (publishable posts w serializable) w.checkpointInterval s →
      Window posts (publishable posts w serializable) w.checkpointInterval s.begin :=
    fun s h => ⟨h.posted, h.fits, h.stored, h.fresh, h.near⟩
  have again := replayOutline_restorable steady lossless positive (some w.lifetime)
  have orderly := WorkerSafe.orderly (fun _ _ _ _ _ _ => trivial)
    (replayOutline steady lossless positive (some w.lifetime)).settled_always
    (fun p same s window => by
      cases same
      exact ⟨begun s window, Outline.lifetime_safe again ⟨begun s window, positive⟩⟩)
    (begun _ fresh) (Outline.lifetime_safe again ⟨begun _ fresh, positive⟩) reached
  exact ⟨fun l newer => Window.bound orderly.inv newer,
    fun topic payload key waits => orderly.pledged waits⟩

/-! ## Runs -/

/-- As `newsOutside`, and a checkpoint write fails without effect only on the stored id. -/
def losslessOutside : Outside :=
  { newsOutside with losesCheckpoint := fun s id => decide (s.checkpoint.lastCommentId = some id) }

theorem newsSteady : Steady losslessOutside newsPosts newsWorker fun _ => true where
  yields s c h := by
    obtain ⟨posted, own⟩ := Bool.and_eq_true_iff.mp h
    exact ⟨by simpa using own, by simpa using posted⟩
  serializes s b n h _ := h

/-- The post that the session's checkpoint names is skipped. -/
def skipping (p : Nat) : List (Action Unit Choice Event) :=
  [.unroll (), .call () (.comment (some (newsPosts.comment p))), .call () .done, .call () .done,
    .call () .done]

/-- The worker is cancelled, saves its checkpoint, and the next one starts. -/
def restarting : List (Action Unit Choice Event) :=
  [.unroll (), .call () (.raised .cancelledError), .call () (.children [.lock]), .call () .done,
    .call () (.text "now"), .call () (.text "now"), .call () .done, .finish (), .start () .begin]

/-- Two posts, and a checkpoint at the first. -/
def resumedWorld : World :=
  { checkpoint := ⟨some (newsPosts.comment 0).id, none, none⟩, posted := 2 }

/-- A post newer than the checkpoint is about to be published by a second worker. -/
theorem replay_after_restart :
    ∃ c, (workerMachine losslessOutside (some newsWorker.lifetime)).ReachesUnder
        (fun _ e s => listingFits newsPosts e s = true)
        (workerConfig newsWorker.lifetime resumedWorld) c ∧
      c.state.published = [1] ∧ c.state.feed = 2 ∧ c.state.publishedBefore = [1] ∧
        ∃ p, newsPosts.Names c.state.sessionCheckpoint p ∧ p < 1 := by
  have run : ((workerMachine losslessOutside (some newsWorker.lifetime)).execUnder
      (fun _ => listingFits newsPosts)
      (opening ++ skipping 0 ++ publishing 1 ++ restarting ++ opening ++ skipping 0 ++
        (publishing 1).take 7)
      (workerConfig newsWorker.lifetime resumedWorld)).map
          (fun c => (c.awaited (), c.state.published, c.state.feed, c.state.publishedBefore)) =
        some (some (.produce "reddit-comments" ⟨#[]⟩ "news"), [1], 2, [1]) := by decide +kernel
  obtain ⟨c, reached, seen⟩ := Machine.ReachesUnder.of_execUnder_map run
  simp only [Prod.mk.injEq] at seen
  obtain ⟨waits, published, feed, before⟩ := seen
  have window := replay_within_window newsWorker losslessOutside newsPosts (fun _ => true)
    newsSteady (fun s id lost => by simpa [losslessOutside] using lost) (by decide) resumedWorld
    (.inr ⟨0, rfl⟩) reached
  have newer := window.2 _ _ _ (Config.awaits_iff.mpr waits) (by simp [published, feed])
  rw [feed] at newer
  exact ⟨c, reached, published, feed, before, newer.2⟩

/-- Two posts, and a checkpoint at the second. -/
def laterWorld : World :=
  { checkpoint := ⟨some (newsPosts.comment 1).id, none, none⟩, posted := 2 }

/-- Only the checkpoint's own post is skipped: a listing that still retains the post before
it publishes that post in every session. -/
theorem replay_before_checkpoint :
    ¬ ∀ (w : StreamWorker) (o : Outside) (posts : Posts) (serializable : Nat → Bool) (s₀ : World)
      (c : Config WorkerEff WorkerEff.Answer PyExc World Unit), Steady o posts w serializable →
      (s₀.checkpoint.lastCommentId = none ∨ ∃ p, posts.Names s₀.checkpoint p) →
      (workerMachine o (some w.lifetime)).Reaches (workerConfig w.lifetime s₀) c →
      (∀ l, c.state.NewerPublished posts l → l.length ≤ w.checkpointInterval) ∧
        ∀ topic payload key, c.Awaits () (.produce topic payload key) →
          c.state.feed - 1 ∈ c.state.published → c.state.feed - 1 ∈ c.state.publishedBefore ∧
            ∃ p, posts.Names c.state.sessionCheckpoint p ∧ p < c.state.feed - 1 := by
  intro claim
  have run : ((workerMachine losslessOutside (some newsWorker.lifetime)).exec
      (opening ++ publishing 0 ++ failing ++ opening ++ (publishing 0).take 7)
      (workerConfig newsWorker.lifetime laterWorld)).map
          (fun c => (c.awaited (), c.state.published, c.state.feed)) =
        some (some (.produce "reddit-comments" ⟨#[]⟩ "news"), [0], 1) := by decide +kernel
  obtain ⟨c, reached, seen⟩ := Machine.Reaches.of_exec_map run
  simp only [Prod.mk.injEq] at seen
  obtain ⟨waits, published, feed⟩ := seen
  have window := claim newsWorker losslessOutside newsPosts (fun _ => true) laterWorld c newsSteady
    (.inr ⟨1, rfl⟩) reached
  obtain ⟨-, p, -, older⟩ :=
    window.2 _ _ _ (Config.awaits_iff.mpr waits) (by simp [published, feed])
  simp [feed] at older

end RedditKafka
