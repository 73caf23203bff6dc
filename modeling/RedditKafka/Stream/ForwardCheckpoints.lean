import RedditKafka.Stream.ReplayWindow

/-!
# Checkpoints that move forward

One worker alone writes the checkpoint of its stream, over any number of
sessions. A session that begins before the checkpoint counts posts which are
older than it, on top of what the session before has counted, so the next
checkpoint is behind the old one unless the count stays below the interval
until the checkpoint's own post has come by.
-/
namespace RedditKafka
open Async

/-- Sessions yield the posts in order; only a serializable one is ever serialized. -/
structure InOrder (o : Outside) (posts : Posts) (serializable : Nat → Bool) : Prop where
  yields : ∀ s c, o.yields s c = true → c = posts.comment s.feed ∧ s.feed < s.posted
  serializes : ∀ s n, o.serializes s true = true → s.feed = n + 1 → serializable n = true

/-- The count of the worker, and the publishable posts from the start of the listing up to the
post of the stored checkpoint, stay below the interval together. -/
def replaysLittle (posts : Posts) (fit : Nat → Bool) (interval : Nat) : WorkerEff → World → Bool
  | .openComments false, s => (List.range s.posted).all fun c =>
      decide (s.checkpoint.lastCommentId ≠ some (posts.comment c).id) ||
        decide (c < s.start false) ||
          decide (s.commentsSinceCheckpoint + rank fit c < interval + rank fit (s.start false))
  | _, _ => true

/-- No checkpoint is written over one that names a later post. -/
def forwardPledge (posts : Posts) : WorkerEff → World → Prop
  | .setCheckpoint id _, s => ∀ c, posts.Names s.checkpoint c →
      ∃ n, id = (posts.comment n).id ∧ c ≤ n
  | _, _ => True

section forward

variable (posts : Posts) (fit : Nat → Bool) (interval : Nat)

/-- The stored checkpoint names a post, if there is one. -/
def Stored (s : World) : Prop :=
  s.checkpoint.lastCommentId = none ∨ ∃ c < s.posted, posts.Names s.checkpoint c

/-- The stored checkpoint lies behind position `n`, or it is the one that the session has read
and its post comes by before the next checkpoint is due. -/
def Ahead (k : Checkpoint) (n : Nat) (s : World) : Prop :=
  ∀ c, posts.Names s.checkpoint c → c < n ∨ (posts.Names k c ∧ n ≤ c ∧
    s.commentsSinceCheckpoint + rank fit c < interval + rank fit n)

/-- The session has been given the post at position `n`, and `n` it is at. -/
structure At (c : Comment) (n : Nat) (s : World) : Prop where
  feed : s.feed = n + 1
  own : c = posts.comment n
  posted : n < s.posted
  stored : Stored posts s

def forwardStage : Stage → World → Prop
  | .rest, s | .ready, s => Stored posts s
  | .begun k, s => Stored posts s ∧ k.lastCommentId = s.checkpoint.lastCommentId
  | .idle k, s => Stored posts s ∧ Ahead posts fit interval k s.feed s
  | .busy c k, s => ∃ n, At posts c n s ∧ Ahead posts fit interval k n s
  | .made c k, s => ∃ n, At posts c n s ∧ Ahead posts fit interval k (n + 1)
      { s with commentsSinceCheckpoint := s.commentsSinceCheckpoint + 1 }
  | .counted c k, s => ∃ n, At posts c n s ∧ Ahead posts fit interval k (n + 1) s
  | .drained _ c _, s | .flushed c _, s => ∃ n, At posts c n s ∧
      ∀ p, posts.Names s.checkpoint p → p ≤ n
  | .saved _ _, s => Stored posts s ∧ ∀ p, posts.Names s.checkpoint p → p < s.feed

end forward

section stages

variable {posts : Posts} {fit : Nat → Bool} {interval n : Nat} {k : Checkpoint} {c : Comment}
  {s s' : World}

theorem Stored.same (h : Stored posts s) (same : s.SameStream s') : Stored posts s' := by
  rw [Stored, same.checkpoint]
  exact h.imp_right fun ⟨c, posted, names⟩ => ⟨c, posted.trans_le same.posted, names⟩

theorem At.same (h : At posts c n s) (same : s.SameStream s') : At posts c n s' :=
  ⟨same.feed.trans h.feed, h.own, h.posted.trans_le same.posted, h.stored.same same⟩

theorem Ahead.same (h : Ahead posts fit interval k n s) (same : s.SameStream s')
    (count : s'.commentsSinceCheckpoint = s.commentsSinceCheckpoint) :
    Ahead posts fit interval k n s' := by
  intro p names
  rw [count]
  exact h p (same.checkpoint ▸ names)

theorem forwardStage_same (stage : Stage) (same : s.SameStream s')
    (count : s'.commentsSinceCheckpoint = s.commentsSinceCheckpoint)
    (h : forwardStage posts fit interval stage s) : forwardStage posts fit interval stage s' := by
  cases stage with
  | rest | ready => exact Stored.same h same
  | begun k => exact ⟨h.1.same same, by rw [same.checkpoint]; exact h.2⟩
  | idle k =>
      simp only [forwardStage, same.feed]
      exact ⟨h.1.same same, h.2.same same count⟩
  | busy c k | counted c k =>
      obtain ⟨n, here, ahead⟩ := h
      exact ⟨n, here.same same, ahead.same same count⟩
  | made c k =>
      obtain ⟨n, here, ahead⟩ := h
      refine ⟨n, here.same same, fun p names => ?_⟩
      simp only [count]
      exact ahead p (same.checkpoint ▸ names)
  | drained _ c k | flushed c k =>
      obtain ⟨n, here, behind⟩ := h
      exact ⟨n, here.same same, fun p names => behind p (same.checkpoint ▸ names)⟩
  | saved _ k =>
      simp only [forwardStage, same.feed, same.checkpoint]
      exact ⟨h.1.same same, h.2⟩

theorem forwardStage_stored (stage : Stage) (h : forwardStage posts fit interval stage s) :
    Stored posts s := by
  cases stage with
  | rest | ready => exact h
  | begun _ | idle _ | saved _ _ => exact h.1
  | busy _ _ | made _ _ | counted _ _ | drained _ _ _ | flushed _ _ =>
      obtain ⟨n, here, -⟩ := h
      exact here.stored

/-- The session opens a listing that reaches the checkpoint's post in time. -/
theorem Stored.openComments (h : Stored posts s) (read : k.lastCommentId = s.checkpoint.lastCommentId)
    (little : replaysLittle posts fit interval (.openComments k.lastCommentId.isNone) s = true) :
    Ahead posts fit interval k (s.start k.lastCommentId.isNone)
      (s.openComments k.lastCommentId.isNone) := by
  intro c names
  have named : k.lastCommentId = some (posts.comment c).id := read.trans names
  simp only [named, Option.isNone_some] at little ⊢
  have posted : c < s.posted := by
    rcases h with none | ⟨c', posted, names'⟩
    · rw [Posts.Names] at names
      exact absurd (names.symm.trans none) (by simp)
    · exact Posts.Names.unique names' names ▸ posted
  have here := List.all_eq_true.mp little c (List.mem_range.mpr posted)
  simp only [Bool.or_eq_true, decide_eq_true_eq] at here
  rcases lt_or_ge c (s.start false) with behind | ahead
  · exact .inl behind
  · refine .inr ⟨named, ahead, ?_⟩
    rcases here with (other | behind) | little
    · exact absurd names other
    · omega
    · exact little

/-- The session leaves a position behind that it does not count. -/
theorem Ahead.pass (h : Ahead posts fit interval k n s) : Ahead posts fit interval k (n + 1) s := by
  intro c names
  rcases h c names with behind | ⟨own, ahead, little⟩
  · exact .inl (by omega)
  rcases Nat.eq_or_lt_of_le ahead with rfl | ahead
  · exact .inl (Nat.lt_succ_self _)
  · have := rank_mono (f := fit) (show n ≤ n + 1 by omega)
    exact .inr ⟨own, ahead, by omega⟩

/-- The session counts a post that is not its checkpoint's. -/
theorem Ahead.count (h : Ahead posts fit interval k n s) (fits : fit n = true)
    (other : ¬ posts.Names k n) : Ahead posts fit interval k (n + 1)
      { s with commentsSinceCheckpoint := s.commentsSinceCheckpoint + 1 } := by
  intro c names
  rcases h c names with behind | ⟨own, ahead, little⟩
  · exact .inl (by omega)
  · have ne : n ≠ c := by
      rintro rfl
      exact other own
    have := rank_lt fits (show n < n + 1 by omega)
    refine .inr ⟨own, by omega, ?_⟩
    show s.commentsSinceCheckpoint + 1 + rank fit c < interval + rank fit (n + 1)
    omega

/-- When a checkpoint is due, the stored one is behind. -/
theorem Ahead.due (h : Ahead posts fit interval k (n + 1) s)
    (due : interval ≤ s.commentsSinceCheckpoint) {p : Nat} (names : posts.Names s.checkpoint p) :
    p ≤ n := by
  rcases h p names with behind | ⟨-, ahead, little⟩
  · omega
  · have := rank_mono (f := fit) ahead
    omega

end stages

/-- Checkpoints move forward in every run whose replays are little. -/
def forwardOutline {o : Outside} {posts : Posts} {w : StreamWorker} {serializable : Nat → Bool}
    (ordered : InOrder o posts serializable) :
    Outline o none (fun c s => replaysLittle posts (publishable posts w serializable)
      w.checkpointInterval c s = true) (forwardPledge posts) w where
  holds := forwardStage posts (publishable posts w serializable) w.checkpointInterval
  always := Stored posts
  settled stage _ s s' moved holds :=
    have still := World.tick_still moved
    forwardStage_same stage still.sameStream still.commentsSinceCheckpoint holds
  always_of stage s holds := forwardStage_stored stage holds
  always_same s s' same stored := stored.same same
  quiet c s watched := by
    cases c with
    | setCheckpoint => cases watched
    | _ => trivial
  breaker stage s b holds :=
    forwardStage_same stage (s := s) ⟨rfl, rfl, rfl, rfl, rfl, rfl, le_rfl⟩ rfl holds
  record s kind rest := Stored.same rest (s.recordError_sameStream kind)
  goes s rest _ := rest
  unread s ready := ready
  read s ready := ⟨ready, rfl⟩
  unopened k s begun := begun.1
  opened k s begun little := ⟨begun.1, begun.1.openComments begun.2 little⟩
  closed k s idle := idle.1
  yielded c k s idle yields := by
    obtain ⟨own, posted⟩ := ordered.yields s c yields
    exact ⟨s.feed, ⟨rfl, own, posted, idle.1⟩, idle.2⟩
  stopped c k s busy _ := by
    obtain ⟨n, here, -⟩ := busy
    exact here.stored
  skipped c k s busy _ := by
    obtain ⟨n, here, ahead⟩ := busy
    simp only [forwardStage, here.feed]
    exact ⟨here.stored, ahead.pass⟩
  produced c k s s₁ now m topic payload key busy busy₁ unread built possible := by
    obtain ⟨n, here, ahead⟩ := busy
    obtain ⟨n₁, here₁, -⟩ := busy₁
    have position : n = n₁ :=
      posts.distinct n n₁ (congrArg Comment.id (here.own.symm.trans here₁.own))
    have fits : publishable posts w serializable n = true := by
      have isOk : (w.messageOf (posts.comment n) "").build.isOk = true := by
        rw [← build_isOk w (posts.comment n) now, ← here.own, built]
        rfl
      simp [publishable, isOk, ordered.serializes s₁ n possible (position ▸ here₁.feed)]
    have other : ¬ posts.Names k n := fun names => by
      rw [Posts.Names] at names
      simp [StreamWorker.alreadyProcessed, truthy, names, here.own, posts.named] at unread
    exact ⟨trivial, n, ⟨here.feed, here.own, here.posted, here.stored⟩, ahead.count fits other⟩
  recorded c k s busy _ := by
    obtain ⟨n, here, ahead⟩ := busy
    have passed : forwardStage posts (publishable posts w serializable) w.checkpointInterval
        (.idle k) s := by
      simp only [forwardStage, here.feed]
      exact ⟨here.stored, ahead.pass⟩
    refine forwardStage_same (.idle k) (s.recordError_sameStream _) ?_ passed
    unfold World.recordError
    split <;> rfl
  counts c k s made := by
    obtain ⟨n, here, ahead⟩ := made
    exact ⟨n, ⟨here.feed, here.own, here.posted, here.stored⟩, ahead⟩
  more c k s counted _ := by
    obtain ⟨n, here, ahead⟩ := counted
    simp only [forwardStage, here.feed]
    exact ⟨here.stored, ahead⟩
  drained _ c k s counted due _ := by
    obtain ⟨n, here, ahead⟩ := counted
    exact ⟨n, here, fun p names => ahead.due due names⟩
  flushed c k s drained _ :=
    forwardStage_same (.flushed c k) (s := s) ⟨rfl, rfl, rfl, rfl, rfl, rfl, le_rfl⟩ rfl drained
  saves c k s time flushed := by
    obtain ⟨n, here, behind⟩ := flushed
    exact fun p names => ⟨n, by rw [here.own], behind p names⟩
  saved c k s time written flushed := by
    obtain ⟨n, here, behind⟩ := flushed
    have names : posts.Names (s.setCheckpoint c.id time written).checkpoint n := by
      rw [Posts.Names, here.own]
      rfl
    refine ⟨.inr ⟨n, here.posted, names⟩, fun p names' => ?_⟩
    rw [Posts.Names.unique names' names]
    exact here.feed ▸ Nat.lt_succ_self n
  lost c k s flushed _ := by
    obtain ⟨n, here, behind⟩ := flushed
    exact ⟨here.stored, fun p names => here.feed ▸ Nat.lt_succ_of_le (behind p names)⟩
  reset c k s saved := ⟨saved.1, fun p names => .inl (saved.2 p names)⟩

theorem forwardOutline_restorable {o : Outside} {posts : Posts} {w : StreamWorker}
    {serializable : Nat → Bool} (ordered : InOrder o posts serializable) :
    (forwardOutline (w := w) ordered).Restorable where
  read _ stored := stored
  rewrite _ _ same stored := stored.imp (same.trans ·) fun ⟨c, posted, names⟩ =>
    ⟨c, posted, same.trans names⟩
  saves _ _ _ _ same c names := ⟨c, Option.some.inj (same.symm.trans names), le_rfl⟩

/-- Only an awaited write changes the stored checkpoint. -/
theorem checkpoint_step {o : Outside} {restart : Option (Coroutine Unit)}
    {c d : Config WorkerEff WorkerEff.Answer PyExc World Unit} {a : Action Unit Choice Event}
    (moved : (workerMachine o restart).next a c = some d) (idle : restart = none) :
    d.state.checkpoint = c.state.checkpoint ∨ ∃ id time, c.Awaits () (.setCheckpoint id time) ∧
      d.state.checkpoint.lastCommentId = some id := by
  cases a with
  | call t choice =>
      obtain ⟨e, next, r, s, waits, answered, rfl⟩ := Machine.next_call moved
      by_cases writes : ∃ id time, e = .setCheckpoint id time
      · obtain ⟨id, time, rfl⟩ := writes
        rcases Outside.answer_setCheckpoint answered with ⟨_, rfl⟩ | ⟨rfl, -⟩
        · exact .inr ⟨id, time, ⟨next, waits⟩, rfl⟩
        · exact .inl rfl
      · exact .inl ((Outside.answer_frame answered).2.2 fun id time same => writes ⟨id, time, same⟩)
  | unroll t =>
      obtain ⟨β, body, next, -, rfl⟩ := Machine.next_unroll moved
      exact .inl rfl
  | finish t =>
      obtain ⟨r, -, rfl⟩ := Machine.next_finish moved
      exact .inl rfl
  | start t request =>
      obtain ⟨q, s, -, started, -⟩ := Machine.next_start moved
      subst idle
      simp only [workerMachine] at started
      split at started <;> cases started
  | tick event =>
      obtain ⟨s, ticked, rfl⟩ := Machine.next_tick moved
      exact .inl (World.tick_still ticked).checkpoint

/-- In every run of one worker that alone writes the checkpoint, and whose sessions replay
little, the position of the stored comment never decreases. -/
theorem checkpoints_move_forward (w : StreamWorker) (o : Outside) (posts : Posts)
    (serializable : Nat → Bool) (ordered : InOrder o posts serializable) (s₀ : World)
    (known : s₀.checkpoint.lastCommentId = none ∨
      ∃ p < s₀.posted, posts.Names s₀.checkpoint p)
    {c d : Config WorkerEff WorkerEff.Answer PyExc World Unit} {a : Action Unit Choice Event}
    (reached : (workerMachine o none).ReachesUnder
      (fun _ e s => replaysLittle posts (publishable posts w serializable) w.checkpointInterval
        e s = true) (workerConfig w.lifetime s₀) c)
    (moved : (workerMachine o none).next a c = some d) (p : Nat)
    (stored : posts.Names c.state.checkpoint p) :
    ∃ q, posts.Names d.state.checkpoint q ∧ p ≤ q := by
  have again := forwardOutline_restorable (w := w) ordered
  have start : Stored posts s₀.newHistory.begin := known
  have orderly := WorkerSafe.orderly (fun _ _ _ _ _ _ => trivial)
    (forwardOutline ordered).settled_always (fun _ same => by cases same) start
    (Outline.lifetime_safe again start) reached
  rcases checkpoint_step moved rfl with same | ⟨id, time, waits, written⟩
  · exact ⟨p, by rw [Posts.Names, same]; exact stored, le_rfl⟩
  · obtain ⟨n, rfl, forward⟩ := orderly.pledged waits p stored
    exact ⟨n, written, forward⟩

/-! ## Runs -/

theorem newsInOrder : InOrder newsOutside newsPosts fun _ => true where
  yields s c h := by
    obtain ⟨posted, own⟩ := Bool.and_eq_true_iff.mp h
    exact ⟨by simpa using own, by simpa using posted⟩
  serializes _ _ _ _ := rfl

/-- A published post, and the delivery of its message. -/
def delivering (p : Nat) : List (Action Unit Choice Event) :=
  publishing p ++ [.tick (.report p none)]

/-- The posts up to `n`, and a checkpoint at the last of them. -/
def checkpointedWorld (n : Nat) : World :=
  { checkpoint := ⟨some (newsPosts.comment n).id, none, none⟩, posted := n + 1 }

/-- A listing that begins at the checkpoint, and two posts later the next checkpoint. -/
theorem checkpoint_moves_on :
    ∃ c d a, (workerMachine newsOutside none).ReachesUnder
        (fun _ e s => replaysLittle newsPosts
          (publishable newsPosts { newsWorker with checkpointInterval := 2 } fun _ => true) 2 e s = true)
        (workerConfig { newsWorker with checkpointInterval := 2 }.lifetime
          { checkpointedWorld 0 with posted := 3 }) c ∧
      (workerMachine newsOutside none).next a c = some d ∧ newsPosts.Names c.state.checkpoint 0 ∧
      ∃ q, newsPosts.Names d.state.checkpoint q ∧ 0 < q := by
  have run : ((workerMachine newsOutside none).execUnder
      (fun _ => replaysLittle newsPosts
        (publishable newsPosts { newsWorker with checkpointInterval := 2 } fun _ => true) 2)
      (opening ++ skipping 0 ++ delivering 1 ++ publishing 2 ++
        [.tick (.report 2 none), .call () (.count 0), .call () .done, .call () (.text "t")])
      (workerConfig { newsWorker with checkpointInterval := 2 }.lifetime
        { checkpointedWorld 0 with posted := 3 })).map (fun c => (c.state.checkpoint.lastCommentId,
          ((workerMachine newsOutside none).next (.call () (.text "t")) c).map
            fun d => d.state.checkpoint.lastCommentId)) =
      some (some (newsPosts.comment 0).id, some (some (newsPosts.comment 2).id)) := by rfl
  obtain ⟨c, reached, seen⟩ := Machine.ReachesUnder.of_execUnder_map run
  simp only [Prod.mk.injEq] at seen
  obtain ⟨stored, after⟩ := seen
  obtain ⟨d, moved, written⟩ := Option.map_eq_some_iff.mp after
  obtain ⟨q, names, forward⟩ := checkpoints_move_forward { newsWorker with checkpointInterval := 2 }
    newsOutside newsPosts (fun _ => true) newsInOrder { checkpointedWorld 0 with posted := 3 }
    (.inr ⟨0, by decide, rfl⟩) reached moved 0 stored
  refine ⟨c, d, _, reached, moved, stored, q, names, Nat.pos_of_ne_zero ?_⟩
  rintro rfl
  exact absurd (names.unique written) (by decide)

/-- The listing begins a hundred posts before the checkpoint, so the next one is behind it. -/
theorem checkpoint_moves_back :
    ¬ ∀ (w : StreamWorker) (o : Outside) (posts : Posts) (serializable : Nat → Bool) (s₀ : World)
      (c d : Config WorkerEff WorkerEff.Answer PyExc World Unit) (a : Action Unit Choice Event),
      InOrder o posts serializable →
      (s₀.checkpoint.lastCommentId = none ∨ ∃ p < s₀.posted, posts.Names s₀.checkpoint p) →
      (workerMachine o none).Reaches (workerConfig w.lifetime s₀) c →
      (workerMachine o none).next a c = some d → ∀ p, posts.Names c.state.checkpoint p →
        ∃ q, posts.Names d.state.checkpoint q ∧ p ≤ q := by
  intro claim
  have run : ((workerMachine newsOutside none).exec
      (opening ++ (List.range 99).flatMap delivering ++ publishing 99 ++
        [.tick (.report 99 none), .call () (.count 0), .call () .done, .call () (.text "t")])
      (workerConfig newsWorker.lifetime (checkpointedWorld 100))).map (fun c =>
        (c.state.checkpoint.lastCommentId,
          ((workerMachine newsOutside none).next (.call () (.text "t")) c).map
            fun d => d.state.checkpoint.lastCommentId)) =
      some (some (newsPosts.comment 100).id, some (some (newsPosts.comment 99).id)) := by
    decide +kernel
  obtain ⟨c, reached, seen⟩ := Machine.Reaches.of_exec_map run
  simp only [Prod.mk.injEq] at seen
  obtain ⟨stored, after⟩ := seen
  obtain ⟨d, moved, written⟩ := Option.map_eq_some_iff.mp after
  obtain ⟨q, names, forward⟩ := claim newsWorker newsOutside newsPosts (fun _ => true)
    (checkpointedWorld 100) c d _ newsInOrder (.inr ⟨100, by decide, rfl⟩) reached moved 100 stored
  have := names.unique written
  omega

end RedditKafka
