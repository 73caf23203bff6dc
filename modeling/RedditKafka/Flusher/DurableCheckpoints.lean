import RedditKafka.Flusher.FlushJobs

/-!
# Durable checkpoints

A row is overwritten by an older value exactly when an upsert comes after one
whose flush read later, and has found another value. In every run without such
an upsert, a completed shutdown leaves the instance's rows equal to Redis.
-/
namespace RedditKafka
open Async Redis StreamRegistry CheckpointFlusher Flushing

/-- The row that the checkpoint in Redis gives. -/
def Flushing.redisRow (fromIsoformat : String → Option String) (s : Flushing) (streamId : String) :
    Option CheckpointRow :=
  if s.redis.hashes (checkpointKey streamId) = [] then none
  else parseCheckpointData fromIsoformat (s.redis.hashes (checkpointKey streamId))

namespace Flushing

variable {fromIsoformat : String → Option String} {s : Flushing} {id : String}

/-- A row that is made from the last checkpoint is the one that Redis gives. -/
theorem UpToDate.row (h : s.UpToDate id) (tracked : s.Tracked fromIsoformat) :
    s.rows id = s.redisRow fromIsoformat id := by
  unfold redisRow
  rw [tracked.checkpoint id]
  rcases tracked.rows id with ⟨source, row, -⟩ | ⟨k, row, source, held, value, found, parsed⟩
  · rcases h with empty | last
    · simp [empty, row]
    · cases source.symm.trans last
  · rcases h with empty | last
    · simp [empty] at found
    · cases source.symm.trans last
      rw [← List.getLast?_eq_getElem?] at found
      have nonempty := (tracked.written id value (List.mem_of_getLast? found)).1
      simp [found, nonempty, held, parsed]

end Flushing

section durable

variable {fromIsoformat : String → Option String} {faulty : Bool} {c d : FlushConfig}

/-- Runs of the flushers whose upserts land in the order of their reads. -/
abbrev OrderedRun (faulty : Bool) (fromIsoformat : String → Option String) (c d : FlushConfig) : Prop :=
  (flushMachine faulty fromIsoformat).ReachesUnder (fun t e s => inReadOrder t e s = true) c d

theorem OrderedRun.rested (reached : OrderedRun faulty fromIsoformat flushConfig c) :
    Rested (flushMachine faulty fromIsoformat) (flushDiscipline faulty fromIsoformat)
      (flushPost faulty) (AtRest faulty) c :=
  flush_resting.reaches flush_initial reached

/-- Nothing that is durable is taken back in such a run. -/
theorem OrderedRun.onward (reached : OrderedRun faulty fromIsoformat flushConfig c)
    (later : OrderedRun faulty fromIsoformat c d) : Flushing.Onward c.state d.state :=
  (flush_resting.along Flushing.Onward.refl (fun _ _ _ => Flushing.Onward.trans)
    (fun t a b kept => by
      -- two jobs, one of which is not the one that moves
      by_cases first : t = some (.sweep 0)
      · exact (kept (.sweep 1) (by simp [first])).1
      · exact (kept (.sweep 0) (by simpa [eq_comm] using first)).1) reached.rested later).2

/-- An upsert out of order replaces a row by an older value. -/
theorem Flushing.Tracked.upsert_iff {s : Flushing} {t : Job} {checkpoints : List (String × CheckpointRow)}
    (tracked : s.Tracked fromIsoformat) (found : Matches fromIsoformat t checkpoints s) :
    (∀ id k, s.source id = some k →
      ∃ m, (s.upsert t checkpoints).source id = some m ∧ k ≤ m) ↔
      inReadOrder t (.outer (.upsert checkpoints)) s = true := by
  refine ⟨fun kept => List.all_eq_true.mpr fun entry member => ?_, fun inOrder =>
    (moved_upsert tracked found inOrder).onward.source⟩
  have there : entry.1 ∈ checkpoints.map Prod.fst := List.mem_map_of_mem member
  obtain ⟨k, due, -⟩ := found.row entry.1 entry.2 member
  simp only [Bool.or_eq_true, decide_eq_true_eq]
  by_cases before : s.wroteAt entry.1 ≤ s.readAt t
  · exact .inl before
  refine .inr ?_
  rcases tracked.rows entry.1 with ⟨-, -, never⟩ | ⟨m, row, source, -, -⟩
  · exact absurd (Nat.zero_le _) (never ▸ before)
  · obtain ⟨k', after, le⟩ := kept entry.1 m source
    simp only [upsert, if_pos there] at after
    cases due.symm.trans after
    have ge := tracked.due_older t entry.1 k m due source (by omega)
    rw [source, due, Nat.le_antisymm le ge]

/-- In every run whose upserts land in the order of their reads, no row is replaced by a value
that Redis held before the row's own, and only an upsert out of order would do so. Once a
shutdown has completed without a failure, the row of every stream that its instance owns is
the one that Redis gives, unless after the start of the final flush the instance got a
stream or one of its streams a checkpoint, or an id had left the index of its owner. -/
theorem checkpoints_never_regress (reached : OrderedRun true fromIsoformat flushConfig c)
    (later : OrderedRun true fromIsoformat c d) :
    (∀ id row, c.state.rows id = some row → ∃ k m row',
      c.state.source id = some k ∧ c.state.RowAt fromIsoformat id k row ∧
      d.state.source id = some m ∧ d.state.rows id = some row' ∧
      d.state.RowAt fromIsoformat id m row' ∧ k ≤ m) ∧
    (∀ t checkpoints, d.Awaits t (.outer (.upsert checkpoints)) →
      ((∀ id k, d.state.source id = some k →
        ∃ m, (d.state.upsert t checkpoints).source id = some m ∧ k ≤ m) ↔
        inReadOrder t (.outer (.upsert checkpoints)) d.state = true)) ∧
    ∀ i, d.state.completed i = true → d.state.failed i = false → d.state.late i = false →
      d.state.lost i = false → ∀ id, d.state.ownerOf id = some i → ¬ d.state.Unlisted id i →
        d.state.rows id = d.state.redisRow fromIsoformat id := by
  have onward := reached.onward later
  have restedC := reached.rested
  have restedD := flush_resting.reaches restedC later
  have trackedD := restedD.inv.1
  refine ⟨fun id row held => ?_, fun t checkpoints waits => ?_, fun i completed sound onTime kept id owner listed => ?_⟩
  · rcases restedC.inv.1.rows id with ⟨-, none, -⟩ | ⟨k, row₀, source, held₀, value⟩
    · cases none.symm.trans held
    cases held₀.symm.trans held
    obtain ⟨m, source', le⟩ := onward.source id k source
    rcases trackedD.rows id with ⟨none, -⟩ | ⟨m', row', source'', held', value'⟩
    · cases none.symm.trans source'
    cases source''.symm.trans source'
    exact ⟨k, m, row', source, value, source', held', value', le⟩
  · have expected : Flushing.Expects _ _ _ _ _ := restedD.pledged waits
    cases expected with
    | upsert found => exact trackedD.upsert_iff found
  · rcases restedD.inv.2 i completed with failed | ⟨-, covered⟩
    · cases failed.symm.trans sound
    · exact ((covered onTime kept id owner).resolve_left listed).row trackedD

end durable

/-! ## Runs -/

def Job.turns (t : Job) (answers : List Turn) : List (Action Job Turn FlushEvent) :=
  answers.map (.call t)

/-- A stream of the instance `i` is registered, and its first checkpoint is saved. -/
def registered : List (Action Job Turn FlushEvent) :=
  .start (.create 0) (.createStream "i" "news" "config") ::
    (Job.create 0).turns [.answered, .named "s", .answered, .answered, .named "now", .named "now",
      .answered, .answered, .answered, .answered] ++ [.finish (.create 0)]

def saved (number : Nat) (commentId : String) : List (Action Job Turn FlushEvent) :=
  .start (.save "s" number) (.save newsWorker commentId) ::
    (Job.save "s" number).turns [.named "now", .named "now", .answered] ++
    [.finish (.save "s" number)]

/-- The loop of the flusher up to its read. -/
def loopReads : List (Action Job Turn FlushEvent) :=
  [.start (.loop "i") .startLoop, .unroll (.loop "i")] ++
    (Job.loop "i").turns [.answered, .answered, .answered, .answered]

/-- The final flush, and the order to the loop to end. -/
def finalFlush : List (Action Job Turn FlushEvent) :=
  .start (.shutdown "i") .shutdown :: (Job.shutdown "i").turns [.answered, .answered, .answered, .answered]

/-- The loop ends after its flush, and the shutdown with it. -/
def loopEnds : List (Action Job Turn FlushEvent) :=
  [.unroll (.loop "i"), .call (.loop "i") .answered, .finish (.loop "i"),
    .call (.shutdown "i") .answered, .finish (.shutdown "i")]

/-- What is asked about the end of a shutdown: its records, the row of the stream, and the row
that Redis gives. -/
def shutdownEnd (c : FlushConfig) :
    (Bool × Bool × Bool × Bool) × Option String × Option CheckpointRow × Option CheckpointRow :=
  ((c.state.completed "i", c.state.failed "i", c.state.late "i", c.state.lost "i"),
    c.state.ownerOf "s", c.state.rows "s", c.state.redisRow some "s")

/-- The loop has read before the final flush and writes after it: the row goes back to the
first checkpoint, and the completed shutdown leaves it so. -/
theorem final_checkpoint_overwritten :
    ∃ c d, (flushMachine true some).Reaches flushConfig c ∧ (flushMachine true some).Reaches c d ∧
      (c.state.source "s" = some 1 ∧ d.state.source "s" = some 0) ∧
      (d.state.completed "i" = true ∧ d.state.failed "i" = false ∧ d.state.late "i" = false ∧
        d.state.lost "i" = false) ∧ d.state.ownerOf "s" = some "i" ∧
      d.state.rows "s" = some ⟨some "t1", some "now"⟩ ∧
      d.state.redisRow some "s" = some ⟨some "t2", some "now"⟩ := by
  have run : (((flushMachine true some).exec
      (registered ++ saved 0 "t1" ++ loopReads ++ saved 1 "t2" ++ finalFlush) flushConfig).bind
        fun c => ((flushMachine true some).exec (.call (.loop "i") .answered :: loopEnds) c).map
          fun d => ((c.state.source "s", d.state.source "s"), shutdownEnd d)) =
      some ((some 1, some 0), (true, false, false, false), some "i",
        some ⟨some "t1", some "now"⟩, some ⟨some "t2", some "now"⟩) := rfl
  obtain ⟨c, first, rest⟩ := Option.bind_eq_some_iff.mp run
  obtain ⟨d, second, seen⟩ := Option.map_eq_some_iff.mp rest
  simp only [shutdownEnd, Prod.mk.injEq] at seen
  exact ⟨c, d, .of_exec first, .of_exec second, seen⟩

/-- The loop writes before the final flush reads, and the final checkpoint is durable. -/
theorem final_checkpoint_flushed :
    ∃ d, OrderedRun true some flushConfig d ∧
      d.state.redisRow some "s" = some ⟨some "t2", some "now"⟩ ∧
      d.state.rows "s" = d.state.redisRow some "s" := by
  have run : ((flushMachine true some).execUnder inReadOrder (registered ++ saved 0 "t1" ++ loopReads ++
      .call (.loop "i") .answered :: (saved 1 "t2" ++ finalFlush ++ loopEnds)) flushConfig).map
        (fun d => (shutdownEnd d, d.state.pending)) =
      some (((true, false, false, false), some "i", some ⟨some "t2", some "now"⟩,
        some ⟨some "t2", some "now"⟩),
        Function.update (Function.update (fun _ : Nat => (none : Option (String × String))) 0
          (some ("s", "i"))) 0 none) := rfl
  obtain ⟨d, reached, seen⟩ := Machine.ReachesUnder.of_execUnder_map run
  simp only [shutdownEnd, Prod.mk.injEq] at seen
  obtain ⟨⟨⟨completed, sound, onTime, kept⟩, owner, -, row⟩, pending⟩ := seen
  have listed : ¬ d.state.Unlisted "s" "i" := by
    rintro ⟨n, held⟩
    rw [pending] at held
    by_cases first : n = 0 <;> simp [first] at held
  exact ⟨d, reached, row,
    (checkpoints_never_regress reached .refl).2.2 "i" completed sound onTime kept "s" owner listed⟩

end RedditKafka
