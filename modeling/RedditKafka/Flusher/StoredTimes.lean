import RedditKafka.Flusher.OneFlush
import RedditKafka.Stream.CommentTimestamp

/-!
# The times of stored rows

`flush_stream_on_stop`, which has its own copy of the parsing, and the instant
that a stored time stands for.
-/
namespace RedditKafka
open Async Redis CheckpointFlusher Gregorian
open StreamRegistry (orNone)

namespace CheckpointFlusher

/-- `fromisoformat` and `replace(tzinfo=None)`, with the naive datetime as its text. -/
def naiveTime (text : String) : Option String :=
  (fromisoformat text).map fun dt => dt.naive.isoformat

def invalidIsoformat (text : String) : PyExc :=
  PyExc.valueError ("Invalid isoformat string: '" ++ text ++ "'")

/-- The `last_processed_at` of `flush_stream_on_stop`. -/
def timeOnStop (fromIsoformat : String → Option String) (checkpointData : Hash) :
    FlushProgram (Option String) :=
  match orNone (checkpointData.get "last_processed_at") with
  | none => pure none
  | some text =>
      match fromIsoformat (rstrip 'Z' text) with
      | none => Prog.raise (invalidIsoformat (rstrip 'Z' text))
      | some time => pure (some time)

/-- The body of the `try` in `flush_stream_on_stop`. -/
def upsertStream (fromIsoformat : String → Option String) (streamId : String) :
    FlushProgram Unit := do
  let checkpointData ← redis (.hgetall (checkpointKey streamId))
  if checkpointData = [] then return ()
  else
    let lastProcessedAt ← timeOnStop fromIsoformat checkpointData
    upsertCheckpoints [(streamId, ⟨checkpointData.get "last_comment_id", lastProcessedAt⟩)]

def flushStreamOnStop (fromIsoformat : String → Option String) (streamId : String) :
    FlushProgram Unit :=
  exceptException (upsertStream fromIsoformat streamId) fun _ => pure ()

/-- The row of a checkpoint that can be parsed. -/
def rowOnStop (fromIsoformat : String → Option String) (checkpointData : Hash) :
    Option CheckpointRow :=
  if checkpointData = [] then none else parseCheckpointData fromIsoformat checkpointData

/-- The time of the row is that of the instant in UTC. -/
def KeepsInstant (row : CheckpointRow) (dt : Datetime) : Prop :=
  ∃ stored : NaiveDatetime, row.lastProcessedAt = some stored.isoformat ∧ stored.instant = dt.instant

theorem keepsInstant_iff {row : CheckpointRow} {dt : Datetime}
    (stored : row.lastProcessedAt = some dt.naive.isoformat) : KeepsInstant row dt ↔ dt.shift = 0 := by
  rw [← dt.instant_naive_iff]
  constructor
  · rintro ⟨stored', same, instant⟩
    rw [stored, Option.some.injEq] at same
    rw [NaiveDatetime.isoformat_injective same]
    exact instant
  · exact fun instant => ⟨dt.naive, stored, instant⟩

theorem parseTime_eq (fromIsoformat : String → Option String) (text : String) :
    parseTime fromIsoformat text = fromIsoformat (rstrip 'Z' text) := rfl

/-- The row of a checkpoint whose time is given and can be read. -/
theorem parseCheckpointData_naiveTime {checkpointData : Hash} {text : String} {dt : Datetime}
    (held : checkpointData.get "last_processed_at" = some text) (given : text ≠ "")
    (read : fromisoformat (rstrip 'Z' text) = some dt) :
    parseCheckpointData naiveTime checkpointData =
      some ⟨checkpointData.get "last_comment_id", some dt.naive.isoformat⟩ := by
  have parsed : parseTime naiveTime text = some dt.naive.isoformat := by
    rw [parseTime_eq, naiveTime, read]
    rfl
  simp [parseCheckpointData, held, orNone, truthy, given, parsed]

end CheckpointFlusher

namespace Flushing

variable {fromIsoformat : String → Option String} {instanceId streamId : String} {t : Job}
  {s s' : Flushing} {trace : List (Extended Effect FlushEff × Turn)} {out : Except PyExc Unit}

/-- The copy of the parsing agrees with `_parse_checkpoint_data`. -/
theorem timeOnStop_inv {checkpointData : Hash} {r : Except PyExc (Option String)}
    (h : Runs (answer false fromIsoformat t) (timeOnStop fromIsoformat checkpointData) s trace r s') :
    trace = [] ∧ s' = s ∧ (parseCheckpointData fromIsoformat checkpointData = none ∧
        (∃ e, r = .error e) ∨
      ∃ time, r = .ok time ∧ parseCheckpointData fromIsoformat checkpointData =
        some ⟨checkpointData.get "last_comment_id", time⟩) := by
  unfold timeOnStop at h
  unfold parseCheckpointData
  cases given : orNone (checkpointData.get "last_processed_at") with
  | none =>
      rw [given] at h
      obtain ⟨rfl, rfl, rfl⟩ := h.ret_inv
      exact ⟨rfl, rfl, .inr ⟨none, rfl, rfl⟩⟩
  | some text =>
      simp only [given] at h
      simp only [parseTime_eq]
      cases read : fromIsoformat (rstrip 'Z' text) with
      | none =>
          rw [read] at h
          obtain ⟨rfl, rfl, rfl⟩ := h.raise_inv
          exact ⟨rfl, rfl, .inl ⟨rfl, _, rfl⟩⟩
      | some time =>
          rw [read] at h
          obtain ⟨rfl, rfl, rfl⟩ := h.ret_inv
          exact ⟨rfl, rfl, .inr ⟨some time, rfl, rfl⟩⟩

/-- What a flush on stop upserts: the row of the checkpoint, if there is one. -/
theorem upsertStream_inv
    (h : Runs (answer false fromIsoformat t) (upsertStream fromIsoformat streamId) s trace out s') :
    let row := rowOnStop fromIsoformat (s.redis.hashes (checkpointKey streamId))
    upserted trace = (row.map fun row => (streamId, row)).toList ∧
      s'.rows streamId = row.or (s.rows streamId) := by
  obtain ⟨e, rfl, failed⟩ | ⟨trace₁, rest, checkpointData, s₁, rfl, read, goes⟩ := h.bind_inv
  · cases (redis_inv failed).2.1
  obtain ⟨quiet, same, -, rows⟩ := redis_inv read
  cases same
  simp only [rowOnStop]
  split at goes
  · rename_i empty
    obtain ⟨rfl, rfl, rfl⟩ := goes.ret_inv
    rw [if_pos empty, List.append_nil, quiet, rows]
    exact ⟨rfl, rfl⟩
  rename_i written
  rw [if_neg written]
  obtain ⟨e, rfl, failed⟩ | ⟨trace₂, trace₃, time, s₃, rfl, parsed, last⟩ := goes.bind_inv
  · obtain ⟨rfl, rfl, ⟨none_, -⟩ | ⟨time, same, -⟩⟩ := timeOnStop_inv failed
    · rw [none_, List.append_nil, quiet, rows]
      exact ⟨rfl, rfl⟩
    · cases same
  · obtain ⟨rfl, rfl, ⟨-, e, same⟩ | ⟨time', same, some_⟩⟩ := timeOnStop_inv parsed
    · cases same
    · cases same
      obtain ⟨upserts, -, -, after⟩ := upsertCheckpoints_inv last
      rw [some_, List.nil_append, after]
      simp only [upserted, List.flatMap_append] at quiet upserts ⊢
      rw [quiet, upserts]
      exact ⟨rfl, Function.update_self ..⟩

theorem flushStreamOnStop_inv
    (h : Runs (answer false fromIsoformat t) (flushStreamOnStop fromIsoformat streamId) s trace out s') :
    let row := rowOnStop fromIsoformat (s.redis.hashes (checkpointKey streamId))
    upserted trace = (row.map fun row => (streamId, row)).toList ∧
      s'.rows streamId = row.or (s.rows streamId) := by
  obtain ⟨_, rfl, done⟩ | ⟨e, before, after, s₁, rfl, failed, handled⟩ := h.rescue_inv
  · exact upsertStream_inv done
  · obtain ⟨upserts, rows⟩ := upsertStream_inv failed
    split at handled
    · obtain ⟨rfl, -, rfl⟩ := handled.ret_inv
      rw [List.append_nil]
      exact ⟨upserts, rows⟩
    · obtain ⟨rfl, -, rfl⟩ := handled.raise_inv
      rw [List.append_nil]
      exact ⟨upserts, rows⟩

theorem flushStreamOnStop_ends (fromIsoformat : String → Option String) (streamId : String) (t : Job)
    (s : Flushing) : ∃ trace out s',
      Runs (answer false fromIsoformat t) (flushStreamOnStop fromIsoformat streamId) s trace out s' := by
  have straight : (flushStreamOnStop fromIsoformat streamId).Straight Persisting := by
    refine .rescue (.bind (.perform trivial) fun checkpointData => ?_) fun e => ?_
    · split
      · trivial
      · refine .bind ?_ fun _ => upsertCheckpoints_straight _
        unfold timeOnStop
        split
        · trivial
        · split <;> trivial
    · split <;> trivial
  exact straight_ends straight s

/-- The row that a flush makes of a stream of the instance. -/
theorem persists_iff (indexed : streamId ∈ s.redis.sets (instanceKey instanceId))
    (owned : s.ownerOf streamId = some instanceId) {row : CheckpointRow} :
    s.Persists fromIsoformat instanceId streamId row ↔
      rowOnStop fromIsoformat (s.redis.hashes (checkpointKey streamId)) = some row := by
  unfold rowOnStop
  constructor
  · intro h
    rw [if_neg h.nonempty, h.parsed]
  · intro found
    split at found
    · cases found
    · exact ⟨indexed, owned, ‹_›, found⟩

/-- For a stream of the index that is the instance's, both flushes write the same row, or none;
and the row of a checkpoint whose time can be read stands for the same instant in UTC exactly if
the time, without its `Z`, has no offset, or an offset of zero. -/
theorem stored_instant_iff (instanceId streamId : String) (t : Job) (s : Flushing)
    (indexed : streamId ∈ s.redis.sets (instanceKey instanceId))
    (owned : s.ownerOf streamId = some instanceId) :
    (∃ trace out s', Runs (answer false naiveTime t) (flush naiveTime instanceId) s trace out s') ∧
    (∃ trace out s',
      Runs (answer false naiveTime t) (flushStreamOnStop naiveTime streamId) s trace out s') ∧
    ∀ trace₁ out₁ s₁ trace₂ out₂ s₂,
      Runs (answer false naiveTime t) (flush naiveTime instanceId) s trace₁ out₁ s₁ →
      Runs (answer false naiveTime t) (flushStreamOnStop naiveTime streamId) s trace₂ out₂ s₂ →
      (∀ row, (streamId, row) ∈ upserted trace₁ ↔ (streamId, row) ∈ upserted trace₂) ∧
      s₁.rows streamId = s₂.rows streamId ∧
      ∀ text dt, (s.redis.hashes (checkpointKey streamId)).get "last_processed_at" = some text →
        text ≠ "" → fromisoformat (rstrip 'Z' text) = some dt →
        ∃ row, (streamId, row) ∈ upserted trace₁ ∧ (KeepsInstant row dt ↔ dt.shift = 0) := by
  refine ⟨flush_ends _ _ t s, flushStreamOnStop_ends _ _ t s, ?_⟩
  intro trace₁ out₁ s₁ trace₂ out₂ s₂ flushed stopped
  obtain ⟨upserts, rows⟩ := flushStreamOnStop_inv stopped
  obtain ⟨some_, none_⟩ := rows_flush flushed streamId
  have both (row : CheckpointRow) :
      (streamId, row) ∈ upserted trace₁ ↔ (streamId, row) ∈ upserted trace₂ := by
    rw [mem_upserted flushed, persists_iff indexed owned, upserts]
    simp
  refine ⟨both, ?_, fun text dt held given read => ?_⟩
  · rw [rows]
    cases found : rowOnStop naiveTime (s.redis.hashes (checkpointKey streamId)) with
    | none =>
        apply none_
        intro row persists
        cases found.symm.trans ((persists_iff indexed owned).mp persists)
    | some row => exact some_ row ((persists_iff indexed owned).mpr found)
  · have parsed := parseCheckpointData_naiveTime held given read
    exact ⟨_, (mem_upserted flushed).mpr ⟨indexed, owned, Hash.ne_nil_of_get held, parsed⟩,
      keepsInstant_iff rfl⟩

/-- A stream of instance `i` with a checkpoint at a time. -/
def checkpointedAt (time : String) : Flushing :=
  { redis :=
      { hashes := fun key =>
          if key = metaKey "s" then [("instance_id", "i")]
          else if key = checkpointKey "s" then [("last_comment_id", "t1"), ("last_processed_at", time)]
          else []
        sets := fun key => if key = instanceKey "i" then ["s"] else [] } }

theorem utc_instant_stored : ∃ trace out s' row dt,
    Runs (answer false naiveTime (.flush "i" 0)) (flush naiveTime "i")
      (checkpointedAt "2026-05-05T10:00:00+00:00") trace out s' ∧
    fromisoformat "2026-05-05T10:00:00+00:00" = some dt ∧ ("s", row) ∈ upserted trace ∧
    KeepsInstant row dt := by
  have read : (fromisoformat "2026-05-05T10:00:00+00:00").any (·.shift = 0) = true := by
    decide +kernel
  obtain ⟨dt, read, utc⟩ := (Option.any_eq_true _ _).mp read
  obtain ⟨⟨trace₁, out₁, s₁, ran₁⟩, ⟨trace₂, out₂, s₂, ran₂⟩, all⟩ := stored_instant_iff "i" "s"
    (.flush "i" 0) (checkpointedAt "2026-05-05T10:00:00+00:00") (by decide) rfl
  obtain ⟨row, member, keeps⟩ := (all _ _ _ _ _ _ ran₁ ran₂).2.2 "2026-05-05T10:00:00+00:00" dt rfl
    (by decide) read
  exact ⟨trace₁, out₁, s₁, row, dt, ran₁, read, member, keeps.mpr (by simpa using utc)⟩

/-- Ten o'clock in a zone two hours ahead is stored as ten o'clock in UTC. -/
theorem offset_dropped : ¬ ∀ s trace out s' dt row,
    Runs (answer false naiveTime (.flush "i" 0)) (flush naiveTime "i") s trace out s' →
    (s.redis.hashes (checkpointKey "s")).get "last_processed_at" = some "2026-05-05T10:00:00+02:00" →
    fromisoformat "2026-05-05T10:00:00+02:00" = some dt → ("s", row) ∈ upserted trace →
    KeepsInstant row dt := by
  intro claim
  have read : (fromisoformat "2026-05-05T10:00:00+02:00").any (·.shift ≠ 0) = true := by
    decide +kernel
  obtain ⟨dt, read, ahead⟩ := (Option.any_eq_true _ _).mp read
  obtain ⟨trace, out, s', ran⟩ :=
    flush_ends naiveTime "i" (.flush "i" 0) (checkpointedAt "2026-05-05T10:00:00+02:00")
  let checkpointData : Hash :=
    [("last_comment_id", "t1"), ("last_processed_at", "2026-05-05T10:00:00+02:00")]
  have held : checkpointData.get "last_processed_at" = some "2026-05-05T10:00:00+02:00" := rfl
  have parsed := parseCheckpointData_naiveTime held (by decide) read
  have member := (mem_upserted ran).mpr ⟨List.mem_singleton_self "s", rfl, List.cons_ne_nil _ _, parsed⟩
  have keeps := claim _ _ _ _ dt _ ran rfl read member
  exact absurd ((keepsInstant_iff rfl).mp keeps) (by simpa using ahead)

end Flushing
end RedditKafka
