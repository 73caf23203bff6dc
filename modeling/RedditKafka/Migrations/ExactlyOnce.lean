import RedditKafka.Migrations.Runner

/-!
# Migrations are applied once

The rows of `schema_migrations` and the scripts in the committed history stay in
step over every sequence of runs, whichever statements fail in them.
-/
namespace RedditKafka.Migrations
open Async

/-- The content of a file without a statement. -/
def Blank (content : ByteArray) : Prop :=
  ∃ rawSql, String.fromUTF8? content = some rawSql ∧ isBlank rawSql = true

variable {Schema : Type} {sha256 : ByteArray → String} {run : String → Schema → Except PyExc Schema}
  {db db' db₁ db₂ : Database Schema} {trace : List (MigrationEff × Option PyExc)}

/-- Each row stands for one script that was executed, unless there was nothing to execute. -/
structure Faithful (sha256 : ByteArray → String) (db : Database Schema) : Prop where
  versions : (db.rows.map Prod.fst).Nodup
  executed : ∀ version content, (version, content) ∈ db.executed →
    (version, sha256 content) ∈ db.rows
  rows : ∀ version checksum, (version, checksum) ∈ db.rows → ∃ content,
    checksum = sha256 content ∧ ((version, content) ∈ db.executed ∨ Blank content)
  once : (db.executed.map Prod.fst).Nodup

/-- The database of a run that has only looked at what is there. -/
structure Looked (db db' : Database Schema) : Prop where
  schema : db'.schema = db.schema
  rows : db'.rows = db.rows
  executed : db'.executed = db.executed

/-- A pending file was applied: its script, if it has one, and its row. -/
structure Applied (sha256 : ByteArray → String) (file : MigrationFile) (db db' : Database Schema) :
    Prop where
  pending : db.rows.lookup file.name = none
  rows : db'.rows = db.rows ++ [(file.name, sha256 file.content)]
  executed : db'.executed = db.executed ++ [(file.name, file.content)] ∨
    Blank file.content ∧ db'.executed = db.executed

theorem unlisted_of_lookup {rows : List (String × String)} {version : String}
    (pending : rows.lookup version = none) : version ∉ rows.map Prod.fst := by
  intro listed
  obtain ⟨row, there, rfl⟩ := List.mem_map.mp listed
  simpa using List.lookup_eq_none_iff.mp pending row there

theorem mem_of_lookup {rows : List (String × String)} {version checksum : String}
    (found : rows.lookup version = some checksum) : (version, checksum) ∈ rows := by
  obtain ⟨before, after, rfl, -⟩ := List.lookup_eq_some_iff.mp found
  simp

theorem lookup_of_mem {rows : List (String × String)} {version checksum : String}
    (versions : (rows.map Prod.fst).Nodup) (there : (version, checksum) ∈ rows) :
    rows.lookup version = some checksum := by
  cases found : rows.lookup version with
  | none => exact absurd (List.mem_map_of_mem there) (unlisted_of_lookup found)
  | some held =>
      have same := List.inj_on_of_nodup_map versions (mem_of_lookup found) there rfl
      rw [(Prod.mk.inj same).2]

namespace Faithful

theorem looked (h : Faithful sha256 db) (looked : Looked db db') : Faithful sha256 db' := by
  constructor <;> simp only [looked.rows, looked.executed]
  · exact h.versions
  · exact h.executed
  · exact h.rows
  · exact h.once

theorem applied {file : MigrationFile} (h : Faithful sha256 db) (applied : Applied sha256 file db db') :
    Faithful sha256 db' := by
  have new := unlisted_of_lookup applied.pending
  have kept : ∀ entry ∈ db.executed, entry ∈ db'.executed := fun entry there => by
    rcases applied.executed with same | ⟨-, same⟩ <;> simp [same, there]
  refine ⟨?_, fun version content there => ?_, fun version checksum there => ?_, ?_⟩
  · rw [applied.rows, List.map_append, List.nodup_append']
    exact ⟨h.versions, List.nodup_singleton _, List.disjoint_singleton.mpr new⟩
  · rw [applied.rows, List.mem_append]
    have before : (version, content) ∈ db.executed ∨ (version, content) = (file.name, file.content) := by
      rcases applied.executed with same | ⟨-, same⟩
      · simpa [same] using there
      · exact .inl (same ▸ there)
    rcases before with before | same
    · exact .inl (h.executed _ _ before)
    · cases same
      exact .inr (List.mem_singleton_self _)
  · rw [applied.rows, List.mem_append, List.mem_singleton] at there
    rcases there with before | same
    · obtain ⟨content, sum, origin⟩ := h.rows _ _ before
      exact ⟨content, sum, origin.imp_left (kept _)⟩
    · cases same
      refine ⟨file.content, rfl, ?_⟩
      rcases applied.executed with same | ⟨blank, -⟩
      · exact .inl (by simp [same])
      · exact .inr blank
  · rcases applied.executed with same | ⟨-, same⟩
    · rw [same, List.map_append, List.nodup_append']
      refine ⟨h.once, List.nodup_singleton _, List.disjoint_singleton.mpr fun listed => ?_⟩
      obtain ⟨⟨version, content⟩, there, rfl⟩ := List.mem_map.mp listed
      exact new (List.mem_map_of_mem (h.executed _ _ there))
    · rw [same]
      exact h.once

end Faithful

/-! ## One run -/

@[simp] theorem executes_nil : ¬ Executes [] := by
  rintro ⟨entry, there, -⟩
  cases there

@[simp] theorem executes_cons {entry : MigrationEff × Option PyExc} :
    Executes (entry :: trace) ↔ (∃ rawSql, entry.1 = .execute rawSql) ∨ Executes trace := by
  simp [Executes, or_and_right, exists_or]

@[simp] theorem executes_append {before after : List (MigrationEff × Option PyExc)} :
    Executes (before ++ after) ↔ Executes before ∨ Executes after := by
  simp [Executes, or_and_right, exists_or]

/-- The statements in front of the loop over the files. -/
def MigrationEff.prepares : MigrationEff → Bool
  | .advisoryLock | .createSchemaMigrations | .selectApplied => true
  | _ => false

theorem not_executes_of_prepares (prepares : ∀ entry ∈ trace, entry.1.prepares = true) :
    ¬ Executes trace := by
  rintro ⟨entry, there, rawSql, same⟩
  have := prepares entry there
  simp [same, MigrationEff.prepares] at this

theorem Looked.refl (db : Database Schema) : Looked db db := ⟨rfl, rfl, rfl⟩

theorem readBytes_runs {file : MigrationFile} {out : Except PyExc ByteArray}
    (h : Runs (answer run) (ask (.readBytes file)) db trace out db') :
    ¬ Executes trace ∧ (out = .ok file.content ∧ db' = { db with reading := some file } ∨
      (∃ e, out = .error e) ∧ db' = db) := by
  obtain ⟨choice, rfl, answered⟩ := h.perform_inv
  refine ⟨by simp, ?_⟩
  cases choice with
  | none => cases answered; exact .inl ⟨rfl, rfl⟩
  | some e => cases answered; exact .inr ⟨⟨e, rfl⟩, rfl⟩

theorem decodeUtf8_runs {content : ByteArray} {out : Except PyExc String}
    (h : Runs (answer run) (decodeUtf8 content) db trace out db') :
    trace = [] ∧ db' = db ∧ ∀ rawSql, out = .ok rawSql → String.fromUTF8? content = some rawSql := by
  unfold decodeUtf8 at h
  split at h
  · rename_i rawSql decoded
    obtain ⟨rfl, rfl, rfl⟩ := h.ret_inv
    exact ⟨rfl, rfl, fun _ same => by cases same; exact decoded⟩
  · obtain ⟨rfl, rfl, rfl⟩ := h.raise_inv
    exact ⟨rfl, rfl, nofun⟩

/-- A file that is applied already executes nothing. -/
theorem applyMigrationFile_listed {applied : List (String × String)} {file : MigrationFile}
    {checksum : String} {out : Except PyExc Unit} (listed : applied.lookup file.name = some checksum)
    (h : Runs (answer run) (applyMigrationFile sha256 applied file) db trace out db') :
    ¬ Executes trace ∧ Looked db db' ∧ (out = .ok () → checksum = sha256 file.content) := by
  rcases h.bind_inv with ⟨e, rfl, raised⟩ | ⟨before, _, content, db₁, rfl, read, rest⟩
  · obtain ⟨quiet, ⟨same, -⟩ | ⟨-, rfl⟩⟩ := readBytes_runs raised
    · cases same
    · exact ⟨quiet, .refl _, nofun⟩
  obtain ⟨quiet, ⟨same, rfl⟩ | ⟨⟨e, same⟩, -⟩⟩ := readBytes_runs read
  swap
  · cases same
  cases same
  have looked : Looked db { db with reading := some file } := ⟨rfl, rfl, rfl⟩
  rcases rest.bind_inv with ⟨e, rfl, raised⟩ | ⟨_, _, rawSql, db₂, rfl, decoded, rest₂⟩
  · obtain ⟨rfl, rfl, -⟩ := decodeUtf8_runs raised
    exact ⟨by simpa using quiet, looked, nofun⟩
  obtain ⟨rfl, rfl, -⟩ := decodeUtf8_runs decoded
  simp only [listed] at rest₂
  split at rest₂
  · obtain ⟨rfl, rfl, rfl⟩ := rest₂.raise_inv
    exact ⟨by simpa using quiet, looked, nofun⟩
  · rename_i same
    obtain ⟨rfl, rfl, rfl⟩ := rest₂.ret_inv
    exact ⟨by simpa using quiet, looked, fun _ => not_not.mp same⟩

theorem executeSqlScript_runs {rawSql : String} {file : MigrationFile} (reading : db.reading = some file)
    (h : Runs (answer run) (executeSqlScript rawSql) db trace (.ok ()) db') :
    db'.schemaMigrations = db.schemaMigrations ∧
      (db'.executed = db.executed ++ [(file.name, file.content)] ∨
        isBlank rawSql = true ∧ db'.executed = db.executed) := by
  unfold executeSqlScript at h
  split at h
  · rename_i blank
    obtain ⟨-, -, rfl⟩ := h.ret_inv
    exact ⟨rfl, .inr ⟨blank, rfl⟩⟩
  · obtain ⟨choice, rfl, answered⟩ := h.perform_inv
    cases choice with
    | some e => cases answered
    | none =>
        simp only [answer] at answered
        split at answered <;> cases answered
        exact ⟨rfl, .inl (by simp [reading])⟩

theorem insertApplied_runs {version checksum : String}
    (h : Runs (answer run) (ask (.insertApplied version checksum)) db trace (.ok ()) db') :
    db.rows.lookup version = none ∧ db'.rows = db.rows ++ [(version, checksum)] ∧
      db'.executed = db.executed := by
  obtain ⟨choice, rfl, answered⟩ := h.perform_inv
  cases choice with
  | some e => cases answered
  | none =>
      simp only [answer] at answered
      split at answered
      · cases answered
      · rename_i rows table
        split at answered <;> cases answered
        rename_i new
        exact ⟨by simpa only [Database.rows, table, Option.getD_some] using
          Option.not_isSome_iff_eq_none.mp new, by simp [Database.rows, table], rfl⟩

/-- A pending file that goes through has been applied. -/
theorem applyMigrationFile_pending {applied : List (String × String)} {file : MigrationFile}
    (pending : applied.lookup file.name = none)
    (h : Runs (answer run) (applyMigrationFile sha256 applied file) db trace (.ok ()) db') :
    Applied sha256 file db db' := by
  obtain ⟨_, _, content, db₁, -, read, rest⟩ := h.bind_ok
  obtain ⟨-, ⟨same, rfl⟩ | ⟨⟨e, same⟩, -⟩⟩ := readBytes_runs read
  swap
  · cases same
  cases same
  obtain ⟨_, _, rawSql, db₂, -, decoded, rest₂⟩ := rest.bind_ok
  obtain ⟨-, rfl, text⟩ := decodeUtf8_runs decoded
  simp only [pending] at rest₂
  obtain ⟨_, _, _, db₃, -, executed, inserted⟩ := rest₂.bind_ok
  obtain ⟨table, script⟩ := executeSqlScript_runs (show _ = some file from rfl) executed
  obtain ⟨new, rows, same⟩ := insertApplied_runs inserted
  have kept : db₃.rows = db.rows := by simp [Database.rows, table]
  refine ⟨kept ▸ new, kept ▸ rows, ?_⟩
  rcases script with ran | ⟨blank, ran⟩
  · exact .inl (by rw [same, ran])
  · exact .inr ⟨⟨rawSql, text rawSql rfl, blank⟩, by rw [same, ran]⟩

/-- What the loop leaves behind, by induction on the files. -/
theorem forEach_runs {applied : List (String × String)} {files : List MigrationFile}
    (h : Runs (answer run) (Prog.forEach (applyMigrationFile sha256 applied) files) db trace (.ok ()) db')
    (faithful : Faithful sha256 db)
    (known : ∀ version checksum, applied.lookup version = some checksum → (version, checksum) ∈ db.rows) :
    Faithful sha256 db' ∧ db.rows <+: db'.rows ∧
      ∀ file ∈ files, (file.name, sha256 file.content) ∈ db'.rows := by
  induction files generalizing db trace with
  | nil =>
      obtain ⟨-, -, rfl⟩ := h.ret_inv
      exact ⟨faithful, List.prefix_rfl, nofun⟩
  | cons file files ih =>
      obtain ⟨_, _, _, db₁, -, first, rest⟩ := h.bind_ok
      have step : Faithful sha256 db₁ ∧ db.rows <+: db₁.rows ∧
          (file.name, sha256 file.content) ∈ db₁.rows := by
        cases found : applied.lookup file.name with
        | some checksum =>
            obtain ⟨-, looked, same⟩ := applyMigrationFile_listed found first
            refine ⟨faithful.looked looked, looked.rows ▸ List.prefix_rfl, ?_⟩
            rw [looked.rows, ← same rfl]
            exact known _ _ found
        | none =>
            have applied := applyMigrationFile_pending found first
            exact ⟨faithful.applied applied, applied.rows ▸ List.prefix_append _ _, by simp [applied.rows]⟩
      obtain ⟨faithful₁, grows, recorded⟩ := step
      obtain ⟨faithful', grows', others⟩ :=
        ih rest faithful₁ fun version checksum found => grows.subset (known _ _ found)
      refine ⟨faithful', grows.trans grows', fun other there => ?_⟩
      rcases List.mem_cons.mp there with rfl | there
      · exact grows'.subset recorded
      · exact others other there

/-- Files that are all applied already are only read. -/
theorem forEach_listed {applied : List (String × String)} {files : List MigrationFile}
    {out : Except PyExc Unit} (listed : ∀ file ∈ files, applied.lookup file.name ≠ none)
    (h : Runs (answer run) (Prog.forEach (applyMigrationFile sha256 applied) files) db trace out db') :
    ¬ Executes trace := by
  induction files generalizing db trace with
  | nil =>
      obtain ⟨rfl, -⟩ := h.ret_inv
      exact executes_nil
  | cons file files ih =>
      obtain ⟨checksum, found⟩ := Option.ne_none_iff_exists'.mp (listed file List.mem_cons_self)
      rcases h.bind_inv with ⟨e, rfl, raised⟩ | ⟨before, after, _, db₁, rfl, first, rest⟩
      · exact (applyMigrationFile_listed found raised).1
      · rw [executes_append, not_or]
        exact ⟨(applyMigrationFile_listed found first).1,
          ih (fun other there => listed other (List.mem_cons_of_mem _ there)) rest⟩

/-- A file that is applied already with other bytes does not let the loop end. -/
theorem forEach_modified {applied : List (String × String)} {files : List MigrationFile}
    {file : MigrationFile} {checksum : String} (there : file ∈ files)
    (found : applied.lookup file.name = some checksum) (modified : checksum ≠ sha256 file.content)
    (h : Runs (answer run) (Prog.forEach (applyMigrationFile sha256 applied) files) db trace (.ok ()) db') :
    False := by
  induction files generalizing db trace with
  | nil => cases there
  | cons first files ih =>
      obtain ⟨_, _, _, db₁, -, ran, rest⟩ := h.bind_ok
      rcases List.mem_cons.mp there with rfl | there
      · exact modified ((applyMigrationFile_listed found ran).2.2 rfl)
      · exact ih there rest

/-- A run fails before its loop, or enters it with the rows of the table. -/
theorem applyMigrationFiles_runs {files : List MigrationFile} {out : Except PyExc Unit}
    (h : Runs (answer run) (applyMigrationFiles sha256 files) db trace out db') :
    ((∀ entry ∈ trace, entry.1.prepares = true) ∧ ∃ e, out = .error e) ∨
      ∃ before after db₁, trace = before ++ after ∧
      (∀ entry ∈ before, entry.1.prepares = true) ∧ Looked db db₁ ∧
      Runs (answer run) (Prog.forEach (applyMigrationFile sha256 db.rows) files) db₁ after out db' := by
  rcases h.bind_inv with ⟨e, rfl, raised⟩ | ⟨_, _, _, db₁, rfl, locked, rest⟩
  · obtain ⟨choice, rfl, -⟩ := raised.perform_inv
    exact .inl ⟨by simp [MigrationEff.prepares], e, rfl⟩
  obtain ⟨choice, rfl, answered⟩ := locked.perform_inv
  obtain ⟨rfl, rfl⟩ : choice = none ∧ db₁ = db := by
    cases choice <;> cases answered
    exact ⟨rfl, rfl⟩
  rcases rest.bind_inv with ⟨e, rfl, raised⟩ | ⟨_, _, _, db₂, rfl, created, rest₂⟩
  · obtain ⟨choice, rfl, -⟩ := raised.perform_inv
    exact .inl ⟨by simp [MigrationEff.prepares], e, rfl⟩
  obtain ⟨choice, rfl, answered⟩ := created.perform_inv
  obtain ⟨rfl, rfl⟩ : choice = none ∧ db₂ = { db₁ with schemaMigrations := some db₁.rows } := by
    cases choice <;> cases answered
    exact ⟨rfl, rfl⟩
  rcases rest₂.bind_inv with ⟨e, rfl, raised⟩ | ⟨_, after, applied, db₃, rfl, selected, rest₃⟩
  · obtain ⟨choice, rfl, -⟩ := raised.perform_inv
    exact .inl ⟨by simp [MigrationEff.prepares], e, rfl⟩
  obtain ⟨choice, rfl, answered⟩ := selected.perform_inv
  cases choice with
  | some e => cases answered
  | none =>
      cases answered
      exact .inr ⟨[_, _, _], after, { db₁ with schemaMigrations := some db₁.rows }, rfl,
        by simp [MigrationEff.prepares], ⟨rfl, rfl, rfl⟩, rest₃⟩

/-! ## Any sequence of runs -/

namespace Attempt

variable {files : List MigrationFile} {out : Except PyExc Unit}

/-- A run keeps the rows in step with the scripts; it only adds rows, and all of its files have
one when it succeeds. -/
theorem faithful (h : Attempt sha256 run files db trace out db') (before : Faithful sha256 db) :
    Faithful sha256 db' ∧ db.rows <+: db'.rows ∧
      (out = .ok () → ∀ file ∈ files, (file.name, sha256 file.content) ∈ db'.rows) := by
  cases h with
  | committed ran =>
      rcases applyMigrationFiles_runs ran with ⟨-, e, same⟩ | ⟨_, _, db₁, -, -, looked, loop⟩
      · cases same
      · have known : ∀ version checksum, db.rows.lookup version = some checksum →
            (version, checksum) ∈ db₁.rows :=
          fun version checksum found => looked.rows ▸ mem_of_lookup found
        obtain ⟨after, grows, recorded⟩ := forEach_runs loop (before.looked looked) known
        exact ⟨after, looked.rows ▸ grows, fun _ => recorded⟩
  | commitFailed => exact ⟨before, List.prefix_rfl, nofun⟩
  | rolledBack => exact ⟨before, List.prefix_rfl, nofun⟩

/-- A run that meets an applied file with other bytes raises, and leaves the database as it was. -/
theorem modified (h : Attempt sha256 run files db trace out db') (before : Faithful sha256 db)
    {file : MigrationFile} {checksum : String} (there : file ∈ files)
    (applied : (file.name, checksum) ∈ db.rows) (other : checksum ≠ sha256 file.content) :
    (∃ e, out = .error e) ∧ db' = db := by
  have found := lookup_of_mem before.versions applied
  have stuck {trace : List (MigrationEff × Option PyExc)} {db' : Database Schema}
      (ran : Runs (answer run) (applyMigrationFiles sha256 files) db trace (.ok ()) db') : False := by
    rcases applyMigrationFiles_runs ran with ⟨-, e, same⟩ | ⟨_, _, db₁, -, -, -, loop⟩
    · cases same
    · exact forEach_modified there found other loop
  cases h with
  | committed ran => exact (stuck ran).elim
  | commitFailed e ran => exact (stuck ran).elim
  | rolledBack => exact ⟨⟨_, rfl⟩, rfl⟩

/-- A run whose files are all applied executes no script. -/
theorem quiet (h : Attempt sha256 run files db trace out db') (before : Faithful sha256 db)
    (applied : ∀ file ∈ files, (file.name, sha256 file.content) ∈ db.rows) : ¬ Executes trace := by
  have listed : ∀ file ∈ files, db.rows.lookup file.name ≠ none := fun file there none => by
    rw [lookup_of_mem before.versions (applied file there)] at none
    cases none
  have ran {out : Except PyExc Unit} {db' : Database Schema}
      (ran : Runs (answer run) (applyMigrationFiles sha256 files) db trace out db') :
      ¬ Executes trace := by
    rcases applyMigrationFiles_runs ran with ⟨prepares, -⟩ | ⟨_, _, db₁, rfl, prepares, -, loop⟩
    · exact not_executes_of_prepares prepares
    · rw [executes_append, not_or]
      exact ⟨not_executes_of_prepares prepares, forEach_listed listed loop⟩
  cases h with
  | committed h => exact ran h
  | commitFailed e h => exact ran h
  | rolledBack h => exact ran h

end Attempt

theorem Attempts.faithful (h : Attempts sha256 run db₁ db₂) (before : Faithful sha256 db₁) :
    Faithful sha256 db₂ ∧ db₁.rows <+: db₂.rows := by
  induction h with
  | refl => exact ⟨before, List.prefix_rfl⟩
  | next _ attempt ih =>
      obtain ⟨faithful, grows⟩ := ih
      obtain ⟨after, grows', -⟩ := attempt.faithful faithful
      exact ⟨after, grows.trans grows'⟩

/-- A hash without collisions that is SHA-256 on the bytes of `SELECT 1;`. -/
def digest (content : ByteArray) : String :=
  if content = "SELECT 1;".toUTF8 then
    "17db4fd369edb9244b9f91d9aeed145c3d04ad8ba6e95d06247f07a63527d11a"
  else String.ofList ('#' :: content.data.toList.map Char.ofUInt8)

theorem ofUInt8_injective : Function.Injective Char.ofUInt8 := fun a b same => by
  have code : a.toUInt32.toNat = b.toUInt32.toNat := congrArg (fun c : Char => c.val.toNat) same
  simpa [UInt8.toNat_inj] using code

theorem digest_injective : Function.Injective digest := by
  intro a b same
  have marked {bytes : List UInt8} :
      "17db4fd369edb9244b9f91d9aeed145c3d04ad8ba6e95d06247f07a63527d11a" ≠
        String.ofList ('#' :: bytes.map Char.ofUInt8) := fun same => by
    have := congrArg (fun text : String => text.toList.head?) same
    simp at this
  unfold digest at same
  split at same <;> split at same
  · rename_i first second
    rw [first, second]
  · exact (marked same).elim
  · exact (marked same.symm).elim
  · have bytes := String.ofList_injective same
    simp only [List.cons.injEq, true_and] at bytes
    exact ByteArray.ext (Array.ext' (List.map_injective_iff.mpr ofUInt8_injective bytes))

/-- A database whose schema is the list of the scripts that ran. -/
def journal (rawSql : String) (schema : List String) : Except PyExc (List String) :=
  .ok (schema ++ [rawSql])

def selectFile : MigrationFile := ⟨"001_select.sql", "SELECT 1;".toUTF8⟩

end RedditKafka.Migrations
