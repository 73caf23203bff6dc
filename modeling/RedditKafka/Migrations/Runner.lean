import RedditKafka.Async.Sequential
import RedditKafka.Stream.ErrorHandler

/-!
# The migration runner

`_apply_migration_files` of `src/migrations.py` inside its transaction. SQL acts
on the schema; the table `schema_migrations` belongs to the runner.
-/
namespace RedditKafka.Migrations
open Async

-- Contents are compared by core's instance, whatever else is imported.
attribute [instance (2000)] ByteArray.instDecidableEq

/-- A file as one run finds it. -/
structure MigrationFile where
  name : String
  content : ByteArray
  deriving DecidableEq

inductive MigrationEff where
  /-- `SELECT pg_advisory_xact_lock(:lock_id)`. -/
  | advisoryLock
  | createSchemaMigrations
  | selectApplied
  | readBytes (file : MigrationFile)
  /-- The script as a whole, on the connection of the driver. -/
  | execute (rawSql : String)
  | insertApplied (version checksum : String)
  deriving DecidableEq

abbrev MigrationEff.Answer : MigrationEff → Type
  | .selectApplied => List (String × String)
  | .readBytes _ => ByteArray
  | _ => Unit

abbrev Runner (α : Type) : Type 1 := Prog MigrationEff MigrationEff.Answer PyExc α

abbrev ask (c : MigrationEff) : Runner c.Answer := Prog.perform c

/-- The characters that `str.strip` removes. -/
def isSpace (c : Char) : Bool :=
  [0x20, 0x85, 0xa0, 0x1680, 0x2028, 0x2029, 0x202f, 0x205f, 0x3000].contains c.toNat ||
    (0x09 ≤ c.toNat && c.toNat ≤ 0x0d) || (0x1c ≤ c.toNat && c.toNat ≤ 0x1f) ||
    (0x2000 ≤ c.toNat && c.toNat ≤ 0x200a)

def isBlank (rawSql : String) : Bool := rawSql.toList.all isSpace

def unicodeDecodeError : PyExc :=
  ⟨"UnicodeDecodeError", [.valueError, .exception], "'utf-8' codec can't decode"⟩

def decodeUtf8 (rawBytes : ByteArray) : Runner String :=
  match String.fromUTF8? rawBytes with
  | some rawSql => pure rawSql
  | none => Prog.raise unicodeDecodeError

def modified (version : String) : PyExc :=
  .runtimeError s!"Applied migration {version} has been modified; create a new migration instead"

def executeSqlScript (rawSql : String) : Runner Unit :=
  if isBlank rawSql then pure () else ask (.execute rawSql)

section runner

variable (sha256 : ByteArray → String)

/-- One turn of the loop over the files. -/
def applyMigrationFile (applied : List (String × String)) (file : MigrationFile) : Runner Unit := do
  let rawBytes ← ask (.readBytes file)
  let rawSql ← decodeUtf8 rawBytes
  match applied.lookup file.name with
  | some checksum =>
      if checksum ≠ sha256 rawBytes then Prog.raise (modified file.name) else pure ()
  | none => do
      executeSqlScript rawSql
      ask (.insertApplied file.name (sha256 rawBytes))

def applyMigrationFiles (files : List MigrationFile) : Runner Unit := do
  ask .advisoryLock
  ask .createSchemaMigrations
  let applied ← ask .selectApplied
  Prog.forEach (applyMigrationFile sha256 applied) files

end runner

/-! ## The database -/

/-- The database, and after it what the development records about its history. -/
structure Database (Schema : Type) where
  schema : Schema
  /-- The rows of `schema_migrations`, in the order of their insertion. -/
  schemaMigrations : Option (List (String × String)) := none
  /-- The file that was read last. -/
  reading : Option MigrationFile := none
  /-- The versions whose scripts have been executed, each with the bytes of its file. -/
  executed : List (String × ByteArray) := []

def Database.rows {Schema : Type} (db : Database Schema) : List (String × String) :=
  db.schemaMigrations.getD []

def uniqueViolation : PyExc :=
  ⟨"IntegrityError", [.exception], "duplicate key value violates unique constraint"⟩

def undefinedTable : PyExc :=
  ⟨"ProgrammingError", [.exception], "relation schema_migrations does not exist"⟩

/-- What the transaction sees of one statement. A choice of `some e` is a failure at this point. -/
def answer {Schema : Type} (run : String → Schema → Except PyExc Schema) :
    (c : MigrationEff) → Option PyExc → Database Schema →
      Option (Except PyExc c.Answer × Database Schema)
  | _, some e, db => some (.error e, db)
  | .advisoryLock, none, db => some (.ok (), db)
  | .createSchemaMigrations, none, db =>
      some (.ok (), { db with schemaMigrations := some db.rows })
  | .selectApplied, none, db =>
      match db.schemaMigrations with
      | some rows => some (.ok rows, db)
      | none => some (.error undefinedTable, db)
  | .readBytes file, none, db => some (.ok file.content, { db with reading := some file })
  | .execute rawSql, none, db =>
      match run rawSql db.schema with
      | .error e => some (.error e, db)
      | .ok schema => some (.ok (), { db with
          schema := schema
          executed := db.executed ++
            (db.reading.map fun file => (file.name, file.content)).toList })
  | .insertApplied version checksum, none, db =>
      match db.schemaMigrations with
      | none => some (.error undefinedTable, db)
      | some rows =>
          if (rows.lookup version).isSome then some (.error uniqueViolation, db)
          else some (.ok (), { db with schemaMigrations := some (rows ++ [(version, checksum)]) })

section transactions

variable {Schema : Type} (sha256 : ByteArray → String) (run : String → Schema → Except PyExc Schema)

/-- `async with engine.begin()` around one run: the statements it made, how it ended, and the
database behind it. A run that ends in any exception is rolled back. -/
inductive Attempt (files : List MigrationFile) (db : Database Schema) :
    List (MigrationEff × Option PyExc) → Except PyExc Unit → Database Schema → Prop
  | committed {trace : List (MigrationEff × Option PyExc)} {db' : Database Schema} :
      Runs (answer run) (applyMigrationFiles sha256 files) db trace (.ok ()) db' →
      Attempt files db trace (.ok ()) db'
  | commitFailed {trace : List (MigrationEff × Option PyExc)} {db' : Database Schema} (e : PyExc) :
      Runs (answer run) (applyMigrationFiles sha256 files) db trace (.ok ()) db' →
      Attempt files db trace (.error e) db
  | rolledBack {trace : List (MigrationEff × Option PyExc)} {db' : Database Schema} {e : PyExc} :
      Runs (answer run) (applyMigrationFiles sha256 files) db trace (.error e) db' →
      Attempt files db trace (.error e) db

/-- Runs by any number of processes, one after the other. -/
inductive Attempts (db : Database Schema) : Database Schema → Prop
  | refl : Attempts db db
  | next {db₁ db₂ : Database Schema} {files : List MigrationFile}
      {trace : List (MigrationEff × Option PyExc)} {out : Except PyExc Unit} :
      Attempts db db₁ → Attempt sha256 run files db₁ trace out db₂ → Attempts db db₂

end transactions

/-- A driver statement of a run: some SQL file was executed. -/
def Executes (trace : List (MigrationEff × Option PyExc)) : Prop :=
  ∃ entry ∈ trace, ∃ rawSql, entry.1 = .execute rawSql

end RedditKafka.Migrations
