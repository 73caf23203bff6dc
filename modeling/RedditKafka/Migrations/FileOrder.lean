import Mathlib.Data.List.Sort
import RedditKafka.Async.Interference
import RedditKafka.Migrations.ExactlyOnce
import RedditKafka.Text.Numerals

/-!
# The order of the migrations

`run_migrations` of `src/migrations.py` sorts the paths of its directory. The
README has them applied in numerical order.
-/
namespace RedditKafka.Migrations
open Async Numerals

/-- `sorted(migrations_dir.glob("*.sql"))`: paths of one directory are in the order of their
names. -/
def migrationFiles (directory : List MigrationFile) : List MigrationFile :=
  (directory.filter fun file => ".sql".toList.isSuffixOf file.name.toList).insertionSort
    fun f g => f.name ≤ g.name

/-- The digits that a name begins with. -/
def numeral (version : String) : List Char := version.toList.takeWhile Char.isDigit

/-- A decimal number, an underscore and a description. -/
def Numbered (version : String) : Prop :=
  numeral version ≠ [] ∧ (version.toList.dropWhile Char.isDigit).head? = some '_'

instance (version : String) : Decidable (Numbered version) := inferInstanceAs (Decidable (_ ∧ _))

def number (version : String) : Nat := value (numeral version)

/-- The files that a run on this database does not skip, in the order in which it comes to them. -/
def pendingFiles {Schema : Type} (directory : List MigrationFile) (db : Database Schema) :
    List MigrationFile :=
  (migrationFiles directory).filter fun file => (db.rows.lookup file.name).isNone

/-- The files that a run applies, each at its first statement: the script, or the row of a file
without one. `reading` is the file read last. -/
def ran : Option MigrationFile → List (MigrationEff × Option PyExc) → List MigrationFile
  | _, [] => []
  | _, (.readBytes file, _) :: trace => ran (some file) trace
  | reading, (.execute _, _) :: trace => reading.toList ++ ran none trace
  | reading, (.insertApplied _ _, _) :: trace => reading.toList ++ ran none trace
  | reading, _ :: trace => ran reading trace

/-- In increasing order of the numbers. -/
def InOrder (files : List MigrationFile) : Prop :=
  files.Pairwise fun f g => number f.name < number g.name

instance (files : List MigrationFile) : Decidable (InOrder files) :=
  inferInstanceAs (Decidable (files.Pairwise _))

/-- The numeral of the smaller number is not the beginning of the other one, and it is smaller as a
fraction too. -/
def NumeralsAgree (files : List MigrationFile) : Prop :=
  ∀ f ∈ files, ∀ g ∈ files, number f.name < number g.name →
    FractionLt (numeral f.name) (numeral g.name) ∧ ¬ numeral f.name <+: numeral g.name

instance (files : List MigrationFile) : Decidable (NumeralsAgree files) :=
  inferInstanceAs (Decidable (∀ f ∈ files, ∀ g ∈ files, _ → _ ∧ ¬ _))

/-! ## The names -/

theorem numeral_digits (version : String) : Digits (numeral version) :=
  List.all_eq_true.mp List.all_takeWhile

theorem Numbered.split {version : String} (h : Numbered version) :
    ∃ description, version.toList = numeral version ++ '_' :: description := by
  obtain ⟨-, next⟩ := h
  obtain ⟨description, rest⟩ := List.head?_eq_some_iff.mp next
  refine ⟨description, ?_⟩
  rw [← rest, numeral, List.takeWhile_append_dropWhile]

theorem underscore_above (c : Char) (h : c.isDigit = true) : c < '_' := by
  have := isDigit_bounds h
  have order : c < '_' ↔ c.toNat < 95 := Iff.rfl
  rw [order]
  omega

/-- The names of two numbers are in the order of the numbers exactly if their numerals agree. -/
theorem name_lt_iff {f g : String} (hf : Numbered f) (hg : Numbered g) (lt : number f < number g) :
    f < g ↔ FractionLt (numeral f) (numeral g) ∧ ¬ numeral f <+: numeral g := by
  obtain ⟨x, textF⟩ := hf.split
  obtain ⟨y, textG⟩ := hg.split
  rw [String.lt_iff_toList_lt, textF, textG]
  exact terminated_lt_iff_of_lt underscore_above (numeral_digits f) (numeral_digits g) lt

/-- Sorted files with distinct numbers. -/
theorem inOrder_iff {files : List MigrationFile} (sorted : files.Pairwise fun f g => f.name < g.name)
    (numbered : ∀ f ∈ files, Numbered f.name)
    (distinct : ∀ f ∈ files, ∀ g ∈ files, number f.name = number g.name → f = g) :
    InOrder files ↔ NumeralsAgree files := by
  constructor
  · intro order f hf g hg lt
    rw [← name_lt_iff (numbered f hf) (numbered g hg) lt]
    have forward : files.Pairwise fun f g => number f.name < number g.name → f.name < g.name := by
      refine sorted.imp ?_
      intro f g before _
      exact before
    have back : files.Pairwise fun g f => number f.name < number g.name → f.name < g.name := by
      refine order.imp ?_
      intro g f less greater
      exact absurd greater (lt_asymm less)
    refine forward.forall_of_forall_of_flip (fun f _ self => ?_) back hf hg lt
    exact absurd self (lt_irrefl _)
  · intro agree
    refine sorted.imp_of_mem fun {f g} hf hg before => ?_
    rcases lt_trichotomy (number f.name) (number g.name) with lt | same | gt
    · exact lt
    · cases distinct f hf g hg same
      exact absurd before (lt_irrefl _)
    · have after := (name_lt_iff (numbered g hg) (numbered f hf) gt).mpr (agree g hg f hf gt)
      exact absurd before (lt_asymm after)

theorem migrationFiles_sorted {directory : List MigrationFile}
    (names : (directory.map MigrationFile.name).Nodup) :
    (migrationFiles directory).Pairwise fun f g => f.name < g.name := by
  have total : Std.Total fun f g : MigrationFile => f.name ≤ g.name := ⟨fun f g => le_total _ _⟩
  have trans : IsTrans MigrationFile fun f g => f.name ≤ g.name := ⟨fun _ _ _ => le_trans⟩
  have sorted := List.pairwise_insertionSort (fun f g : MigrationFile => f.name ≤ g.name)
    (directory.filter fun file => ".sql".toList.isSuffixOf file.name.toList)
  have apart : (migrationFiles directory).Pairwise fun f g => f.name ≠ g.name := by
    have once : (directory.filter fun file =>
        ".sql".toList.isSuffixOf file.name.toList).Pairwise fun f g => f.name ≠ g.name :=
      (List.pairwise_map.mp names).filter _
    exact (List.perm_insertionSort _ _).symm.pairwise once fun other => other.symm
  exact (sorted.and apart).imp fun both => lt_of_le_of_ne both.1 both.2

/-! ## What a run applies -/

section runs

variable {Schema : Type} {sha256 : ByteArray → String} {run : String → Schema → Except PyExc Schema}
  {db db' : Database Schema} {trace : List (MigrationEff × Option PyExc)}

/-- The statements before the loop apply nothing. -/
theorem ran_prepares {before : List (MigrationEff × Option PyExc)}
    (prepares : ∀ entry ∈ before, entry.1.prepares = true)
    (after : List (MigrationEff × Option PyExc)) :
    ran none (before ++ after) = ran none after := by
  induction before with
  | nil => rfl
  | cons entry before ih =>
      rw [List.forall_mem_cons] at prepares
      obtain ⟨c, choice⟩ := entry
      cases c with
      | advisoryLock | createSchemaMigrations | selectApplied => exact ih prepares.2
      | readBytes | execute | insertApplied => cases prepares.1

def MigrationEff.writes : MigrationEff → Bool
  | .execute _ | .insertApplied _ _ => true
  | _ => false

theorem ran_writes {statements after : List (MigrationEff × Option PyExc)}
    (writes : ∀ entry ∈ statements, entry.1.writes = true) :
    ran none (statements ++ after) = ran none after := by
  induction statements with
  | nil => rfl
  | cons entry statements ih =>
      rw [List.forall_mem_cons] at writes
      obtain ⟨c, choice⟩ := entry
      cases c with
      | execute | insertApplied => exact ih writes.2
      | advisoryLock | createSchemaMigrations | selectApplied | readBytes => cases writes.1

/-- A file is read, and then it is applied or skipped. -/
theorem ran_file {reading : Option MigrationFile} {file : MigrationFile} {choice : Option PyExc}
    {statements after : List (MigrationEff × Option PyExc)} (some_ : statements ≠ [])
    (writes : ∀ entry ∈ statements, entry.1.writes = true) :
    ran reading ((.readBytes file, choice) :: (statements ++ after)) = file :: ran none after := by
  cases statements with
  | nil => exact absurd rfl some_
  | cons entry statements =>
      rw [List.forall_mem_cons] at writes
      obtain ⟨c, choice'⟩ := entry
      cases c with
      | execute | insertApplied =>
          simp only [ran, List.cons_append, Option.toList_some, List.nil_append,
            ran_writes writes.2]
      | advisoryLock | createSchemaMigrations | selectApplied | readBytes => cases writes.1

/-- The statements of one turn of the loop: the file is only read, or it is pending and applied. -/
inductive TurnTrace (pending : Prop) (file : MigrationFile) (out : Except PyExc Unit) :
    List (MigrationEff × Option PyExc) → Prop
  | readOnly (choice : Option PyExc) : (pending → out ≠ .ok ()) →
      TurnTrace pending file out [(.readBytes file, choice)]
  | applied (choice : Option PyExc) {statements : List (MigrationEff × Option PyExc)} : pending →
      statements ≠ [] → (∀ entry ∈ statements, entry.1.writes = true) →
      TurnTrace pending file out ((.readBytes file, choice) :: statements)

theorem executeSqlScript_writes (rawSql : String) :
    (executeSqlScript rawSql).Uses fun c => c.writes = true := by
  unfold executeSqlScript
  split
  · trivial
  · exact .perform rfl

theorem applyMigrationFile_trace {applied : List (String × String)} {file : MigrationFile}
    {out : Except PyExc Unit}
    (h : Runs (answer run) (applyMigrationFile sha256 applied file) db trace out db') :
    TurnTrace (applied.lookup file.name = none) file out trace := by
  rcases h.bind_inv with ⟨e, rfl, raised⟩ | ⟨_, _, content, db₁, rfl, read, rest⟩
  · obtain ⟨choice, rfl, -⟩ := raised.perform_inv
    exact .readOnly choice nofun
  obtain ⟨choice, rfl, -⟩ := read.perform_inv
  rcases rest.bind_inv with ⟨e, rfl, raised⟩ | ⟨_, _, rawSql, db₂, rfl, decoded, rest₂⟩
  · obtain ⟨rfl, -⟩ := decodeUtf8_runs raised
    exact .readOnly choice nofun
  obtain ⟨rfl, -⟩ := decodeUtf8_runs decoded
  cases found : applied.lookup file.name with
  | some checksum =>
      simp only [found] at rest₂
      split at rest₂
      · obtain ⟨rfl, -⟩ := rest₂.raise_inv
        exact .readOnly choice nofun
      · obtain ⟨rfl, -⟩ := rest₂.ret_inv
        exact .readOnly choice nofun
  | none =>
      simp only [found] at rest₂
      have writes := rest₂.uses (.bind (executeSqlScript_writes rawSql) fun _ => .perform rfl)
      rcases rest₂.bind_inv with ⟨e, rfl, failed⟩ | ⟨_, _, _, db₃, rfl, -, inserted⟩
      · rename_i statements
        cases statements with
        | nil => exact .readOnly choice fun _ => nofun
        | cons => exact .applied choice rfl (by simp) writes
      · obtain ⟨choice', rfl, -⟩ := inserted.perform_inv
        exact .applied choice rfl (by simp) writes

/-- What a turn adds to the files applied. -/
theorem TurnTrace.ran {file : MigrationFile} {applied : List (String × String)}
    {out : Except PyExc Unit} {before : List (MigrationEff × Option PyExc)}
    (h : TurnTrace (applied.lookup file.name = none) file out before)
    (reading : Option MigrationFile) (after : List (MigrationEff × Option PyExc)) : ∃ next front, ran reading (before ++ after) =
      front ++ ran next after ∧ front <+: ([file].filter fun file =>
        (applied.lookup file.name).isNone) ∧
      (out = .ok () → front = [file].filter fun file => (applied.lookup file.name).isNone) := by
  cases h with
  | readOnly choice listed =>
      refine ⟨some file, [], rfl, List.nil_prefix, fun done => ?_⟩
      have := mt listed (not_not.mpr done)
      simpa [Option.isSome_iff_ne_none] using this
  | applied choice pending some_ writes =>
      have kept : [file].filter (fun file => (applied.lookup file.name).isNone) = [file] := by
        simp [pending]
      refine ⟨none, [file], ran_file some_ writes, ?_, fun _ => kept.symm⟩
      rw [kept]

/-- The loop applies its pending files one after the other. -/
theorem forEach_ran {applied : List (String × String)} {files : List MigrationFile}
    {out : Except PyExc Unit} (reading : Option MigrationFile)
    (h : Runs (answer run) (Prog.forEach (applyMigrationFile sha256 applied) files) db trace out
      db') :
    ran reading trace <+: (files.filter fun file => (applied.lookup file.name).isNone) ∧
      (out = .ok () → ran reading trace =
        files.filter fun file => (applied.lookup file.name).isNone) := by
  induction files generalizing db trace reading with
  | nil =>
      obtain ⟨rfl, -⟩ := h.ret_inv
      simp [ran]
  | cons file files ih =>
      rw [← List.singleton_append, List.filter_append]
      rcases h.bind_inv with ⟨e, rfl, raised⟩ | ⟨_, _, _, db₁, rfl, first, rest⟩
      · obtain ⟨next, front, same, below, -⟩ :=
          (applyMigrationFile_trace raised).ran reading []
        rw [List.append_nil, ran, List.append_nil] at same
        exact ⟨same ▸ below.trans (List.prefix_append ..), nofun⟩
      · obtain ⟨next, front, same, -, whole⟩ := (applyMigrationFile_trace first).ran reading _
        obtain ⟨others, all⟩ := ih next rest
        rw [same, whole rfl]
        exact ⟨(List.prefix_append_right_inj _).mpr others, fun done => by rw [all done]⟩

/-- A run applies the pending files in their order, up to the statement that fails. -/
theorem Attempt.ran {directory : List MigrationFile} {out : Except PyExc Unit}
    (h : Attempt sha256 run (migrationFiles directory) db trace out db') :
    ran none trace <+: pendingFiles directory db ∧
      (out = .ok () → ran none trace = pendingFiles directory db) := by
  have loop {out : Except PyExc Unit} {db' : Database Schema}
      (h : Runs (answer run) (applyMigrationFiles sha256 (migrationFiles directory)) db trace out
        db') : Migrations.ran none trace <+: pendingFiles directory db ∧
      (out = .ok () → Migrations.ran none trace = pendingFiles directory db) := by
    rcases applyMigrationFiles_runs h with ⟨prepares, e, rfl⟩ |
      ⟨before, after, db₁, rfl, prepares, -, loop⟩
    · have nothing := ran_prepares prepares []
      rw [List.append_nil] at nothing
      exact ⟨nothing ▸ List.nil_prefix, nofun⟩
    · rw [ran_prepares prepares]
      exact forEach_ran none loop
  cases h with
  | committed h => exact loop h
  | commitFailed e h => exact ⟨(loop h).1, nofun⟩
  | rolledBack h => exact loop h

end runs

/-- Numerals of one width agree. -/
theorem numeralsAgree_of_width {files : List MigrationFile} {width : Nat}
    (padded : ∀ f ∈ files, (numeral f.name).length = width) : NumeralsAgree files := by
  intro f hf g hg lt
  have same : (numeral f.name).length = (numeral g.name).length :=
    (padded f hf).trans (padded g hg).symm
  refine ⟨fractionLt_of_width same lt, fun front => ?_⟩
  have equal : numeral f.name = numeral g.name := front.eq_of_length same
  exact absurd (congrArg value equal) lt.ne

/-- The two names that the README shows. -/
def paddedDirectory : List MigrationFile :=
  [⟨"002_add_retry_table.sql", "SELECT 2;".toUTF8⟩,
    ⟨"001_initial_schema.sql", "SELECT 1;".toUTF8⟩]

def plainDirectory : List MigrationFile :=
  [⟨"9_add_retry_table.sql", "SELECT 9;".toUTF8⟩, ⟨"10_use_it.sql", "SELECT 10;".toUTF8⟩]

def freshDatabase : Database (List String) := ⟨[], none, none, []⟩

theorem directory_runs (directory : List MigrationFile) {applied : List MigrationFile}
    (choices : List (Option PyExc))
    (done : (Runs.replay (answer journal) (applyMigrationFiles digest (migrationFiles directory))
      choices freshDatabase).map (fun last => (last.2.1, ran none last.1)) = some (.ok (), applied)) :
    ∃ trace db', Attempt digest journal (migrationFiles directory) freshDatabase trace (.ok ()) db' ∧
      ran none trace = applied := by
  obtain ⟨trace, out, db', runs, seen⟩ := Runs.of_replay_map done
  obtain ⟨rfl, applies⟩ := Prod.mk.inj seen
  exact ⟨trace, db', .committed runs, applies⟩

section order

variable {Schema : Type} {sha256 : ByteArray → String} {run : String → Schema → Except PyExc Schema}
  {db db' : Database Schema} {trace : List (MigrationEff × Option PyExc)}

end order

end RedditKafka.Migrations
