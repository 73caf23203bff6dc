import RedditKafka.Async.Interference
import RedditKafka.Async.Safety
import RedditKafka.Datetime.Isoformat
import RedditKafka.Json.Dictionary
import RedditKafka.Redis.Lists
import RedditKafka.Stream.ErrorHandler

/-!
# The error log of a stream

`record_error` and `get_recent_errors` of `src/stream/error_handler.py`, with
any number of calls at a time. A list in Redis holds the JSON texts of the
entries, the newest one first; no key expires.
-/
namespace RedditKafka
open Async Redis Gregorian

structure ErrorEntry where
  id : String
  errorType : String
  errorMessage : String
  isRecoverable : String
  timestamp : String
  deriving DecidableEq, Repr

def ErrorEntry.toDict (e : ErrorEntry) : List (String × String) :=
  [("id", e.id), ("error_type", e.errorType), ("error_message", e.errorMessage),
    ("is_recoverable", e.isRecoverable), ("timestamp", e.timestamp)]

def ErrorEntry.dumps (e : ErrorEntry) : String := Json.dumps e.toDict

/-- A row of `stream_errors`. -/
structure StreamErrorRow where
  id : String
  streamId : String
  errorType : String
  errorMessage : String
  retryCount : Nat
  isRecoverable : Nat
  timestamp : NaiveDatetime
  deriving DecidableEq, Repr

inductive ErrorEff where
  /-- `datetime.now(UTC).replace(tzinfo=None)`. -/
  | now
  | uuid4
  /-- `LPUSH` of the entry's JSON text. -/
  | lpush (key : String) (entry : ErrorEntry)
  | ltrim (key : String) (start stop : ℤ)
  | expire (key : String) (ttl : ℤ)
  | lrange (key : String) (start stop : ℤ)
  | persist (row : StreamErrorRow)
  deriving DecidableEq

abbrev ErrorEff.Answer : ErrorEff → Type
  | .now => NaiveDatetime
  | .uuid4 => String
  | .lrange _ _ _ => List String
  | _ => Unit

abbrev ErrorProgram (α : Type) : Type 1 := Prog ErrorEff ErrorEff.Answer PyExc α

namespace ErrorHandler

abbrev perform (c : ErrorEff) : ErrorProgram c.Answer := Prog.perform c

def errorKey (streamId : String) : String := "stream:errors:" ++ streamId

def errorTtl : ℤ := 86400

/-- With `persists`, a session maker is there. What it raises is logged only. -/
def recordError (persists : Bool) (streamId errorType errorMessage : String) (isRecoverable : Bool) :
    ErrorProgram Unit := do
  let timestamp ← perform .now
  let id ← perform .uuid4
  let entry : ErrorEntry :=
    ⟨id, errorType, errorMessage, if isRecoverable then "1" else "0", timestamp.isoformat ++ "Z"⟩
  perform (.lpush (errorKey streamId) entry)
  perform (.ltrim (errorKey streamId) 0 99)
  perform (.expire (errorKey streamId) errorTtl)
  if persists then
    (perform (.persist ⟨id, streamId, errorType, errorMessage, 0, if isRecoverable then 1 else 0,
      timestamp⟩)).rescue fun e => if e.isException then pure () else Prog.raise e
  else pure ()

def jsonDecodeError : PyExc := ⟨"JSONDecodeError", [.valueError, .exception], "invalid entry"⟩

/-- The entries are decoded one by one. -/
def decode (errorStrings : List String) : ErrorProgram (List (List (String × String))) :=
  match (errorStrings.filter (· ≠ "")).mapM Json.loads with
  | some entries => pure entries
  | none => Prog.raise jsonDecodeError

def getRecentErrors (streamId : String) (limit : ℤ) : ErrorProgram (List (List (String × String))) := do
  let errorStrings ← perform (.lrange (errorKey streamId) 0 (limit - 1))
  decode errorStrings

end ErrorHandler

/-- The lists, and after them what the development records about a run. -/
structure ErrorLog where
  lists : String → List String := fun _ => []
  /-- The entries that were pushed, the newest one first. -/
  recorded : String → List ErrorEntry := fun _ => []
  /-- The key that a call has pushed to and not trimmed yet. -/
  untrimmed : Nat → Option String := fun _ => none

inductive ErrorTurn where
  | answered
  | reading (now : NaiveDatetime)
  | named (id : String)
  | raised (e : PyExc)

/-- A call of `record_error`. -/
structure ErrorEvent where
  persists : Bool
  streamId : String
  errorType : String
  errorMessage : String
  isRecoverable : Bool

namespace ErrorLog

def push (t : Nat) (key : String) (entry : ErrorEntry) (s : ErrorLog) : ErrorLog where
  lists := Function.update s.lists key (entry.dumps :: s.lists key)
  recorded := Function.update s.recorded key (entry :: s.recorded key)
  untrimmed := Function.update s.untrimmed t (some key)

def trim (t : Nat) (key : String) (start stop : ℤ) (s : ErrorLog) : ErrorLog :=
  { s with
    lists := Function.update s.lists key (range (s.lists key) start stop)
    untrimmed := Function.update s.untrimmed t none }

def answer (t : Nat) : (c : ErrorEff) → ErrorTurn → ErrorLog → Option (Except PyExc c.Answer × ErrorLog)
  | .now, .reading now, s => some (.ok now, s)
  | .uuid4, .named id, s => some (.ok id, s)
  | .lpush key entry, .answered, s => some (.ok (), s.push t key entry)
  | .ltrim key start stop, .answered, s => some (.ok (), s.trim t key start stop)
  | .expire _ _, .answered, s => some (.ok (), s)
  | .lrange key start stop, .answered, s => some (.ok (range (s.lists key) start stop), s)
  | .persist _, .answered, s => some (.ok (), s)
  | .persist _, .raised e, s => some (.error e, s)
  | _, _, _ => none

end ErrorLog

def errorMachine : Machine ErrorEff ErrorEff.Answer PyExc ErrorLog Nat ErrorTurn ErrorEvent where
  answer := ErrorLog.answer
  start _ e s := some (ErrorHandler.recordError e.persists e.streamId e.errorType e.errorMessage
    e.isRecoverable, s)
  finish _ _ s := s
  tick _ _ := none

abbrev ErrorConfig : Type 1 := Config ErrorEff ErrorEff.Answer PyExc ErrorLog Nat

def errorConfig : ErrorConfig := Config.initial {}

/-! ## What the calls keep -/

namespace ErrorLog

open ErrorHandler

/-- The list of a key holds the texts of its newest entries: a hundred at least, as far as there
are so many, and no more once every push has been trimmed. -/
structure Holds (s : ErrorLog) (key : String) (length : Nat) : Prop where
  list : s.lists key = ((s.recorded key).take length).map ErrorEntry.dumps
  enough : min 100 (s.recorded key).length ≤ length
  bounded : (∀ t, s.untrimmed t ≠ some key) → length ≤ 100

def Invariant (s : ErrorLog) : Prop := ∀ key, ∃ length, s.Holds key length

/-- A push by a call that has trimmed all it pushed. -/
theorem push_invariant {s : ErrorLog} (h : s.Invariant) {t : Nat} (clean : s.untrimmed t = none)
    (key : String) (entry : ErrorEntry) : (s.push t key entry).Invariant := by
  intro key'
  obtain ⟨length, list, enough, bounded⟩ := h key'
  by_cases same : key' = key
  · subst same
    refine ⟨length + 1, ?_, ?_, fun quiet => absurd (Function.update_self ..) (quiet t)⟩
    · simp [push, list]
    · simp only [push, Function.update_self, List.length_cons]
      omega
  · refine ⟨length, ?_, ?_, fun quiet => bounded fun u there => quiet u ?_⟩
    · simp [push, same, list]
    · simpa [push, same] using enough
    · have other : u ≠ t := by
        rintro rfl
        cases clean.symm.trans there
      simp [push, other, there]

/-- The trim that follows a push of the same call. -/
theorem trim_invariant {s : ErrorLog} (h : s.Invariant) {t : Nat} {key : String}
    (pushed : s.untrimmed t = some key) : (s.trim t key 0 99).Invariant := by
  intro key'
  obtain ⟨length, list, enough, bounded⟩ := h key'
  by_cases same : key' = key
  · subst same
    have kept : range (s.lists key') 0 99 = (s.lists key').take 100 := range_take (s.lists key') 99
    rw [list] at kept
    refine ⟨min 100 length, ?_, ?_, fun _ => min_le_left _ _⟩
    · simp only [trim, Function.update_self, list, kept, ← List.map_take, List.take_take]
    · simp only [trim]
      omega
  · refine ⟨length, ?_, enough, fun quiet => bounded fun u there => quiet u ?_⟩
    · simp [trim, same, list]
    · have other : u ≠ t := by
        rintro rfl
        exact same (Option.some.inj (there.symm.trans pushed))
      simp [trim, other, there]

/-- A call may rely on its own record only. -/
def logDiscipline : Discipline ErrorEff ErrorLog Nat where
  inv := Invariant
  keeps t s s' := s'.untrimmed t = s.untrimmed t
  keeps_refl _ _ := rfl
  keeps_trans _ _ _ _ first then_ := then_.trans first
  ok _ _ _ := True
  pledge _ _ _ := True

variable {t : Nat} {s : ErrorLog}

/-- The effects that change no list. -/
def Quiet : ErrorEff → Prop
  | .lpush _ _ | .ltrim _ _ _ => False
  | _ => True

theorem quiet_answer {c : ErrorEff} (quiet : Quiet c) {turn : ErrorTurn}
    {r : Except PyExc c.Answer} {s s' : ErrorLog} (answered : answer t c turn s = some (r, s')) :
    s' = s := by
  cases c with
  | lpush | ltrim => cases quiet
  | now | uuid4 | expire | lrange | persist =>
      cases turn <;> cases answered <;> rfl

/-- A quiet effect in front of the rest of a call. -/
theorem Safe.quiet {c : ErrorEff} {α : Type} {next : c.Answer → ErrorProgram α}
    {Q : Except PyExc α → ErrorLog → Prop} {pushed : Option String} (quiet : Quiet c)
    (here : s.untrimmed t = pushed)
    (rest : ∀ a s', s'.untrimmed t = pushed → Safe errorMachine logDiscipline t (next a) Q s')
    (failed : ∀ e s', s'.untrimmed t = pushed → Q (.error e) s') :
    Safe errorMachine logDiscipline t (perform c >>= next) Q s := by
  apply Safe.await
  intro s₁ kept hs₁
  refine ⟨trivial, fun _ choice r s₂ answered => ?_⟩
  obtain rfl := quiet_answer quiet answered
  refine ⟨hs₁, fun _ _ => rfl, ?_⟩
  cases r with
  | ok a => exact rest a s₂ (kept.trans here)
  | error e => exact failed e s₂ (kept.trans here)

theorem persist_safe (row : StreamErrorRow) (clean : s.untrimmed t = none) :
    Safe errorMachine logDiscipline t ((perform (.persist row)).rescue fun e =>
      if e.isException then pure () else Prog.raise e) (fun _ s' => s'.untrimmed t = none) s := by
  intro s₁ kept hs₁
  refine ⟨trivial, fun _ choice r s₂ answered => ?_⟩
  obtain rfl := quiet_answer (c := .persist row) trivial answered
  refine ⟨hs₁, fun _ _ => rfl, ?_⟩
  cases r with
  | ok a => exact kept.trans clean
  | error e =>
      show Safe errorMachine logDiscipline t (if e.isException then pure () else Prog.raise e) _ _
      split <;> exact kept.trans clean

theorem recordError_safe (e : ErrorEvent) (clean : s.untrimmed t = none) :
    Safe errorMachine logDiscipline t (recordError e.persists e.streamId e.errorType e.errorMessage
      e.isRecoverable) (fun _ s' => s'.untrimmed t = none) s := by
  refine Safe.quiet trivial clean (fun timestamp s clean => ?_) fun _ _ left => left
  refine Safe.quiet trivial clean (fun id s clean => ?_) fun _ _ left => left
  apply Safe.await
  intro s₁ kept hs₁
  refine ⟨trivial, fun _ choice r s₂ pushed => ?_⟩
  cases choice with
  | answered =>
      cases pushed
      have clean := kept.trans clean
      refine ⟨push_invariant hs₁ clean _ _, fun u other => Function.update_of_ne other _ _, ?_⟩
      apply Safe.await
      intro s₃ kept hs₃
      have here := kept.trans (Function.update_self ..)
      refine ⟨trivial, fun _ choice r s₄ trimmed => ?_⟩
      cases choice with
      | answered =>
          cases trimmed
          refine ⟨trim_invariant hs₃ here, fun u other => Function.update_of_ne other _ _, ?_⟩
          refine Safe.quiet trivial (Function.update_self ..) (fun _ s clean => ?_) fun _ _ left => left
          split
          · exact persist_safe _ clean
          · exact clean
      | _ => cases trimmed
  | _ => cases pushed

theorem log_resting : Resting errorMachine logDiscipline (fun t _ s => s.untrimmed t = none)
    fun t s => s.untrimmed t = none where
  post_stable _ _ _ _ kept _ left := kept.trans left
  rest_stable _ _ _ kept _ left := kept.trans left
  start t e s p s' hs clean started := by
    cases started
    exact ⟨hs, fun _ _ => rfl, recordError_safe e clean⟩
  finish t r s hs left := ⟨hs, fun _ _ => rfl, left⟩
  tick _ _ _ _ ticked := by cases ticked

theorem log_initial : Rested errorMachine logDiscipline (fun t _ s => s.untrimmed t = none)
    (fun t s => s.untrimmed t = none) errorConfig where
  inv _ := ⟨0, rfl, Nat.zero_le _, fun _ => Nat.zero_le _⟩
  threads _ _ running := by cases running
  idle _ _ := rfl

/-! ## What is read back -/

theorem loads_dumps (entry : ErrorEntry) : Json.loads entry.dumps = some entry.toDict :=
  Json.loads_dumps entry.toDict

theorem dumps_ne_empty (entry : ErrorEntry) : entry.dumps ≠ "" := by
  intro empty
  have chars := congrArg String.toList empty
  simp [ErrorEntry.dumps, Json.dumps] at chars

theorem mapM_loads (entries : List ErrorEntry) :
    (entries.map ErrorEntry.dumps).mapM Json.loads = some (entries.map ErrorEntry.toDict) := by
  induction entries with
  | nil => rfl
  | cons entry entries ih => simp [loads_dumps, ih]

theorem decode_dumps (entries : List ErrorEntry) :
    decode (entries.map ErrorEntry.dumps) = pure (entries.map ErrorEntry.toDict) := by
  have written : (entries.map ErrorEntry.dumps).filter (· ≠ "") = entries.map ErrorEntry.dumps := by
    rw [List.filter_eq_self]
    intro text member
    obtain ⟨entry, -, rfl⟩ := List.mem_map.mp member
    simpa using dumps_ne_empty entry
  rw [decode, written, mapM_loads]

/-- A read of a list of entries: from the first one on, as many as the range has. -/
theorem getRecentErrors_inv {streamId : String} {limit : ℕ} {entries : List ErrorEntry}
    (held : s.lists (errorKey streamId) = entries.map ErrorEntry.dumps)
    {trace : List (ErrorEff × ErrorTurn)} {out : Except PyExc (List (List (String × String)))}
    {s' : ErrorLog} (h : Runs (answer t) (getRecentErrors streamId limit) s trace out s') :
    out = .ok ((if limit = 0 then entries else entries.take limit).map ErrorEntry.toDict) := by
  have read : range (s.lists (errorKey streamId)) 0 ((limit : ℤ) - 1) =
      (if limit = 0 then entries else entries.take limit).map ErrorEntry.dumps := by
    rw [held, range_limit]
    split
    · rfl
    · rw [List.map_take]
  obtain ⟨e, rfl, failed⟩ | ⟨before, after, texts, s₁, rfl, replied, decoded⟩ := h.bind_inv
  · obtain ⟨choice, rfl, answered⟩ := failed.perform_inv
    cases choice <;> cases answered
  · obtain ⟨choice, rfl, answered⟩ := replied.perform_inv
    cases choice with
    | answered =>
        cases answered
        rw [read, decode_dumps] at decoded
        exact decoded.ret_inv.2.1
    | _ => cases answered

theorem getRecentErrors_ends (t : Nat) (streamId : String) (limit : ℤ) (s : ErrorLog) :
    ∃ trace out s', Runs (answer t) (getRecentErrors streamId limit) s trace out s' := by
  have decoded (texts : List String) : ∃ out, Runs (answer t) (decode texts) s [] out s := by
    unfold decode
    split
    · exact ⟨_, .ret _ s⟩
    · exact ⟨_, .raise _ s⟩
  obtain ⟨out, ran⟩ := decoded (range (s.lists (errorKey streamId)) 0 (limit - 1))
  have replied : answer t (.lrange (errorKey streamId) 0 (limit - 1)) .answered s =
      some (.ok (range (s.lists (errorKey streamId)) 0 (limit - 1)), s) := rfl
  exact ⟨_, out, s, (Runs.perform replied).bindE ran⟩

/-- Once all calls are complete, a list holds the texts of the last hundred entries. -/
theorem complete_lists {c : ErrorConfig} (h : errorMachine.Reaches errorConfig c)
    (complete : ∀ t, c.threads t = none) (key : String) :
    c.state.lists key = ((c.state.recorded key).take 100).map ErrorEntry.dumps := by
  have rested := log_resting.reaches log_initial h
  obtain ⟨length, list, enough, bounded⟩ := rested.inv key
  have quiet (t : Nat) : c.state.untrimmed t ≠ some key := by
    rw [rested.idle t (complete t)]
    exact nofun
  have same : (c.state.recorded key).take length = (c.state.recorded key).take 100 := by
    have := bounded quiet
    rw [List.take_eq_take_iff]
    omega
  rw [list, same]

/-- The clock of the runs below. -/
def mayDay : NaiveDatetime := (midnight ⟨2026, 5, 1, by decide, by decide, by decide⟩).naive

/-- Two calls whose pushes come before both trims. -/
def twoErrors : List (Action Nat ErrorTurn ErrorEvent) :=
  let call (t : Nat) (id : String) : List (Action Nat ErrorTurn ErrorEvent) :=
    [.start t ⟨false, "s", "TimeoutError", "no reply", true⟩, .call t (.reading mayDay),
      .call t (.named id), .call t .answered]
  call 0 "a" ++ call 1 "b" ++
    [.call 1 .answered, .call 0 .answered, .call 0 .answered, .call 1 .answered, .finish 0, .finish 1]

theorem twoErrors_recorded : ∃ c, errorMachine.Reaches errorConfig c ∧ (∀ t, c.threads t = none) ∧
    (c.state.recorded (errorKey "s")).map ErrorEntry.id = ["b", "a"] := by
  have run : ((errorMachine.exec twoErrors errorConfig).map fun c =>
      ((c.state.recorded (errorKey "s")).map ErrorEntry.id,
        ([0, 1] : List Nat).all fun t => (c.threads t).isNone)) = some (["b", "a"], true) := by
    decide +kernel
  obtain ⟨c, done, seen⟩ := Option.map_eq_some_iff.mp run
  obtain ⟨recorded, ended⟩ := Prod.mk.inj seen
  exact ⟨c, .of_exec done, Machine.exec_idle done (fun _ => rfl) (by decide +kernel) ended, recorded⟩

end ErrorLog

end RedditKafka
