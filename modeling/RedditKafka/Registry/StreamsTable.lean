import RedditKafka.Async.Sequential
import RedditKafka.Registry.Commands
import RedditKafka.Registry.StreamRegistry

/-!
# The registry with its Postgres statements

The writes of `StreamRegistry` to the table `streams`, which elsewhere are a
statement without content. Forgetting the content gives the programs back.
-/
namespace RedditKafka.StreamsTable
open Async Redis StreamRegistry

/-- The two statements with their parameters. -/
inductive Statement where
  /-- `INSERT … ON CONFLICT (id) DO NOTHING`. -/
  | insertStream (id subreddit status : String) (instanceId : Option String) (config : String)
  /-- `UPDATE … SET status, instance_id WHERE id`. -/
  | updateStream (id status : String) (instanceId : Option String)
  deriving DecidableEq

inductive StoreEff where
  | other (e : Effect)
  | execute (statement : Statement)

abbrev StoreEff.Answer : StoreEff → Type
  | .other e => e.Answer
  | .execute _ => Unit

abbrev Stored (α : Type) : Type 1 := Prog StoreEff StoreEff.Answer PyExc α

/-- A program that makes no statement. -/
def lift {α : Type} (p : Program α) : Stored α := p.link fun e => Prog.perform (StoreEff.other e)

def execute (statement : Statement) : Stored Unit :=
  exceptException (Prog.perform (StoreEff.execute statement)) fun _ => pure ()

def register (streamId subreddit config : String) (instanceId : Option String) : Stored Hash := do
  let createdAt ← lift nowIso
  let updatedAt ← lift nowIso
  lift (redis (.hset (metaKey streamId)
    (newMeta streamId subreddit config (instanceId.getD "") createdAt updatedAt)))
  lift (redis (.sadd allKey streamId))
  lift (indexInstance instanceId streamId)
  execute (.insertStream streamId subreddit "starting" (orNone instanceId) config)
  return newMeta streamId subreddit config (instanceId.getD "") createdAt updatedAt

def claim (streamId subreddit config : String) (instanceId : Option String) : Stored Hash := do
  if ← lift (redis (.setNx (subredditKey subreddit) streamId none)) then
    register streamId subreddit config instanceId
  else
    let existing ← lift (redis (.get (subredditKey subreddit)))
    Prog.raise (streamExists subreddit (existing.getD "None"))

def createStream (subreddit config : String) (instanceId : Option String) : Stored Hash := do
  let existing ← lift (redis (.get (subredditKey subreddit)))
  match orNone existing with
  | some existing =>
      let _ ← lift (redis (.setNx (identityKey subreddit) existing none))
      Prog.raise (streamExists subreddit existing)
  | none =>
      let candidateId ← lift (Prog.perform Effect.uuid4)
      let streamId ← lift (resolveIdentity subreddit candidateId)
      match orNone streamId with
      | some streamId => claim streamId subreddit config instanceId
      | none => Prog.raise (.runtimeError s!"Unable to resolve stream identity for {subreddit}")

def updateStatus (streamId status : String) (instanceId : Option String) : Stored Unit := do
  let updatedAt ← lift nowIso
  lift (redis (.hset (metaKey streamId) (statusMapping status updatedAt instanceId)))
  match instanceId with
  | none => pure ()
  | some instanceId => lift (redis (.sadd (instanceKey instanceId) streamId))
  execute (.updateStream streamId status instanceId)

def requestStop (streamId : String) : Stored Unit := do
  let data ← lift (getStream streamId)
  let now ← lift nowIso
  lift (redis (.set (stopRequestKey streamId) now))
  updateStatus streamId "stopping" (orNone (data.get "instance_id"))

/-- `delete_stream` writes to Redis only. -/
def deleteStream (streamId : String) (expectedStatus expectedUpdatedAt : Option String)
    (purgeCheckpoint : Bool) : Stored Bool :=
  lift (StreamRegistry.deleteStream streamId expectedStatus expectedUpdatedAt purgeCheckpoint)

/-! ## Without the contents -/

def forget : (c : StoreEff) → Program c.Answer
  | .other e => Prog.perform e
  | .execute _ => Prog.perform Effect.persist

@[simp] theorem forget_lift {α : Type} (p : Program α) : (lift p).link forget = p := by
  induction p with
  | ret a => rfl
  | raise e => rfl
  | call c next ih =>
      simp only [lift, Prog.link, Prog.link_bindE, Prog.link_perform] at ih ⊢
      simp only [forget, Prog.perform, Prog.bindE]
      congr 1
      funext r
      cases r <;> exact ih _
  | loop body next ihb ih =>
      simp only [lift, Prog.link] at ihb ih ⊢
      rw [ihb]
      congr 1
      funext r
      exact ih r

@[simp] theorem forget_execute (statement : Statement) :
    (execute statement).link forget = persist := by
  rw [execute, exceptException, Prog.link_rescue, Prog.link_perform, persist, exceptException]
  congr 1
  funext e
  cases e.isException <;> rfl

theorem forget_register (streamId subreddit config : String) (instanceId : Option String) :
    (register streamId subreddit config instanceId).link forget =
      StreamRegistry.register streamId subreddit config instanceId := by
  simp only [register, Prog.link_bind, forget_lift, forget_execute]
  rfl

theorem forget_claim (streamId subreddit config : String) (instanceId : Option String) :
    (claim streamId subreddit config instanceId).link forget =
      StreamRegistry.claim streamId subreddit config instanceId := by
  simp only [claim, Prog.link_bind, forget_lift, StreamRegistry.claim]
  congr 1
  funext claimed
  cases claimed with
  | true => exact forget_register ..
  | false =>
      simp only [Bool.false_eq_true, if_false, Prog.link_bind, forget_lift]
      rfl

theorem forget_createStream (subreddit config : String) (instanceId : Option String) :
    (createStream subreddit config instanceId).link forget =
      StreamRegistry.createStream subreddit config instanceId := by
  simp only [createStream, Prog.link_bind, forget_lift, StreamRegistry.createStream]
  congr 1
  funext existing
  cases orNone existing with
  | some existing =>
      simp only [Prog.link_bind, forget_lift]
      rfl
  | none =>
      simp only [Prog.link_bind, forget_lift]
      congr 1
      funext candidateId
      congr 1
      funext streamId
      cases orNone streamId with
      | some streamId => exact forget_claim ..
      | none => rfl

theorem forget_updateStatus (streamId status : String) (instanceId : Option String) :
    (updateStatus streamId status instanceId).link forget =
      StreamRegistry.updateStatus streamId status instanceId := by
  cases instanceId <;>
    simp only [updateStatus, Prog.link_bind, forget_lift, forget_execute] <;> rfl

theorem forget_requestStop (streamId : String) :
    (requestStop streamId).link forget = StreamRegistry.requestStop streamId := by
  simp only [requestStop, Prog.link_bind, forget_lift, forget_updateStatus]
  rfl

/-! ## The table -/

/-- A row of `streams`, with its `JSONB` column as a value of `Json`. -/
structure StreamRow (Json : Type) where
  id : String
  subreddit : String
  status : String
  instanceId : Option String
  config : Json
  deriving DecidableEq

/-- Redis and Postgres, and the ids that were generated. -/
structure Stores (Json : Type) where
  redis : Store := {}
  streams : List (StreamRow Json) := []
  issued : List String := []

variable {Json : Type}

/-- The row under the primary key. -/
def Stores.row (s : Stores Json) (id : String) : Option (StreamRow Json) :=
  s.streams.find? fun row => row.id = id

/-- The table after a statement that succeeds: a second row for a subreddit does not. -/
def Statement.run (jsonb : String → Json) : Statement → List (StreamRow Json) →
    Option (List (StreamRow Json))
  | .insertStream id subreddit status instanceId config, rows =>
      if rows.any fun row => row.id = id then some rows
      else if rows.any fun row => row.subreddit = subreddit then none
      else some (rows ++ [⟨id, subreddit, status, instanceId, jsonb config⟩])
  | .updateStream id status instanceId, rows =>
      some (rows.map fun row =>
        if row.id = id then { row with status := status, instanceId := instanceId } else row)

/-- Every write succeeds. The choice names the time, or the id that is generated. -/
def answer (jsonb : String → Json) : (c : StoreEff) → String → Stores Json →
    Option (Except PyExc c.Answer × Stores Json)
  | .other (.redis c), _, s => some ((c.run s.redis).1, { s with redis := (c.run s.redis).2 })
  | .other .nowIso, text, s => some (.ok text, s)
  | .other .uuid4, id, s =>
      if id = "" ∨ id ∈ s.issued then none else some (.ok id, { s with issued := id :: s.issued })
  | .execute statement, _, s =>
      (statement.run jsonb s.streams).map fun rows => (.ok (), { s with streams := rows })
  | _, _, _ => none

end RedditKafka.StreamsTable
