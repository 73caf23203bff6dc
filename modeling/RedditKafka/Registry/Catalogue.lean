import RedditKafka.Registry.Calls

/-!
# The catalogue of streams

What the registry is for, without keys, hashes and scripts: the streams that are
registered, the ids that subreddits keep across restarts, the stop requests that
are pending and the progress of each stream.
-/
namespace RedditKafka
open Redis StreamRegistry DeadStreamCleanup

/-- What is known of a registered stream. No instance is the empty one. -/
structure StreamRecord where
  subreddit : String
  status : String
  instanceId : String
  config : String
  createdAt : String
  updatedAt : String
  deriving DecidableEq, Repr

namespace StreamRecord

/-- The record as the registry shows it. -/
def fields (id : String) (r : StreamRecord) : Hash :=
  [("id", id), ("subreddit", r.subreddit), ("status", r.status), ("instance_id", r.instanceId),
    ("config", r.config), ("created_at", r.createdAt), ("updated_at", r.updatedAt)]

abbrev starting (subreddit config : String) (instanceId : Option String)
    (createdAt updatedAt : String) : StreamRecord where
  subreddit := subreddit
  status := "starting"
  instanceId := instanceId.getD ""
  config := config
  createdAt := createdAt
  updatedAt := updatedAt

/-- A status write. It names an instance, or leaves the one that is there. -/
def setStatus (status : String) (instanceId : Option String) (now : String) (r : StreamRecord) :
    StreamRecord :=
  { r with status := status, instanceId := instanceId.getD r.instanceId, updatedAt := now }

def touch (now : String) (r : StreamRecord) : StreamRecord := { r with updatedAt := now }

def isDead (r : StreamRecord) : Bool := deadStatuses.contains r.status

theorem setStatus_keeps (status : String) (instanceId : Option String) (now : String)
    (r : StreamRecord) : (r.setStatus status instanceId now).subreddit = r.subreddit := rfl

theorem touch_keeps (now : String) (r : StreamRecord) : (r.touch now).subreddit = r.subreddit := rfl

end StreamRecord

/-- The fields below `progress` say what every catalogue satisfies. -/
@[ext] structure Catalogue where
  stream : String → Option StreamRecord := fun _ => none
  /-- The id that a subreddit keeps. -/
  identity : String → Option String := fun _ => none
  stopRequested : String → Bool := fun _ => false
  progress : String → Checkpoint := fun _ => {}
  named : ∀ {id record}, stream id = some record → record.subreddit ≠ "" := by simp
  identified : ∀ {id record}, stream id = some record → identity record.subreddit = some id := by simp
  single : ∀ {subreddit subreddit' id},
    identity subreddit = some id → identity subreddit' = some id → subreddit = subreddit' := by simp
  pending : ∀ {id}, stopRequested id = true → stream id ≠ none := by simp

namespace Catalogue

variable (c : Catalogue)

/-- No stream of the subreddit is registered. -/
def Vacant (subreddit : String) : Prop :=
  ∀ id record, c.stream id = some record → record.subreddit ≠ subreddit

/-- A stream of the subreddit may be registered under the id: its own one, or an unused one. -/
def Eligible (id subreddit : String) : Prop :=
  c.identity subreddit = some id ∨
    c.identity subreddit = none ∧ ∀ other, c.identity other ≠ some id

variable {c}

/-- Two registered streams of one subreddit are the same stream. -/
theorem stream_unique {id id' : String} {record record' : StreamRecord}
    (here : c.stream id = some record) (there : c.stream id' = some record')
    (same : record.subreddit = record'.subreddit) : id = id' :=
  Option.some.inj ((c.identified here).symm.trans (same ▸ c.identified there))

theorem Eligible.of_own {id subreddit : String} (own : c.identity subreddit = some id) :
    c.Eligible id subreddit := .inl own

theorem Eligible.of_unused {id subreddit : String} (unbound : c.identity subreddit = none)
    (unused : ∀ other, c.identity other ≠ some id) : c.Eligible id subreddit := .inr ⟨unbound, unused⟩

theorem Eligible.unregistered {id subreddit : String} (eligible : c.Eligible id subreddit)
    (vacant : c.Vacant subreddit) : c.stream id = none := by
  refine Option.eq_none_iff_forall_ne_some.mpr fun record there => ?_
  rcases eligible with own | ⟨-, unused⟩
  · exact vacant id record there (c.single (c.identified there) own)
  · exact unused _ (c.identified there)

/-! ## What can be done to it -/

/-- The id becomes the one that the subreddit keeps. -/
def identify (c : Catalogue) (subreddit id : String) (eligible : c.Eligible id subreddit) :
    Catalogue :=
  { c with
    identity := Function.update c.identity subreddit (some id)
    identified := by
      intro id' record there
      rw [Function.update_apply]
      split
      · rename_i same
        rcases eligible with own | ⟨unbound, -⟩
        · rw [← own, ← same]
          exact c.identified there
        · have bound := c.identified there
          rw [same, unbound] at bound
          cases bound
      · exact c.identified there
    single := by
      have own : ∀ other, c.identity other = some id → other = subreddit := fun other held =>
        eligible.elim (fun own => c.single held own) fun unused => (unused.2 other held).elim
      intro name name' id' here there
      rw [Function.update_apply] at here there
      split at here <;> split at there
      · rename_i same same'
        exact same.trans same'.symm
      · rename_i same _
        cases here
        exact same.trans (own _ there).symm
      · rename_i _ same
        cases there
        exact (own _ here).trans same.symm
      · exact c.single here there }

/-- A stream is registered under the id that its subreddit keeps. -/
def enroll (c : Catalogue) (id : String) (record : StreamRecord) (named : record.subreddit ≠ "")
    (own : c.identity record.subreddit = some id) : Catalogue :=
  { c with
    stream := Function.update c.stream id (some record)
    named := by
      intro id' record' there
      rw [Function.update_apply] at there
      split at there
      · cases there
        exact named
      · exact c.named there
    identified := by
      intro id' record' there
      rw [Function.update_apply] at there
      split at there
      · rename_i same
        cases there
        rw [own, same]
      · exact c.identified there
    pending := by
      intro id' requested
      rw [Function.update_apply]
      split
      · exact Option.some_ne_none record
      · exact c.pending requested }

/-- A change of one record that stays with its subreddit. -/
def amend (c : Catalogue) (id : String) (change : StreamRecord → StreamRecord)
    (keeps : ∀ record, (change record).subreddit = record.subreddit) : Catalogue :=
  { c with
    stream := Function.update c.stream id ((c.stream id).map change)
    named := by
      intro id' record' there
      rw [Function.update_apply] at there
      split at there
      · obtain ⟨record, held, rfl⟩ := Option.map_eq_some_iff.mp there
        rw [keeps]
        exact c.named held
      · exact c.named there
    identified := by
      intro id' record' there
      rw [Function.update_apply] at there
      split at there
      · rename_i same
        obtain ⟨record, held, rfl⟩ := Option.map_eq_some_iff.mp there
        rw [keeps, same]
        exact c.identified held
      · exact c.identified there
    pending := by
      intro id' requested
      rw [Function.update_apply]
      split
      · rename_i same
        rw [Ne, Option.map_eq_none_iff, ← same]
        exact c.pending requested
      · exact c.pending requested }

/-- The stream leaves. Its id and its progress stay, unless they are purged. -/
def remove (c : Catalogue) {id : String} {record : StreamRecord} (there : c.stream id = some record)
    (purge : Bool) : Catalogue where
  stream := Function.update c.stream id none
  identity := if purge then Function.update c.identity record.subreddit none else c.identity
  stopRequested := Function.update c.stopRequested id false
  progress := if purge then Function.update c.progress id {} else c.progress
  named := by
    intro id' record' there'
    rw [Function.update_apply] at there'
    split at there'
    · cases there'
    · exact c.named there'
  identified := by
    intro id' record' there'
    rw [Function.update_apply] at there'
    split at there'
    · cases there'
    · rename_i other
      split
      · rw [Function.update_of_ne fun same => other (stream_unique there' there same)]
        exact c.identified there'
      · exact c.identified there'
  single := by
    have kept : ∀ {subreddit id'},
        (if purge then Function.update c.identity record.subreddit none else c.identity) subreddit =
          some id' → c.identity subreddit = some id' := by
      intro subreddit id' held
      split at held
      · rw [Function.update_apply] at held
        split at held
        · cases held
        · exact held
      · exact held
    intro _ _ _ here here'
    exact c.single (kept here) (kept here')
  pending := by
    intro id' requested
    rw [Function.update_apply] at requested ⊢
    split at requested
    · cases requested
    · rename_i other
      rw [if_neg other]
      exact c.pending requested

def requestStop (c : Catalogue) {id : String} (there : c.stream id ≠ none) : Catalogue :=
  { c with
    stopRequested := Function.update c.stopRequested id true
    pending := by
      intro id' requested
      rw [Function.update_apply] at requested
      split at requested
      · rename_i same
        exact same ▸ there
      · exact c.pending requested }

/-- What is given replaces what was there, and the time is noted when anything is given. -/
def advance (c : Catalogue) (id : String) (lastCommentId lastProcessedAt : Option String)
    (now : String) : Catalogue :=
  { c with
    progress := Function.update c.progress id
      (if lastCommentId = none ∧ lastProcessedAt = none then c.progress id else
        ⟨lastCommentId <|> (c.progress id).lastCommentId,
          lastProcessedAt <|> (c.progress id).lastProcessedAt, some now⟩) }

/-- The dead streams among those asked for leave, with their stop requests. -/
def sweep (c : Catalogue) (among : String → Bool) : Catalogue :=
  { c with
    stream := fun id => (c.stream id).filter fun record => !(among id && record.isDead)
    stopRequested := fun id => c.stopRequested id &&
      ((c.stream id).filter fun record => !(among id && record.isDead)).isSome
    named := fun there => c.named (Option.filter_eq_some_iff.mp there).1
    identified := fun there => c.identified (Option.filter_eq_some_iff.mp there).1
    pending := fun requested => Option.isSome_iff_ne_none.mp (Bool.and_eq_true_iff.mp requested).2 }

section Parts
variable {id id' subreddit name : String} {record : StreamRecord}
  {change : StreamRecord → StreamRecord}
  (eligible : c.Eligible id subreddit) (named : record.subreddit ≠ "")
  (own : c.identity record.subreddit = some id)
  (keeps : ∀ record, (change record).subreddit = record.subreddit)
  (there : c.stream id = some record) (present : c.stream id ≠ none)

@[simp] theorem identify_stream : (c.identify subreddit id eligible).stream = c.stream := rfl
@[simp] theorem identify_progress : (c.identify subreddit id eligible).progress = c.progress := rfl

@[simp] theorem identify_stopRequested :
    (c.identify subreddit id eligible).stopRequested = c.stopRequested := rfl

@[simp] theorem identify_identity : (c.identify subreddit id eligible).identity name =
    if name = subreddit then some id else c.identity name := Function.update_apply ..

@[simp] theorem enroll_stream : (c.enroll id record named own).stream id' =
    if id' = id then some record else c.stream id' := Function.update_apply ..

@[simp] theorem enroll_identity : (c.enroll id record named own).identity = c.identity := rfl
@[simp] theorem enroll_progress : (c.enroll id record named own).progress = c.progress := rfl

@[simp] theorem enroll_stopRequested :
    (c.enroll id record named own).stopRequested = c.stopRequested := rfl

@[simp] theorem amend_stream : (c.amend id change keeps).stream id' =
    if id' = id then (c.stream id).map change else c.stream id' := Function.update_apply ..

@[simp] theorem amend_identity : (c.amend id change keeps).identity = c.identity := rfl
@[simp] theorem amend_progress : (c.amend id change keeps).progress = c.progress := rfl

@[simp] theorem amend_stopRequested :
    (c.amend id change keeps).stopRequested = c.stopRequested := rfl

@[simp] theorem remove_stream (purge : Bool) : (c.remove there purge).stream id' =
    if id' = id then none else c.stream id' := Function.update_apply ..

@[simp] theorem remove_stopRequested (purge : Bool) : (c.remove there purge).stopRequested id' =
    if id' = id then false else c.stopRequested id' := Function.update_apply ..

@[simp] theorem remove_identity (purge : Bool) : (c.remove there purge).identity name =
    if purge ∧ name = record.subreddit then none else c.identity name := by
  cases purge <;> simp [remove, Function.update_apply]

@[simp] theorem remove_progress (purge : Bool) : (c.remove there purge).progress id' =
    if purge ∧ id' = id then {} else c.progress id' := by
  cases purge <;> simp [remove, Function.update_apply]

@[simp] theorem requestStop_stream : (c.requestStop present).stream = c.stream := rfl
@[simp] theorem requestStop_identity : (c.requestStop present).identity = c.identity := rfl
@[simp] theorem requestStop_progress : (c.requestStop present).progress = c.progress := rfl

@[simp] theorem requestStop_stopRequested : (c.requestStop present).stopRequested id' =
    if id' = id then true else c.stopRequested id' := Function.update_apply ..

theorem advance_progress (lastCommentId lastProcessedAt : Option String) (now : String) :
    (c.advance id lastCommentId lastProcessedAt now).progress id' =
      if id' = id then
        if lastCommentId = none ∧ lastProcessedAt = none then c.progress id else
          ⟨lastCommentId <|> (c.progress id).lastCommentId,
            lastProcessedAt <|> (c.progress id).lastProcessedAt, some now⟩
      else c.progress id' := Function.update_apply ..

/-- Nothing is asked of the others, and no stop request is pending for them. -/
theorem sweep_stopRequested (among : String → Bool) : (c.sweep among).stopRequested id =
    (c.stopRequested id && ((c.sweep among).stream id).isSome) := rfl

theorem sweep_stream (among : String → Bool) : (c.sweep among).stream id =
    (c.stream id).filter fun record => !(among id && record.isDead) := rfl

theorem sweep_stream_aside {among : String → Bool} (aside : among id = false) :
    (c.sweep among).stream id = c.stream id := by
  rw [sweep_stream]
  cases c.stream id <;> simp [aside]

theorem sweep_stream_alive {among : String → Bool} (there : c.stream id = some record)
    (alive : record.isDead = false) : (c.sweep among).stream id = some record := by
  simp [sweep_stream, there, alive]

theorem sweep_stream_dead {among : String → Bool} (asked : among id = true)
    (there : c.stream id = some record) (dead : record.isDead = true) :
    (c.sweep among).stream id = none := by
  simp [sweep_stream, there, asked, dead]

end Parts

/-- A sweep is known by the streams that it leaves. -/
theorem sweep_congr {among among' : String → Bool}
    (same : ∀ id, (c.sweep among).stream id = (c.sweep among').stream id) :
    c.sweep among = c.sweep among' := by
  refine Catalogue.ext (funext same) rfl (funext fun id => ?_) rfl
  rw [sweep_stopRequested, sweep_stopRequested, same]

theorem sweep_eq_self {among : String → Bool} (same : ∀ id, (c.sweep among).stream id = c.stream id) :
    c.sweep among = c := by
  refine Catalogue.ext (funext same) rfl (funext fun id => ?_) rfl
  rw [sweep_stopRequested, same]
  cases requested : c.stopRequested id with
  | false => rfl
  | true => exact Option.isSome_iff_ne_none.mpr (c.pending requested)

theorem sweep_sweep (among among' : String → Bool) :
    (c.sweep among).sweep among' = c.sweep fun id => among id || among' id := by
  have streams : ∀ id, ((c.sweep among).sweep among').stream id =
      (c.sweep fun id => among id || among' id).stream id := fun id => by
    rw [sweep_stream, sweep_stream, sweep_stream, Option.filter_filter]
    congr 1
    funext record
    cases among id <;> cases among' id <;> cases record.isDead <;> rfl
  refine Catalogue.ext (funext streams) rfl (funext fun id => ?_) rfl
  rw [sweep_stopRequested, sweep_stopRequested, sweep_stopRequested, ← streams, Bool.and_assoc]
  congr 1
  cases left : ((c.sweep among).sweep among').stream id with
  | none => exact Bool.and_false _
  | some record =>
      have before : (c.sweep among).stream id = some record := (Option.filter_eq_some_iff.mp left).1
      rw [before]
      rfl

/-- Retiring a dead stream by itself is its deletion with all else kept. -/
theorem sweep_dead {id : String} {record : StreamRecord} (there : c.stream id = some record)
    (dead : record.isDead = true) : (c.sweep fun id' => id' = id) = c.remove there false := by
  have streams : ∀ id', (c.sweep fun id' => id' = id).stream id' =
      (c.remove there false).stream id' := fun id' => by
    rw [remove_stream]
    split
    · rename_i same
      subst same
      exact sweep_stream_dead (decide_eq_true rfl) there dead
    · rename_i other
      exact sweep_stream_aside (decide_eq_false other)
  refine Catalogue.ext (funext streams) rfl (funext fun id' => ?_) rfl
  rw [sweep_stopRequested, streams, remove_stopRequested, remove_stream]
  by_cases same : id' = id
  · simp [same]
  · rw [if_neg same, if_neg same]
    cases requested : c.stopRequested id' with
    | false => rfl
    | true => exact Option.isSome_iff_ne_none.mpr (c.pending requested)

/-- A guard that is not given holds. -/
def Expects (expected : Option String) (value : String) : Prop :=
  expected.getD "" = "" ∨ expected = some value

instance (expected : Option String) (value : String) : Decidable (Expects expected value) :=
  inferInstanceAs (Decidable (_ ∨ _))

end Catalogue

/-- What a call is told about the catalogue. -/
inductive Told where
  | nothing
  | flag (result : Bool)
  | stream (id : String) (record : StreamRecord)
  | streams (entries : List (String × StreamRecord))
  | checkpoint (progress : Checkpoint)

namespace Catalogue

/-- What each call does, and what it is told. -/
inductive Step : Catalogue → Operation × Except PyExc Told → Catalogue → Prop
  | create {c : Catalogue} {subreddit config id createdAt updatedAt : String}
      {instanceId : Option String} (named : subreddit ≠ "") (vacant : c.Vacant subreddit)
      (eligible : c.Eligible id subreddit) :
      Step c
        (.createStream subreddit config instanceId,
          .ok (.stream id (.starting subreddit config instanceId createdAt updatedAt)))
        ((c.identify subreddit id eligible).enroll id
          (.starting subreddit config instanceId createdAt updatedAt) named (Function.update_self ..))
  | createTaken {c : Catalogue} {id config : String} {record : StreamRecord}
      {instanceId : Option String} (taken : c.stream id = some record) :
      Step c (.createStream record.subreddit config instanceId,
        .error (streamExists record.subreddit id)) c
  | getStream {c : Catalogue} {id : String} {record : StreamRecord}
      (there : c.stream id = some record) :
      Step c (.getStream id, .ok (.stream id record)) c
  | getMissing {c : Catalogue} {id : String} (gone : c.stream id = none) :
      Step c (.getStream id, .error (.streamNotFoundError id)) c
  | getBySubreddit {c : Catalogue} {id : String} {record : StreamRecord}
      (there : c.stream id = some record) :
      Step c (.getStreamBySubreddit record.subreddit, .ok (.stream id record)) c
  | getVacant {c : Catalogue} {subreddit : String} (vacant : c.Vacant subreddit) :
      Step c (.getStreamBySubreddit subreddit, .ok .nothing) c
  | list {c : Catalogue} {entries : List (String × StreamRecord)}
      (apart : (entries.map Prod.fst).Nodup)
      (complete : ∀ id record, (id, record) ∈ entries ↔ c.stream id = some record) :
      Step c (.listStreams, .ok (.streams entries)) c
  | updateStatus {c : Catalogue} {id status now : String} {instanceId : Option String}
      (there : c.stream id ≠ none) :
      Step c (.updateStatus id status instanceId, .ok .nothing)
        (c.amend id (.setStatus status instanceId now) (StreamRecord.setStatus_keeps _ _ _))
  | heartbeat {c : Catalogue} {id now : String} {record : StreamRecord}
      (there : c.stream id = some record) (active : record.status = "active") :
      Step c (.heartbeat id record.instanceId, .ok (.flag true))
        (c.amend id (.touch now) (StreamRecord.touch_keeps now))
  | heartbeatRefused {c : Catalogue} {id instanceId : String}
      (refused : ∀ record, c.stream id = some record →
        record.instanceId ≠ instanceId ∨ record.status ≠ "active") :
      Step c (.heartbeat id instanceId, .ok (.flag false)) c
  | requestStop {c : Catalogue} {id now : String} (there : c.stream id ≠ none) :
      Step c (.requestStop id, .ok .nothing)
        ((c.requestStop there).amend id (.setStatus "stopping" none now)
          (StreamRecord.setStatus_keeps _ _ _))
  | requestStopMissing {c : Catalogue} {id : String} (gone : c.stream id = none) :
      Step c (.requestStop id, .error (.streamNotFoundError id)) c
  | isStopRequested {c : Catalogue} {id : String} :
      Step c (.isStopRequested id, .ok (.flag (c.stopRequested id))) c
  | delete {c : Catalogue} {id : String} {record : StreamRecord}
      {expectedStatus expectedUpdatedAt : Option String} {purge : Bool}
      (there : c.stream id = some record) (status : Expects expectedStatus record.status)
      (updatedAt : Expects expectedUpdatedAt record.updatedAt) :
      Step c (.deleteStream id expectedStatus expectedUpdatedAt purge, .ok (.flag true))
        (c.remove there purge)
  | deleteRefused {c : Catalogue} {id : String} {expectedStatus expectedUpdatedAt : Option String}
      {purge : Bool} (refused : ∀ record, c.stream id = some record →
        ¬ (Expects expectedStatus record.status ∧ Expects expectedUpdatedAt record.updatedAt)) :
      Step c (.deleteStream id expectedStatus expectedUpdatedAt purge, .ok (.flag false)) c
  | setCheckpoint {c : Catalogue} {id now : String} {lastCommentId lastProcessedAt : Option String} :
      Step c (.setCheckpoint id lastCommentId lastProcessedAt, .ok .nothing)
        (c.advance id lastCommentId lastProcessedAt now)
  | getCheckpoint {c : Catalogue} {id : String} :
      Step c (.getCheckpoint id, .ok (.checkpoint (c.progress id))) c
  | cleanup {c : Catalogue} : Step c (.cleanup, .ok .nothing) (c.sweep fun _ => true)

end Catalogue
end RedditKafka
