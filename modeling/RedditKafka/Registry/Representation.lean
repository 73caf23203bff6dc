import RedditKafka.Async.Simulation
import RedditKafka.Registry.Catalogue

/-!
# The catalogue in Redis

Calls of the registry one after the other, with a Redis that does not fail: what
its keys hold, in terms of the catalogue, and how each write changes it.
-/
namespace RedditKafka
open Async Redis StreamRegistry DeadStreamCleanup

/-- Redis between two calls, and the ids that were generated. -/
structure Serial where
  redis : Store := {}
  issued : List String := []

/-- The choice is the time or the id that is handed out, and what a Postgres statement raises. -/
def Serial.answer : (c : Effect) → String × Option PyExc → Serial →
    Option (Except PyExc c.Answer × Serial)
  | .redis c, _, s => some ((c.run s.redis).1, { s with redis := (c.run s.redis).2 })
  | .persist, (_, none), s => some (.ok (), s)
  | .persist, (_, some e), s => if e.isException then some (.error e, s) else none
  | .nowIso, (text, _), s => some (.ok text, s)
  | .uuid4, (id, _), s =>
      if id = "" ∨ id ∈ s.issued then none else some (.ok id, { s with issued := id :: s.issued })
  | _, _, _ => none

/-! ## Records as hashes -/

theorem Hash.get_nil : Hash.get [] = fun _ => none := rfl

theorem Hash.eq_nil_of_get {h : Hash} (none : h.get = fun _ => none) : h = [] := by
  cases h with
  | nil => rfl
  | cons entry h =>
      have first := congrFun none entry.1
      simp [Hash.get] at first

namespace StreamRecord

variable (r : StreamRecord) (id : String)

theorem fields_get (field : String) : (r.fields id).get field =
    if field = "id" then some id else if field = "subreddit" then some r.subreddit
    else if field = "status" then some r.status
    else if field = "instance_id" then some r.instanceId
    else if field = "config" then some r.config
    else if field = "created_at" then some r.createdAt
    else if field = "updated_at" then some r.updatedAt else none := by
  simp only [fields, Hash.get, List.lookup_cons, List.lookup_nil, beq_eq_decide]
  split_ifs <;> simp_all

theorem fields_newMeta (subreddit config createdAt updatedAt : String) (instanceId : Option String) :
    (starting subreddit config instanceId createdAt updatedAt).fields id =
      newMeta id subreddit config (instanceId.getD "") createdAt updatedAt := rfl

variable {r id} {h : Hash}

theorem setFields_newMeta (subreddit config createdAt updatedAt : String) (instanceId : Option String) :
    Hash.get (Hash.setFields []
      (newMeta id subreddit config (instanceId.getD "") createdAt updatedAt)) =
      ((starting subreddit config instanceId createdAt updatedAt).fields id).get := by
  funext field
  rw [fields_get]
  simp only [newMeta, Hash.setFields_cons, Hash.setFields_nil, Hash.get_setField]
  split_ifs <;> simp_all [Hash.get]

theorem setFields_status (shown : h.get = (r.fields id).get) (status now : String)
    (instanceId : Option String) :
    (h.setFields (statusMapping status now instanceId)).get =
      ((r.setStatus status instanceId now).fields id).get := by
  funext field
  have before := congrFun shown field
  rw [fields_get] at before
  rw [fields_get]
  cases instanceId <;>
    simp only [statusMapping, Option.map_none, Option.map_some, Option.toList_none,
      Option.toList_some, List.append_nil, List.cons_append, List.nil_append, Hash.setFields_cons,
      Hash.setFields_nil, Hash.get_setField, setStatus, Option.getD_none, Option.getD_some, before] <;>
    split_ifs <;> simp_all

theorem setFields_touch (shown : h.get = (r.fields id).get) (now : String) :
    (h.setFields [("updated_at", now)]).get = ((r.touch now).fields id).get := by
  funext field
  have before := congrFun shown field
  rw [fields_get] at before
  rw [fields_get]
  simp only [Hash.setFields_cons, Hash.setFields_nil, Hash.get_setField, touch, before]
  split_ifs <;> simp_all

end StreamRecord

/-! ## What the keys hold -/

namespace Catalogue

/-- The fields that the metadata of the stream shows. -/
def shown (c : Catalogue) (id : String) : String → Option String :=
  match c.stream id with
  | none => fun _ => none
  | some record => (record.fields id).get

variable {c : Catalogue} {id : String} {record : StreamRecord}

theorem shown_of_some (there : c.stream id = some record) : c.shown id = (record.fields id).get := by
  rw [shown, there]

theorem shown_of_none (gone : c.stream id = none) : c.shown id = fun _ => none := by
  rw [shown, gone]

end Catalogue

/-- What the keys hold, the sets of the instances apart. -/
structure Shows (s : Serial) (c : Catalogue) : Prop where
  metadata : ∀ id, (s.redis.hashes (metaKey id)).get = c.shown id
  claim : ∀ subreddit id, s.redis.get (subredditKey subreddit) = some id ↔
    ∃ record, c.stream id = some record ∧ record.subreddit = subreddit
  identity : ∀ subreddit, s.redis.get (identityKey subreddit) = c.identity subreddit
  listed : ∀ id, id ∈ s.redis.sets allKey ↔ c.stream id ≠ none
  apart : (s.redis.sets allKey).Nodup
  stopRequest : ∀ id, s.redis.has (stopRequestKey id) = c.stopRequested id
  progress : ∀ id, c.progress id =
    ⟨(s.redis.hashes (checkpointKey id)).get "last_comment_id",
      (s.redis.hashes (checkpointKey id)).get "last_processed_at",
      (s.redis.hashes (checkpointKey id)).get "updated_at"⟩
  known : ∀ subreddit id, c.identity subreddit = some id → id ≠ "" ∧ id ∈ s.issued

/-- The set of an instance has every stream of the instance. -/
def Indexed (s : Serial) (c : Catalogue) : Prop :=
  ∀ id record, c.stream id = some record → record.instanceId ≠ "" →
    id ∈ s.redis.sets (instanceKey record.instanceId)

structure Represents (s : Serial) (c : Catalogue) : Prop extends Shows s c where
  indexed : Indexed s c

theorem Represents.initial : Represents {} {} where
  metadata := fun _ => rfl
  claim := fun _ _ => by simp [Store.get, Store.entry]
  identity := fun _ => rfl
  listed := fun _ => by simp
  apart := .nil
  stopRequest := fun _ => rfl
  progress := fun _ => rfl
  known := fun _ _ => nofun
  indexed := fun _ _ => nofun

/-! ## Each write -/

namespace Store

variable {r : Store} {key key' value member : String}

theorem has_set_of_ne (ne : key' ≠ key) : (r.set key value).has key' = r.has key' := by
  simp [Store.has, ne]

theorem has_hset_of_ne (ne : key' ≠ key) (mapping : List (String × String)) :
    (r.hset key mapping).has key' = r.has key' := by
  simp [Store.has, ne]

theorem has_sadd_of_ne (ne : key' ≠ key) : (r.sadd key member).has key' = r.has key' := by
  simp [Store.has, Store.sadd_sets_of_ne ne]

theorem has_set_self : (r.set key value).has key = true := by
  simp [Store.has]

theorem nodup_sadd (apart : (r.sets key').Nodup) : ((r.sadd key member).sets key').Nodup := by
  by_cases same : key' = key
  · subst same
    unfold Store.sadd
    split
    · exact apart
    · rename_i new
      simp only [Function.update_self]
      exact List.nodup_append.mpr ⟨apart, List.nodup_singleton member, fun a there b here same =>
        new (by rwa [← List.mem_singleton.mp here, ← same])⟩
  · rwa [Store.sadd_sets_of_ne same]

end Store

variable {s : Serial} {c : Catalogue} {id subreddit : String} {record : StreamRecord}
  {mapping : List (String × String)}

namespace Shows

theorem unregistered (h : Shows s c) (gone : c.stream id = none) :
    s.redis.hashes (metaKey id) = [] :=
  Hash.eq_nil_of_get ((h.metadata id).trans (Catalogue.shown_of_none gone))

theorem registered_iff (h : Shows s c) :
    s.redis.hashes (metaKey id) = [] ↔ c.stream id = none := by
  refine ⟨fun empty => ?_, h.unregistered⟩
  cases there : c.stream id with
  | none => rfl
  | some record =>
      have field := congrFun (h.metadata id) "id"
      rw [empty, Catalogue.shown_of_some there, StreamRecord.fields_get] at field
      cases field

theorem vacant_iff (h : Shows s c) :
    s.redis.get (subredditKey subreddit) = none ↔ c.Vacant subreddit := by
  rw [Option.eq_none_iff_forall_ne_some]
  exact ⟨fun free id record there same => free id ((h.claim _ _).mpr ⟨record, there, same⟩),
    fun vacant id held =>
      let ⟨record, there, same⟩ := (h.claim _ _).mp held
      vacant id record there same⟩

/-- The claim and the metadata of a new stream, and its place in the list. -/
theorem enroll (h : Shows s c) (named : record.subreddit ≠ "") (vacant : c.Vacant record.subreddit)
    (own : c.identity record.subreddit = some id)
    (written : Hash.get (Hash.setFields [] mapping) = (record.fields id).get) :
    Shows { s with redis :=
      ((s.redis.set (subredditKey record.subreddit) id).hset (metaKey id) mapping).sadd allKey id }
      (c.enroll id record named own) := by
  have gone : c.stream id = none := Catalogue.Eligible.unregistered (.of_own own) vacant
  constructor
  · intro id'
    simp only [Store.sadd_hashes, Store.hset_hashes, Store.set_hashes, Layout.key_inj, true_and]
    by_cases same : id' = id
    · subst same
      rw [if_pos rfl, h.unregistered gone, written, Catalogue.shown_of_some (Function.update_self ..)]
    · rw [if_neg same, h.metadata]
      simp [Catalogue.shown, same]
  · intro name id'
    simp only [Store.get_sadd, Store.get_hset, Store.get_set, Layout.key_inj, true_and,
      Catalogue.enroll_stream]
    by_cases here : name = record.subreddit
    · subst here
      rw [if_pos rfl]
      constructor
      · rintro ⟨⟩
        exact ⟨record, if_pos rfl, rfl⟩
      · rintro ⟨record', there, same⟩
        split at there
        · rename_i same'
          rw [same']
        · exact (vacant _ _ there same).elim
    · rw [if_neg here, h.claim]
      constructor
      · rintro ⟨record', there, same⟩
        refine ⟨record', ?_, same⟩
        rw [if_neg fun same' => by rw [same', gone] at there; cases there]
        exact there
      · rintro ⟨record', there, same⟩
        split at there
        · cases there
          exact (here same.symm).elim
        · exact ⟨record', there, same⟩
  · exact fun name => by simpa using h.identity name
  · intro id'
    rw [Store.mem_sadd_sets, Store.hset_sets, Store.set, Store.put_sets, h.listed]
    by_cases same : id' = id <;> simp [same]
  · exact Store.nodup_sadd h.apart
  · intro id'
    rw [Store.has_sadd_of_ne (by simp), Store.has_hset_of_ne (by simp), Store.has_set_of_ne (by simp)]
    exact h.stopRequest id'
  · exact fun id' => by simpa using h.progress id'
  · exact h.known

/-- A change of the metadata of a registered stream. -/
theorem amend (h : Shows s c) (change : StreamRecord → StreamRecord)
    (keeps : ∀ record, (change record).subreddit = record.subreddit)
    (written : ∀ data record, Hash.get data = (record.fields id).get →
      Hash.get (Hash.setFields data mapping) = ((change record).fields id).get)
    (there : c.stream id = some record) :
    Shows { s with redis := s.redis.hset (metaKey id) mapping } (c.amend id change keeps) := by
  have changed : ∀ id', (c.amend id change keeps).stream id' =
      if id' = id then some (change record) else c.stream id' := fun id' => by
    rw [Catalogue.amend_stream, there, Option.map_some]
  constructor
  · intro id'
    simp only [Store.hset_hashes, Layout.key_inj, true_and]
    by_cases same : id' = id
    · subst same
      rw [if_pos rfl, Catalogue.shown_of_some ((changed id').trans (if_pos rfl))]
      exact written _ record ((h.metadata id').trans (Catalogue.shown_of_some there))
    · rw [if_neg same, h.metadata, Catalogue.shown, Catalogue.shown, changed, if_neg same]
  · intro name id'
    rw [Store.get_hset, h.claim]
    by_cases same : id' = id
    · subst same
      simp [there, keeps]
    · simp [same]
  · exact fun name => h.identity name
  · intro id'
    rw [Store.hset_sets, h.listed, changed]
    by_cases same : id' = id <;> simp [same, there]
  · exact h.apart
  · intro id'
    rw [Store.has_hset_of_ne (by simp)]
    exact h.stopRequest id'
  · exact fun id' => by simpa using h.progress id'
  · exact h.known

/-- What the deletion script leaves of a stream whose guards hold. -/
theorem remove (h : Shows s c) (there : c.stream id = some record) (purge : Bool) :
    let r := ((((s.redis.del (subredditKey record.subreddit)).set
      (identityKey record.subreddit) id).del (metaKey id)).del (stopRequestKey id)).srem allKey [id]
    Shows { s with redis := if purge then
      (r.del (checkpointKey id)).del (identityKey record.subreddit) else r } (c.remove there purge) := by
  have own := c.identified there
  constructor
  · intro id'
    by_cases same : id' = id <;> cases purge <;>
      simp [Catalogue.shown, same, h.metadata id', Hash.get_nil]
  · intro name id'
    have held : ∀ r : Store, (if purge then
        (r.del (checkpointKey id)).del (identityKey record.subreddit) else r).get (subredditKey name) =
          r.get (subredditKey name) := fun r => by cases purge <;> simp
    rw [held, Catalogue.remove_stream]
    by_cases here : name = record.subreddit
    · subst here
      simp only [Store.get_srem, Store.get_del, Store.get_set, Layout.key_inj, reduceCtorEq, false_and,
        if_false, if_true, false_iff]
      rintro ⟨record', there', same⟩
      split at there'
      · cases there'
      · rename_i other
        exact other (Catalogue.stream_unique there' there same)
    · simp only [Store.get_srem, Store.get_del, Store.get_set, Layout.key_inj, reduceCtorEq, false_and,
        if_false, true_and, here, h.claim]
      by_cases same : id' = id
      · subst same
        simp [there, Ne.symm here]
      · simp [same]
  · intro name
    by_cases same : name = record.subreddit <;> cases purge <;> simp [same, own, h.identity]
  · intro id'
    by_cases same : id' = id <;> cases purge <;> simp [same, h.listed]
  · cases purge <;> simpa using h.apart.filter _
  · intro id'
    by_cases same : id' = id <;> cases purge <;>
      simp [Store.has, same, ← h.stopRequest]
  · intro id'
    by_cases same : id' = id <;> cases purge <;>
      simp [same, h.progress, Hash.get_nil]
  · intro name id' held
    rw [Catalogue.remove_identity] at held
    split at held
    · cases held
    · exact h.known name id' held

/-- The sets of the instances do not show. -/
theorem index (h : Shows s c) (instanceId member : String) :
    Shows { s with redis := s.redis.sadd (instanceKey instanceId) member } c where
  metadata := fun id' => by simpa using h.metadata id'
  claim := fun name id' => by simpa using h.claim name id'
  identity := fun name => by simpa using h.identity name
  listed := fun id' => by simpa [Store.sadd_sets_of_ne] using h.listed id'
  apart := Store.nodup_sadd h.apart
  stopRequest := fun id' => (Store.has_sadd_of_ne (by simp)).trans (h.stopRequest id')
  progress := fun id' => by simpa using h.progress id'
  known := h.known

theorem unindex (h : Shows s c) (instanceId : String) (members : List String) :
    Shows { s with redis := s.redis.srem (instanceKey instanceId) members } c where
  metadata := h.metadata
  claim := fun name id' => by simpa using h.claim name id'
  identity := fun name => by simpa using h.identity name
  listed := fun id' => by simpa using h.listed id'
  apart := by simpa using h.apart
  stopRequest := fun id' => by simpa [Store.has] using h.stopRequest id'
  progress := h.progress
  known := h.known

/-- The ids without metadata that a listing would drop are not in the list. -/
theorem unlist (h : Shows s c) {members : List String} (gone : ∀ id ∈ members, c.stream id = none) :
    Shows { s with redis := s.redis.srem allKey members } c where
  metadata := h.metadata
  claim := fun name id' => by simpa using h.claim name id'
  identity := fun name => by simpa using h.identity name
  listed := fun id' => by
    simp only [Store.srem_sets, if_true, List.mem_filter, h.listed, decide_eq_true_eq]
    exact ⟨fun both => both.1, fun there => ⟨there, fun member => there (gone id' member)⟩⟩
  apart := by simpa using h.apart.filter _
  stopRequest := fun id' => by simpa [Store.has] using h.stopRequest id'
  progress := h.progress
  known := h.known

theorem requestStop (h : Shows s c) (there : c.stream id ≠ none) (now : String) :
    Shows { s with redis := s.redis.set (stopRequestKey id) now } (c.requestStop there) where
  metadata := h.metadata
  claim := fun name id' => by
    rw [Store.get_set, if_neg (by simp)]
    exact h.claim name id'
  identity := fun name => by simpa using h.identity name
  listed := h.listed
  apart := h.apart
  stopRequest := fun id' => by
    by_cases same : id' = id
    · subst same
      simp [Store.has_set_self]
    · rw [Store.has_set_of_ne (by simpa using same), h.stopRequest]
      simp [same]
  progress := h.progress
  known := h.known

/-- A checkpoint write changes the fields that it gives. -/
theorem advance (h : Shows s c) {lastCommentId lastProcessedAt : Option String} {now : String}
    (given : ¬ (lastCommentId = none ∧ lastProcessedAt = none)) :
    Shows
      { s with
        redis := s.redis.hset (checkpointKey id)
          ((lastCommentId.map fun v => ("last_comment_id", v)).toList ++
            (lastProcessedAt.map fun v => ("last_processed_at", v)).toList ++ [("updated_at", now)]) }
      (c.advance id lastCommentId lastProcessedAt now) where
  metadata := fun id' => by
    simp only [Store.hset_hashes, Layout.key_inj, reduceCtorEq, false_and, if_false]
    exact h.metadata id'
  claim := h.claim
  identity := h.identity
  listed := h.listed
  apart := h.apart
  stopRequest := fun id' => (Store.has_hset_of_ne (by simp) _).trans (h.stopRequest id')
  progress := fun id' => by
    rw [Catalogue.advance_progress]
    by_cases same : id' = id
    · subst same
      cases lastCommentId <;> cases lastProcessedAt <;> simp_all [h.progress]
    · simp [same, h.progress]
  known := h.known

end Shows

/-! ## The sets of the instances -/

namespace Indexed

variable {s' : Serial} {c' : Catalogue}

/-- Every named record names the instance that it named before. -/
theorem of_sets (h : Indexed s c)
    (sets : ∀ name, s'.redis.sets (instanceKey name) = s.redis.sets (instanceKey name))
    (kept : ∀ id record, c'.stream id = some record → record.instanceId ≠ "" →
      ∃ record', c.stream id = some record' ∧ record'.instanceId = record.instanceId) :
    Indexed s' c' := by
  intro id record there named
  obtain ⟨record', before, same⟩ := kept id record there named
  rw [sets, ← same]
  exact h id record' before (same ▸ named)

/-- One record may name another instance, whose set has gained the stream. -/
theorem of_sadd (h : Indexed s c) (id instanceId : String)
    (sets : ∀ name member, member ∈ s'.redis.sets (instanceKey name) ↔
      member ∈ s.redis.sets (instanceKey name) ∨ name = instanceId ∧ member = id)
    (kept : ∀ id' record, c'.stream id' = some record → record.instanceId ≠ "" →
      id' = id ∧ record.instanceId = instanceId ∨
        ∃ record', c.stream id' = some record' ∧ record'.instanceId = record.instanceId) :
    Indexed s' c' := by
  intro id' record there named
  rw [sets]
  rcases kept id' record there named with ⟨same, here⟩ | ⟨record', before, same⟩
  · exact .inr ⟨here, same⟩
  · exact .inl (same ▸ h id' record' before (same ▸ named))

/-- One stream leaves its set and the registry. -/
theorem of_srem (h : Indexed s c) (id : String)
    (sets : ∀ name member, member ≠ id → member ∈ s.redis.sets (instanceKey name) →
      member ∈ s'.redis.sets (instanceKey name))
    (kept : ∀ id' record, c'.stream id' = some record → id' ≠ id ∧ c.stream id' = some record) :
    Indexed s' c' := by
  intro id' record there named
  obtain ⟨other, before⟩ := kept id' record there
  exact sets _ _ other (h id' record before named)

end Indexed

namespace Represents

/-- A generated id becomes the one that the subreddit keeps. -/
theorem identify (h : Represents s c) (unbound : c.identity subreddit = none)
    (unused : ∀ other, c.identity other ≠ some id) (named : id ≠ "") (issued : id ∈ s.issued) :
    Represents { s with redis := s.redis.set (identityKey subreddit) id }
      (c.identify subreddit id (.of_unused unbound unused)) where
  metadata := h.metadata
  claim := fun name id' => by
    rw [Store.get_set, if_neg (by simp)]
    exact h.claim name id'
  identity := fun name => by simp [h.identity]
  listed := h.listed
  apart := h.apart
  stopRequest := fun id' => (Store.has_set_of_ne (by simp)).trans (h.stopRequest id')
  progress := h.progress
  known := by
    intro name id' held
    rw [Catalogue.identify_identity] at held
    split at held
    · cases held
      exact ⟨named, issued⟩
    · exact h.known name id' held
  indexed := h.indexed

end Represents

end RedditKafka
