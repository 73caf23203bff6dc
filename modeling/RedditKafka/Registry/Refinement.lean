import RedditKafka.Registry.Representation

/-!
# The registry refines the catalogue

Each call of the registry, run to its end, is a step of the catalogue, and the
caller is told what the catalogue says.
-/
namespace RedditKafka
open Async Redis StreamRegistry DeadStreamCleanup

/-! ## Running a call -/

variable {α : Type} {s s' : Serial} {out : Except PyExc α}

theorem concludes_command {command : RedisCmd} {out : Except PyExc command.Reply}
    (ran : Concludes Serial.answer (redis command) s out s') :
    out = (command.run s.redis).1 ∧ s' = { s with redis := (command.run s.redis).2 } := by
  obtain ⟨choice, answered⟩ := Concludes.perform ran
  simp only [Serial.answer, Option.some.injEq, Prod.mk.injEq] at answered
  exact ⟨answered.1.symm, answered.2.symm⟩

/-- A command in front of the rest: none of those used here fails. -/
theorem concludes_redis {command : RedisCmd} {f : command.Reply → Program α} {a : command.Reply}
    (reply : (command.run s.redis).1 = .ok a)
    (ran : Concludes Serial.answer (redis command >>= f) s out s') :
    Concludes Serial.answer (f a) { s with redis := (command.run s.redis).2 } out s' := by
  rcases Concludes.bind ran with ⟨e, -, raised⟩ | ⟨b, s₁, first, rest⟩
  · cases (concludes_command raised).1.trans reply
  · obtain ⟨same, rfl⟩ := concludes_command first
    cases same.trans reply
    exact rest

theorem concludes_nowIso {f : String → Program α}
    (ran : Concludes Serial.answer (nowIso >>= f) s out s') :
    ∃ text, Concludes Serial.answer (f text) s out s' := by
  rcases Concludes.bind ran with ⟨e, -, raised⟩ | ⟨text, s₁, first, rest⟩
  · obtain ⟨choice, answered⟩ := Concludes.perform raised
    cases answered
  · obtain ⟨choice, answered⟩ := Concludes.perform first
    cases answered
    exact ⟨_, rest⟩

theorem concludes_uuid4 {f : String → Program α}
    (ran : Concludes Serial.answer (Prog.perform Effect.uuid4 >>= f) s out s') :
    ∃ id, id ≠ "" ∧ id ∉ s.issued ∧
      Concludes Serial.answer (f id) { s with issued := id :: s.issued } out s' := by
  rcases Concludes.bind ran with ⟨e, -, raised⟩ | ⟨id, s₁, first, rest⟩
  · obtain ⟨choice, answered⟩ := Concludes.perform raised
    simp only [Serial.answer] at answered
    split at answered <;> cases answered
  · obtain ⟨choice, answered⟩ := Concludes.perform first
    simp only [Serial.answer] at answered
    split at answered
    · cases answered
    · rename_i new
      cases answered
      exact ⟨_, fun same => new (.inl same), fun there => new (.inr there), rest⟩

/-- Postgres shows nowhere, whether a statement succeeds or not. -/
theorem concludes_persist {out : Except PyExc Unit} (ran : Concludes Serial.answer persist s out s') :
    out = .ok () ∧ s' = s := by
  obtain ⟨r, s₁, first, rest⟩ := Concludes.bindE ran
  obtain ⟨⟨text, raised⟩, answered⟩ := Concludes.perform first
  cases raised with
  | none =>
      cases answered
      exact rest.ret
  | some e =>
      simp only [Serial.answer] at answered
      split at answered
      · rename_i caught
        cases answered
        simp only [caught, if_true] at rest
        exact rest.ret
      · cases answered

theorem concludes_persisted {f : Unit → Program α}
    (ran : Concludes Serial.answer (persist >>= f) s out s') :
    Concludes Serial.answer (f ()) s out s' := by
  rcases Concludes.bind ran with ⟨e, -, raised⟩ | ⟨_, s₁, first, rest⟩
  · cases (concludes_persist raised).1
  · obtain ⟨-, rfl⟩ := concludes_persist first
    exact rest

/-! ## The calls one by one -/

variable {c : Catalogue} {id subreddit config status : String} {instanceId : Option String}
  {record : StreamRecord}

theorem Represents.generate (h : Represents s c) (id : String) :
    Represents { s with issued := id :: s.issued } c :=
  { h with known := fun name id' held => ⟨(h.known name id' held).1, .tail _ (h.known name id' held).2⟩ }

theorem Represents.unused (h : Represents s c) (new : id ∉ s.issued) (other : String) :
    c.identity other ≠ some id :=
  fun held => new (h.known other id held).2

/-- The id of the subreddit is the one that it keeps, or the candidate. -/
theorem resolveIdentity_concludes {candidateId : String} {out : Except PyExc (Option String)}
    (h : Represents s c) (named : candidateId ≠ "") (issued : candidateId ∈ s.issued)
    (unused : ∀ other, c.identity other ≠ some candidateId)
    (ran : Concludes Serial.answer (resolveIdentity subreddit candidateId) s out s') :
    ∃ (id : String) (eligible : c.Eligible id subreddit),
      out = .ok (some id) ∧ id ≠ "" ∧ Represents s' (c.identify subreddit id eligible) := by
  rcases setNx_cases (identityKey subreddit) candidateId s.redis with ⟨taken, set⟩ | ⟨free, set⟩
  · have rest := concludes_redis (congrArg Prod.fst set) ran
    rw [set] at rest
    obtain ⟨rfl, rfl⟩ := concludes_command rest
    obtain ⟨id, held⟩ := Option.ne_none_iff_exists'.mp taken
    have own : c.identity subreddit = some id := (h.identity subreddit).symm.trans held
    refine ⟨id, .of_own own, by simp [RedisCmd.run, held], (h.known _ _ own).1, ?_⟩
    have same : c.identify subreddit id (.of_own own) = c := by
      refine Catalogue.ext rfl ?_ rfl rfl
      simp only [Catalogue.identify, ← own, Function.update_eq_self]
    rw [same]
    exact h
  · have rest := concludes_redis (congrArg Prod.fst set) ran
    obtain ⟨rfl, rfl⟩ := rest.ret
    have unbound : c.identity subreddit = none := (h.identity subreddit).symm.trans free
    rw [set]
    exact ⟨candidateId, .of_unused unbound unused, rfl, named, h.identify unbound unused named issued⟩

theorem indexInstance_concludes {out : Except PyExc Unit}
    (ran : Concludes Serial.answer (indexInstance instanceId id) s out s') :
    out = .ok () ∧ (instanceId.getD "" = "" ∧ s' = s ∨ instanceId.getD "" ≠ "" ∧
      s' = { s with redis := s.redis.sadd (instanceKey (instanceId.getD "")) id }) := by
  unfold indexInstance at ran
  split at ran
  · rename_i blank
    obtain ⟨rfl, rfl⟩ := ran.ret
    refine ⟨rfl, .inl ⟨?_, rfl⟩⟩
    rcases orNone_eq_none.mp blank with rfl | rfl <;> rfl
  · rename_i name given
    obtain ⟨rfl, named⟩ := orNone_eq_some.mp given
    obtain ⟨rfl, rfl⟩ := concludes_command ran
    exact ⟨rfl, .inr ⟨named, rfl⟩⟩

theorem claim_concludes {out : Except PyExc Hash} (h : Represents s c) (named : subreddit ≠ "")
    (vacant : c.Vacant subreddit) (own : c.identity subreddit = some id)
    (ran : Concludes Serial.answer (claim id subreddit config instanceId) s out s') :
    ∃ createdAt updatedAt,
      out = .ok ((StreamRecord.starting subreddit config instanceId createdAt updatedAt).fields id) ∧
        Represents s' (c.enroll id (.starting subreddit config instanceId createdAt updatedAt)
          named own) := by
  rcases setNx_cases (subredditKey subreddit) id s.redis with ⟨taken, -⟩ | ⟨-, set⟩
  · exact (taken (h.vacant_iff.mpr vacant)).elim
  have ran := concludes_redis (congrArg Prod.fst set) ran
  rw [set] at ran
  obtain ⟨createdAt, ran⟩ := concludes_nowIso ran
  obtain ⟨updatedAt, ran⟩ := concludes_nowIso ran
  have ran := concludes_redis rfl (concludes_redis rfl ran)
  have shown := h.enroll
    (show (StreamRecord.starting subreddit config instanceId createdAt updatedAt).subreddit ≠ "" from
      named) vacant own (StreamRecord.setFields_newMeta ..)
  rcases Concludes.bind ran with ⟨e, -, raised⟩ | ⟨_, s₁, indexed, ran⟩
  · cases (indexInstance_concludes raised).1
  obtain ⟨rfl, rfl⟩ := (concludes_persisted ran).ret
  refine ⟨createdAt, updatedAt, rfl, ?_⟩
  have kept : ∀ id' record, (c.enroll id (.starting subreddit config instanceId createdAt updatedAt)
      named own).stream id' = some record → record.instanceId ≠ "" →
        id' = id ∧ record.instanceId = instanceId.getD "" ∧ instanceId.getD "" ≠ "" ∨
          ∃ record', c.stream id' = some record' ∧ record'.instanceId = record.instanceId := by
    intro id' record there given
    rw [Catalogue.enroll_stream] at there
    split at there
    · rename_i same
      cases there
      exact .inl ⟨same, rfl, given⟩
    · exact .inr ⟨record, there, rfl⟩
  rcases (indexInstance_concludes indexed).2 with ⟨blank, rfl⟩ | ⟨-, rfl⟩
  · refine ⟨shown, h.indexed.of_sets (fun name => ?_) fun id' record there given => ?_⟩
    · simp [RedisCmd.run, Store.sadd_sets_of_ne]
    · exact (kept id' record there given).resolve_left fun new => new.2.2 blank
  · refine ⟨shown.index _ _, h.indexed.of_sadd id (instanceId.getD "") (fun name member => ?_)
      fun id' record there given => ?_⟩
    · simp [RedisCmd.run, Store.mem_sadd_sets]
    · exact (kept id' record there given).imp_left fun new => ⟨new.1, new.2.1⟩

theorem createStream_concludes {out : Except PyExc Hash} (h : Represents s c)
    (named : subreddit ≠ "")
    (ran : Concludes Serial.answer (createStream subreddit config instanceId) s out s') :
    (∃ id record, c.stream id = some record ∧ record.subreddit = subreddit ∧
      out = .error (streamExists subreddit id) ∧ Represents s' c) ∨
    ∃ (id createdAt updatedAt : String) (_ : c.Vacant subreddit) (eligible : c.Eligible id subreddit),
      out = .ok ((StreamRecord.starting subreddit config instanceId createdAt updatedAt).fields id) ∧
        Represents s' ((c.identify subreddit id eligible).enroll id
          (.starting subreddit config instanceId createdAt updatedAt) named
          (Function.update_self ..)) := by
  have ran := concludes_redis rfl ran
  cases held : orNone (s.redis.get (subredditKey subreddit)) with
  | some existing =>
      have claimed := (orNone_eq_some.mp held).1
      obtain ⟨record, there, same⟩ := (h.claim _ _).mp claimed
      have own : s.redis.get (identityKey subreddit) = some existing :=
        (h.identity subreddit).trans (same ▸ c.identified there)
      simp only [RedisCmd.run, held] at ran
      rcases setNx_cases (identityKey subreddit) existing s.redis with ⟨-, set⟩ | ⟨free, -⟩
      · obtain ⟨rfl, rfl⟩ := (concludes_redis (congrArg Prod.fst set) ran).raise
        rw [set]
        exact .inl ⟨existing, record, there, same, rfl, h⟩
      · rw [own] at free
        cases free
  | none =>
      have vacant : c.Vacant subreddit := by
        refine h.vacant_iff.mp ?_
        rcases orNone_eq_none.mp held with free | blank
        · exact free
        · obtain ⟨record, there, same⟩ := (h.claim _ _).mp blank
          exact ((h.known _ _ (c.identified there)).1 rfl).elim
      simp only [RedisCmd.run, held] at ran
      obtain ⟨candidateId, given, new, ran⟩ := concludes_uuid4 ran
      rcases Concludes.bind ran with ⟨e, -, raised⟩ | ⟨resolved, s₁, first, ran⟩
      · obtain ⟨_, _, same, -⟩ := resolveIdentity_concludes (h.generate candidateId) given (.head _)
          (h.unused new) raised
        cases same
      obtain ⟨id, eligible, same, given', h₁⟩ := resolveIdentity_concludes (h.generate candidateId)
        given (.head _) (h.unused new) first
      cases same
      simp only [orNone_eq_some.mpr ⟨rfl, given'⟩] at ran
      obtain ⟨createdAt, updatedAt, told, h'⟩ := claim_concludes h₁ named vacant
        (Function.update_self ..) ran
      exact .inr ⟨id, createdAt, updatedAt, vacant, eligible, told, h'⟩

theorem getStream_concludes {out : Except PyExc Hash} (h : Represents s c)
    (ran : Concludes Serial.answer (getStream id) s out s') :
    s' = s ∧ (c.stream id = none ∧ out = .error (.streamNotFoundError id) ∨
      ∃ record data, c.stream id = some record ∧ out = .ok data ∧
        data.get = (record.fields id).get) := by
  have ran := concludes_redis rfl ran
  simp only [RedisCmd.run] at ran
  split at ran
  · rename_i empty
    obtain ⟨rfl, rfl⟩ := ran.raise
    exact ⟨rfl, .inl ⟨h.registered_iff.mp empty, rfl⟩⟩
  · rename_i present
    obtain ⟨rfl, rfl⟩ := ran.ret
    obtain ⟨record, there⟩ := Option.ne_none_iff_exists'.mp fun gone => present (h.unregistered gone)
    exact ⟨rfl, .inr ⟨record, _, there, rfl, (h.metadata id).trans (Catalogue.shown_of_some there)⟩⟩

theorem getStreamBySubreddit_concludes {out : Except PyExc (Option Hash)} (h : Represents s c)
    (ran : Concludes Serial.answer (getStreamBySubreddit subreddit) s out s') :
    s' = s ∧ (c.Vacant subreddit ∧ out = .ok none ∨
      ∃ id record data, c.stream id = some record ∧ record.subreddit = subreddit ∧
        out = .ok (some data) ∧ data.get = (record.fields id).get) := by
  have ran := concludes_redis rfl ran
  simp only [RedisCmd.run] at ran
  cases held : orNone (s.redis.get (subredditKey subreddit)) with
  | none =>
      simp only [held] at ran
      obtain ⟨rfl, rfl⟩ := ran.ret
      refine ⟨rfl, .inl ⟨h.vacant_iff.mp ?_, rfl⟩⟩
      rcases orNone_eq_none.mp held with free | blank
      · exact free
      · obtain ⟨record, there, same⟩ := (h.claim _ _).mp blank
        exact ((h.known _ _ (c.identified there)).1 rfl).elim
  | some id =>
      obtain ⟨record, there, same⟩ := (h.claim _ _).mp (orNone_eq_some.mp held).1
      simp only [held] at ran
      rcases Concludes.bind ran with ⟨e, rfl, raised⟩ | ⟨data, s₁, found, rest⟩
      · rcases (getStream_concludes h raised).2 with ⟨gone, -⟩ | ⟨_, _, _, same, _⟩
        · rw [there] at gone
          cases gone
        · cases same
      · obtain ⟨rfl, ⟨gone, -⟩ | ⟨record', _, there', same', shown⟩⟩ := getStream_concludes h found
        · rw [there] at gone
          cases gone
        · cases same'
          obtain ⟨rfl, rfl⟩ := rest.ret
          exact ⟨rfl, .inr ⟨id, record', data, there', by rw [there] at there'; cases there'; exact same,
            rfl, shown⟩⟩

/-- The registered streams among the ids. -/
def Catalogue.entries (c : Catalogue) (ids : List String) : List (String × StreamRecord) :=
  ids.filterMap fun id => (c.stream id).map (Prod.mk id)

theorem Catalogue.mem_entries {ids : List String} :
    (id, record) ∈ c.entries ids ↔ id ∈ ids ∧ c.stream id = some record := by
  simp only [entries, List.mem_filterMap, Option.map_eq_some_iff]
  constructor
  · rintro ⟨id', member, record', there, same⟩
    cases same
    exact ⟨member, there⟩
  · exact fun ⟨member, there⟩ => ⟨id, member, record, there, rfl⟩

theorem Catalogue.entries_ids {ids : List String} (all : ∀ id ∈ ids, c.stream id ≠ none) :
    (c.entries ids).map Prod.fst = ids := by
  induction ids with
  | nil => rfl
  | cons id ids ih =>
      rw [List.forall_mem_cons] at all
      obtain ⟨record, there⟩ := Option.ne_none_iff_exists'.mp all.1
      have rest := ih all.2
      simp only [entries, List.filterMap_cons, there, Option.map_some, List.map_cons] at rest ⊢
      rw [rest]

/-- A row shows the entry beside it. -/
def RowShows (data : Hash) (entry : String × StreamRecord) : Prop :=
  data.get = (entry.2.fields entry.1).get

theorem Represents.rows (h : Represents s c) {ids : List String}
    (all : ∀ id ∈ ids, c.stream id ≠ none) :
    List.Forall₂ RowShows (ids.map fun id => s.redis.hashes (metaKey id)) (c.entries ids) := by
  induction ids with
  | nil => exact .nil
  | cons id ids ih =>
      rw [List.forall_mem_cons] at all
      obtain ⟨record, there⟩ := Option.ne_none_iff_exists'.mp all.1
      have rest := ih all.2
      simp only [Catalogue.entries, List.filterMap_cons, there, Option.map_some] at rest ⊢
      exact .cons ((h.metadata id).trans (Catalogue.shown_of_some there)) rest

theorem listStreams_concludes {out : Except PyExc (List Hash)} (h : Represents s c)
    (ran : Concludes Serial.answer listStreams s out s') :
    s' = s ∧ ∃ rows ids, out = .ok rows ∧ ids.Nodup ∧ (∀ id, id ∈ ids ↔ c.stream id ≠ none) ∧
      List.Forall₂ RowShows rows (c.entries ids) := by
  have ran := concludes_redis rfl ran
  simp only [RedisCmd.run] at ran
  have all : ∀ id ∈ s.redis.sets allKey, c.stream id ≠ none := fun id => (h.listed id).mp
  have present : ∀ id ∈ s.redis.sets allKey, s.redis.hashes (metaKey id) ≠ [] :=
    fun id member empty => all id member (h.registered_iff.mp empty)
  split at ran
  · rename_i empty
    obtain ⟨rfl, rfl⟩ := ran.ret
    exact ⟨rfl, [], [], rfl, .nil, fun id => by rw [← h.listed, empty], .nil⟩
  · have ran := concludes_redis rfl ran
    simp only [RedisCmd.run, List.map_map] at ran
    have stale : (((s.redis.sets allKey).zip
        ((s.redis.sets allKey).map (s.redis.hashes ∘ metaKey))).filter fun row => row.2 = []) = [] := by
      have pairs : (s.redis.sets allKey).zip
          ((s.redis.sets allKey).map (s.redis.hashes ∘ metaKey)) =
            (s.redis.sets allKey).map fun id => (id, s.redis.hashes (metaKey id)) := by
        simpa using List.zip_map' (f := id) (g := s.redis.hashes ∘ metaKey) (l := s.redis.sets allKey)
      rw [pairs, List.filter_eq_nil_iff]
      intro row member
      obtain ⟨id, listed, rfl⟩ := List.mem_map.mp member
      simpa using present id listed
    rw [stale] at ran
    obtain ⟨rfl, rfl⟩ := ran.ret
    refine ⟨rfl, _, _, rfl, h.apart, h.listed, ?_⟩
    rw [List.filter_eq_self.mpr fun data member => by
      obtain ⟨id, listed, rfl⟩ := List.mem_map.mp member
      simpa using present id listed]
    exact h.rows all

theorem updateStatus_concludes {out : Except PyExc Unit} (h : Represents s c)
    (there : c.stream id = some record)
    (ran : Concludes Serial.answer (updateStatus id status instanceId) s out s') :
    out = .ok () ∧
      ∃ now, Represents s' (c.amend id (.setStatus status instanceId now)
        (StreamRecord.setStatus_keeps _ _ _)) := by
  obtain ⟨now, ran⟩ := concludes_nowIso ran
  have ran := concludes_redis rfl ran
  have shown := h.amend (.setStatus status instanceId now)
    (StreamRecord.setStatus_keeps _ _ _) (fun data record before => StreamRecord.setFields_status before status now instanceId) there
  have kept : ∀ id' record', (c.amend id (.setStatus status instanceId now)
      (StreamRecord.setStatus_keeps _ _ _)).stream id' = some record' → id' = id ∧ record'.instanceId = instanceId.getD record.instanceId ∨
        c.stream id' = some record' := by
    intro id' record' there'
    rw [Catalogue.amend_stream, there] at there'
    split at there'
    · rename_i same
      cases there'
      exact .inl ⟨same, rfl⟩
    · exact .inr there'
  cases instanceId with
  | none =>
      obtain ⟨rfl, rfl⟩ := concludes_persist (by simpa using ran)
      refine ⟨rfl, now, shown, h.indexed.of_sets (fun _ => rfl) fun id' record' there' _ => ?_⟩
      rcases kept id' record' there' with ⟨rfl, same⟩ | before
      · exact ⟨record, there, same.symm⟩
      · exact ⟨record', before, rfl⟩
  | some name =>
      have ran := concludes_redis rfl ran
      obtain ⟨rfl, rfl⟩ := concludes_persist ran
      refine ⟨rfl, now, shown.index _ _, h.indexed.of_sadd id name (fun other member => ?_)
        fun id' record' there' _ => ?_⟩
      · simp [RedisCmd.run, Store.mem_sadd_sets]
      · exact (kept id' record' there').imp_right fun before => ⟨record', before, rfl⟩

/-- What the heartbeat script compares. -/
theorem heartbeat_concludes {name : String} {out : Except PyExc Bool} (h : Represents s c)
    (ran : Concludes Serial.answer (heartbeat id name) s out s') :
    (∃ record now, c.stream id = some record ∧ record.instanceId = name ∧
      record.status = "active" ∧ out = .ok true ∧
        Represents s' (c.amend id (.touch now) (StreamRecord.touch_keeps now))) ∨
    (∀ record, c.stream id = some record → record.instanceId ≠ name ∨ record.status ≠ "active") ∧
      out = .ok false ∧ s' = s := by
  obtain ⟨now, ran⟩ := concludes_nowIso ran
  obtain ⟨rfl, rfl⟩ := concludes_command ran
  have field : ∀ f, s.redis.hget (metaKey id) f = c.shown id f := fun f => congrFun (h.metadata id) f
  cases there : c.stream id with
  | none =>
      refine .inr ⟨nofun, ?_⟩
      simp [RedisCmd.run, Script.run, field, Catalogue.shown_of_none there]
  | some record =>
      by_cases holds : record.instanceId = name ∧ record.status = "active"
      · refine .inl ⟨record, now, rfl, holds.1, holds.2, ?_⟩
        obtain ⟨rfl, active⟩ := holds
        have shown := h.amend (.touch now) (StreamRecord.touch_keeps now)
          (fun data record before => StreamRecord.setFields_touch before now) there
        have ran : (Script.heartbeatIfActive (metaKey id) (instanceKey record.instanceId)
            record.instanceId now id).run s.redis = (true,
              (s.redis.hset (metaKey id) [("updated_at", now)]).sadd
                (instanceKey record.instanceId) id) := by
          simp [Script.run, field, Catalogue.shown_of_some there, StreamRecord.fields_get, active]
        simp only [RedisCmd.run, ran, true_and]
        refine ⟨shown.index _ _, h.indexed.of_sadd id record.instanceId (fun other member => ?_)
          fun id' record' there' _ => ?_⟩
        · simp [Store.mem_sadd_sets]
        · rw [Catalogue.amend_stream, there] at there'
          split at there'
          · rename_i same
            cases there'
            exact .inl ⟨same, rfl⟩
          · exact .inr ⟨record', there', rfl⟩
      · refine .inr ⟨fun record' same => ?_, ?_⟩
        · cases same
          exact not_and_or.mp holds
        · have ran : (Script.heartbeatIfActive (metaKey id) (instanceKey name) name now id).run
              s.redis = (false, s.redis) := by
            rcases not_and_or.mp holds with other | other <;>
              simp [Script.run, field, Catalogue.shown_of_some there, StreamRecord.fields_get, other]
          simp only [RedisCmd.run, ran, true_and]

theorem requestStop_concludes {out : Except PyExc Unit} (h : Represents s c)
    (ran : Concludes Serial.answer (requestStop id) s out s') :
    (c.stream id = none ∧ out = .error (.streamNotFoundError id) ∧ s' = s) ∨
      ∃ (there : c.stream id ≠ none) (now : String), out = .ok () ∧
        Represents s' ((c.requestStop there).amend id (.setStatus "stopping" none now)
          (StreamRecord.setStatus_keeps _ _ _)) := by
  rcases Concludes.bind ran with ⟨e, rfl, raised⟩ | ⟨data, s₁, found, rest⟩
  · obtain ⟨rfl, ⟨gone, told⟩ | ⟨_, _, _, same, _⟩⟩ := getStream_concludes h raised
    · exact .inl ⟨gone, by cases told; rfl, rfl⟩
    · cases same
  obtain ⟨rfl, ⟨-, same⟩ | ⟨record, _, there, same, shown⟩⟩ := getStream_concludes h found
  · cases same
  cases same
  obtain ⟨now, ran⟩ := concludes_nowIso rest
  have ran := concludes_redis rfl ran
  have registered : c.stream id ≠ none := by rw [there]; exact Option.some_ne_none record
  have stopping : Represents { s₁ with redis := s₁.redis.set (stopRequestKey id) now }
      (c.requestStop registered) :=
    ⟨h.requestStop registered now, h.indexed⟩
  obtain ⟨told, later, h'⟩ := updateStatus_concludes stopping there ran
  refine .inr ⟨registered, later, told, ?_⟩
  have named : data.get "instance_id" = some record.instanceId := by
    rw [shown, StreamRecord.fields_get]
    rfl
  have same : (c.requestStop registered).amend id
      (.setStatus "stopping" (orNone (data.get "instance_id")) later)
        (StreamRecord.setStatus_keeps _ _ _) =
      (c.requestStop registered).amend id (.setStatus "stopping" none later)
        (StreamRecord.setStatus_keeps _ _ _) := by
    refine Catalogue.ext ?_ rfl rfl rfl
    funext id'
    rw [Catalogue.amend_stream, Catalogue.amend_stream, Catalogue.requestStop_stream, there, named]
    split
    · by_cases blank : record.instanceId = "" <;>
        simp [orNone, truthy, blank, StreamRecord.setStatus]
    · rfl
  rw [← same]
  exact h'

/-- What the deletion script leaves behind, once its guards hold. -/
def removal (id subreddit : String) (purge : Bool) (r : Store) : Store :=
  let r := ((((r.del (subredditKey subreddit)).set (identityKey subreddit) id).del (metaKey id)).del
    (stopRequestKey id)).srem allKey [id]
  if purge then (r.del (checkpointKey id)).del (identityKey subreddit) else r

theorem Catalogue.expects_iff {expected : Option String} {value : String} :
    Catalogue.Expects expected value ↔ ¬ (expected.getD "" ≠ "" ∧ some value ≠ some (expected.getD "")) := by
  cases expected with
  | none => simp [Catalogue.Expects]
  | some given => simp [Catalogue.Expects, eq_comm, or_iff_not_imp_left]

/-- The script removes the stream exactly when both guards hold. -/
theorem deleteScript_represented (h : Represents s c) (there : c.stream id = some record)
    (expectedStatus expectedUpdatedAt : Option String) (purge : Bool) :
    (deleteScript id record.subreddit (expectedStatus.getD "") (expectedUpdatedAt.getD "")
      (if purge then "1" else "0")).run s.redis =
      if Catalogue.Expects expectedStatus record.status ∧
          Catalogue.Expects expectedUpdatedAt record.updatedAt
      then (true, removal id record.subreddit purge s.redis) else (false, s.redis) := by
  have field : ∀ f, s.redis.hget (metaKey id) f = (record.fields id).get f := fun f =>
    congrFun ((h.metadata id).trans (Catalogue.shown_of_some there)) f
  have present : s.redis.has (metaKey id) = true := by
    have registered : s.redis.hashes (metaKey id) ≠ [] := fun empty => by
      rw [h.registered_iff.mp empty] at there
      cases there
    simp [Store.has, registered]
  have claimed : s.redis.get (subredditKey record.subreddit) = some id :=
    (h.claim _ _).mpr ⟨record, there, rfl⟩
  have purged : (if purge then "1" else "0") = "1" ↔ purge = true := by cases purge <;> simp
  simp only [Script.run, present, field, StreamRecord.fields_get, claimed, Bool.not_true,
    Bool.false_eq_true, if_false, if_true, String.reduceEq, purged]
  by_cases status : Catalogue.Expects expectedStatus record.status
  · by_cases updatedAt : Catalogue.Expects expectedUpdatedAt record.updatedAt
    · rw [if_neg (Catalogue.expects_iff.mp status), if_neg (Catalogue.expects_iff.mp updatedAt)]
      simp only [status, updatedAt, and_self, if_true]
      rfl
    · rw [if_neg (Catalogue.expects_iff.mp status),
        if_pos (not_not.mp (mt Catalogue.expects_iff.mpr updatedAt))]
      simp only [updatedAt, and_false, if_false]
  · rw [if_pos (not_not.mp (mt Catalogue.expects_iff.mpr status))]
    simp only [status, false_and, if_false]

theorem removal_sets (purge : Bool) (r : Store) (name : String) :
    (removal id subreddit purge r).sets (instanceKey name) = r.sets (instanceKey name) := by
  cases purge <;> simp [removal]

theorem dropInstance_concludes {out : Except PyExc Unit}
    (ran : Concludes Serial.answer (dropInstance true (some record.instanceId) id) s out s') :
    out = .ok () ∧ (s' = s ∨
      s' = { s with redis := s.redis.srem (instanceKey record.instanceId) [id] }) := by
  unfold dropInstance at ran
  split at ran
  · rename_i given
    obtain ⟨same, -⟩ := orNone_eq_some.mp given
    cases same
    obtain ⟨rfl, rfl⟩ := concludes_command ran
    exact ⟨rfl, .inr rfl⟩
  · obtain ⟨rfl, rfl⟩ := ran.ret
    exact ⟨rfl, .inl rfl⟩

theorem deleteStream_concludes {expectedStatus expectedUpdatedAt : Option String} {purge : Bool}
    {out : Except PyExc Bool} (h : Represents s c)
    (ran : Concludes Serial.answer (deleteStream id expectedStatus expectedUpdatedAt purge) s out s') :
    (∃ record, ∃ there : c.stream id = some record, Catalogue.Expects expectedStatus record.status ∧
      Catalogue.Expects expectedUpdatedAt record.updatedAt ∧ out = .ok true ∧
        Represents s' (c.remove there purge)) ∨
    (∀ record, c.stream id = some record → ¬ (Catalogue.Expects expectedStatus record.status ∧
      Catalogue.Expects expectedUpdatedAt record.updatedAt)) ∧ out = .ok false ∧ s' = s := by
  have ran := concludes_redis rfl ran
  simp only [RedisCmd.run, h.metadata] at ran
  rcases Option.eq_none_or_eq_some (c.stream id) with gone | ⟨record, there⟩
  · rw [Catalogue.shown_of_none gone] at ran
    obtain ⟨rfl, rfl⟩ := Concludes.ret ran
    exact .inr ⟨fun record there => (Option.some_ne_none record (there.symm.trans gone)).elim, rfl, rfl⟩
  · have given : orNone (some record.subreddit) = some record.subreddit :=
      orNone_eq_some.mpr ⟨rfl, c.named there⟩
    simp only [Catalogue.shown_of_some there, StreamRecord.fields_get, String.reduceEq, if_false,
      if_true, given] at ran
    have script := deleteScript_represented h there expectedStatus expectedUpdatedAt purge
    have ran := concludes_redis rfl ran
    simp only [RedisCmd.run, script] at ran
    by_cases guards : Catalogue.Expects expectedStatus record.status ∧
        Catalogue.Expects expectedUpdatedAt record.updatedAt
    · simp only [guards, and_self, if_true] at ran
      rcases Concludes.bind ran with ⟨e, -, raised⟩ | ⟨_, s₁, dropped, rest⟩
      · cases (dropInstance_concludes raised).1
      obtain ⟨rfl, rfl⟩ := rest.ret
      refine .inl ⟨record, there, guards.1, guards.2, rfl, ?_⟩
      have shown : Shows { s with redis := removal id record.subreddit purge s.redis }
          (c.remove there purge) := h.remove there purge
      have kept : ∀ id' record', (c.remove there purge).stream id' = some record' →
          id' ≠ id ∧ c.stream id' = some record' := by
        intro id' record' there'
        rw [Catalogue.remove_stream] at there'
        split at there'
        · cases there'
        · rename_i other
          exact ⟨other, there'⟩
      rcases (dropInstance_concludes dropped).2 with rfl | rfl
      · exact ⟨shown, h.indexed.of_srem id (fun name member _ held => by rwa [removal_sets]) kept⟩
      · refine ⟨shown.unindex _ _, h.indexed.of_srem id (fun name member other held => ?_) kept⟩
        simp only [Store.srem_sets, removal_sets]
        split
        · rename_i same
          rw [← same]
          exact List.mem_filter.mpr ⟨held, by simpa using other⟩
        · exact held
    · simp only [guards, if_false] at ran
      rcases Concludes.bind ran with ⟨e, -, raised⟩ | ⟨_, s₁, dropped, rest⟩
      · exact (by cases raised.ret.1)
      obtain ⟨-, rfl⟩ := dropped.ret
      obtain ⟨rfl, rfl⟩ := rest.ret
      refine .inr ⟨fun record' there' => ?_, rfl, rfl⟩
      cases there.symm.trans there'
      exact guards

theorem setCheckpoint_concludes {lastCommentId lastProcessedAt : Option String}
    {out : Except PyExc Unit} (h : Represents s c)
    (ran : Concludes Serial.answer (setCheckpoint id lastCommentId lastProcessedAt) s out s') :
    out = .ok () ∧ ∃ now, Represents s' (c.advance id lastCommentId lastProcessedAt now) := by
  by_cases given : lastCommentId = none ∧ lastProcessedAt = none
  · obtain ⟨rfl, rfl⟩ := given
    obtain ⟨rfl, rfl⟩ := Concludes.ret ran
    have same : c.advance id none none "" = c := by
      refine Catalogue.ext rfl rfl rfl ?_
      funext id'
      rw [Catalogue.advance_progress]
      split
      · rename_i same
        simp [same]
      · rfl
    exact ⟨rfl, "", by rw [same]; exact h⟩
  · unfold setCheckpoint at ran
    split at ran
    · rename_i empty
      cases lastCommentId <;> cases lastProcessedAt <;> simp_all
    · obtain ⟨now, ran⟩ := concludes_nowIso ran
      obtain ⟨rfl, rfl⟩ := concludes_command ran
      exact ⟨rfl, now, h.advance given, h.indexed⟩

/-- A handler that has nothing to catch. -/
theorem concludes_exceptException {p : Program Unit}
    (quiet : ∀ e s₁, ¬ Concludes Serial.answer p s (.error e) s₁) {out : Except PyExc Unit}
    (ran : Concludes Serial.answer (exceptException p fun _ => pure ()) s out s') :
    out = .ok () ∧ Concludes Serial.answer p s (.ok ()) s' := by
  obtain ⟨r, s₁, first, rest⟩ := Concludes.bindE ran
  cases r with
  | error e => exact (quiet e s₁ first).elim
  | ok _ =>
      obtain ⟨rfl, rfl⟩ := rest.ret
      exact ⟨rfl, first⟩

theorem Catalogue.expects_orNone (value : String) :
    Catalogue.Expects (orNone (some value)) value := by
  by_cases blank : value = "" <;> simp [Catalogue.Expects, orNone, truthy, blank]

/-- One turn of the sweep retires the stream, if its row shows a dead one. -/
theorem retire_concludes {data : Hash} {out : Except PyExc Unit} (h : Represents s c)
    (there : c.stream id = some record) (shows : RowShows data (id, record))
    (ran : Concludes Serial.answer (retire data) s out s') :
    out = .ok () ∧ Represents s' (c.sweep fun id' => id' = id) := by
  have field : ∀ f, Hash.get data f = (record.fields id).get f := fun f => congrFun shows f
  have named : orNone (some id) = some id :=
    orNone_eq_some.mpr ⟨rfl, (h.known _ _ (c.identified there)).1⟩
  have judged : isDeadStream data = record.isDead := by
    simp [isDeadStream, StreamRecord.isDead, field, StreamRecord.fields_get]
  simp only [retire, judged, field, StreamRecord.fields_get, String.reduceEq, if_false, if_true,
    named] at ran
  cases dead : record.isDead with
  | false =>
      simp only [dead] at ran
      obtain ⟨rfl, rfl⟩ := Concludes.ret ran
      refine ⟨rfl, ?_⟩
      rw [Catalogue.sweep_eq_self fun id' => ?_]
      · exact h
      · by_cases same : id' = id
        · subst same
          rw [Catalogue.sweep_stream_alive there dead, there]
        · exact Catalogue.sweep_stream_aside (decide_eq_false same)
  | true =>
      simp only [dead] at ran
      have deletes : ∀ out s', Concludes Serial.answer (deleteStream id (orNone (some record.status))
          (orNone (some record.updatedAt)) false) s out s' →
            out = .ok true ∧ Represents s' (c.remove there false) := by
        intro out s' ran
        rcases deleteStream_concludes h ran with ⟨record', there', -, -, told, h'⟩ | ⟨refused, -⟩
        · cases there.symm.trans there'
          exact ⟨told, h'⟩
        · exact (refused record there
            ⟨Catalogue.expects_orNone _, Catalogue.expects_orNone _⟩).elim
      obtain ⟨rfl, rest⟩ := concludes_exceptException (fun e s₁ raised => by
        rcases Concludes.bind raised with ⟨e', -, raised⟩ | ⟨_, _, _, rest⟩
        · cases (deletes _ _ raised).1
        · cases rest.ret.1) ran
      rcases Concludes.bind rest with ⟨e', same, -⟩ | ⟨_, s₁, deleted, rest⟩
      · cases same
      obtain ⟨-, rfl⟩ := rest.ret
      rw [Catalogue.sweep_dead there dead]
      exact ⟨rfl, (deletes _ _ deleted).2⟩

/-- The loop of the sweep, on the rows of streams that are still as they were listed. -/
theorem retireAll_concludes {rows : List Hash} {entries : List (String × StreamRecord)}
    (shown : List.Forall₂ RowShows rows entries) {s s' : Serial} {c : Catalogue}
    {out : Except PyExc Unit} (h : Represents s c) (apart : (entries.map Prod.fst).Nodup)
    (there : ∀ entry ∈ entries, c.stream entry.1 = some entry.2)
    (ran : Concludes Serial.answer (Prog.forEach retire rows) s out s') :
    out = .ok () ∧ Represents s' (c.sweep fun id => id ∈ entries.map Prod.fst) := by
  induction shown generalizing s c with
  | nil =>
      obtain ⟨rfl, rfl⟩ := Concludes.ret ran
      refine ⟨rfl, ?_⟩
      rw [Catalogue.sweep_eq_self fun id => Catalogue.sweep_stream_aside (by simp)]
      exact h
  | @cons data entry rows entries first _ ih =>
      rw [List.forall_mem_cons] at there
      rw [List.map_cons, List.nodup_cons] at apart
      rcases Concludes.bind ran with ⟨e, -, raised⟩ | ⟨_, s₁, retired, rest⟩
      · cases (retire_concludes h there.1 first raised).1
      have h₁ := (retire_concludes h there.1 first retired).2
      have left : ∀ entry' ∈ entries,
          (c.sweep fun id => id = entry.1).stream entry'.1 = some entry'.2 := by
        intro entry' member
        have other : entry'.1 ≠ entry.1 := fun same =>
          apart.1 (same ▸ List.mem_map_of_mem member)
        rw [Catalogue.sweep_stream_aside (decide_eq_false other)]
        exact there.2 entry' member
      obtain ⟨told, h'⟩ := ih h₁ apart.2 left rest
      rw [Catalogue.sweep_sweep] at h'
      refine ⟨told, ?_⟩
      have same : (fun id => decide (id = entry.1) || decide (id ∈ entries.map Prod.fst)) =
          fun id => decide (id ∈ (entry :: entries).map Prod.fst) := by
        funext id
        simp only [List.map_cons, List.mem_cons, Bool.decide_or]
      rwa [same] at h'

theorem cleanup_concludes {out : Except PyExc Unit} (h : Represents s c)
    (ran : Concludes Serial.answer cleanup s out s') :
    out = .ok () ∧ Represents s' (c.sweep fun _ => true) := by
  have sweeps : ∀ out s', Concludes Serial.answer (do
      let streams ← listStreams
      Prog.forEach retire streams) s out s' →
        out = .ok () ∧ Represents s' (c.sweep fun _ => true) := by
    intro out s' ran
    rcases Concludes.bind ran with ⟨e, -, raised⟩ | ⟨rows, s₁, listed, rest⟩
    · obtain ⟨-, rows, ids, same, -⟩ := listStreams_concludes h raised
      cases same
    obtain ⟨rfl, rows', ids, same, apart, complete, shown⟩ := listStreams_concludes h listed
    cases same
    have all : ∀ id ∈ ids, c.stream id ≠ none := fun id => (complete id).mp
    have names := Catalogue.entries_ids all
    obtain ⟨told, h'⟩ := retireAll_concludes shown h (names.symm ▸ apart)
      (fun entry member => (Catalogue.mem_entries.mp member).2) rest
    refine ⟨told, ?_⟩
    rw [names] at h'
    have same : c.sweep (fun _ => true) = c.sweep fun id => id ∈ ids :=
      Catalogue.sweep_congr fun id => by
        rw [Catalogue.sweep_stream, Catalogue.sweep_stream]
        by_cases member : id ∈ ids
        · simp [member]
        · have gone : c.stream id = none := not_not.mp fun there => member ((complete id).mpr there)
          simp [gone]
    rwa [same]
  obtain ⟨rfl, rest⟩ := concludes_exceptException (fun e s₁ raised => by
    cases (sweeps _ _ raised).1) ran
  exact ⟨rfl, (sweeps _ _ rest).2⟩

/-! ## Histories of calls -/

/-- A subreddit has a name, a status is written to a registered stream, and the leases are not
part of the registry. -/
def Serial.Admits (s : Serial) : Operation → Prop
  | .createStream subreddit _ _ => subreddit ≠ ""
  | .updateStatus streamId _ _ => s.redis.hashes (metaKey streamId) ≠ []
  | .acquireLock _ _ _ | .refreshLock _ _ _ | .releaseLock _ _ | .isLocked _ | .getLockHolder _ =>
      False
  | _ => True

/-- A call, with the way it ended. -/
def Serial.Step (s : Serial) (label : Operation × Except PyExc Reply) (s' : Serial) : Prop :=
  s.Admits label.1 ∧ Concludes Serial.answer label.1.call s label.2 s'

/-- The caller gets what the catalogue tells. -/
inductive Conveys : Except PyExc Reply → Except PyExc Told → Prop
  | error (e : PyExc) : Conveys (.error e) (.error e)
  | nothing : Conveys (.ok .nothing) (.ok .nothing)
  | flag (result : Bool) : Conveys (.ok (.flag result)) (.ok (.flag result))
  | stream {data : Hash} {id : String} {record : StreamRecord} (shown : RowShows data (id, record)) :
      Conveys (.ok (.metadata data)) (.ok (.stream id record))
  | streams {rows : List Hash} {entries : List (String × StreamRecord)}
      (shown : List.Forall₂ RowShows rows entries) :
      Conveys (.ok (.rows rows)) (.ok (.streams entries))
  | checkpoint (progress : Checkpoint) :
      Conveys (.ok (.checkpoint progress)) (.ok (.checkpoint progress))

def Accords (label : Operation × Except PyExc Reply) (told : Operation × Except PyExc Told) : Prop :=
  label.1 = told.1 ∧ Conveys label.2 told.2

/-- What each call owes to a catalogue that its store represents. -/
def Refines (op : Operation) (c : Catalogue) (out : Except PyExc Reply) (s' : Serial) : Prop :=
  ∃ told c', Conveys out told ∧ Catalogue.Step c (op, told) c' ∧ Represents s' c'

/-- A method that returns a value, and the reply that is made of it. -/
theorem concludes_reply {β : Type} {p : Program β} {f : β → Reply} {out : Except PyExc Reply}
    (ran : Concludes Serial.answer (p >>= fun b => pure (f b)) s out s') :
    (∃ e, out = .error e ∧ Concludes Serial.answer p s (.error e) s') ∨
      ∃ b, out = .ok (f b) ∧ Concludes Serial.answer p s (.ok b) s' := by
  rcases Concludes.bind ran with raised | ⟨b, s₁, first, rest⟩
  · exact .inl raised
  · obtain ⟨rfl, rfl⟩ := rest.ret
    exact .inr ⟨b, rfl, first⟩

theorem createStream_refines {out : Except PyExc Reply} (h : Represents s c) (named : subreddit ≠ "")
    (ran : Concludes Serial.answer (Operation.createStream subreddit config instanceId).call s out s') :
    Refines (.createStream subreddit config instanceId) c out s' := by
  rcases concludes_reply ran with ⟨e, rfl, raised⟩ | ⟨data, rfl, made⟩
  · rcases createStream_concludes h named raised with ⟨id, record, there, rfl, same, h'⟩ |
      ⟨_, _, _, _, _, same, -⟩
    · cases same
      exact ⟨_, c, .error _, .createTaken there, h'⟩
    · cases same
  · rcases createStream_concludes h named made with ⟨_, _, _, _, same, -⟩ |
      ⟨id, createdAt, updatedAt, vacant, eligible, same, h'⟩
    · cases same
    · cases same
      exact ⟨_, _, .stream rfl, .create named vacant eligible, h'⟩

theorem getStream_refines {out : Except PyExc Reply} (h : Represents s c)
    (ran : Concludes Serial.answer (Operation.getStream id).call s out s') :
    Refines (.getStream id) c out s' := by
  rcases concludes_reply ran with ⟨e, rfl, raised⟩ | ⟨data, rfl, found⟩
  · obtain ⟨rfl, ⟨gone, same⟩ | ⟨_, _, _, same, -⟩⟩ := getStream_concludes h raised
    · cases same
      exact ⟨_, c, .error _, .getMissing gone, h⟩
    · cases same
  · obtain ⟨rfl, ⟨-, same⟩ | ⟨record, _, there, same, shown⟩⟩ := getStream_concludes h found
    · cases same
    · cases same
      exact ⟨_, c, .stream shown, .getStream there, h⟩

theorem getStreamBySubreddit_refines {out : Except PyExc Reply} (h : Represents s c)
    (ran : Concludes Serial.answer (Operation.getStreamBySubreddit subreddit).call s out s') :
    Refines (.getStreamBySubreddit subreddit) c out s' := by
  rcases Concludes.bind ran with ⟨e, rfl, raised⟩ | ⟨found, s₁, first, rest⟩
  · obtain ⟨-, ⟨-, same⟩ | ⟨_, _, _, _, _, same, -⟩⟩ := getStreamBySubreddit_concludes h raised <;>
      cases same
  · obtain ⟨rfl, ⟨vacant, same⟩ | ⟨id, record, data, there, rfl, same, shown⟩⟩ :=
      getStreamBySubreddit_concludes h first
    · cases same
      obtain ⟨rfl, rfl⟩ := rest.ret
      exact ⟨_, c, .nothing, .getVacant vacant, h⟩
    · cases same
      obtain ⟨rfl, rfl⟩ := rest.ret
      exact ⟨_, c, .stream shown, .getBySubreddit there, h⟩

theorem listStreams_refines {out : Except PyExc Reply} (h : Represents s c)
    (ran : Concludes Serial.answer Operation.listStreams.call s out s') :
    Refines .listStreams c out s' := by
  rcases concludes_reply ran with ⟨e, rfl, raised⟩ | ⟨rows, rfl, listed⟩
  · obtain ⟨-, _, _, same, -⟩ := listStreams_concludes h raised
    cases same
  · obtain ⟨rfl, _, ids, same, apart, complete, shown⟩ := listStreams_concludes h listed
    cases same
    have all : ∀ id ∈ ids, c.stream id ≠ none := fun id => (complete id).mp
    refine ⟨_, c, .streams shown, .list ((Catalogue.entries_ids all).symm ▸ apart)
      fun id record => ?_, h⟩
    rw [Catalogue.mem_entries]
    refine ⟨fun both => both.2, fun there => ⟨(complete id).mpr ?_, there⟩⟩
    rw [there]
    exact Option.some_ne_none record

theorem flag_refines {op : Operation} {p : Program Bool} {out : Except PyExc Reply}
    (call : op.call = p >>= fun b => pure (Reply.flag b))
    (method : ∀ out, Concludes Serial.answer p s out s' →
      ∃ b c', out = .ok b ∧ Catalogue.Step c (op, .ok (.flag b)) c' ∧ Represents s' c')
    (ran : Concludes Serial.answer op.call s out s') : Refines op c out s' := by
  rw [call] at ran
  rcases concludes_reply ran with ⟨e, rfl, raised⟩ | ⟨b, rfl, done⟩
  · obtain ⟨_, _, same, -⟩ := method _ raised
    cases same
  · obtain ⟨_, c', same, step, h'⟩ := method _ done
    cases same
    exact ⟨_, c', .flag b, step, h'⟩

theorem nothing_refines {op : Operation} {p : Program Unit} {out : Except PyExc Reply}
    (call : op.call = p >>= fun _ => pure Reply.nothing)
    (method : ∀ out, Concludes Serial.answer p s out s' →
      ∃ c', out = .ok () ∧ Catalogue.Step c (op, .ok .nothing) c' ∧ Represents s' c')
    (ran : Concludes Serial.answer op.call s out s') : Refines op c out s' := by
  rw [call] at ran
  rcases concludes_reply ran with ⟨e, rfl, raised⟩ | ⟨_, rfl, done⟩
  · obtain ⟨_, same, -⟩ := method _ raised
    cases same
  · obtain ⟨c', -, step, h'⟩ := method _ done
    exact ⟨_, c', .nothing, step, h'⟩

theorem requestStop_refines {out : Except PyExc Reply} (h : Represents s c)
    (ran : Concludes Serial.answer (Operation.requestStop id).call s out s') :
    Refines (.requestStop id) c out s' := by
  obtain ⟨e, rfl, raised⟩ | ⟨_, rfl, done⟩ := concludes_reply (f := fun _ => Reply.nothing) ran
  · rcases requestStop_concludes h raised with ⟨gone, same, rfl⟩ | ⟨_, _, same, -⟩
    · cases same
      exact ⟨_, c, .error _, .requestStopMissing gone, h⟩
    · cases same
  · rcases requestStop_concludes h done with ⟨-, same, -⟩ | ⟨there, now, -, h'⟩
    · cases same
    · exact ⟨_, _, .nothing, .requestStop there, h'⟩

/-- Every call of the registry is a step of the catalogue. -/
theorem call_refines : Simulates Serial.Step Catalogue.Step Represents Accords := by
  rintro s s' c ⟨op, out⟩ h ⟨admitted, ran⟩
  suffices refined : Refines op c out s' by
    obtain ⟨told, c', conveyed, step, h'⟩ := refined
    exact ⟨(op, told), c', ⟨rfl, conveyed⟩, step, h'⟩
  cases op with
  | acquireLock | refreshLock | releaseLock | isLocked | getLockHolder => exact admitted.elim
  | createStream => exact createStream_refines h admitted ran
  | getStream => exact getStream_refines h ran
  | getStreamBySubreddit => exact getStreamBySubreddit_refines h ran
  | listStreams => exact listStreams_refines h ran
  | updateStatus id status instanceId =>
      have registered : c.stream id ≠ none := fun gone => admitted (h.unregistered gone)
      obtain ⟨record, there⟩ := Option.ne_none_iff_exists'.mp registered
      refine nothing_refines rfl (fun out done => ?_) ran
      obtain ⟨told, now, h'⟩ := updateStatus_concludes h there done
      exact ⟨_, told, .updateStatus registered, h'⟩
  | heartbeat id instanceId =>
      refine flag_refines rfl (fun out done => ?_) ran
      rcases heartbeat_concludes h done with ⟨record, now, there, rfl, active, told, h'⟩ |
        ⟨refused, told, rfl⟩
      · exact ⟨true, _, told, .heartbeat there active, h'⟩
      · exact ⟨false, c, told, .heartbeatRefused refused, h⟩
  | requestStop => exact requestStop_refines h ran
  | isStopRequested id =>
      refine flag_refines rfl (fun out done => ?_) ran
      obtain ⟨told, rfl⟩ := concludes_command done
      exact ⟨c.stopRequested id, c, by rw [told, RedisCmd.run, h.stopRequest], .isStopRequested, h⟩
  | deleteStream id expectedStatus expectedUpdatedAt purge =>
      refine flag_refines rfl (fun out done => ?_) ran
      rcases deleteStream_concludes h done with ⟨record, there, status, updatedAt, told, h'⟩ |
        ⟨refused, told, rfl⟩
      · exact ⟨true, _, told, .delete there status updatedAt, h'⟩
      · exact ⟨false, c, told, .deleteRefused refused, h⟩
  | setCheckpoint =>
      refine nothing_refines rfl (fun out done => ?_) ran
      obtain ⟨told, now, h'⟩ := setCheckpoint_concludes h done
      exact ⟨_, told, .setCheckpoint, h'⟩
  | getCheckpoint id =>
      rcases concludes_reply ran with ⟨e, rfl, raised⟩ | ⟨progress, rfl, found⟩
      · have read := concludes_redis rfl raised
        cases read.ret.1
      · obtain ⟨same, rfl⟩ := (concludes_redis rfl found).ret
        cases same
        exact ⟨_, c, h.progress id ▸ .checkpoint _, .getCheckpoint, h⟩
  | cleanup =>
      refine nothing_refines rfl (fun out done => ?_) ran
      obtain ⟨told, h'⟩ := cleanup_concludes h done
      exact ⟨_, told, .cleanup, h'⟩

/-- Calls one after the other, from an empty Redis: each of them ends as the catalogue says. -/
theorem registry_refines_catalogue {s : Serial} {calls : List (Operation × Except PyExc Reply)}
    (history : Path Serial.Step {} calls s) :
    ∃ told c, List.Forall₂ Accords calls told ∧ Path Catalogue.Step {} told c ∧ Represents s c :=
  call_refines.path history .initial

instance (s : Serial) : (op : Operation) → Decidable (s.Admits op)
  | .createStream subreddit _ _ => inferInstanceAs (Decidable (subreddit ≠ ""))
  | .updateStatus streamId _ _ => inferInstanceAs (Decidable (s.redis.hashes (metaKey streamId) ≠ []))
  | .acquireLock _ _ _ | .refreshLock _ _ _ | .releaseLock _ _ | .isLocked _ | .getLockHolder _ =>
      inferInstanceAs (Decidable False)
  | .getStream _ | .getStreamBySubreddit _ | .listStreams | .heartbeat _ _ | .requestStop _ |
    .isStopRequested _ | .deleteStream _ _ _ _ | .setCheckpoint _ _ _ | .getCheckpoint _ |
    .cleanup => inferInstanceAs (Decidable True)

/-- The calls with what they are handed: times and ids. -/
def Serial.play : List (Operation × List String) → Serial →
    Option (List (Operation × Except PyExc Reply) × Serial)
  | [], s => some ([], s)
  | (op, texts) :: calls, s =>
      if s.Admits op then
        (Runs.replay answer op.call (texts.map fun text => (text, none)) s).bind fun (_, out, s₁) =>
          (play calls s₁).map fun (labels, s') => ((op, out) :: labels, s')
      else none

theorem Serial.play_path {calls : List (Operation × List String)}
    {labels : List (Operation × Except PyExc Reply)} {s s' : Serial}
    (played : play calls s = some (labels, s')) : Path Step s labels s' := by
  induction calls generalizing s labels with
  | nil =>
      cases played
      exact .nil _
  | cons call calls ih =>
      simp only [play] at played
      split at played
      · rename_i admitted
        simp only [Option.bind_eq_some_iff, Option.map_eq_some_iff] at played
        obtain ⟨⟨trace, out, s₁⟩, ran, ⟨rest, s''⟩, played, same⟩ := played
        cases same
        exact .cons ⟨admitted, trace, Runs.of_replay ran⟩ (ih played)
      · cases played

/-- The id in a reply, or the number of rows. -/
def Reply.gist : Except PyExc Reply → String
  | .ok (.metadata data) => (data.get "id").getD ""
  | .ok (.rows streams) => toString streams.length
  | _ => ""

/-- A stream is created, stops and is swept away, and starts again under its id. -/
theorem restart_refined : ∃ (s : Serial) (calls : List (Operation × Except PyExc Reply))
    (told : List (Operation × Except PyExc Told)) (c : Catalogue),
    calls.map (fun call => Reply.gist call.2) = ["a", "", "", "0", "a"] ∧
      List.Forall₂ Accords calls told ∧ Path Catalogue.Step {} told c ∧ Represents s c := by
  have run : (Serial.play [
      (.createStream "news" "{}" (some "i"), ["", "a", "", "", "t0", "t0", "", "", "", ""]),
      (.updateStatus "a" "stopped" none, ["t1", "", ""]), (.cleanup, ["", "", "", "", ""]),
      (.listStreams, [""]),
      (.createStream "news" "{}" (some "i"), ["", "b", "", "", "", "t2", "t2", "", "", "", ""])]
      {}).map (fun played => played.1.map fun call => Reply.gist call.2) =
        some ["a", "", "", "0", "a"] := by decide +kernel
  obtain ⟨⟨calls, s⟩, played, seen⟩ := Option.map_eq_some_iff.mp run
  obtain ⟨told, c, same, path, represented⟩ :=
    registry_refines_catalogue (Serial.play_path played)
  exact ⟨s, calls, told, c, seen, same, path, represented⟩

end RedditKafka
