import RedditKafka.Registry.Calls
import RedditKafka.Registry.StreamsTable

/-!
# Redis and Postgres side by side

Calls of the registry one after the other, from empty stores: when the metadata
of the registered streams and the rows of the table say the same.
-/
namespace RedditKafka.StreamsTable
open Async Redis StreamRegistry

inductive StreamCall where
  | createStream (subreddit config : String) (instanceId : Option String)
  | updateStatus (streamId status : String) (instanceId : Option String)
  | requestStop (streamId : String)
  | deleteStream (streamId : String) (expectedStatus expectedUpdatedAt : Option String)
      (purgeCheckpoint : Bool)
  deriving DecidableEq

namespace StreamCall

def program : StreamCall → Stored Unit
  | createStream subreddit config instanceId => do
      let _ ← StreamsTable.createStream subreddit config instanceId
      return ()
  | updateStatus streamId status instanceId => StreamsTable.updateStatus streamId status instanceId
  | requestStop streamId => StreamsTable.requestStop streamId
  | deleteStream streamId expectedStatus expectedUpdatedAt purgeCheckpoint => do
      let _ ← StreamsTable.deleteStream streamId expectedStatus expectedUpdatedAt purgeCheckpoint
      return ()

/-- The stream that the call is about, where it has to be registered. -/
def target : StreamCall → Option String
  | createStream _ _ _ => none
  | updateStatus streamId _ _ | requestStop streamId | deleteStream streamId _ _ _ => some streamId

end StreamCall

/-- One call of a history, with the stores before and behind it. -/
structure CallStep (Json : Type) where
  call : StreamCall
  before : Stores Json
  after : Stores Json

variable {Json : Type}

def Registered (s : Stores Json) (streamId : String) : Prop :=
  s.redis.hashes (metaKey streamId) ≠ []

variable (jsonb : String → Json)

/-- Calls in a row from empty stores, the latest one last. -/
inductive History : List (CallStep Json) → Stores Json → Prop
  | start : History [] {}
  | next {steps : List (CallStep Json)} {s s' : Stores Json} {call : StreamCall}
      {trace : List (StoreEff × String)} {out : Except PyExc Unit} : History steps s →
      (∀ streamId, call.target = some streamId → Registered s streamId) →
      Runs (answer jsonb) call.program s trace out s' → History (steps ++ [⟨call, s, s'⟩]) s'

/-- The metadata and the row of a stream say the same. -/
structure Matches (data : Hash) (row : StreamRow Json) : Prop where
  status : data.get "status" = some row.status
  instanceId : orNone (data.get "instance_id") = row.instanceId
  config : (data.get "config").map jsonb = some row.config

def Agree (s : Stores Json) : Prop :=
  ∀ id, Registered s id → ∃ row, s.row id = some row ∧ Matches jsonb (s.redis.hashes (metaKey id)) row

/-- A status write names an instance, or there is none to be lost. -/
def Names : Option String → Hash → Prop
  | none, data => orNone (data.get "instance_id") = none
  | some instanceId, _ => instanceId ≠ ""

/-- What a call needs of the stores that agree before it. -/
def Keeps : StreamCall → Stores Json → Prop
  | .createStream subreddit config instanceId, s =>
      s.redis.get (subredditKey subreddit) = none → ∀ id row,
        s.redis.get (identityKey subreddit) = some id → id ≠ "" → s.row id = some row →
        row.status = "starting" ∧ row.instanceId = orNone instanceId ∧ row.config = jsonb config
  | .updateStatus streamId _ instanceId, s => Names instanceId (s.redis.hashes (metaKey streamId))
  | .requestStop _, _ | .deleteStream _ _ _ _, _ => True

/-! ## Running a call -/

/-- The program ends so, whatever it awaits on its way. -/
def Yields {α : Type} (p : Stored α) (s : Stores Json) (out : Except PyExc α) (s' : Stores Json) :
    Prop :=
  ∃ trace, Runs (answer jsonb) p s trace out s'

variable {jsonb} {α β : Type} {s s' : Stores Json} {out : Except PyExc β}

theorem lift_perform (e : Effect) :
    lift (Prog.perform e) = (Prog.perform (StoreEff.other e) : Stored e.Answer) :=
  Prog.link_perform ..

theorem yields_ret {b : β} (h : Yields jsonb (.ret b) s out s') : out = .ok b ∧ s' = s :=
  h.elim fun _ ran => ran.ret_inv.2

theorem yields_raise {e : PyExc} (h : Yields jsonb (.raise e : Stored β) s out s') :
    out = .error e ∧ s' = s :=
  h.elim fun _ ran => ran.raise_inv.2

theorem yields_last {c : RedisCmd} {out : Except PyExc c.Reply}
    (h : Yields jsonb (lift (redis c)) s out s') :
    out = (c.run s.redis).1 ∧ s' = { s with redis := (c.run s.redis).2 } := by
  obtain ⟨trace, ran⟩ := h
  rw [redis, lift_perform] at ran
  obtain ⟨choice, -, answered⟩ := ran.perform_inv
  simp only [answer, Option.some.injEq, Prod.mk.injEq] at answered
  exact ⟨answered.1.symm, answered.2.symm⟩

/-- A command of Redis in front of the rest: none of those used here fails. -/
theorem yields_redis {c : RedisCmd} {f : c.Reply → Stored β}
    {a : c.Reply} (reply : (c.run s.redis).1 = .ok a)
    (h : Yields jsonb (lift (redis c) >>= f) s out s') :
    Yields jsonb (f a) { s with redis := (c.run s.redis).2 } out s' := by
  obtain ⟨trace, ran⟩ := h
  rw [redis, lift_perform] at ran
  rcases ran.bind_inv with ⟨e, rfl, raised⟩ | ⟨_, after, a', s₁, rfl, first, rest⟩
  · obtain ⟨choice, -, answered⟩ := raised.perform_inv
    simp only [answer, Option.some.injEq, Prod.mk.injEq] at answered
    rw [reply] at answered
    cases answered.1
  · obtain ⟨choice, -, answered⟩ := first.perform_inv
    simp only [answer, Option.some.injEq, Prod.mk.injEq] at answered
    obtain ⟨same, rfl⟩ := answered
    rw [reply] at same
    cases same
    exact ⟨after, rest⟩

theorem yields_nowIso {f : String → Stored β} (h : Yields jsonb (lift nowIso >>= f) s out s') :
    ∃ text, Yields jsonb (f text) s out s' := by
  obtain ⟨trace, ran⟩ := h
  rw [nowIso, lift_perform] at ran
  rcases ran.bind_inv with ⟨e, rfl, raised⟩ | ⟨_, after, text, s₁, rfl, first, rest⟩
  · obtain ⟨choice, -, answered⟩ := raised.perform_inv
    cases answered
  · obtain ⟨choice, -, answered⟩ := first.perform_inv
    cases answered
    exact ⟨_, after, rest⟩

theorem yields_uuid4 {f : String → Stored β}
    (h : Yields jsonb (lift (Prog.perform Effect.uuid4) >>= f) s out s') :
    ∃ id, id ≠ "" ∧ id ∉ s.issued ∧
      Yields jsonb (f id) { s with issued := id :: s.issued } out s' := by
  obtain ⟨trace, ran⟩ := h
  rw [lift_perform] at ran
  rcases ran.bind_inv with ⟨e, rfl, raised⟩ | ⟨_, after, id, s₁, rfl, first, rest⟩
  · obtain ⟨choice, -, answered⟩ := raised.perform_inv
    simp only [answer] at answered
    split at answered <;> cases answered
  · obtain ⟨choice, -, answered⟩ := first.perform_inv
    simp only [answer] at answered
    split at answered
    · cases answered
    · rename_i new
      cases answered
      exact ⟨_, fun same => new (.inl same), fun there => new (.inr there), after, rest⟩

theorem yields_bind {p : Stored α} {f : α → Stored β} (h : Yields jsonb (p >>= f) s out s') :
    (∃ e, out = .error e ∧ Yields jsonb p s (.error e) s') ∨
      ∃ a s₁, Yields jsonb p s (.ok a) s₁ ∧ Yields jsonb (f a) s₁ out s' := by
  obtain ⟨trace, ran⟩ := h
  rcases ran.bind_inv with ⟨e, same, raised⟩ | ⟨before, after, a, s₁, -, first, rest⟩
  · exact .inl ⟨e, same, trace, raised⟩
  · exact .inr ⟨a, s₁, ⟨before, first⟩, after, rest⟩

theorem yields_statement {statement : Statement} {out : Except PyExc Unit}
    (h : Yields jsonb (execute statement) s out s') : out = .ok () ∧
      ∃ rows, statement.run jsonb s.streams = some rows ∧ s' = { s with streams := rows } := by
  obtain ⟨trace, ran⟩ := h
  obtain ⟨_, _, r, s₁, -, first, rest⟩ := ran.bindE_inv
  obtain ⟨choice, -, answered⟩ := first.perform_inv
  simp only [answer, Option.map_eq_some_iff] at answered
  obtain ⟨rows, written, same⟩ := answered
  cases same
  obtain ⟨-, rfl, rfl⟩ := rest.ret_inv
  exact ⟨rfl, rows, written, rfl⟩

theorem yields_execute {statement : Statement} {f : Unit → Stored β}
    (h : Yields jsonb (execute statement >>= f) s out s') :
    ∃ rows, statement.run jsonb s.streams = some rows ∧
      Yields jsonb (f ()) { s with streams := rows } out s' := by
  rcases yields_bind h with ⟨e, -, raised⟩ | ⟨_, s₁, first, rest⟩
  · cases (yields_statement raised).1
  · obtain ⟨-, rows, written, rfl⟩ := yields_statement first
    exact ⟨rows, written, rest⟩

theorem lift_bind (p : Program α) (f : α → Program β) :
    lift (p >>= f) = lift p >>= fun a => lift (f a) :=
  Prog.link_bind ..

/-! ## What a call leaves behind -/

/-- Every id that is stored has been generated. -/
structure Known (s : Stores Json) : Prop where
  claims : ∀ subreddit id, s.redis.get (subredditKey subreddit) = some id → id ∈ s.issued
  identities : ∀ subreddit id, s.redis.get (identityKey subreddit) = some id → id ∈ s.issued
  metadata : ∀ id, Registered s id → id ∈ s.issued
  rows : ∀ row ∈ s.streams, row.id ∈ s.issued

/-- Neither the metadata nor the table has changed. -/
structure Quiet (s s' : Stores Json) : Prop where
  metadata : ∀ id, s'.redis.hashes (metaKey id) = s.redis.hashes (metaKey id)
  streams : s'.streams = s.streams

theorem Quiet.refl (s : Stores Json) : Quiet s s := ⟨fun _ => rfl, rfl⟩

theorem Known.row_none {id : String} (h : Known s) (new : id ∉ s.issued) : s.row id = none :=
  List.find?_eq_none.mpr fun row there same =>
    new (by simpa using (of_decide_eq_true same) ▸ h.rows row there)

variable {subreddit config streamId : String} {instanceId : Option String}

theorem resolveIdentity_yields {candidateId : String} {out : Except PyExc (Option String)}
    (h : Yields jsonb (lift (resolveIdentity subreddit candidateId)) s out s') :
    s.redis.get (identityKey subreddit) = none ∧ out = .ok (some candidateId) ∧
        s' = { s with redis := s.redis.set (identityKey subreddit) candidateId } ∨
      ∃ id, s.redis.get (identityKey subreddit) = some id ∧ out = .ok (some id) ∧ s' = s := by
  rw [resolveIdentity, lift_bind] at h
  rcases setNx_cases (identityKey subreddit) candidateId s.redis with ⟨taken, ran⟩ | ⟨free, ran⟩
  · have rest := yields_redis (congrArg Prod.fst ran) h
    rw [ran] at rest
    obtain ⟨rfl, rfl⟩ := yields_last rest
    obtain ⟨id, held⟩ := Option.ne_none_iff_exists'.mp taken
    exact .inr ⟨id, held, by simp [RedisCmd.run, held], rfl⟩
  · have rest := yields_redis (congrArg Prod.fst ran) h
    obtain ⟨rfl, rfl⟩ := yields_ret rest
    exact .inl ⟨free, rfl, by rw [ran]⟩

/-- The stores behind the registration of a stream. -/
structure Made (jsonb : String → Json) (streamId subreddit config : String)
    (instanceId : Option String) (s s' : Stores Json) : Prop where
  metadata : ∃ createdAt updatedAt, ∀ id, s'.redis.hashes (metaKey id) = if id = streamId then
    (s.redis.hashes (metaKey id)).setFields
      (newMeta streamId subreddit config (instanceId.getD "") createdAt updatedAt)
    else s.redis.hashes (metaKey id)
  strings : s'.redis.get = s.redis.get
  issued : s'.issued = s.issued
  streams : (Statement.insertStream streamId subreddit "starting" (orNone instanceId) config).run
    jsonb s.streams = some s'.streams

theorem indexInstance_yields {out : Except PyExc Unit}
    (h : Yields jsonb (lift (indexInstance instanceId streamId)) s out s') :
    out = .ok () ∧ s'.redis.hashes = s.redis.hashes ∧ s'.redis.get = s.redis.get ∧
      s'.issued = s.issued ∧ s'.streams = s.streams := by
  unfold indexInstance at h
  split at h
  · obtain ⟨rfl, rfl⟩ := yields_ret h
    exact ⟨rfl, rfl, rfl, rfl, rfl⟩
  · obtain ⟨rfl, rfl⟩ := yields_last h
    exact ⟨rfl, by simp [RedisCmd.run], by funext key; simp [RedisCmd.run], rfl, rfl⟩

theorem register_yields {out : Except PyExc Hash}
    (h : Yields jsonb (register streamId subreddit config instanceId) s out s') :
    Made jsonb streamId subreddit config instanceId s s' := by
  obtain ⟨createdAt, h⟩ := yields_nowIso h
  obtain ⟨updatedAt, h⟩ := yields_nowIso h
  have h := yields_redis rfl (yields_redis rfl h)
  rcases yields_bind h with ⟨e, -, raised⟩ | ⟨_, s₁, indexed, h⟩
  · cases (indexInstance_yields raised).1
  obtain ⟨-, hashes, strings, issued, streams⟩ := indexInstance_yields indexed
  obtain ⟨rows, written, h⟩ := yields_execute h
  obtain ⟨-, rfl⟩ := yields_ret h
  refine ⟨⟨createdAt, updatedAt, fun id => ?_⟩, ?_, ?_, ?_⟩
  · simp only [hashes, RedisCmd.run, Store.sadd_hashes, Store.hset_hashes, Layout.key_inj, true_and]
    split <;> simp_all
  · simp only [strings]
    funext key
    simp [RedisCmd.run]
  · exact issued
  · simpa [streams] using written

/-- A statement adds no row but one under the id that it names. -/
theorem Statement.row_run {statement : Statement} {rows rows' : List (StreamRow Json)}
    (ran : statement.run jsonb rows = some rows') {row : StreamRow Json} (there : row ∈ rows') :
    (∃ old ∈ rows, old.id = row.id) ∨
      ∃ subreddit status instanceId config,
        statement = .insertStream row.id subreddit status instanceId config := by
  cases statement with
  | insertStream id subreddit status instanceId config =>
      simp only [Statement.run] at ran
      split at ran
      · cases ran
        exact .inl ⟨row, there, rfl⟩
      · split at ran <;> cases ran
        rcases List.mem_append.mp there with there | there
        · exact .inl ⟨row, there, rfl⟩
        · cases List.mem_singleton.mp there
          exact .inr ⟨_, _, _, _, rfl⟩
  | updateStream id status instanceId =>
      simp only [Statement.run] at ran
      cases ran
      obtain ⟨old, before, rfl⟩ := List.mem_map.mp there
      refine .inl ⟨old, before, ?_⟩
      split <;> rfl

theorem Made.known (h : Made jsonb streamId subreddit config instanceId s s') (known : Known s)
    (issued : streamId ∈ s.issued) : Known s' := by
  obtain ⟨createdAt, updatedAt, metadata⟩ := h.metadata
  constructor
  · rw [h.strings, h.issued]
    exact known.claims
  · rw [h.strings, h.issued]
    exact known.identities
  · intro id registered
    rw [h.issued]
    by_cases same : id = streamId
    · exact same ▸ issued
    · rw [Registered, metadata, if_neg same] at registered
      exact known.metadata id registered
  · intro row there
    rw [h.issued]
    rcases Statement.row_run h.streams there with ⟨old, before, same⟩ | ⟨_, _, _, _, same⟩
    · exact same ▸ known.rows old before
    · cases same
      exact issued

theorem Known.set {key id : String} (known : Known s) (issued : id ∈ s.issued) :
    Known { s with redis := s.redis.set key id } := by
  constructor
  · intro name held there
    simp only [Store.get_set] at there
    split at there
    · cases there
      exact issued
    · exact known.claims name held there
  · intro name held there
    simp only [Store.get_set] at there
    split at there
    · cases there
      exact issued
    · exact known.identities name held there
  · exact known.metadata
  · exact known.rows

theorem Known.generate (known : Known s) (id : String) : Known { s with issued := id :: s.issued } :=
  ⟨fun name held there => .tail _ (known.claims name held there),
    fun name held there => .tail _ (known.identities name held there),
    fun held there => .tail _ (known.metadata held there),
    fun row there => .tail _ (known.rows row there)⟩

/-- The end of `create_stream`: the claim is lost, or the stream is registered. -/
theorem claim_yields {out : Except PyExc Hash} (known : Known s) (issued : streamId ∈ s.issued)
    (h : Yields jsonb (claim streamId subreddit config instanceId) s out s') :
    (s.redis.get (subredditKey subreddit) ≠ none ∧ s' = s) ∨
      s.redis.get (subredditKey subreddit) = none ∧ Known s' ∧
        ∃ s₁, Quiet s s₁ ∧ Made jsonb streamId subreddit config instanceId s₁ s' := by
  rcases setNx_cases (subredditKey subreddit) streamId s.redis with ⟨taken, ran⟩ | ⟨free, ran⟩
  · have h := yields_redis (congrArg Prod.fst ran) h
    rw [ran] at h
    exact .inl ⟨taken, (yields_raise (yields_redis rfl h)).2⟩
  · have h := yields_redis (congrArg Prod.fst ran) h
    rw [ran] at h
    have made := register_yields h
    exact .inr ⟨free, made.known (known.set issued) issued,
      { s with redis := s.redis.set (subredditKey subreddit) streamId }, ⟨fun _ => rfl, rfl⟩, made⟩

/-- What `create_stream` can do: nothing that shows, or the registration of a stream. -/
theorem createStream_yields {out : Except PyExc Hash} (known : Known s)
    (h : Yields jsonb (createStream subreddit config instanceId) s out s') :
    Known s' ∧ (Quiet s s' ∧ Keeps jsonb (.createStream subreddit config instanceId) s ∨
      ∃ streamId s₁, streamId ≠ "" ∧ s.redis.get (subredditKey subreddit) = none ∧
        (s.redis.get (identityKey subreddit) = some streamId ∨
          s.redis.get (identityKey subreddit) = none ∧ s.row streamId = none) ∧
        Quiet s s₁ ∧ Made jsonb streamId subreddit config instanceId s₁ s') := by
  have h := yields_redis rfl h
  cases held : orNone (s.redis.get (subredditKey subreddit)) with
  | some existing =>
      have claimed := (orNone_eq_some.mp held).1
      have quiet : Keeps jsonb (.createStream subreddit config instanceId) s :=
        fun free => by rw [free] at claimed; cases claimed
      simp only [RedisCmd.run, held] at h
      rcases setNx_cases (identityKey subreddit) existing s.redis with ⟨-, ran⟩ | ⟨-, ran⟩
      · obtain ⟨-, rfl⟩ := yields_raise (yields_redis (congrArg Prod.fst ran) h)
        rw [ran]
        exact ⟨known, .inl ⟨.refl _, quiet⟩⟩
      · obtain ⟨-, rfl⟩ := yields_raise (yields_redis (congrArg Prod.fst ran) h)
        rw [ran]
        exact ⟨known.set (known.claims _ _ claimed), .inl ⟨⟨fun _ => rfl, rfl⟩, quiet⟩⟩
  | none =>
      simp only [RedisCmd.run, held] at h
      obtain ⟨candidateId, named, new, h⟩ := yields_uuid4 h
      have known₁ := known.generate candidateId
      rcases yields_bind h with ⟨e, -, raised⟩ | ⟨streamId, s₁, resolved, h⟩
      · rcases resolveIdentity_yields raised with ⟨-, same, -⟩ | ⟨_, -, same, -⟩ <;> cases same
      rcases resolveIdentity_yields resolved with ⟨free, same, rfl⟩ | ⟨id, held', same, rfl⟩
      · cases same
        simp only [orNone_eq_some.mpr ⟨rfl, named⟩] at h
        rcases claim_yields (known₁.set (.head _)) (.head _) h with ⟨taken, rfl⟩ | ⟨claim, known', s₁, quiet, made⟩
        · refine ⟨known₁.set (.head _), .inl ⟨⟨fun _ => rfl, rfl⟩, fun none => ?_⟩⟩
          exact (taken (by simpa using none)).elim
        · exact ⟨known', .inr ⟨candidateId, s₁, named, by simpa using claim,
            .inr ⟨free, known.row_none new⟩, ⟨quiet.metadata, quiet.streams⟩, made⟩⟩
      · cases same
        cases blank : orNone (some id) with
        | none =>
            simp only [blank] at h
            obtain ⟨-, rfl⟩ := yields_raise h
            have empty : id = "" := by simpa using orNone_eq_none.mp blank
            refine ⟨known₁, .inl ⟨⟨fun _ => rfl, rfl⟩, fun _ id' _ there named _ => ?_⟩⟩
            exact (named (by rw [held'] at there; cases there; exact empty)).elim
        | some streamId =>
            obtain ⟨same, named⟩ := orNone_eq_some.mp blank
            cases same
            simp only [blank] at h
            rcases claim_yields known₁ (known₁.identities _ _ held') h with
              ⟨taken, rfl⟩ | ⟨claim, known', s₁, quiet, made⟩
            · exact ⟨known₁, .inl ⟨⟨fun _ => rfl, rfl⟩, fun none => (taken none).elim⟩⟩
            · exact ⟨known', .inr ⟨_, s₁, named, claim, .inl held',
                ⟨quiet.metadata, quiet.streams⟩, made⟩⟩

variable {status : String}

/-- The stores behind a status write. -/
structure Changed (jsonb : String → Json) (streamId status : String) (instanceId : Option String)
    (s s' : Stores Json) : Prop where
  metadata : ∃ updatedAt, ∀ id, s'.redis.hashes (metaKey id) = if id = streamId then
    (s.redis.hashes (metaKey id)).setFields (statusMapping status updatedAt instanceId)
    else s.redis.hashes (metaKey id)
  strings : s'.redis.get = s.redis.get
  issued : s'.issued = s.issued
  streams : (Statement.updateStream streamId status instanceId).run jsonb s.streams = some s'.streams

theorem Changed.known (h : Changed jsonb streamId status instanceId s s') (known : Known s)
    (issued : streamId ∈ s.issued) : Known s' := by
  obtain ⟨updatedAt, metadata⟩ := h.metadata
  constructor
  · rw [h.strings, h.issued]
    exact known.claims
  · rw [h.strings, h.issued]
    exact known.identities
  · intro id registered
    rw [h.issued]
    by_cases same : id = streamId
    · exact same ▸ issued
    · rw [Registered, metadata, if_neg same] at registered
      exact known.metadata id registered
  · intro row there
    rw [h.issued]
    rcases Statement.row_run h.streams there with ⟨old, before, same⟩ | ⟨_, _, _, _, same⟩
    · exact same ▸ known.rows old before
    · cases same

theorem updateStatus_yields {out : Except PyExc Unit}
    (h : Yields jsonb (updateStatus streamId status instanceId) s out s') :
    Changed jsonb streamId status instanceId s s' := by
  obtain ⟨updatedAt, h⟩ := yields_nowIso h
  have h := yields_redis rfl h
  cases instanceId with
  | none =>
      obtain ⟨-, rows, written, rfl⟩ := yields_statement h
      refine ⟨⟨updatedAt, fun id => ?_⟩, rfl, rfl, written⟩
      simp only [RedisCmd.run, Store.hset_hashes, Layout.key_inj, true_and]
      split <;> simp_all
  | some instanceId =>
      obtain ⟨-, rows, written, rfl⟩ := yields_statement (yields_redis rfl h)
      refine ⟨⟨updatedAt, fun id => ?_⟩, ?_, rfl, written⟩
      · simp only [RedisCmd.run, Store.sadd_hashes, Store.hset_hashes, Layout.key_inj, true_and]
        split <;> simp_all
      · funext key
        simp [RedisCmd.run]

theorem requestStop_yields {out : Except PyExc Unit} (registered : Registered s streamId)
    (h : Yields jsonb (requestStop streamId) s out s') :
    ∃ s₁, Quiet s s₁ ∧ Changed jsonb streamId "stopping"
      (orNone (s.redis.hget (metaKey streamId) "instance_id")) s₁ s' ∧ (Known s → Known s') := by
  have found {out : Except PyExc Hash} {s₁ : Stores Json}
      (h : Yields jsonb (lift (getStream streamId)) s out s₁) :
      out = .ok (s.redis.hashes (metaKey streamId)) ∧ s₁ = s := by
    rw [getStream, lift_bind] at h
    have h := yields_redis rfl h
    rw [if_neg registered] at h
    exact yields_ret h
  rcases yields_bind h with ⟨e, -, raised⟩ | ⟨data, s₁, first, h⟩
  · cases (found raised).1
  obtain ⟨same, rfl⟩ := found first
  cases same
  obtain ⟨now, h⟩ := yields_nowIso h
  have changed := updateStatus_yields (yields_redis rfl h)
  refine ⟨{ s₁ with redis := s₁.redis.set (stopRequestKey streamId) now }, ⟨fun _ => rfl, rfl⟩,
    changed, fun known => ?_⟩
  refine changed.known ⟨?_, ?_, known.metadata, known.rows⟩ (known.metadata _ registered)
  · simpa [RedisCmd.run] using known.claims
  · simpa [RedisCmd.run] using known.identities

theorem deleteStream_yields {expectedStatus expectedUpdatedAt : Option String}
    {purgeCheckpoint : Bool} {out : Except PyExc Bool} (known : Known s)
    (registered : Registered s streamId)
    (h : Yields jsonb (deleteStream streamId expectedStatus expectedUpdatedAt purgeCheckpoint) s out s') :
    Known s' ∧ s'.streams = s.streams ∧ ∀ id, s'.redis.hashes (metaKey id) = s.redis.hashes (metaKey id) ∨
      s'.redis.hashes (metaKey id) = [] := by
  rw [deleteStream, StreamRegistry.deleteStream, lift_bind] at h
  have h := yields_redis rfl h
  split at h
  · obtain ⟨-, rfl⟩ := yields_ret h
    exact ⟨known, rfl, fun _ => .inl rfl⟩
  rename_i subreddit named
  simp only [lift_bind] at h
  have dropped {deleted : Bool} {instanceId : Option String} {s s' : Stores Json} {out : Except PyExc Bool}
      (h : Yields jsonb (lift (dropInstance deleted instanceId streamId) >>= fun _ => lift (pure deleted))
        s out s') : s'.redis.hashes = s.redis.hashes ∧ s'.redis.get = s.redis.get ∧
          s'.issued = s.issued ∧ s'.streams = s.streams := by
    unfold dropInstance at h
    split at h
    · have h := yields_redis rfl h
      obtain ⟨-, rfl⟩ := yields_ret h
      exact ⟨rfl, rfl, rfl, rfl⟩
    · obtain ⟨-, rfl⟩ := yields_ret h
      exact ⟨rfl, rfl, rfl, rfl⟩
  obtain ⟨hashes, strings, issued, streams⟩ := dropped (yields_redis rfl h)
  have cases := deleteScript_cases streamId subreddit (expectedStatus.getD "")
    (expectedUpdatedAt.getD "") (if purgeCheckpoint then "1" else "0") s.redis
  simp only [RedisCmd.run] at hashes strings issued streams
  rcases cases with kept | ⟨-, removed⟩
  · simp only [kept] at hashes strings
    refine ⟨⟨?_, ?_, ?_, ?_⟩, streams, fun id => .inl (congrFun hashes _)⟩
    · rw [strings, issued]
      exact known.claims
    · rw [strings, issued]
      exact known.identities
    · rw [issued]
      exact fun id there => known.metadata id (by rwa [Registered, hashes] at there)
    · rw [streams, issued]
      exact known.rows
  · have gone := fun id => (congrFun hashes (metaKey id)).trans (removed.metadata id)
    refine ⟨⟨fun name id there => ?_, fun name id there => ?_, fun id there => ?_, ?_⟩, streams,
      fun id => ?_⟩
    · rw [strings] at there
      have there := (removed.claim name).symm.trans there
      split at there
      · cases there
      · exact issued ▸ known.claims name id there
    · rw [strings] at there
      have there := (removed.identity name).symm.trans there
      split at there
      · split at there <;> cases there
        exact issued ▸ known.metadata _ registered
      · exact issued ▸ known.identities name id there
    · rw [Registered, gone] at there
      split at there
      · exact (there rfl).elim
      · exact issued ▸ known.metadata id there
    · rw [streams, issued]
      exact known.rows
    · rw [gone]
      split
      · exact .inr rfl
      · exact .inl rfl

/-! ## Agreement -/

theorem orNone_getD (instanceId : Option String) :
    orNone (some (instanceId.getD "")) = orNone instanceId := by
  cases instanceId <;> simp [orNone, truthy]

theorem matches_newMeta {data : Hash} {createdAt updatedAt : String} {row : StreamRow Json} :
    Matches jsonb (data.setFields (newMeta streamId subreddit config (instanceId.getD "")
      createdAt updatedAt)) row ↔
    row.status = "starting" ∧ row.instanceId = orNone instanceId ∧ row.config = jsonb config := by
  constructor
  · rintro ⟨status, named, configured⟩
    simp [newMeta, orNone_getD] at status named configured
    exact ⟨status.symm, named.symm, configured.symm⟩
  · rintro ⟨status, named, configured⟩
    constructor <;> simp [newMeta, orNone_getD, status, named, configured]

theorem matches_statusMapping (status : String) (instanceId : Option String) {data : Hash}
    (updatedAt : String) {row : StreamRow Json}
    (before : Matches jsonb data row) :
    Matches jsonb (data.setFields (statusMapping status updatedAt instanceId))
        { row with status := status, instanceId := instanceId } ↔ Names instanceId data := by
  have config := before.config
  cases instanceId with
  | none =>
      constructor
      · rintro ⟨-, named, -⟩
        simpa [statusMapping, Names] using named
      · intro named
        rw [Names] at named
        constructor <;> simp [statusMapping, named, config]
  | some instanceId =>
      constructor
      · rintro ⟨-, named, -⟩
        rintro rfl
        simp [statusMapping, orNone, truthy] at named
      · intro named
        rw [Names] at named
        constructor <;> simp [statusMapping, orNone, truthy, named, config]

theorem row_insert {id status : String}
    (written : (Statement.insertStream id subreddit status instanceId config).run jsonb s.streams =
      some s'.streams) (key : String) :
    s'.row key = if key = id then
      some ((s.row id).getD ⟨id, subreddit, status, instanceId, jsonb config⟩) else s.row key := by
  simp only [Stores.row]
  generalize s.streams = rows at written ⊢
  generalize s'.streams = rows' at written ⊢
  simp only [Statement.run] at written
  split at written
  · rename_i present
    cases written
    split
    · rename_i same
      subst same
      obtain ⟨row, there, same⟩ := List.any_eq_true.mp present
      cases found : rows.find? fun row => row.id = key with
      | some row => rfl
      | none => exact (List.find?_eq_none.mp found row there same).elim
    · rfl
  · rename_i absent
    split at written <;> cases written
    have none : (rows.find? fun row => row.id = id) = none :=
      List.find?_eq_none.mpr fun row there same => absent (List.any_eq_true.mpr ⟨row, there, same⟩)
    rw [List.find?_append]
    split
    · rename_i same
      subst same
      simp [none]
    · rename_i other
      simp [Ne.symm other]

theorem row_update {id : String}
    (written : (Statement.updateStream id status instanceId).run jsonb s.streams = some s'.streams)
    (key : String) :
    s'.row key = (s.row key).map fun row =>
      if row.id = id then { row with status := status, instanceId := instanceId } else row := by
  simp only [Statement.run, Option.some.injEq] at written
  rw [Stores.row, Stores.row, ← written, List.find?_map]
  congr 2
  funext row
  simp only [Function.comp]
  split <;> rfl

/-- Stores that agree still do when nothing shows. -/
theorem Agree.quiet (h : Agree jsonb s) (quiet : Quiet s s') : Agree jsonb s' := by
  intro id registered
  rw [Registered, quiet.metadata] at registered
  obtain ⟨row, found, same⟩ := h id registered
  exact ⟨row, by rw [Stores.row, quiet.streams]; exact found, by rw [quiet.metadata]; exact same⟩

theorem Agree.made (h : Agree jsonb s)
    (made : Made jsonb streamId subreddit config instanceId s s') :
    Agree jsonb s' ↔ ∀ row, s.row streamId = some row →
      row.status = "starting" ∧ row.instanceId = orNone instanceId ∧ row.config = jsonb config := by
  obtain ⟨createdAt, updatedAt, metadata⟩ := made.metadata
  have table := row_insert made.streams
  constructor
  · intro agree row found
    obtain ⟨row', found', same⟩ := agree streamId (by
      rw [Registered, metadata, if_pos rfl]
      exact @Hash.ne_nil_of_get _ "status" "starting" (by simp [newMeta]))
    rw [table, if_pos rfl, found] at found'
    cases found'
    rw [metadata, if_pos rfl] at same
    exact matches_newMeta.mp same
  · intro keeps id registered
    by_cases same : id = streamId
    · subst same
      rw [metadata, if_pos rfl]
      refine ⟨_, (table id).trans (if_pos rfl), matches_newMeta.mpr ?_⟩
      cases found : s.row id with
      | none => exact ⟨rfl, rfl, rfl⟩
      | some row => exact keeps row found
    · rw [Registered, metadata, if_neg same] at registered
      obtain ⟨row, found, same'⟩ := h id registered
      exact ⟨row, (table id).trans ((if_neg same).trans found), by rw [metadata, if_neg same]; exact same'⟩

theorem Agree.changed (h : Agree jsonb s) (registered : Registered s streamId)
    (changed : Changed jsonb streamId status instanceId s s') :
    Agree jsonb s' ↔ Names instanceId (s.redis.hashes (metaKey streamId)) := by
  obtain ⟨updatedAt, metadata⟩ := changed.metadata
  have table := row_update changed.streams
  obtain ⟨row, found, same⟩ := h streamId registered
  have named : row.id = streamId := by simpa using List.find?_some found
  have after := table streamId
  rw [found, Option.map_some, if_pos named] at after
  have decides := matches_statusMapping status instanceId updatedAt same
  constructor
  · intro agree
    obtain ⟨row', found', same'⟩ := agree streamId (by
      rw [Registered, metadata, if_pos rfl]
      exact @Hash.ne_nil_of_get _ "status" status (by
        cases instanceId <;> simp [statusMapping]))
    rw [after] at found'
    cases found'
    rw [metadata, if_pos rfl] at same'
    exact decides.mp same'
  · intro keeps id registered'
    by_cases here : id = streamId
    · subst here
      rw [metadata, if_pos rfl]
      exact ⟨_, after, decides.mpr keeps⟩
    · rw [Registered, metadata, if_neg here] at registered'
      obtain ⟨row', found', same'⟩ := h id registered'
      have other : row'.id ≠ streamId := by
        have : row'.id = id := by simpa using List.find?_some found'
        exact this ▸ here
      exact ⟨row', by rw [table, found', Option.map_some, if_neg other],
        by rw [metadata, if_neg here]; exact same'⟩

/-- One call keeps the stores in agreement exactly when it meets its condition. -/
theorem Agree.call {call : StreamCall} {out : Except PyExc Unit} (h : Agree jsonb s) (known : Known s)
    (registered : ∀ streamId, call.target = some streamId → Registered s streamId)
    (ran : Yields jsonb call.program s out s') :
    Known s' ∧ (Agree jsonb s' ↔ Keeps jsonb call s) := by
  cases call with
  | createStream subreddit config instanceId =>
      obtain ⟨out', ran⟩ : ∃ out', Yields jsonb (createStream subreddit config instanceId) s out' s' := by
        rcases yields_bind ran with ⟨e, -, raised⟩ | ⟨data, s₁, first, rest⟩
        · exact ⟨_, raised⟩
        · obtain ⟨-, rfl⟩ := yields_ret rest
          exact ⟨_, first⟩
      obtain ⟨known', quiet | made⟩ := createStream_yields known ran
      · exact ⟨known', iff_of_true (h.quiet quiet.1) quiet.2⟩
      obtain ⟨streamId, s₁, named, free, resolved, quiet, made⟩ := made
      have rows : s₁.row streamId = s.row streamId := by rw [Stores.row, quiet.streams, Stores.row]
      refine ⟨known', (h.quiet quiet).made made |>.trans ⟨fun keeps _ id row held _ found => ?_,
        fun keeps row found => ?_⟩⟩
      · rcases resolved with same | ⟨none, -⟩
        · rw [same] at held
          cases held
          exact keeps row (rows.trans found)
        · rw [none] at held
          cases held
      · rw [rows] at found
        rcases resolved with same | ⟨-, none⟩
        · exact keeps free streamId row same named found
        · rw [none] at found
          cases found
  | updateStatus streamId status instanceId =>
      have changed := updateStatus_yields ran
      exact ⟨changed.known known (known.metadata _ (registered _ rfl)),
        h.changed (registered _ rfl) changed⟩
  | requestStop streamId =>
      obtain ⟨s₁, quiet, changed, known'⟩ := requestStop_yields (registered _ rfl) ran
      refine ⟨known' known, iff_of_true ?_ trivial⟩
      refine ((h.quiet quiet).changed ?_ changed).mpr ?_
      · rw [Registered, quiet.metadata]
        exact registered _ rfl
      · rw [quiet.metadata, Store.hget]
        cases instance_ : orNone ((s.redis.hashes (metaKey streamId)).get "instance_id") with
        | none => exact instance_
        | some instanceId => exact (orNone_eq_some.mp instance_).2
  | deleteStream streamId expectedStatus expectedUpdatedAt purgeCheckpoint =>
      obtain ⟨out', ran⟩ : ∃ out', Yields jsonb (deleteStream streamId expectedStatus
          expectedUpdatedAt purgeCheckpoint) s out' s' := by
        rcases yields_bind ran with ⟨e, -, raised⟩ | ⟨data, s₁, first, rest⟩
        · exact ⟨_, raised⟩
        · obtain ⟨-, rfl⟩ := yields_ret rest
          exact ⟨_, first⟩
      obtain ⟨known', streams, metadata⟩ := deleteStream_yields known (registered _ rfl) ran
      refine ⟨known', iff_of_true (fun id there => ?_) trivial⟩
      rcases metadata id with same | gone
      · rw [Registered, same] at there
        obtain ⟨row, found, matches_⟩ := h id there
        exact ⟨row, by rw [Stores.row, streams]; exact found, by rw [same]; exact matches_⟩
      · exact (there gone).elim

/-- Over any calls in a row, the stores agree behind every call exactly when every call met its
condition: a stream is registered anew only where its old row says the same, and a status write
names the instance unless there is none. -/
theorem registries_agree {steps : List (CallStep Json)} {s : Stores Json}
    (h : History jsonb steps s) :
    (∀ step ∈ steps, Agree jsonb step.after) ↔ ∀ step ∈ steps, Keeps jsonb step.call step.before := by
  have run : ((∀ step ∈ steps, Agree jsonb step.after) → Agree jsonb s ∧ Known s) ∧
      ((∀ step ∈ steps, Agree jsonb step.after) ↔
        ∀ step ∈ steps, Keeps jsonb step.call step.before) := by
    induction h with
    | start =>
        refine ⟨fun _ => ⟨fun id there => (there rfl).elim, ?_⟩, by simp⟩
        exact ⟨nofun, nofun, fun id there => (there rfl).elim, nofun⟩
    | next _ registered ran ih =>
        obtain ⟨agree, same⟩ := ih
        simp only [List.forall_mem_append, List.forall_mem_singleton]
        refine ⟨fun ⟨before, after⟩ => ?_, ?_⟩
        · obtain ⟨agrees, known⟩ := agree before
          exact ⟨after, (agrees.call known registered ⟨_, ran⟩).1⟩
        · rw [← same]
          refine and_congr_right fun before => ?_
          obtain ⟨agrees, known⟩ := agree before
          exact (agrees.call known registered ⟨_, ran⟩).2
  exact run.2

/-- Replay calls, each with the choices for its effects. -/
def replayCalls (jsonb : String → Json) : List (StreamCall × List String) →
    List (CallStep Json) → Stores Json → Option (List (CallStep Json))
  | [], steps, _ => some steps
  | (call, choices) :: calls, steps, s =>
      if call.target.all fun streamId => s.redis.hashes (metaKey streamId) ≠ [] then
        (Runs.replay (answer jsonb) call.program choices s).bind fun (_, _, s') =>
          replayCalls jsonb calls (steps ++ [⟨call, s, s'⟩]) s'
      else none

theorem History.replayed {calls : List (StreamCall × List String)} {steps steps' : List (CallStep Json)}
    (h : History jsonb steps s) (done : replayCalls jsonb calls steps s = some steps') :
    ∃ s', History jsonb steps' s' := by
  induction calls generalizing steps s with
  | nil => cases done; exact ⟨s, h⟩
  | cons first calls ih =>
      obtain ⟨call, choices⟩ := first
      simp only [replayCalls] at done
      split at done
      · rename_i registered
        obtain ⟨⟨trace, out, s'⟩, ran, rest⟩ := Option.bind_eq_some_iff.mp done
        refine ih (h.next (fun streamId same => ?_) (Runs.of_replay ran)) rest
        simpa [Registered, same] using registered
      · cases done

theorem History.of_replay_map {γ : Type*} {calls : List (StreamCall × List String)}
    {f : List (CallStep Json) → γ} {c : γ} (done : (replayCalls jsonb calls [] {}).map f = some c) :
    ∃ steps s, History jsonb steps s ∧ f steps = c := by
  obtain ⟨steps, ran, seen⟩ := Option.map_eq_some_iff.mp done
  obtain ⟨s, h⟩ := History.start.replayed ran
  exact ⟨steps, s, h, seen⟩

/-- A stream is registered for an instance; its status is then written without one. -/
theorem stopped_row_loses_instance :
    ¬ ∀ steps (s : Stores String), History id steps s → ∀ step ∈ steps, Agree id step.after := by
  intro agree
  have run : (replayCalls (id : String → String) [
      (.createStream "news" "{}" (some "A"), ["", "u1", "", "", "t0", "t0", "", "", "", ""]),
      (.updateStatus "u1" "stopped" none, ["t1", "", ""])] [] {}).map (fun steps =>
        steps.getLast?.map fun step => (step.after.redis.hget (metaKey "u1") "instance_id",
          (step.after.row "u1").map StreamRow.instanceId)) =
      some (some (some "A", some none)) := by decide +kernel
  obtain ⟨steps, s, h, seen⟩ := History.of_replay_map run
  obtain ⟨step, last, seen⟩ := Option.map_eq_some_iff.mp seen
  simp only [Prod.mk.injEq, Option.map_eq_some_iff] at seen
  obtain ⟨named, row, found, lost⟩ := seen
  obtain ⟨row', found', same⟩ := agree steps s h step (List.mem_of_getLast? last) "u1"
    (Hash.ne_nil_of_get named)
  rw [found] at found'
  cases found'
  have instanceId := same.instanceId
  rw [Store.hget] at named
  rw [named, lost] at instanceId
  cases instanceId

/-- The same stream, where the status write names the instance. -/
theorem active_row_agrees : ∃ steps : List (CallStep String), steps.length = 2 ∧
    ∀ step ∈ steps, Agree id step.after := by
  have run : (replayCalls (id : String → String) [
      (.createStream "news" "{}" (some "A"), ["", "u1", "", "", "t0", "t0", "", "", "", ""]),
      (.updateStatus "u1" "active" (some "A"), ["t1", "", "", ""])] [] {}).map (fun steps =>
        steps.map fun step => (step.call, step.before.redis.get (identityKey "news"))) =
      some [(.createStream "news" "{}" (some "A"), none),
        (.updateStatus "u1" "active" (some "A"), some "u1")] := by decide +kernel
  obtain ⟨steps, s, h, seen⟩ := History.of_replay_map run
  have number := congrArg List.length seen
  refine ⟨steps, by simpa using number, (registries_agree h).mpr fun step there => ?_⟩
  have seen_step := List.mem_map_of_mem there (f := fun step : CallStep String =>
    (step.call, step.before.redis.get (identityKey "news")))
  rw [seen, List.mem_cons, List.mem_singleton, Prod.mk.injEq, Prod.mk.injEq] at seen_step
  rcases seen_step with ⟨call, identity⟩ | ⟨call, -⟩
  · rw [call]
    intro _ id row held
    rw [identity] at held
    cases held
  · rw [call]
    exact (by decide : "A" ≠ "")

end RedditKafka.StreamsTable
