import RedditKafka.Async.Triples
import RedditKafka.Manager.CreateStream
import RedditKafka.Manager.StartedTask
import RedditKafka.Manager.StoredIdentities

/-!
# Crashes and the claim on a subreddit

An instance crashes with all its calls and tasks, and what Redis stores stays.
When stop requests and cleanup sweeps free the subreddit of a stream again, and
when they never do.
-/
namespace RedditKafka
open Async Redis StreamRegistry StreamManager

/-- The thread belongs to a `start_stream` call on the instance. -/
def Thread.on (t : Thread) (instanceId : String) (s : Service) : Bool :=
  (t.call.bind s.calls).map Prod.fst = some instanceId

/-- A stop request, or a cleanup sweep. -/
def Thread.operates : Thread → Bool
  | .stop _ | .sweep _ => true
  | _ => false

/-- The instance crashes: its calls and their tasks vanish, and so do the stop requests and sweeps
that were running on it. -/
def crash (instanceId : String) (gone : Thread → Bool) (c : ServiceConfig) : ServiceConfig where
  state := { c.state with
    tasks := fun call role =>
      if (Thread.start call).on instanceId c.state then .absent else c.state.tasks call role
    locals := Function.update c.state.locals instanceId fun _ => none }
  threads t :=
    if t.on instanceId c.state || (t.operates && gone t) then none else c.threads t

/-- What is reached by runs with any failures, and crashes of any instances between them. -/
inductive Reached (kafkaTopic : String) : ServiceConfig → Prop
  | start : Reached kafkaTopic (Config.initial {})
  | step {c d : ServiceConfig} {a : Action Thread Turn ServiceEvent} :
      Reached kafkaTopic c → (serviceMachine true kafkaTopic).next a c = some d → Reached kafkaTopic d
  | crash {c : ServiceConfig} (instanceId : String) (gone : Thread → Bool) :
      Reached kafkaTopic c → Reached kafkaTopic (crash instanceId gone c)

/-- Every `create_stream` for the subreddit can go through. -/
def Creatable (subreddit : String) (s : Service) : Prop :=
  ∀ call config instanceId, ∃ trace data s', ¬ Failed trace ∧
    Alone (.start call) (createStream subreddit config (some instanceId)) s trace (.ok data) s'

/-- No `create_stream` for the subreddit does. -/
def Refused (subreddit : String) (s : Service) : Prop :=
  ∀ call config instanceId trace out s',
    Alone (.start call) (createStream subreddit config (some instanceId)) s trace out s' →
      ∃ e, out = .error e

/-- Stop requests and cleanup sweeps without failures lead to a state in which the subreddit can
be created. -/
def Recovers (kafkaTopic subreddit : String) (c : ServiceConfig) : Prop :=
  ∃ d, (serviceMachine false kafkaTopic).ReachesUnder (fun t _ _ => t.operates = true) c d ∧
    Creatable subreddit d.state

def Dead (data : Hash) : Prop := ∃ status ∈ DeadStreamCleanup.deadStatuses, data.get "status" = some status

/-- The claim on the subreddit is gone, or a sweep finds the stream that holds it dead. -/
def Retirable (subreddit : String) (r : Store) : Prop :=
  r.get (subredditKey subreddit) = none ∨ ∃ streamId ∈ r.sets allKey,
    r.get (subredditKey subreddit) = some streamId ∧
      orNone (r.hget (metaKey streamId) "id") = some streamId ∧
      orNone (r.hget (metaKey streamId) "subreddit") = some subreddit ∧
      Dead (r.hashes (metaKey streamId))

/-- The command writes a terminal status to the stream, or deletes it whatever its status is. -/
def RedisCmd.retires (streamId : String) : RedisCmd → Bool
  | .hset key mapping =>
      key = metaKey streamId &&
        (mapping.lookup "status").any fun status => DeadStreamCleanup.deadStatuses.contains status
  | .eval (.deleteStreamIfUnchanged key _ _ _ _ _ _ expectedStatus _ _) =>
      key = metaKey streamId && !DeadStreamCleanup.deadStatuses.contains expectedStatus
  | _ => false

def Effect.retires (streamId : String) : Effect → Bool
  | .redis c => c.retires streamId
  | _ => false

namespace CrashRecovery

/-! ## What a command does to a claim -/

variable {may : String → Permission → Prop} {kafkaTopic subreddit streamId : String}

/-- Claims do not expire. -/
def Lasting (r : Store) : Prop :=
  ∀ subreddit e, r.entry (subredditKey subreddit) = some e → e.expiresAt = none

/-- A claim stays as it is, is made for good, or goes with the stream that held it. -/
theorem claim_cases {c : RedisCmd} (used : RegistryCommand may c ∨ LeaseCommand c) (subreddit : String)
    (r : Store) :
    (c.run r).2.entry (subredditKey subreddit) = r.entry (subredditKey subreddit) ∨
    (r.get (subredditKey subreddit) = none ∧
      ∃ value, (c.run r).2.entry (subredditKey subreddit) = some ⟨value, none⟩) ∨
    ∃ id name status updatedAt purge, c = .eval (deleteScript id name status updatedAt purge) ∧
      Removed id name status updatedAt purge r (c.run r).2 ∧
      r.get (subredditKey subreddit) = some id ∧ (c.run r).2.entry (subredditKey subreddit) = none := by
  rcases used with registry | lease
  · cases registry with
    | claim name value =>
        rcases setNx_cases (subredditKey name) value r with ⟨-, ran⟩ | ⟨free, ran⟩
        · exact .inl (by rw [ran])
        · by_cases same : subreddit = name
          · subst same
            exact .inr (.inl ⟨free, value, by rw [ran, Store.entry_set, if_pos rfl]⟩)
          · exact .inl (by rw [ran, Store.entry_set, if_neg (by simpa using same)])
    | identity name value =>
        rcases setNx_cases (identityKey name) value r with ⟨-, ran⟩ | ⟨-, ran⟩
        · exact .inl (by rw [ran])
        · exact .inl (by rw [ran, Store.entry_set, if_neg (by simp)])
    | delete id name status updatedAt purge =>
        rcases deleteScript_cases id name status updatedAt purge r with same | ⟨-, removed⟩
        · exact .inl (by simp only [RedisCmd.run, same])
        · have after := removed.claim subreddit
          split at after
          · rename_i held
            obtain ⟨-, held⟩ := held
            exact .inr (.inr ⟨id, name, status, updatedAt, purge, rfl, removed, held,
              Option.map_eq_none_iff.mp after⟩)
          · refine .inl ?_
            cases left : (RedisCmd.run (.eval (deleteScript id name status updatedAt purge)) r).2.entry
                (subredditKey subreddit) with
            | some e => exact ((deleteScript_entries id name status updatedAt purge r).1 _ _ left).symm
            | none =>
                have none : r.get (subredditKey subreddit) = none := by
                  rw [← after]
                  exact Option.map_eq_none_iff.mpr left
                exact (Option.map_eq_none_iff.mp none).symm
    | heartbeat =>
        refine .inl ?_
        simp only [RedisCmd.run, Script.run]
        split_ifs <;> simp
    | _ => exact .inl (by simp [RedisCmd.run])
  · refine .inl ?_
    cases lease with
    | acquire =>
        simp only [RedisCmd.run]
        split_ifs <;> simp [Store.entry_setEx]
    | refresh name token ttl =>
        simp only [RedisCmd.run, Script.run]
        split
        · exact Store.entry_expire_of_ne _ (by simp)
        · rfl
    | release =>
        simp only [RedisCmd.run, Script.run]
        split_ifs <;> simp

theorem Lasting.run {c : RedisCmd} {r : Store} (h : Lasting r)
    (used : RegistryCommand may c ∨ LeaseCommand c) : Lasting (c.run r).2 := by
  intro name e held
  rcases claim_cases used name r with same | ⟨-, value, made⟩ | ⟨_, _, _, _, _, -, -, -, gone⟩
  · exact h name e (same ▸ held)
  · rw [made] at held
    cases held
    rfl
  · rw [gone] at held
    cases held

/-- Only a terminal status makes a stream dead. -/
theorem dead_of_run {c : RedisCmd} (used : RegistryCommand may c ∨ LeaseCommand c)
    (spared : c.retires streamId = false) {r : Store}
    (dead : Dead ((c.run r).2.hashes (metaKey streamId))) : Dead (r.hashes (metaKey streamId)) := by
  rcases used with registry | lease
  · cases registry with
    | metadata id name config instanceId createdAt updatedAt =>
        obtain ⟨status, listed, held⟩ := dead
        by_cases same : streamId = id
        · simp [RedisCmd.run, same, newMeta] at held
          subst held
          simp [DeadStreamCleanup.deadStatuses] at listed
        · simp only [RedisCmd.run, Store.hset_hashes, Layout.key_inj, same, and_false, if_false] at held
          exact ⟨status, listed, held⟩
    | status id written updatedAt instanceId =>
        obtain ⟨status, listed, held⟩ := dead
        by_cases same : streamId = id
        · subst same
          have lookup := (Service.statusMapping_lookup written updatedAt instanceId).1
          have stays : status = written := by
            cases instanceId <;> simpa [RedisCmd.run, statusMapping, eq_comm] using held
          subst stays
          simp [RedisCmd.retires, lookup, listed] at spared
        · simp only [RedisCmd.run, Store.hset_hashes, Layout.key_inj, same, and_false, if_false] at held
          exact ⟨status, listed, held⟩
    | delete id name status updatedAt purge =>
        rcases deleteScript_cases id name status updatedAt purge r with same | ⟨-, removed⟩
        · simpa only [RedisCmd.run, same] using dead
        · simp only [RedisCmd.run, removed.metadata] at dead
          split at dead
          · obtain ⟨_, -, held⟩ := dead
            cases held
          · exact dead
    | heartbeat id instanceId now =>
        simp only [RedisCmd.run, Script.run] at dead
        split_ifs at dead
        · exact dead
        · exact dead
        · obtain ⟨status, listed, held⟩ := dead
          refine ⟨status, listed, ?_⟩
          by_cases same : streamId = id <;> simpa [same] using held
    | claim | identity =>
        simp only [RedisCmd.run] at dead
        split at dead <;> exact dead
    | _ => simpa [RedisCmd.run] using dead
  · cases lease with
    | acquire =>
        simp only [RedisCmd.run] at dead
        split_ifs at dead <;> exact dead
    | refresh name token ttl =>
        simp only [RedisCmd.run, Script.run] at dead
        split at dead
        · rwa [(Store.expire_aside (by simp) _).1] at dead
        · exact dead
    | release =>
        simp only [RedisCmd.run, Script.run] at dead
        split_ifs at dead <;> simpa using dead

/-- The stream holds the claim on the subreddit, and is not dead. -/
structure Holds (subreddit streamId : String) (r : Store) : Prop where
  claim : r.get (subredditKey subreddit) = some streamId
  alive : ¬ Dead (r.hashes (metaKey streamId))

theorem Holds.run {c : RedisCmd} {r : Store} (h : Holds subreddit streamId r)
    (used : RegistryCommand may c ∨ LeaseCommand c) (spared : c.retires streamId = false) :
    Holds subreddit streamId (c.run r).2 := by
  refine ⟨?_, fun dead => h.alive (dead_of_run used spared dead)⟩
  rcases claim_cases used subreddit r with same | ⟨free, -⟩ |
    ⟨id, name, status, updatedAt, purge, rfl, removed, held, -⟩
  · rw [Store.get, same]
    exact h.claim
  · cases free.symm.trans h.claim
  · -- only a dead stream passes the guards of such a deletion
    cases held.symm.trans h.claim
    have listed : status ∈ DeadStreamCleanup.deadStatuses := by
      simpa [RedisCmd.retires, List.contains_iff_mem] using spared
    have named : status ≠ "" := by
      rintro rfl
      simp [DeadStreamCleanup.deadStatuses] at listed
    exact (h.alive ⟨status, listed, removed.status named⟩).elim

theorem Lasting.elapse {r : Store} (h : Lasting r) (n : Nat) : Lasting (r.elapse n) :=
  fun name e held => h name e (Store.entry_elapse held)

theorem Holds.elapse {r : Store} (h : Holds subreddit streamId r) (lasting : Lasting r) (n : Nat) :
    Holds subreddit streamId (r.elapse n) := by
  refine ⟨?_, h.alive⟩
  obtain ⟨e, held, value⟩ := Store.get_eq_some.mp h.claim
  exact Store.get_eq_some.mpr ⟨e, Store.entry_elapse_of_lasting held (lasting _ _ held), value⟩

/-! ## Runs with crashes -/

variable {faulty : Bool} {ok : Thread → Effect → Service → Prop} {c d : ServiceConfig}

/-- What is known of a configuration, also behind crashes. -/
structure Sane (kafkaTopic : String) (c : ServiceConfig) : Prop where
  orderly : Orderly (serviceMachine true kafkaTopic) storedDiscipline (fun _ _ _ => True) c
  footed : ∀ t p, c.threads t = some p → p.Uses (ServiceEffect (t.may c.state))
  lasting : Lasting c.state.redis
  finite : {t | c.threads t ≠ none}.Finite

/-- A step of the service executes a command that its thread may issue, or leaves Redis to time. -/
theorem step_store (footed : ∀ t p, c.threads t = some p → p.Uses (ServiceEffect (t.may c.state)))
    {a : Action Thread Turn ServiceEvent}
    (moved : (serviceMachine faulty kafkaTopic).next a c = some d) :
    (∃ t turn cmd, a = .call t turn ∧ c.Awaits t (.redis cmd) ∧
      ServiceEffect (t.may c.state) (.redis cmd) ∧ d.state.redis = (cmd.run c.state.redis).2) ∨
      ∃ n, d.state.redis = c.state.redis.elapse n := by
  rcases Service.next_cases moved with ⟨t, turn, cmd, rfl, waits, same⟩ | aside
  · obtain ⟨k, running⟩ := waits
    exact .inl ⟨t, turn, cmd, rfl, ⟨k, running⟩, (footed t _ running).1, by rw [same]; simp⟩
  · exact .inr aside.redis

theorem Sane.initial : Sane kafkaTopic (Config.initial {}) where
  orderly := Orderly.initial ⟨fun _ held => (by cases held), by simp⟩
  footed _ _ running := by cases running
  lasting _ _ held := by cases held
  finite := by simp [Config.initial]

theorem Sane.step (h : Sane kafkaTopic c) {a : Action Thread Turn ServiceEvent}
    (moved : (serviceMachine true kafkaTopic).next a c = some d) : Sane kafkaTopic d := by
  have reached : (serviceMachine true kafkaTopic).ReachesUnder (fun _ _ _ => True) c d :=
    .step .refl (fun _ _ _ _ _ => trivial) moved
  refine ⟨identities_sound.reaches h.orderly reached,
    fun t p => Service.footprint h.footed reached, ?_, reached.finite_threads h.finite⟩
  rcases step_store h.footed moved with ⟨t, -, cmd, -, -, used, same⟩ | ⟨n, same⟩
  · rw [same]
    exact h.lasting.run used
  · rw [same]
    exact h.lasting.elapse n

theorem Sane.crash (h : Sane kafkaTopic c) (instanceId : String) (gone : Thread → Bool) :
    Sane kafkaTopic (crash instanceId gone c) := by
  have survives {t : Thread} {p : Program Unit} (running : (RedditKafka.crash instanceId gone c).threads t = some p) :
      c.threads t = some p := by
    simp only [RedditKafka.crash] at running
    split at running
    · cases running
    · exact running
  have identified : (RedditKafka.crash instanceId gone c).state.Identified :=
    h.orderly.inv.same rfl fun _ => rfl
  refine ⟨⟨identified, fun t p running => ?_⟩, fun t p running => ?_, h.lasting,
    h.finite.subset fun t running => ?_⟩
  · exact (h.orderly.threads t p (survives running)).kept trivial identified fun _ _ _ _ _ _ => trivial
  · refine (h.footed t p (survives running)).mono fun e used => used.mono fun _ _ may => ?_
    cases t <;> exact may
  · obtain ⟨p, running⟩ := Option.ne_none_iff_exists'.mp running
    rw [Set.mem_ofPred_eq, survives running]
    nofun

theorem sane_of_reached (h : Reached kafkaTopic c) : Sane kafkaTopic c := by
  induction h with
  | start => exact .initial
  | step _ moved ih => exact ih.step moved
  | crash instanceId gone _ ih => exact ih.crash instanceId gone

/-- As long as nobody writes a terminal status to it or deletes it, a stream keeps its claim. -/
theorem holds_of_reaches (sane : Sane kafkaTopic c) (holds : Holds subreddit streamId c.state.redis)
    (h : (serviceMachine faulty kafkaTopic).ReachesUnder (fun _ e _ => e.retires streamId = false) c d) :
    Holds subreddit streamId d.state.redis ∧ Lasting d.state.redis := by
  induction h with
  | refl => exact ⟨holds, sane.lasting⟩
  | step reached allowed moved ih =>
      obtain ⟨holds, lasting⟩ := ih
      rcases step_store (fun t p => Service.footprint sane.footed reached) moved with
        ⟨t, turn, cmd, rfl, waits, used, same⟩ | ⟨n, same⟩
      · rw [same]
        exact ⟨holds.run used (allowed t turn _ rfl waits), lasting.run used⟩
      · rw [same]
        exact ⟨holds.elapse lasting n, lasting.elapse n⟩

/-- Stop requests and sweeps neither write a terminal status nor delete a live stream. -/
theorem operates_spares {t : Thread} (operates : t.operates = true) {s : Service} {e : Effect}
    (used : ServiceEffect (t.may s) e) : e.retires streamId = false := by
  cases e with
  | redis c =>
      rcases used with registry | lease
      · cases registry with
        | status id status updatedAt instanceId written =>
            have lookup := (Service.statusMapping_lookup status updatedAt instanceId).1
            cases t with
            | start | task => cases operates
            | sweep => cases written
            | stop request =>
                rcases written.2 with same | same <;> cases same
                simp [Effect.retires, RedisCmd.retires, lookup, DeadStreamCleanup.deadStatuses]
        | delete id name status updatedAt purge guarded =>
            rcases guarded with listed | may
            · simp [Effect.retires, RedisCmd.retires, listed]
            · cases t with
              | start | task => cases operates
              | sweep => cases may
              | stop request => rcases may.2 with same | same <;> cases same
        | metadata id name config instanceId createdAt updatedAt =>
            have lookup : (newMeta id name config instanceId createdAt updatedAt).lookup "status" =
                some "starting" := rfl
            simp [Effect.retires, RedisCmd.retires, lookup, DeadStreamCleanup.deadStatuses]
        | checkpoint id mapping silent => simp [Effect.retires, RedisCmd.retires, silent]
        | _ => rfl
      · cases lease <;> rfl
  | _ => rfl

theorem refused_of_claim {s : Service} (claim : s.redis.get (subredditKey subreddit) ≠ none) :
    Refused subreddit s := by
  intro call config instanceId trace out s' alone
  cases createStream_alone alone with
  | refused e _ _ raised => exact ⟨e, raised⟩
  | unclaimed _ free | halfMade _ free | registered _ _ _ free => exact (free claim).elim

/-! ## A creator by itself -/

/-- An effect of a creator. -/
abbrev Creates : Effect → Prop := RegistryEffect fun _ _ => True

theorem persist_straight : persist.Straight Creates :=
  Prog.Straight.rescue (.perform trivial) fun e => by split <;> trivial

theorem createStream_straight (config : String) (named : Option String) :
    (createStream subreddit config named).Straight Creates := by
  have once {c : RedisCmd} (used : RegistryCommand (fun _ _ => True) c) :
      (redis c).Straight Creates := .perform used
  have register (streamId : String) : (register streamId subreddit config named).Straight Creates := by
    refine .bind (.perform trivial) fun _ => .bind (.perform trivial) fun _ =>
      .bind (once (.metadata _ _ _ _ _ _ trivial)) fun _ => .bind (once (.list _)) fun _ =>
        .bind ?_ fun _ => persist_straight.bind fun _ => by trivial
    unfold indexInstance
    split
    · trivial
    · exact once (.listInstance _ _)
  refine .bind (once (.get _)) fun existing => ?_
  split
  · exact .bind (once (.identity _ _)) fun _ => by trivial
  refine .bind (.perform trivial) fun candidateId => .bind ?_ fun streamId => ?_
  · refine .bind (once (.identity _ _)) fun created => ?_
    split
    · trivial
    · exact once (.get _)
  split
  · refine .bind (once (.claim _ _)) fun claimed => ?_
    split
    · exact register _
    · exact .bind (once (.get _)) fun _ => by trivial
  · trivial

/-- Everything that a creator awaits can be answered, as long as ids do not run out. -/
theorem creates_answered (call : Nat) (e : Effect) (s : Service) (creates : Creates e)
    (finite : {id | s.owner id ≠ none}.Finite) :
    ∃ turn r s', turn.breaks e = false ∧ Service.answer true (.start call) e turn s = some (r, s') ∧
      {id | s'.owner id ≠ none}.Finite := by
  cases e with
  | redis c => exact ⟨.answered, _, _, rfl, rfl, by simpa using finite⟩
  | persist => exact ⟨.answered, _, _, rfl, rfl, finite⟩
  | nowIso => exact ⟨.named "", _, _, rfl, rfl, finite⟩
  | uuid4 =>
      obtain ⟨id, named, unused⟩ := Service.fresh_id finite
      have answered : Service.answer true (.start call) .uuid4 (.named id) s = some (.ok id, { s with
          owner := Function.update s.owner id (some (((s.calls call).map Prod.snd).getD "")) }) := by
        simp [Service.answer, named, unused]
      refine ⟨.named id, _, _, rfl, answered, ?_⟩
      refine (finite.insert id).subset fun other generated => ?_
      by_cases same : other = id
      · exact .inl same
      · exact .inr (by simpa [same] using generated)
  | _ => cases creates

theorem creatable_of_free {s : Service} (h : s.Identified)
    (free : s.redis.get (subredditKey subreddit) = none) : Creatable subreddit s := by
  intro call config instanceId
  obtain ⟨trace, out, s', alone, answered⟩ := Runs.of_straight _ (creates_answered call)
    (createStream_straight config (some instanceId)) h.finite
  have intact : ¬ Failed trace := by
    rintro ⟨entry, there, breaks⟩
    cases (answered entry there).symm.trans breaks
  cases createStream_alone alone with
  | refused _ taken | halfMade _ _ _ failed => first | exact (taken free).elim | exact (intact failed).elim
  | unclaimed _ _ _ resolved _ failed =>
      rcases failed with failed | unusable
      · exact (intact failed).elim
      · rcases resolved.redis with same | ⟨-, id, named, -, same⟩
        · exact (h.usable subreddit (same ▸ unusable)).elim
        · simp [same, named] at unusable
  | registered _ _ _ _ _ _ _ _ _ _ returned => exact ⟨trace, _, s', intact, returned ▸ alone⟩

/-! ## A sweep by itself -/

section sweep

variable {t : Thread} {α : Type} {data : Hash} {P : Service → Prop} {r : Store} {gone : Prop}

def Freed (subreddit : String) (r : Store) : Prop := r.get (subredditKey subreddit) = none

/-- The stream holds the claim, and this is its metadata. -/
def Marked (subreddit streamId : String) (data : Hash) (r : Store) : Prop :=
  r.get (subredditKey subreddit) = some streamId ∧ r.hashes (metaKey streamId) = data

/-- The claim is gone, or the stream still has it, unless it was `gone` before. -/
def Standing (gone : Prop) (subreddit streamId : String) (data : Hash) (r : Store) : Prop :=
  Freed subreddit r ∨ ¬ gone ∧ Marked subreddit streamId data r

/-- The guard of a deletion on this field passes for this metadata. -/
def Passes (data : Hash) (field expected : String) : Prop :=
  expected ≠ "" → data.get field = some expected

/-- After a deletion of `id` with these guards: the stream stands, or the deletion was its own. -/
def Deleted (gone : Prop) (subreddit streamId : String) (data : Hash) (id status updatedAt : String)
    (r : Store) : Prop :=
  Standing gone subreddit streamId data r ∧ (id = streamId → Passes data "status" status →
    Passes data "updated_at" updatedAt → Freed subreddit r)

/-- What runs without failures do. -/
abbrev Calm (t : Thread) (P : Service → Prop) (p : Program α) (Q : Except PyExc α → Service → Prop) : Prop :=
  Triple (Service.answer false t) (fun e turn => turn.breaks e = false) P p Q

theorem calm_redis {c : RedisCmd} {Q : Except PyExc c.Reply → Service → Prop}
    (post : ∀ s, P s → Q (c.run s.redis).1 (s.execute t c)) : Calm t P (redis c) Q := by
  refine Triple.perform fun s turn r s' start intact answered => ?_
  cases turn with
  | answered =>
      cases answered
      exact post s start
  | raised | raisedAfter => cases intact
  | named | worker => cases answered

theorem listStreams_marks (present : data ≠ []) :
    Calm t (fun s => Marked subreddit streamId data s.redis ∧ streamId ∈ s.redis.sets allKey)
      listStreams
      fun r s => ∃ rows, r = .ok rows ∧ Marked subreddit streamId data s.redis ∧ data ∈ rows := by
  refine Triple.bind (R := fun r s => ∃ ids, r = .ok ids ∧ streamId ∈ ids ∧
    Marked subreddit streamId data s.redis) (calm_redis fun s start => ⟨_, rfl, start.2, start.1⟩)
    (by simp) fun ids => ?_
  split
  · refine Triple.ret fun s start => ?_
    simp_all
  refine Triple.bind (R := fun r s => ∃ rows, r = .ok rows ∧ data ∈ rows ∧
    Marked subreddit streamId data s.redis) (calm_redis fun s start => ?_) (by simp) fun rows => ?_
  · obtain ⟨_, same, listed, marked⟩ := start
    cases same
    exact ⟨_, rfl, List.mem_map.mpr ⟨_, List.mem_map_of_mem listed, marked.2⟩, marked⟩
  refine Triple.bind (R := fun r s => r = .ok () ∧ data ∈ rows ∧
    Marked subreddit streamId data s.redis) ?_ (by simp) fun _ => Triple.ret fun s start =>
      ⟨_, rfl, start.2.2, List.mem_filter.mpr ⟨start.2.1, by simpa using present⟩⟩
  unfold dropStale
  split
  · exact Triple.ret fun s start => by simp_all
  · refine calm_redis fun s start => ?_
    obtain ⟨_, same, found, marked⟩ := start
    cases same
    exact ⟨rfl, found, by simpa [Marked, RedisCmd.run] using marked⟩

/-- A deletion releases the claim of its own stream, and leaves that of another one alone. -/
theorem delete_marks {id name status updatedAt : String} (named : orNone (data.get "subreddit") = some subreddit)
    (read : orNone ((r.hashes (metaKey id)).get "subreddit") = some name)
    (held : Standing gone subreddit streamId data r) : Deleted gone subreddit streamId data id status updatedAt
      ((deleteScript id name status updatedAt "0").run r).2 := by
  have own (same : id = streamId) (marked : Marked subreddit streamId data r) : name = subreddit := by
    subst same
    rw [marked.2, named] at read
    exact (Option.some.inj read).symm
  rcases deleteScript_cases id name status updatedAt "0" r with refused | ⟨-, removed⟩
  · rw [refused]
    refine ⟨held, fun same status updated => ?_⟩
    refine held.resolve_right fun ⟨_, marked⟩ => ?_
    have there : r.has (metaKey id) = true := by
      have present := Hash.ne_nil_of_get (orNone_eq_some.mp read).1
      simp [Store.has, present]
    subst same
    have passed (field expected : String) (passes : Passes data field expected) :
        ¬ (expected ≠ "" ∧ r.hget (metaKey id) field ≠ some expected) := by
      rintro ⟨given, other⟩
      exact other (by rw [Store.hget, marked.2, passes given])
    simp [Script.run, there, passed _ _ status, passed _ _ updated] at refused
  · generalize ((deleteScript id name status updatedAt "0").run r).2 = r' at removed ⊢
    have freed (marked : Marked subreddit streamId data r) (same : id = streamId) : Freed subreddit r' := by
      rw [Freed, removed.claim, if_pos ⟨(own same marked).symm, same ▸ marked.1⟩]
    rcases held with free | ⟨kept, marked⟩
    · have free' : Freed subreddit r' := by
        rw [Freed, removed.claim]
        split
        · rfl
        · exact free
      exact ⟨.inl free', fun _ _ _ => free'⟩
    · refine ⟨?_, fun same _ _ => freed marked same⟩
      by_cases same : id = streamId
      · exact .inl (freed marked same)
      · refine .inr ⟨kept, ?_, ?_⟩
        · rw [removed.claim, if_neg, marked.1]
          rintro ⟨-, held⟩
          exact same (Option.some.inj (held.symm.trans marked.1))
        · rw [removed.metadata, if_neg (Ne.symm same), marked.2]

theorem deleteStream_marks {id : String} {status updatedAt : Option String}
    (named : orNone (data.get "subreddit") = some subreddit) :
    Calm t (fun s => Standing gone subreddit streamId data s.redis)
      (deleteStream id status updatedAt false)
      fun r s => (∃ deleted, r = .ok deleted) ∧
        Deleted gone subreddit streamId data id (status.getD "") (updatedAt.getD "") s.redis := by
  refine Triple.bind (R := fun r s => ∃ found, r = .ok found ∧ found = s.redis.hashes (metaKey id) ∧
    Standing gone subreddit streamId data s.redis)
    (calm_redis fun s start => ⟨_, rfl, rfl, start⟩) (by simp) fun found => ?_
  split
  · rename_i nameless
    refine Triple.ret fun s start => ?_
    obtain ⟨_, same, read, held⟩ := start
    cases same
    refine ⟨⟨_, rfl⟩, held, fun own _ _ => held.resolve_right fun ⟨_, marked⟩ => ?_⟩
    rw [read, own, marked.2, named] at nameless
    cases nameless
  rename_i name there
  refine Triple.bind (R := fun r s => (∃ deleted, r = .ok deleted) ∧
    Deleted gone subreddit streamId data id (status.getD "") (updatedAt.getD "") s.redis)
    (calm_redis fun s start => ?_) (by simp) fun deleted => ?_
  · obtain ⟨_, same, read, held⟩ := start
    cases same
    exact ⟨⟨_, rfl⟩, delete_marks named (read ▸ there) held⟩
  · refine Triple.bind (R := fun r s => (∃ u, r = .ok u) ∧
      Deleted gone subreddit streamId data id (status.getD "") (updatedAt.getD "") s.redis) ?_ (by simp)
      fun _ => Triple.ret fun s start => ⟨⟨_, rfl⟩, start.2⟩
    unfold dropInstance
    split
    · exact calm_redis fun s start => ⟨⟨_, rfl⟩,
        by simpa [Deleted, Standing, Freed, Marked, RedisCmd.run] using start.2⟩
    · exact Triple.ret fun s start => ⟨⟨_, rfl⟩, start.2⟩

/-- Whatever is read from metadata passes as a guard for it. -/
theorem passes_of_read (field : String) : Passes data field ((orNone (data.get field)).getD "") := by
  intro given
  cases read : orNone (data.get field) with
  | none => simp [read] at given
  | some value => exact (orNone_eq_some.mp read).1

/-- A turn of the sweep retires the stream when it comes to it. -/
theorem retire_marks (dead : Dead data) (own : orNone (data.get "id") = some streamId)
    (named : orNone (data.get "subreddit") = some subreddit) (row : Hash) :
    Calm t (fun s => Standing gone subreddit streamId data s.redis) (DeadStreamCleanup.retire row)
      fun r s => r = .ok () ∧ Standing gone subreddit streamId data s.redis ∧
        (row = data → Freed subreddit s.redis) := by
  unfold DeadStreamCleanup.retire
  split
  · rename_i id _ found
    refine Triple.rescue (R := fun r s => r = .ok () ∧ Standing gone subreddit streamId data s.redis ∧
      (row = data → Freed subreddit s.redis)) ?_ (fun _ _ h => h)
      fun e s _ _ _ start => by cases start.1
    refine Triple.bind (deleteStream_marks named) (by simp) fun _ => Triple.ret fun s start =>
      ⟨rfl, start.2.1, fun same => ?_⟩
    subst same
    exact start.2.2 (Option.some.inj (found.symm.trans own)) (passes_of_read _) (passes_of_read _)
  · rename_i kept
    refine Triple.ret fun s start => ⟨rfl, start, fun same => ?_⟩
    subst same
    obtain ⟨status, listed, held⟩ := dead
    exact (kept streamId (by simp [DeadStreamCleanup.isDeadStream, held, listed]) own).elim

theorem retireAll_marks (dead : Dead data) (own : orNone (data.get "id") = some streamId)
    (named : orNone (data.get "subreddit") = some subreddit) (rows : List Hash) :
    Calm t (fun s => Freed subreddit s.redis ∨
        Marked subreddit streamId data s.redis ∧ data ∈ rows)
      (Prog.forEach DeadStreamCleanup.retire rows) fun r s => r = .ok () ∧ Freed subreddit s.redis := by
  induction rows with
  | nil => exact Triple.ret fun s start => ⟨rfl, start.resolve_right fun held => nomatch held.2⟩
  | cons row rows ih =>
      refine Triple.bind (p := DeadStreamCleanup.retire row)
        (R := fun r s => r = .ok () ∧ (Freed subreddit s.redis ∨
          Marked subreddit streamId data s.redis ∧ data ∈ rows))
        (fun s trace r s' start ran calm => ?_) (by simp)
        fun _ => ih.consequence (fun s start => start.2) fun _ _ h => h
      rcases start with freed | ⟨marked, listed⟩
      · obtain ⟨returned, standing, -⟩ :=
          retire_marks dead own named row s trace r s' (.inl freed : Standing True _ _ _ _) ran calm
        exact ⟨returned, standing.imp_right fun kept => (kept.1 trivial).elim⟩
      · obtain ⟨returned, standing, retired⟩ :=
          retire_marks dead own named row s trace r s' (.inr ⟨id, marked⟩ : Standing False _ _ _ _) ran calm
        refine ⟨returned, ?_⟩
        rcases List.mem_cons.mp listed with same | later
        · exact .inl (retired same.symm)
        · exact standing.imp_right fun kept => ⟨kept.2, later⟩

/-- A sweep that runs to its end frees the subreddit of a dead stream. -/
theorem cleanup_frees (dead : Dead data) (own : orNone (data.get "id") = some streamId)
    (named : orNone (data.get "subreddit") = some subreddit) :
    Calm t (fun s => Marked subreddit streamId data s.redis ∧ streamId ∈ s.redis.sets allKey)
      DeadStreamCleanup.cleanup fun _ s => Freed subreddit s.redis := by
  have present : data ≠ [] := Hash.ne_nil_of_get (orNone_eq_some.mp own).1
  refine Triple.rescue (R := fun r s => r = .ok () ∧ Freed subreddit s.redis) ?_ (fun _ _ h => h.2)
    fun e s _ _ _ start => by cases start.1
  refine Triple.bind (listStreams_marks present) (by simp) fun rows => ?_
  refine (retireAll_marks dead own named rows).consequence (fun s start => ?_) fun _ _ h => h
  obtain ⟨_, same, marked, listed⟩ := start
  cases same
  exact .inr ⟨marked, listed⟩

end sweep

theorem cleanup_straight : DeadStreamCleanup.cleanup.Straight fun e => ∃ c, e = .redis c := by
  have once (c : RedisCmd) : (redis c).Straight fun e => ∃ c, e = .redis c := .perform ⟨c, rfl⟩
  have caught {p : Program Unit} (h : p.Straight fun e => ∃ c, e = .redis c) :
      (exceptException p fun _ => pure ()).Straight fun e => ∃ c, e = .redis c :=
    h.rescue fun e => by split <;> trivial
  refine caught (.bind (.bind (once _) fun ids => ?_) fun rows => .forEach fun row => ?_)
  · split
    · trivial
    refine .bind (once _) fun rows => .bind ?_ fun _ => by trivial
    unfold dropStale
    split
    · trivial
    · exact once _
  · unfold DeadStreamCleanup.retire
    split
    · refine caught (.bind (.bind (once _) fun data => ?_) fun _ => by trivial)
      split
      · trivial
      refine .bind (once _) fun deleted => .bind ?_ fun _ => by trivial
      unfold dropInstance
      split
      · exact once _
      · trivial
    · trivial

/-! ## The service behind a crash -/

theorem Sane.free_sweep (h : Sane kafkaTopic c) : ∃ number, c.threads (.sweep number) = none := by
  have finite : {number | c.threads (.sweep number) ≠ none}.Finite :=
    h.finite.preimage fun _ _ _ _ same => Thread.sweep.inj same
  obtain ⟨number, free⟩ := finite.infinite_compl.nonempty
  exact ⟨number, not_not.mp free⟩

/-- Without failures the service takes the steps of the service with failures. -/
theorem next_faulty {a : Action Thread Turn ServiceEvent}
    (moved : (serviceMachine faulty kafkaTopic).next a c = some d) :
    (serviceMachine true kafkaTopic).next a c = some d := by
  cases a with
  | call t turn =>
      obtain ⟨e, k, r, s, waits, answered, rfl⟩ := Machine.next_call moved
      have answered' : Service.answer true t e turn c.state = some (r, s) := by
        change Service.answer faulty t e turn c.state = some (r, s) at answered
        cases e <;> cases turn <;> simp_all [Service.answer, mayRaise]
      simp [Machine.next, waits, serviceMachine, answered']
  | _ => exact moved

theorem Sane.reaches (h : Sane kafkaTopic c)
    (reached : (serviceMachine faulty kafkaTopic).ReachesUnder ok c d) : Sane kafkaTopic d := by
  induction reached with
  | refl => exact h
  | step _ _ moved ih => exact ih.step (next_faulty moved)

/-- A sweep of a fresh number frees the subreddit of a dead stream. -/
theorem swept (sane : Sane kafkaTopic c) {data : Hash} (dead : Dead data)
    (own : orNone (data.get "id") = some streamId)
    (named : orNone (data.get "subreddit") = some subreddit)
    (marked : Marked subreddit streamId data c.state.redis)
    (listed : streamId ∈ c.state.redis.sets allKey) :
    ∃ d, (serviceMachine false kafkaTopic).ReachesUnder (fun t _ _ => t.operates = true) c d ∧
      Freed subreddit d.state.redis := by
  obtain ⟨number, free⟩ := sane.free_sweep
  have answers (e : Effect) (s : Service) (sweeps : ∃ cmd, e = .redis cmd) (_ : True) :
      ∃ turn r s', Turn.breaks turn e = false ∧
        Service.answer false (.sweep number) e turn s = some (r, s') ∧ True := by
    obtain ⟨cmd, rfl⟩ := sweeps
    exact ⟨.answered, _, _, rfl, rfl, trivial⟩
  obtain ⟨trace, out, s', ran, calm⟩ := Runs.of_straight _ answers cleanup_straight trivial
  have begun : (serviceMachine false kafkaTopic).next (.start (.sweep number) .cleanup) c =
      some (c.put (.sweep number) (some DeadStreamCleanup.cleanup) c.state) := by
    simp [Machine.next, free, serviceMachine, Service.start]
  have started : (serviceMachine false kafkaTopic).ReachesUnder (fun t _ _ => t.operates = true) c
      (c.put (.sweep number) (some DeadStreamCleanup.cleanup) c.state) :=
    .step .refl (fun t choice e same => by cases same) begun
  obtain ⟨d, reached, same, -⟩ := started.runs ran (fun _ _ => rfl) rfl
    (k := .ofExcept) (by rw [Prog.bindE_ofExcept]; exact Config.put_self ..)
  exact ⟨d, reached, same ▸ cleanup_frees dead own named _ _ _ _ ⟨marked, listed⟩ ran calm⟩

theorem recovers_of_retirable (sane : Sane kafkaTopic c)
    (retirable : Retirable subreddit c.state.redis) : Recovers kafkaTopic subreddit c := by
  rcases retirable with free | ⟨streamId, listed, claim, own, named, dead⟩
  · exact ⟨c, .refl, creatable_of_free sane.orderly.inv free⟩
  · obtain ⟨d, reached, free⟩ := swept sane dead own named ⟨claim, rfl⟩ listed
    exact ⟨d, reached, creatable_of_free (sane.reaches reached).orderly.inv free⟩

theorem refused_of_reaches (sane : Sane kafkaTopic c)
    (holds : Holds subreddit streamId c.state.redis)
    (h : (serviceMachine faulty kafkaTopic).ReachesUnder (fun _ e _ => e.retires streamId = false) c d) :
    Refused subreddit d.state :=
  refused_of_claim (by rw [(holds_of_reaches sane holds h).1.claim]; nofun)

/-- Stop requests and sweeps retire no live stream. -/
theorem spares_of_operates (sane : Sane kafkaTopic c) (streamId : String)
    (h : (serviceMachine faulty kafkaTopic).ReachesUnder (fun t _ _ => t.operates = true) c d) :
    (serviceMachine faulty kafkaTopic).ReachesUnder (fun _ e _ => e.retires streamId = false) c d := by
  induction h with
  | refl => exact .refl
  | step before allowed moved ih =>
      refine ih.step (fun t turn e same waits => ?_) moved
      obtain ⟨k, running⟩ := waits
      exact operates_spares (allowed t turn e same ⟨k, running⟩)
        (Service.footprint sane.footed before running).1

theorem not_recovers (sane : Sane kafkaTopic c) (holds : Holds subreddit streamId c.state.redis) :
    ¬ Recovers kafkaTopic subreddit c := by
  rintro ⟨d, reached, creatable⟩
  obtain ⟨trace, data, s', -, alone⟩ := creatable 0 "" ""
  obtain ⟨e, same⟩ := refused_of_reaches sane holds (spares_of_operates sane streamId reached)
    _ _ _ _ _ _ alone
  cases same

end CrashRecovery

open CrashRecovery

/-- Behind a crash the subreddit is freed by a sweep when its claim is gone or its stream is dead;
a claim whose stream is not dead stays for good, unless somebody writes a terminal status to the
stream or deletes it, which stop requests and sweeps never do. -/
theorem crash_recovery (kafkaTopic subreddit instanceId : String) (gone : Thread → Bool)
    (c : ServiceConfig) (h : Reached kafkaTopic c) :
    let d := crash instanceId gone c
    (Retirable subreddit d.state.redis → Recovers kafkaTopic subreddit d) ∧
      ∀ streamId, d.state.redis.get (subredditKey subreddit) = some streamId →
        ¬ Dead (d.state.redis.hashes (metaKey streamId)) →
        ¬ Recovers kafkaTopic subreddit d ∧
          ∀ e, (serviceMachine true kafkaTopic).ReachesUnder
            (fun _ effect _ => effect.retires streamId = false) d e → Refused subreddit e.state := by
  intro d
  have sane : Sane kafkaTopic d := sane_of_reached (h.crash instanceId gone)
  exact ⟨recovers_of_retirable sane, fun streamId claim alive =>
    ⟨not_recovers sane ⟨claim, alive⟩, fun e reached => refused_of_reaches sane ⟨claim, alive⟩ reached⟩⟩

/-! ## Concrete runs -/

namespace CrashRecovery

theorem reached_of_reaches (h : (serviceMachine faulty kafkaTopic).Reaches (Config.initial {}) c) :
    Reached kafkaTopic c := by
  induction h with
  | refl => exact .start
  | step _ _ moved ih => exact ih.step (next_faulty moved)

/-- What Redis stores of the stream, as far as the claim on its subreddit goes. -/
def stored (c : ServiceConfig) : Option String × List String × List (Option String) :=
  (c.state.redis.get (subredditKey "news"), c.state.redis.sets allKey,
    ["id", "subreddit", "status"].map (c.state.redis.hget (metaKey "s")))

end CrashRecovery

/-- The instance crashes when the run of its stream has written its last status. -/
theorem stopped_stream_recovers : ∃ c, Reached "topic" c ∧
    c.state.redis.hget (metaKey "s") "status" = some "stopped" ∧
      Recovers "topic" "news" (crash "i" (fun _ => false) c) := by
  have run : ((serviceMachine false "topic").exec
      (StartedTask.startedWorker ++ StartedTask.stoppedWorker) (Config.initial {})).map stored =
      some (some "s", ["s"], [some "s", some "news", some "stopped"]) := rfl
  obtain ⟨c, reached, seen⟩ := Machine.Reaches.of_exec_map run
  simp only [stored, List.map_cons, List.map_nil, Prod.mk.injEq, List.cons.injEq] at seen
  obtain ⟨claim, listed, own, named, stopped, -⟩ := seen
  have reached := reached_of_reaches reached
  refine ⟨c, reached, stopped, (crash_recovery "topic" "news" "i" (fun _ => false) c reached).1 ?_⟩
  exact .inr ⟨"s", by simp [crash, listed], claim, by rw [crash, own]; rfl,
    by rw [crash, named]; rfl, "stopped", by decide, stopped⟩

/-- The instance crashes while its worker runs. -/
theorem active_stream_unrecovered : ∃ c,
    (serviceMachine false "topic").Reaches (Config.initial {}) c ∧
      c.state.redis.hget (metaKey "s") "instance_id" = some "i" ∧
      ¬ Recovers "topic" "news" (crash "i" (fun _ => false) c) := by
  have run : ((serviceMachine false "topic").exec StartedTask.startedWorker
      (Config.initial {})).map (fun c => (stored c, c.state.redis.hget (metaKey "s") "instance_id")) =
      some ((some "s", ["s"], [some "s", some "news", some "active"]), some "i") := rfl
  obtain ⟨c, reached, seen⟩ := Machine.Reaches.of_exec_map run
  simp only [stored, List.map_cons, List.map_nil, Prod.mk.injEq, List.cons.injEq] at seen
  obtain ⟨⟨claim, -, -, -, active, -⟩, owner⟩ := seen
  have sane : Sane "topic" (crash "i" (fun _ => false) c) :=
    sane_of_reached ((reached_of_reaches reached).crash "i" _)
  refine ⟨c, reached, owner, not_recovers sane ⟨claim, ?_⟩⟩
  rintro ⟨status, dead, held⟩
  cases held.symm.trans active
  simp [DeadStreamCleanup.deadStatuses] at dead

end RedditKafka
