import RedditKafka.Manager.RunCause
import RedditKafka.Registry.Footprint

/-!
# `stop_all`

The snapshot of the local tasks, one stream after the other. Which of the tasks
are over when `stop_all` returns.
-/
namespace RedditKafka
open Async Redis StreamRegistry StreamManager

namespace StreamManager

/-- `stop_stream` behind its `request_stop`. -/
def stopLocal (instanceId streamId : String) : Program Unit := do
  match ← task (.cancelLocal instanceId streamId) with
  | none => return ()
  | some started => suppressCancelled (task (.awaitLocal started))

theorem stopStream_eq (instanceId streamId : String) : stopStream instanceId streamId =
    (do requestStop streamId; stopLocal instanceId streamId) := rfl

/-- `stop_all`, behind the snapshot of the keys of `_tasks`. -/
def stopAll (instanceId : String) (streamIds : List String) : Program Unit :=
  Prog.forEach (fun streamId => exceptException (stopStream instanceId streamId) fun _ => pure ())
    streamIds

end StreamManager

namespace StopAll

variable (request : Nat) (instanceId : String) (snapshot : List (String × Nat))

/-- The local tasks: the stream ids of `_tasks`, each with the call whose task is kept. -/
structure Snapshot (s : Service) : Prop where
  nodup : (snapshot.map Prod.fst).Nodup
  kept : ∀ streamId call, (streamId, call) ∈ snapshot ↔ s.locals instanceId streamId = some call

/-- The task of the call is done, or still kept under the stream id. -/
def keptOrDone (s : Service) (entry : String × Nat) : Bool :=
  s.locals instanceId entry.1 = some entry.2 || (s.tasks entry.2 .run).isDone

/-- What the others do to the tasks of the snapshot: what is done stays so, and a task leaves
`_tasks` in the step that ends it. -/
def leavesDone (s s' : Service) : Bool :=
  snapshot.all fun entry => Service.keepsOutcomes entry.2 s s' &&
    (!keptOrDone instanceId s entry || keptOrDone instanceId s' entry)

/-- What `stop_all` is answered, amid the others. -/
abbrev amidStop : (c : Effect) → Service × Turn → Service × Unit →
    Option (Except PyExc c.Answer × (Service × Unit)) :=
  amid (leavesDone instanceId snapshot) (Service.answer true (.stop request)) fun _ _ _ u => u

/-- One stream after the other, with what its `request_stop` came to. -/
inductive Visits : List String → Service × Unit → List (Effect × (Service × Turn)) →
    List (Except PyExc Unit) → Service × Unit → Prop
  | nil (s : Service × Unit) : Visits [] s [] [] s
  | cons {streamId : String} {streamIds : List String} {s s₁ s₂ s' : Service × Unit}
      {requesting stopping trace : List (Effect × (Service × Turn))} {r : Except PyExc Unit}
      {requests : List (Except PyExc Unit)} :
      Runs (amidStop request instanceId snapshot) (requestStop streamId) s requesting r s₁ →
      Runs (amidStop request instanceId snapshot)
        (exceptException (Prog.andThen (fun _ => stopLocal instanceId streamId) r) fun _ => pure ())
        s₁ stopping (.ok ()) s₂ →
      Visits streamIds s₂ trace requests s' →
      Visits (streamId :: streamIds) s (requesting ++ (stopping ++ trace)) (r :: requests) s'

/-- Under the manager's lock, the task is cancelled, unless it is done by then. -/
def Cancelled (entry : String × Nat) (c : Effect) (moment : Service × Turn) : Prop :=
  c = .task (.cancelLocal instanceId entry.1) ∧ moment.2 = .answered ∧
    keptOrDone instanceId moment.1 entry = true

/-- The task is over, and `stop_stream` has seen to it. -/
def Stopped (s' : Service) (trace : List (Effect × (Service × Turn))) (entry : String × Nat) : Prop :=
  (s'.tasks entry.2 .run).isDone = true ∧
    ∃ seen ∈ trace, Cancelled instanceId entry seen.1 seen.2

variable {request instanceId snapshot} {s s' : Service × Unit} {streamIds : List String}
  {trace : List (Effect × (Service × Turn))} {requests : List (Except PyExc Unit)}
  {entry : String × Nat}

theorem leavesDone_iff {now now' : Service} : leavesDone instanceId snapshot now now' = true ↔
    ∀ entry ∈ snapshot, Service.keepsOutcomes entry.2 now now' = true ∧
      (keptOrDone instanceId now entry = true → keptOrDone instanceId now' entry = true) := by
  simp only [leavesDone, List.all_eq_true, Bool.and_eq_true, Bool.or_eq_true, Bool.not_eq_true',
    ← Bool.not_eq_true, imp_iff_not_or]

theorem visits_of_run
    (ran : Runs (amidStop request instanceId snapshot) (stopAll instanceId streamIds) s trace
      (.ok ()) s') : ∃ requests, Visits request instanceId snapshot streamIds s trace requests s' := by
  induction streamIds generalizing s trace with
  | nil =>
      obtain ⟨rfl, -, rfl⟩ := ran.ret_inv
      exact ⟨[], .nil _⟩
  | cons streamId streamIds ih =>
      have both : Runs (amidStop request instanceId snapshot)
          (exceptException (stopStream instanceId streamId) (fun _ => pure ()) >>= fun _ =>
            stopAll instanceId streamIds) s trace (.ok ()) s' := ran
      obtain ⟨_, after, ⟨⟩, s₂, rfl, visited, rest⟩ := both.bind_ok
      rw [exceptException, Prog.rescue, stopStream_eq, Prog.bind_eq, Prog.bindE_assoc] at visited
      obtain ⟨requesting, stopping, r, s₁, rfl, requested, stopped⟩ := visited.bindE_inv
      obtain ⟨requests, visits⟩ := ih rest
      exact ⟨r :: requests, by rw [List.append_assoc]; exact .cons requested stopped visits⟩

/-! ## The tasks of the snapshot -/

theorem done_kept {α : Type} {p : Program α} {out : Except PyExc α} (listed : entry ∈ snapshot)
    (ran : Runs (amidStop request instanceId snapshot) p s trace out s')
    (done : (s.1.tasks entry.2 .run).isDone = true) : (s'.1.tasks entry.2 .run).isDone = true := by
  have kept : Service.keepsOutcomes entry.2 s.1 s'.1 = true :=
    ran.moves (H := fun _ => True) (R := fun a b => Service.keepsOutcomes entry.2 a.1 b.1 = true)
      (fun _ => Service.keepsOutcomes_refl _ _) (fun _ _ _ => Service.keepsOutcomes_trans _ _ _)
      (fun c moment r a b _ answered => by
        obtain ⟨moved, given, -⟩ := amid_answered answered
        have near := (leavesDone_iff.mp moved entry listed).1
        exact Service.keepsOutcomes_trans _ _ _ near (WorkerShutdown.answer_keepsOutcomes given))
      (.any p)
  rw [TaskState.isDone_iff, Option.ne_none_iff_exists'] at done ⊢
  exact done.imp fun r held => Service.keepsOutcomes_iff.mp kept .run r held

/-- Effects of `stop_stream`: those of the registry, and two steps of asyncio. -/
def StopEffect (instanceId : String) (c : Effect) : Prop :=
  RegistryEffect (fun _ _ => True) c ∨ (∃ streamId, c = .task (.cancelLocal instanceId streamId)) ∨
    ∃ started, c = .task (.awaitLocal started)

/-- The others and `stop_stream` itself leave the tasks of the snapshot kept, or done. -/
theorem keptOrDone_answered {c : Effect} {moment : Service × Turn} {r : Except PyExc c.Answer}
    (listed : entry ∈ snapshot) (effect : StopEffect instanceId c)
    (answered : amidStop request instanceId snapshot c moment s = some (r, s'))
    (held : keptOrDone instanceId s.1 entry = true) :
    keptOrDone instanceId moment.1 entry = true ∧ keptOrDone instanceId s'.1 entry = true := by
  obtain ⟨moved, given, -⟩ := amid_answered answered
  have near := (leavesDone_iff.mp moved entry listed).2 held
  refine ⟨near, ?_⟩
  have same : s'.1.locals = moment.1.locals := by
    apply Service.answer_locals given <;> intros <;> rintro rfl <;>
      rcases effect with on | ⟨_, same⟩ | ⟨_, same⟩ <;> first | cases on | cases same
  have kept : Service.keepsOutcomes entry.2 moment.1 s'.1 = true :=
    WorkerShutdown.answer_keepsOutcomes given
  simp only [keptOrDone, Bool.or_eq_true, decide_eq_true_eq] at near ⊢
  refine near.imp (fun kept => by rw [same, kept]) fun done => ?_
  rw [TaskState.isDone_iff, Option.ne_none_iff_exists'] at done ⊢
  exact done.imp fun r held => Service.keepsOutcomes_iff.mp kept .run r held

theorem keptOrDone_kept {α : Type} {p : Program α} {out : Except PyExc α} (listed : entry ∈ snapshot)
    (uses : p.Uses (StopEffect instanceId))
    (ran : Runs (amidStop request instanceId snapshot) p s trace out s')
    (held : keptOrDone instanceId s.1 entry = true) : keptOrDone instanceId s'.1 entry = true :=
  ran.keeps (fun s => keptOrDone instanceId s.1 entry = true)
    (fun _ _ _ _ _ effect held answered => (keptOrDone_answered listed effect answered held).2)
    uses held

theorem requestStop_effects {streamId : String} :
    (requestStop streamId).Uses (StopEffect instanceId) :=
  (requestStop_uses trivial trivial).mono fun _ => .inl

theorem awaitLocal_done {started : Nat} {out : Except PyExc Unit} (listed : entry ∈ snapshot)
    (own : started = entry.2) (ran : Runs (amidStop request instanceId snapshot)
      (suppressCancelled (task (.awaitLocal started))) s trace out s') :
    (s'.1.tasks entry.2 .run).isDone = true := by
  obtain ⟨_, _, r, s₁, rfl, awaited, rest⟩ := ran.bindE_inv
  refine done_kept listed rest ?_
  obtain ⟨⟨now, turn⟩, rfl, answered⟩ := awaited.perform_inv
  obtain ⟨-, given, -⟩ := amid_answered answered
  have ended : Service.taskAnswer 0 (.awaitLocal started) turn now = some (r, s₁.1) := given
  subst own
  cases turn with
  | answered =>
      simp only [Service.taskAnswer] at ended
      split at ended <;> cases ended
      rename_i is
      simp [is, TaskState.isDone]
  | raised e =>
      simp only [Service.taskAnswer] at ended
      split at ended <;> cases ended
      rename_i done
      exact (Bool.and_eq_true _ _ ▸ done).1
  | _ => cases ended

/-- Behind its stop request, `stop_stream` cancels the task and waits for it. -/
theorem stopLocal_stops (listed : entry ∈ snapshot) (held : keptOrDone instanceId s.1 entry = true)
    (ran : Runs (amidStop request instanceId snapshot)
      (exceptException (stopLocal instanceId entry.1) fun _ => pure ()) s trace (.ok ()) s') :
    Stopped instanceId s'.1 trace entry := by
  obtain ⟨_, _, r, s₁, rfl, body, rest⟩ := ran.bindE_inv
  rcases body.bind_inv with ⟨e, rfl, raised⟩ | ⟨_, _, found, s₂, rfl, asked, left⟩
  · obtain ⟨⟨now, turn⟩, rfl, answered⟩ := raised.perform_inv
    obtain ⟨-, given, -⟩ := amid_answered answered
    have asks : Service.taskAnswer 0 (.cancelLocal instanceId entry.1) turn now =
      some (.error e, s₁.1) := given
    cases turn with
    | raised e' =>
        simp only [Service.taskAnswer] at asks
        split at asks <;> cases asks
        rename_i deadly
        simp only [deadly] at rest
        cases rest.raise_inv.2.1
    | _ => cases asks
  · obtain ⟨⟨now, turn⟩, rfl, answered⟩ := asked.perform_inv
    have near := (keptOrDone_answered listed (.inr (.inl ⟨_, rfl⟩)) answered held).1
    obtain ⟨-, given, -⟩ := amid_answered answered
    have asks : Service.taskAnswer 0 (.cancelLocal instanceId entry.1) turn now =
      some (.ok found, s₂.1) := given
    cases turn with
    | answered =>
        obtain ⟨same, same'⟩ := Prod.mk.inj (Option.some.inj asks)
        refine ⟨done_kept listed rest ?_, (_, now, .answered), by simp, rfl, rfl, near⟩
        rcases Bool.or_eq_true_iff.mp near with kept | done
        · cases (Except.ok.inj same).symm.trans (of_decide_eq_true kept)
          exact awaitLocal_done listed rfl left
        · exact done_kept listed left (same' ▸ done)
    | raised e' =>
        simp only [Service.taskAnswer] at asks
        split at asks <;> cases asks
    | _ => cases asks

theorem stopLocal_uses {streamId : String} {H : Effect → Prop}
    (cancel : H (.task (.cancelLocal instanceId streamId)))
    (wait : ∀ started, H (.task (.awaitLocal started))) : (stopLocal instanceId streamId).Uses H := by
  refine (Prog.Uses.perform cancel).bind fun found => ?_
  cases found with
  | none => trivial
  | some started => exact suppressCancelled_uses (Prog.Uses.perform (wait started))

/-- What follows a stop request in a visit. -/
theorem behindRequest_uses {streamId : String} {H : Effect → Prop} (r : Except PyExc Unit)
    (cancel : H (.task (.cancelLocal instanceId streamId)))
    (wait : ∀ started, H (.task (.awaitLocal started))) :
    (exceptException (Prog.andThen (fun _ => stopLocal instanceId streamId) r) fun _ => pure ()).Uses
      H := by
  refine exceptException_uses ?_ fun _ => trivial
  cases r with
  | ok => exact stopLocal_uses cancel wait
  | error => trivial

theorem visits_done (visits : Visits request instanceId snapshot streamIds s trace requests s')
    (listed : entry ∈ snapshot) (done : (s.1.tasks entry.2 .run).isDone = true) :
    (s'.1.tasks entry.2 .run).isDone = true := by
  induction visits with
  | nil => exact done
  | cons requested stopped _ ih => exact ih (done_kept listed stopped (done_kept listed requested done))

/-- The tasks of the streams whose stop requests all go through. -/
theorem visits_stop (visits : Visits request instanceId snapshot streamIds s trace requests s')
    (returned : ∀ r ∈ requests, r = .ok ()) (listed : entry ∈ snapshot)
    (held : keptOrDone instanceId s.1 entry = true) (there : entry.1 ∈ streamIds) :
    Stopped instanceId s'.1 trace entry := by
  induction visits with
  | nil => cases there
  | @cons streamId streamIds s s₁ s₂ s' requesting stopping trace r requests requested stopped rest ih =>
      rw [List.forall_mem_cons] at returned
      obtain ⟨rfl, returned⟩ := returned
      have held₁ := keptOrDone_kept listed requestStop_effects requested held
      rcases List.mem_cons.mp there with rfl | there
      · obtain ⟨done, seen, inside, cancelled⟩ := stopLocal_stops listed held₁ stopped
        exact ⟨visits_done rest listed done, seen, by simp [inside], cancelled⟩
      · have held₂ := keptOrDone_kept listed (behindRequest_uses (.ok ()) (.inr (.inl ⟨_, rfl⟩))
          fun _ => .inr (.inr ⟨_, rfl⟩)) stopped held₁
        obtain ⟨done, seen, inside, cancelled⟩ := ih returned held₂ there
        exact ⟨done, seen, by simp [inside], cancelled⟩

/-- A visit cancels its own stream only, and only behind a stop request that went through. -/
theorem visit_cancels {streamId streamId' : String} {s₁ s₂ : Service × Unit}
    {requesting stopping : List (Effect × (Service × Turn))} {r : Except PyExc Unit}
    (requested : Runs (amidStop request instanceId snapshot) (requestStop streamId) s requesting r s₁)
    (stopped : Runs (amidStop request instanceId snapshot)
      (exceptException (Prog.andThen (fun _ => stopLocal instanceId streamId) r) fun _ => pure ())
      s₁ stopping (.ok ()) s₂)
    (seen : ∃ seen ∈ requesting ++ stopping, seen.1 = .task (.cancelLocal instanceId streamId')) :
    streamId' = streamId ∧ r = .ok () := by
  obtain ⟨seen, there, same⟩ := seen
  have there : seen ∈ stopping := by
    rcases List.mem_append.mp there with there | there
    · exact (registry_silent (requestStop_uses trivial trivial) requested seen there _ same).elim
    · exact there
  have own := stopped.uses (behindRequest_uses
    (H := fun c => ∀ id, c = .task (.cancelLocal instanceId id) → id = streamId) r
    (fun id same => by cases same; rfl) fun _ _ => nofun) seen there streamId' same
  refine ⟨own, ?_⟩
  cases r with
  | ok => rfl
  | error e =>
      have none_ := stopped.uses (H := fun _ => False)
        (exceptException_uses (p := Prog.raise e) trivial fun _ => trivial) seen there
      exact none_.elim

theorem visits_own (visits : Visits request instanceId snapshot streamIds s trace requests s')
    {streamId : String} (seen : ∃ seen ∈ trace, seen.1 = .task (.cancelLocal instanceId streamId)) :
    streamId ∈ streamIds := by
  induction visits with
  | nil =>
      obtain ⟨_, there, -⟩ := seen
      cases there
  | cons requested stopped _ ih =>
      obtain ⟨seen, there, same⟩ := seen
      rw [← List.append_assoc] at there
      rcases List.mem_append.mp there with there | there
      · rw [(visit_cancels requested stopped ⟨seen, there, same⟩).1]
        exact List.mem_cons_self ..
      · exact List.mem_cons_of_mem _ (ih ⟨seen, there, same⟩)

/-- A stream whose stop request raises is not cancelled. -/
theorem visits_returned (visits : Visits request instanceId snapshot streamIds s trace requests s')
    (nodup : streamIds.Nodup) (cancelled : ∀ streamId ∈ streamIds, ∃ seen ∈ trace,
      seen.1 = .task (.cancelLocal instanceId streamId)) : ∀ r ∈ requests, r = .ok () := by
  induction visits with
  | nil => exact List.forall_mem_nil _
  | cons requested stopped rest ih =>
      obtain ⟨fresh, nodup⟩ := List.nodup_cons.mp nodup
      rw [List.forall_mem_cons] at cancelled ⊢
      obtain ⟨⟨seen, there, same⟩, others⟩ := cancelled
      rw [← List.append_assoc] at there
      constructor
      · rcases List.mem_append.mp there with there | there
        · exact (visit_cancels requested stopped ⟨seen, there, same⟩).2
        · exact (fresh (visits_own rest ⟨seen, there, same⟩)).elim
      · refine ih nodup fun streamId listed => ?_
        obtain ⟨seen, there, same⟩ := others streamId listed
        rw [← List.append_assoc] at there
        rcases List.mem_append.mp there with there | there
        · cases (visit_cancels requested stopped ⟨seen, there, same⟩).1
          exact (fresh listed).elim
        · exact ⟨seen, there, same⟩

/-- For every set of local tasks and every interleaving: when `stop_all` returns, every task of its
snapshot has been cancelled, unless it was done by then, and is over, if and only if no
`request_stop` has raised. -/
theorem snapshot_stopped_iff (taken : Snapshot instanceId snapshot s.1)
    (ran : Runs (amidStop request instanceId snapshot)
      (stopAll instanceId (snapshot.map Prod.fst)) s trace (.ok ()) s') :
    (∃ requests, Visits request instanceId snapshot (snapshot.map Prod.fst) s trace requests s') ∧
      ∀ requests, Visits request instanceId snapshot (snapshot.map Prod.fst) s trace requests s' →
        ((∀ r ∈ requests, r = .ok ()) ↔ ∀ entry ∈ snapshot, Stopped instanceId s'.1 trace entry) := by
  refine ⟨visits_of_run ran, fun requests visits => ⟨fun returned entry listed => ?_, fun stopped => ?_⟩⟩
  · refine visits_stop visits returned listed ?_ (List.mem_map_of_mem listed)
    simp [keptOrDone, (taken.kept entry.1 entry.2).mp listed]
  · refine visits_returned visits taken.nodup fun streamId there => ?_
    obtain ⟨entry, listed, rfl⟩ := List.mem_map.mp there
    obtain ⟨-, seen, inside, same, -⟩ := stopped entry listed
    exact ⟨seen, inside, same⟩

/-! ## Concrete runs -/

/-- One local task, of call 0 under the stream id `s`. -/
def oneLocal (run : TaskState) : Service where
  redis := ({} : Store).hset (metaKey "s") [("status", "active")]
  tasks _ role := if role = .run then run else .absent
  locals instanceId streamId := if instanceId = "i" ∧ streamId = "s" then some 0 else none

def localRun : TaskState := .alive (.run "i" "s" "news" (some "i:u"))

theorem oneLocal_snapshot (run : TaskState) : Snapshot "i" [("s", 0)] (oneLocal run) where
  nodup := by decide
  kept streamId call := by
    by_cases same : streamId = "s"
    · simp [oneLocal, same, eq_comm]
    · simp [oneLocal, same]

/-- The stop request goes through, and the cancelled task ends. -/
def stopOne : List (Service × Turn) :=
  ([.answered, .named "now", .answered, .named "now", .answered, .answered, .answered].map
    fun turn => (oneLocal localRun, turn)) ++
    [(oneLocal WorkerShutdown.cancelledTask, .answered)]

theorem one_local_stopped : ∃ trace s',
    Runs (amidStop 0 "i" [("s", 0)]) (stopAll "i" ["s"]) (oneLocal localRun, ()) trace (.ok ()) s' ∧
      ∃ requests, Visits 0 "i" [("s", 0)] ["s"] (oneLocal localRun, ()) trace requests s' ∧
        ((∀ r ∈ requests, r = .ok ()) ↔ ∀ entry ∈ [("s", 0)], Stopped "i" s'.1 trace entry) := by
  have run : (Runs.replay (amidStop 0 "i" [("s", 0)]) (stopAll "i" ["s"]) stopOne
      (oneLocal localRun, ())).map (fun last => last.2.1) = some (.ok ()) := rfl
  obtain ⟨trace, out, s', ran, rfl⟩ := Runs.of_replay_map run
  obtain ⟨⟨requests, visits⟩, exactly⟩ := snapshot_stopped_iff (oneLocal_snapshot localRun) ran
  exact ⟨trace, s', ran, requests, visits, exactly requests visits⟩

/-- Redis does not answer the stop request, and the task is left running. -/
theorem local_task_left : ∃ trace s',
    Runs (amidStop 0 "i" [("s", 0)]) (stopAll "i" ["s"]) (oneLocal localRun, ()) trace (.ok ()) s' ∧
      Snapshot "i" [("s", 0)] (oneLocal localRun) ∧ (s'.1.tasks 0 .run).isDone = false := by
  have run : (Runs.replay (amidStop 0 "i" [("s", 0)]) (stopAll "i" ["s"])
      [(oneLocal localRun, .raised RunCause.redisDown)] (oneLocal localRun, ())).map (fun last =>
        (last.2.1, (last.2.2.1.tasks 0 .run).isDone)) = some (.ok (), false) := rfl
  obtain ⟨trace, out, s', ran, seen⟩ := Runs.of_replay_map run
  obtain ⟨rfl, alive⟩ := Prod.mk.inj seen
  exact ⟨trace, s', ran, oneLocal_snapshot localRun, alive⟩

end StopAll
end RedditKafka
