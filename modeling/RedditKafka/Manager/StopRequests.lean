import RedditKafka.Manager.ServiceSteps

/-!
# Stop requests and registrations

Which registration a stop request reaches, when stream ids are reused: the stop
key and the status of a later registration are safe as long as both writes of a
request land on the registration that it has read.
-/
namespace RedditKafka
open Async Redis StreamRegistry

/-- The stop key is written while the registration read is still the stored one, and the status
not when another one is. No creator writes over a registration that has been asked to stop. -/
def Service.confined (s : Service) (t : Thread) : Effect → Bool
  | .redis (.set _ _) =>
      match t with
      | .stop request =>
          let stored := s.registered ((s.requests request).getD "")
          stored.isSome && s.seen request = stored
      | _ => true
  | .redis (.hset _ mapping) =>
      match t with
      | .stop request =>
          let stored := s.registered ((s.requests request).getD "")
          stored.isNone || s.seen request = stored
      | _ =>
          match mapping.lookup "id" with
          | some streamId =>
              (s.registered streamId).isNone || !s.redis.has (stopRequestKey streamId)
          | none => true
  | _ => true

/-- A stop key belongs to the stored registration, and holds a string. -/
structure Service.StopKeys (s : Service) : Prop where
  reached : ∀ streamId, (s.redis.entry (stopRequestKey streamId)).isSome →
    (s.registered streamId).isSome ∧ s.stopper streamId = s.registered streamId
  hashes : ∀ streamId, s.redis.hashes (stopRequestKey streamId) = []
  sets : ∀ streamId, s.redis.sets (stopRequestKey streamId) = []

/-- No command keeps a hash or a set under a stop key. -/
theorem stopKey_plain {may : String → Permission → Prop} {cmd : RedisCmd}
    (used : ServiceEffect may (.redis cmd)) {r : Store} {streamId : String}
    (hashes : r.hashes (stopRequestKey streamId) = []) (sets : r.sets (stopRequestKey streamId) = []) :
    (cmd.run r).2.hashes (stopRequestKey streamId) = [] ∧
      (cmd.run r).2.sets (stopRequestKey streamId) = [] := by
  rcases used with registry | lease
  · cases registry with
    | claim | identity =>
        simp only [RedisCmd.run]
        split <;> simp [hashes, sets]
    | heartbeat id i now =>
        simp only [RedisCmd.run, Script.run, List.eq_nil_iff_forall_not_mem (l := Store.sets _ _)]
        split_ifs <;> simp [Store.mem_sadd_sets, hashes, sets]
    | delete =>
        simp only [RedisCmd.run, Script.run]
        split_ifs <;> simp [hashes, sets]
    | list | listInstance =>
        simp [RedisCmd.run, List.eq_nil_iff_forall_not_mem (l := Store.sets _ _), Store.mem_sadd_sets,
          hashes, sets]
    | _ => simp [RedisCmd.run, hashes, sets]
  · cases lease with
    | acquire =>
        simp only [RedisCmd.run]
        split_ifs <;> simp [Store.setEx, hashes, sets]
    | refresh =>
        simp only [RedisCmd.run, Script.run, Store.expire]
        split
        · split
          · simp [hashes, sets]
          · split <;> simp [Store.setEx, hashes, sets]
        · simp [hashes, sets]
    | release =>
        simp only [RedisCmd.run, Script.run]
        split_ifs <;> simp [hashes, sets]

/-- Only a stop request writes a stop key. -/
theorem stopKey_entry {may : String → Permission → Prop} {cmd : RedisCmd}
    (used : ServiceEffect may (.redis cmd)) {r : Store} {streamId : String}
    (held : ((cmd.run r).2.entry (stopRequestKey streamId)).isSome) :
    (r.entry (stopRequestKey streamId)).isSome ∨
      ∃ value, cmd = .set (stopRequestKey streamId) value ∧ may streamId .requestStop := by
  rcases used with registry | lease
  · cases registry with
    | stopRequest id value stops =>
        by_cases same : streamId = id
        · exact .inr ⟨value, by rw [same], by rw [same]; exact stops⟩
        · exact .inl (by simpa [RedisCmd.run, same] using held)
    | claim | identity =>
        left
        revert held
        simp only [RedisCmd.run]
        split <;> simp
    | heartbeat =>
        left
        revert held
        simp only [RedisCmd.run, Script.run]
        split_ifs <;> simp
    | delete id =>
        left
        revert held
        simp only [RedisCmd.run, Script.run]
        by_cases same : streamId = id <;> split_ifs <;> simp [same]
    | _ => exact .inl (by simpa [RedisCmd.run] using held)
  · left
    revert held
    cases lease with
    | acquire =>
        simp only [RedisCmd.run]
        split_ifs <;> simp [Store.entry_setEx]
    | refresh name token ttl =>
        simp only [RedisCmd.run, Script.run]
        split
        · rw [Store.entry_expire_of_ne _ (by simp)]
          exact id
        · exact id
    | release =>
        simp only [RedisCmd.run, Script.run]
        split_ifs <;> simp

namespace Service.StopKeys

variable {s s' : Service} {t : Thread}

/-- Stop keys stay, or go, with the registrations as they are. -/
theorem same (h : s.StopKeys) (registered : s'.registered = s.registered)
    (stopper : s'.stopper = s.stopper)
    (entry : ∀ streamId, (s'.redis.entry (stopRequestKey streamId)).isSome →
      (s.redis.entry (stopRequestKey streamId)).isSome)
    (hashes : ∀ streamId, s'.redis.hashes (stopRequestKey streamId) = [])
    (sets : ∀ streamId, s'.redis.sets (stopRequestKey streamId) = []) : s'.StopKeys := by
  refine ⟨fun streamId asked => ?_, hashes, sets⟩
  rw [registered, stopper]
  exact h.reached streamId (entry streamId asked)

theorem has_iff (h : s.StopKeys) {streamId : String} :
    s.redis.has (stopRequestKey streamId) = true ↔
      (s.redis.entry (stopRequestKey streamId)).isSome := by
  simp [Store.has, h.hashes, h.sets]

theorem aside (h : s.StopKeys) (aside : s.Aside s') : s'.StopKeys := by
  obtain ⟨n, same⟩ := aside.redis
  refine h.same aside.registered aside.stopper (fun streamId held => ?_) ?_ ?_
  · rw [same] at held
    obtain ⟨e, entry⟩ := Option.isSome_iff_exists.mp held
    simp [Store.entry_elapse entry]
  · intro streamId
    rw [same]
    exact h.hashes streamId
  · intro streamId
    rw [same]
    exact h.sets streamId

/-- A command that is neither a stop request nor one that the records look at. -/
theorem plain {cmd : RedisCmd} (h : s.StopKeys) (used : ServiceEffect (t.may s) (.redis cmd))
    (registered : (s.note t cmd).registered = s.registered)
    (stopper : (s.note t cmd).stopper = s.stopper) (other : ∀ key value, cmd ≠ .set key value) :
    (s.execute t cmd).StopKeys := by
  refine h.same registered stopper (fun streamId held => ?_)
    (fun streamId => (stopKey_plain used (h.hashes streamId) (h.sets streamId)).1)
    fun streamId => (stopKey_plain used (h.hashes streamId) (h.sets streamId)).2
  rcases stopKey_entry used held with before | ⟨value, rfl, -⟩
  · exact before
  · exact absurd rfl (other _ _)

theorem execute {cmd : RedisCmd} (h : s.StopKeys) (used : ServiceEffect (t.may s) (.redis cmd))
    (allowed : s.confined t (.redis cmd) = true) : (s.execute t cmd).StopKeys := by
  have hashes := fun streamId => (stopKey_plain used (h.hashes streamId) (h.sets streamId)).1
  have sets := fun streamId => (stopKey_plain used (h.hashes streamId) (h.sets streamId)).2
  rcases id used with registry | lease
  · cases registry with
    | claim | identity =>
        refine h.plain used ?_ ?_ (by simp) <;> simp only [Service.note] <;> split <;> simp
    | hgetall => refine h.plain used ?_ ?_ (by simp) <;> cases t <;> rfl
    | stopRequest id value stops =>
        cases t with
        | stop request =>
            obtain ⟨stored, reads⟩ : (s.registered id).isSome ∧ s.seen request = s.registered id := by
              simpa [Service.confined, stops.1] using allowed
            refine ⟨fun streamId held => ?_, hashes, sets⟩
            by_cases same : streamId = id
            · subst same
              simpa [Service.execute, Service.note, stops.1] using ⟨stored, reads⟩
            · have before := h.reached streamId (by
                simpa [Service.execute, RedisCmd.run, same] using held)
              simpa [Service.execute, Service.note, stops.1, same] using before
        | start | task | sweep => simp [Thread.may] at stops
    | metadata id subreddit config i time time' creates =>
        cases t with
        | start call =>
            have free : (s.registered id).isNone ∨ s.redis.has (stopRequestKey id) = false := by
              simpa [Service.confined, newMeta, List.lookup_cons] using allowed
            refine ⟨fun streamId held => ?_, hashes, sets⟩
            have before : (s.redis.entry (stopRequestKey streamId)).isSome := by
              simpa [Service.execute, RedisCmd.run] using held
            have reached := h.reached streamId before
            have ne : streamId ≠ id := by
              rintro rfl
              rcases free with none | none
              · simp_all
              · simp_all [h.has_iff.mpr before]
            simpa [Service.execute, Service.note, newMeta, List.lookup_cons, Service.noteMetadata, ne]
              using reached
        | stop | task | sweep => simp [Thread.may] at creates
    | status id status time i =>
        obtain ⟨hasStatus, noId⟩ := Service.statusMapping_lookup status time i
        refine h.plain used ?_ ?_ (by simp) <;> simp [Service.note, hasStatus, noId]
    | checkpoint id mapping other =>
        refine h.plain used ?_ ?_ (by simp) <;> simp [Service.note, other]
    | delete id a b u p guarded =>
        refine ⟨fun streamId held => ?_, hashes, sets⟩
        have before : (s.redis.entry (stopRequestKey streamId)).isSome := by
          rcases stopKey_entry used held with before | ⟨value, other, -⟩
          · exact before
          · cases other
        simp only [Service.execute, Service.note] at held ⊢
        split
        · rename_i deleted
          have ne : streamId ≠ id := by
            rintro rfl
            simp only [RedisCmd.run, Script.run] at deleted held
            split_ifs at deleted held <;> simp at held
          simpa [ne] using h.reached streamId before
        · exact h.reached streamId before
    | _ => exact h.plain used rfl rfl (by simp)
  · cases lease <;> exact h.plain used rfl rfl (by simp)

end Service.StopKeys

/-- The status of a registration that stays is changed by a creator, or by a status write. -/
theorem status_changed {s : Service} {t : Thread} {cmd : RedisCmd}
    (used : ServiceEffect (t.may s) (.redis cmd)) {streamId : String}
    (stays : ((s.execute t cmd).registered streamId).isSome)
    (changed : (s.execute t cmd).redis.hget (metaKey streamId) "status" ≠
      s.redis.hget (metaKey streamId) "status") :
    t.may s streamId .create ∨ ∃ status mapping,
      cmd = .hset (metaKey streamId) mapping ∧ mapping.lookup "id" = none ∧
        t.may s streamId (.write status) := by
  simp only [Service.execute] at changed
  rcases used with registry | lease
  · cases registry with
    | metadata id subreddit config i time time' creates =>
        by_cases same : streamId = id
        · exact .inl (same ▸ creates)
        · exact absurd (by simp [RedisCmd.run, Store.hget, same]) changed
    | status id status time i written =>
        by_cases same : streamId = id
        · subst same
          exact .inr ⟨status, _, rfl, (Service.statusMapping_lookup status time i).2, written⟩
        · exact absurd (by simp [RedisCmd.run, Store.hget, same]) changed
    | delete id a b u p guarded =>
        simp only [Service.execute, Service.note] at stays
        by_cases same : streamId = id
        · subst same
          split at stays
          · simp at stays
          · rename_i refused
            refine absurd ?_ changed
            simp only [RedisCmd.run, Script.run] at refused ⊢
            split_ifs at refused ⊢ <;> first | rfl | exact absurd rfl refused
        · refine absurd ?_ changed
          simp only [RedisCmd.run, Script.run]
          split_ifs <;> simp [Store.hget, same]
    | claim | identity =>
        refine absurd ?_ changed
        simp only [RedisCmd.run]
        split <;> rfl
    | heartbeat id =>
        refine absurd ?_ changed
        simp only [RedisCmd.run, Script.run]
        by_cases same : streamId = id <;> split_ifs <;> simp [Store.hget, same]
    | _ => exact absurd (by simp [RedisCmd.run, Store.hget]) changed
  · refine absurd ?_ changed
    cases lease with
    | acquire =>
        simp only [RedisCmd.run]
        split_ifs <;> rfl
    | refresh name token ttl =>
        simp only [RedisCmd.run, Script.run]
        split
        · exact Store.hget_expire (by simp) ttl
        · rfl
    | release =>
        simp only [RedisCmd.run, Script.run]
        split_ifs <;> simp [Store.hget]

section runs

variable {faulty : Bool} {kafkaTopic : String} {r : Store} {c : ServiceConfig}

theorem stopKeys_kept (fresh : ∀ streamId, r.has (stopRequestKey streamId) = false)
    (reached : (serviceMachine faulty kafkaTopic).ReachesUnder (fun t e s => s.confined t e = true)
      (Config.initial { redis := r }) c) :
    c.state.StopKeys := by
  induction reached with
  | refl =>
      constructor <;> intro streamId <;> have absent := fresh streamId <;>
        simp_all [Store.has, Config.initial]
  | step before allowed moved ih =>
      rcases Service.next_cases moved with ⟨t, turn, cmd, rfl, waits, same⟩ | aside
      · rw [same]
        exact ih.execute (Service.awaits_effect (fun _ => rfl) before waits)
          (allowed t turn _ rfl waits)
      · exact ih.aside aside

end runs
end RedditKafka
