import RedditKafka.Registry.Leases

/-!
# A lease belongs to its token

Every command that can reach a lease is one of four lawful kinds, in every
interleaving; what a lease can do follows from that.
-/
namespace RedditKafka
open Async Redis StreamRegistry

/-- What a caller relies on is its operation and the tokens generated for it. -/
def leaseDiscipline : Discipline Effect Leases Nat where
  inv := Leases.Consistent
  keeps caller s s' := s'.operation caller = s.operation caller ∧ ∀ token,
    s.minted token = some caller → s'.minted token = some caller ∧ s'.spent token = s.spent token
  keeps_refl _ _ := ⟨rfl, fun _ minted => ⟨minted, rfl⟩⟩
  keeps_trans _ _ _ _ first second :=
    ⟨second.1.trans first.1, fun token minted =>
      have ⟨minted', spent'⟩ := first.2 token minted
      have ⟨minted'', spent''⟩ := second.2 token minted'
      ⟨minted'', spent''.trans spent'⟩⟩
  ok _ _ _ := True
  pledge caller e s := ∀ c, e = .redis c → ∃ op, s.operation caller = some op ∧ Lawful s caller op c

variable {s s' : Leases} {caller : Nat} {op : Operation}

theorem Lawful.others_keep {c : RedisCmd} (h : Lawful s caller op c) {other : Nat}
    (ne : other ≠ caller) : leaseDiscipline.keeps other s (s.execute c) := by
  refine ⟨rfl, fun token minted => ⟨minted, ?_⟩⟩
  have fresh : c.offers ≠ some token := by
    intro offered
    have own := (h.offers_minted offered).1
    rw [minted] at own
    exact ne (Option.some.inj own)
  simp [Leases.execute, fresh]

/-- What one answered effect does to the state. -/
theorem leases_answer_effect {e : Effect} {fate : Fate} {r : Except PyExc e.Answer}
    (answered : Leases.answer caller e fate s = some (r, s')) :
    s' = s ∨ (∃ c, e = .redis c ∧ s' = s.execute c) ∨ ∃ token, s.minted token = none ∧
      s' = { s with minted := Function.update s.minted token (some caller) } := by
  unfold Leases.answer at answered
  split at answered
  case h_1 c =>
      cases answered
      exact .inr (.inl ⟨c, rfl, rfl⟩)
  case h_3 c e =>
      cases answered
      exact .inr (.inl ⟨c, rfl, rfl⟩)
  case h_8 instanceId t =>
      simp only [Option.ite_none_right_eq_some] at answered
      obtain ⟨fresh, same⟩ := answered
      cases same
      exact .inr (.inr ⟨_, fresh, rfl⟩)
  all_goals
    cases answered
    try exact .inl rfl

theorem answer_operation {e : Effect} {fate : Fate} {r : Except PyExc e.Answer}
    (answered : Leases.answer caller e fate s = some (r, s')) : s'.operation = s.operation := by
  rcases leases_answer_effect answered with rfl | ⟨c, -, rfl⟩ | ⟨token, -, rfl⟩ <;> rfl

/-- A generated token is none that another caller relies on. -/
theorem Leases.Consistent.mint (hs : s.Consistent) {token : String} (fresh : s.minted token = none) :
    Leases.Consistent { s with minted := Function.update s.minted token (some caller) } ∧
      ∀ other, leaseDiscipline.keeps other s
        { s with minted := Function.update s.minted token (some caller) } := by
  refine ⟨⟨hs.held, fun token' spent => ?_⟩, fun other => ⟨rfl, fun token' minted => ⟨?_, rfl⟩⟩⟩
  · by_cases here : token' = token
    · simp [here]
    · simpa [Function.update_of_ne here] using hs.generated token' spent
  · have here : token' ≠ token := by
      rintro rfl
      rw [fresh] at minted
      cases minted
    simpa [Function.update_of_ne here] using minted

/-- One answered effect of a lawful caller. -/
theorem answer_lawful {e : Effect} {fate : Fate} {r : Except PyExc e.Answer} (hs : s.Consistent)
    (pledged : leaseDiscipline.pledge caller e s)
    (answered : Leases.answer caller e fate s = some (r, s')) :
    s'.Consistent ∧ ∀ other, other ≠ caller → leaseDiscipline.keeps other s s' := by
  rcases leases_answer_effect answered with rfl | ⟨c, same, rfl⟩ | ⟨token, fresh, rfl⟩
  · exact ⟨hs, fun _ _ => leaseDiscipline.keeps_refl _ _⟩
  · obtain ⟨op, -, lawful⟩ := pledged c same
    exact ⟨lawful.consistent hs, fun _ ne => lawful.others_keep ne⟩
  · exact ⟨(hs.mint fresh).1, fun other _ => (hs.mint fresh).2 other⟩

abbrev LeaseSafe (caller : Nat) {α : Type} (p : Program α) (s : Leases) : Prop :=
  Safe leaseMachine leaseDiscipline caller p (fun _ _ => True) s

/-- A program whose commands are lawful for its operation, whatever the state. -/
theorem leaseSafe_of_uses {α : Type} {p : Program α} (hs : s.Consistent)
    (uses : p.Uses fun e => ∀ c, e = .redis c → ∀ s, Lawful s caller op c)
    (started : s.operation caller = some op) : LeaseSafe caller p s := by
  refine (Safe.of_uses (D := leaseDiscipline) uses (fun s => s.operation caller = some op) started
    (fun a b kept _ here => kept.1.trans here) fun e s₁ lawful hs₁ here => ?_).mono hs
      fun _ _ _ _ => trivial
  have pledged : leaseDiscipline.pledge caller e s₁ := fun c same => ⟨op, here, lawful c same s₁⟩
  refine ⟨pledged, fun _ fate r s₂ answered => ?_⟩
  obtain ⟨hs₂, others⟩ := answer_lawful hs₁ pledged answered
  exact ⟨hs₂, others, by rw [answer_operation answered]; exact here⟩

/-- The operations of the registry only issue its own commands. -/
theorem registry_safe {α : Type} {p : Program α} (hs : s.Consistent) (uses : p.Uses (RegistryEffect fun _ _ => True))
    (started : s.operation caller = some op) : LeaseSafe caller p s :=
  leaseSafe_of_uses hs (uses.mono fun _ registry _ same _ => .registry (by rw [same] at registry; exact registry))
    started

theorem answer_ownerToken {instanceId : String} {fate : Fate} {r : Except PyExc String}
    (answered : Leases.answer caller (.ownerToken instanceId) fate s = some (r, s')) :
    ∃ token, r = .ok token ∧ s.minted token = none ∧
      s' = { s with minted := Function.update s.minted token (some caller) } := by
  cases fate with
  | named t =>
      simp only [Leases.answer, Option.ite_none_right_eq_some] at answered
      obtain ⟨fresh, same⟩ := answered
      cases same
      exact ⟨_, rfl, fresh, rfl⟩
  | answered | failed | failedAfter => cases answered

theorem acquireLock_safe {subreddit instanceId : String} {ttl : Int}
    (started : s.operation caller = some (.acquireLock subreddit instanceId ttl)) :
    LeaseSafe caller (DistributedLockManager.acquireLock subreddit instanceId ttl) s := by
  refine Safe.await fun s₁ kept hs₁ => ⟨fun c same => (by cases same), fun _ fate r s₂ answered => ?_⟩
  obtain ⟨hs₂, others⟩ := answer_lawful hs₁ (fun c same => by cases same) answered
  obtain ⟨token, rfl, fresh, rfl⟩ := answer_ownerToken answered
  refine ⟨hs₂, others, ?_⟩
  have unspent : s₁.spent token = false := by
    cases spent : s₁.spent token with
    | false => rfl
    | true => simpa [fresh] using hs₁.generated token spent
  refine Safe.await fun s₃ kept₃ hs₃ => ?_
  obtain ⟨minted₃, spent₃⟩ := kept₃.2 token (by simp)
  have here₃ := kept₃.1.trans (kept.1.trans started)
  have pledged : leaseDiscipline.pledge caller
      (.redis (.setNx (lockKey subreddit) token (some ttl))) s₃ := by
    intro c same
    cases same
    exact ⟨_, here₃, .acquire subreddit instanceId token ttl minted₃ (spent₃.trans unspent)⟩
  refine ⟨pledged, fun _ fate r s₄ answered => ?_⟩
  obtain ⟨hs₄, others₄⟩ := answer_lawful hs₃ pledged answered
  refine ⟨hs₄, others₄, ?_⟩
  cases r with
  | error e => trivial
  | ok acquired =>
      refine registry_safe hs₄ ?_ ((congrFun (answer_operation answered) caller).trans here₃)
      cases acquired with
      | true => trivial
      | false => exact (redis_uses (.get _)).bind fun _ => trivial

theorem owned_uses {sc : Script} (lawful : ∀ s, Lawful s caller op (.eval sc)) :
    (redis (.eval sc) >>= fun b => Prog.perform (Effect.reply b)).Uses fun e =>
      ∀ c, e = .redis c → ∀ s, Lawful s caller op c := by
  refine (Prog.Uses.perform fun c same => ?_).bind fun b => Prog.Uses.perform fun c same => ?_
  · cases same
    exact lawful
  · cases same

theorem ignoring_safe {α : Type} {p : Program α} (hs : s.Consistent) (safe : LeaseSafe caller p s) :
    LeaseSafe caller (ignoring p) s :=
  safe.bind hs (fun _ _ _ _ => trivial) fun _ _ _ _ => trivial

theorem operation_safe (hs : s.Consistent) (started : s.operation caller = some op) :
    LeaseSafe caller op.program s := by
  cases op with
  | acquireLock subreddit instanceId ttl => exact ignoring_safe hs (acquireLock_safe started)
  | refreshLock subreddit token ttl =>
      exact leaseSafe_of_uses hs (owned_uses fun _ => .refresh subreddit token ttl) started
  | releaseLock subreddit token =>
      exact leaseSafe_of_uses hs (owned_uses fun _ => .release subreddit token) started
  | isLocked => exact ignoring_safe hs (registry_safe hs (redis_uses (.keyExists _)) started)
  | getLockHolder =>
      exact ignoring_safe hs (registry_safe hs ((redis_uses (.get _)).bind fun _ => trivial) started)
  | createStream => exact ignoring_safe hs (registry_safe hs (createStream_uses (fun _ => trivial) _ _ _) started)
  | getStream => exact ignoring_safe hs (registry_safe hs (getStream_uses _) started)
  | getStreamBySubreddit =>
      exact ignoring_safe hs (registry_safe hs (getStreamBySubreddit_uses _) started)
  | listStreams => exact ignoring_safe hs (registry_safe hs listStreams_uses started)
  | updateStatus => exact registry_safe hs (updateStatus_uses trivial _) started
  | heartbeat => exact ignoring_safe hs (registry_safe hs (heartbeat_uses _ _) started)
  | requestStop => exact registry_safe hs (requestStop_uses trivial trivial) started
  | isStopRequested => exact ignoring_safe hs (registry_safe hs (redis_uses (.keyExists _)) started)
  | deleteStream => exact ignoring_safe hs (registry_safe hs (deleteStream_uses (.inr trivial) _ _) started)
  | setCheckpoint => exact registry_safe hs (setCheckpoint_uses _ _ _) started
  | getCheckpoint => exact ignoring_safe hs (registry_safe hs (getCheckpoint_uses _) started)
  | cleanup => exact registry_safe hs DeadStreamCleanup.cleanup_uses started

theorem leases_sound : Sound leaseMachine leaseDiscipline fun _ _ _ => True where
  post_stable _ _ _ _ _ _ _ := trivial
  start caller event s p s' hs started := by
    cases event with
    | elapse => cases started
    | call op =>
        simp only [leaseMachine, Option.ite_none_right_eq_some] at started
        obtain ⟨free, same⟩ := started
        cases same
        refine ⟨⟨hs.held, hs.generated⟩, fun other ne => ⟨?_, fun _ minted => ⟨minted, rfl⟩⟩, ?_⟩
        · simp [Function.update_of_ne ne]
        · exact operation_safe ⟨hs.held, hs.generated⟩ (by simp)
  finish _ _ _ hs _ := ⟨hs, fun _ _ => leaseDiscipline.keeps_refl _ _⟩
  tick event s s' hs ticked := by
    cases event with
    | call => cases ticked
    | elapse n =>
        cases ticked
        refine ⟨⟨fun subreddit token held => ?_, hs.generated⟩, fun _ => ⟨rfl, fun _ minted => ⟨minted, rfl⟩⟩⟩
        obtain ⟨e, after, same⟩ := Option.map_eq_some_iff.mp held
        exact hs.held subreddit token (Option.map_eq_some_iff.mpr ⟨e, Store.entry_elapse after, same⟩)

theorem leases_orderly {s₀ : Leases} (start : s₀.Consistent)
    {c : Config Effect Effect.Answer PyExc Leases Nat}
    (reached : leaseMachine.Reaches (Config.initial s₀) c) :
    Orderly leaseMachine leaseDiscipline (fun _ _ _ => True) c :=
  leases_sound.reaches (Orderly.initial start) reached

/-! ## What a refresh or a release returns -/

/-- A refresh or release is one script, whose reply is its result. -/
theorem Operation.program_of_owner {subreddit token : String}
    (owner : op.owner = some (subreddit, token)) :
    ∃ script : Script,
      op.program = (redis (.eval script) >>= fun b => Prog.perform (Effect.reply b)) ∧
        ∀ s : Leases, (script.run s.redis).1 = true → s.holder subreddit = some token := by
  cases op with
  | refreshLock subreddit' token' ttl =>
      cases owner
      refine ⟨_, rfl, fun s done => ?_⟩
      simp only [Script.run] at done
      split at done
      · assumption
      · cases done
  | releaseLock subreddit' token' =>
      cases owner
      refine ⟨_, rfl, fun s done => ?_⟩
      simp only [Script.run] at done
      split at done
      · assumption
      · cases done
  | _ => cases owner

/-- The programs that a refresh or release can be in. -/
def Operation.Stage (op : Operation) (p : Program Unit) : Prop :=
  p = op.program ∨ (∃ b, p = Prog.perform (Effect.reply b)) ∨ ∃ r, p = .ofExcept r

/-- One answered effect of a refresh or release. -/
theorem Operation.Stage.answer {subreddit token : String}
    (owner : op.owner = some (subreddit, token)) {e : Effect}
    {k : Except PyExc e.Answer → Program Unit} (stage : op.Stage (.call e k)) {fate : Fate}
    {r : Except PyExc e.Answer} (answered : Leases.answer caller e fate s = some (r, s')) :
    op.Stage (k r) ∧
      ∀ k', k r = .call (.reply true) k' → s.holder subreddit = some token := by
  obtain ⟨script, program, grants⟩ := Operation.program_of_owner owner
  rcases stage with same | ⟨b, same⟩ | ⟨r', same⟩
  · rw [program] at same
    cases same
    cases fate with
    | answered =>
        cases answered
        refine ⟨.inr (.inl ⟨_, rfl⟩), fun k' same => grants s ?_⟩
        injection same with _ result
        exact Effect.reply.inj result
    | failed e | failedAfter e =>
        cases answered
        exact ⟨.inr (.inr ⟨.error e, rfl⟩), fun k' same => by cases same⟩
    | named t => cases answered
  · cases same
    cases r <;> exact ⟨.inr (.inr ⟨_, rfl⟩), fun k' same => by cases same⟩
  · cases r' <;> cases same

section runs

variable {s₀ : Leases} {c d : Config Effect Effect.Answer PyExc Leases Nat}

/-- While it runs, a refresh or release is in one of the stages. -/
theorem owner_stage (reached : leaseMachine.Reaches (Config.initial s₀) c) {subreddit token : String}
    (owner : op.owner = some (subreddit, token)) {p : Program Unit}
    (started : c.state.operation caller = some op) (running : c.threads caller = some p) :
    op.Stage p := by
  induction reached generalizing p with
  | refl => cases running
  | @step a c d before _ moved ih =>
      cases a with
      | call t fate =>
          obtain ⟨e, k, r, s, waits, answered, rfl⟩ := Machine.next_call moved
          rw [Config.put_state, answer_operation answered] at started
          by_cases same : caller = t
          · subst same
            rw [Config.put_self] at running
            cases running
            exact ((ih started waits).answer owner answered).1
          · rw [Config.put_of_ne same] at running
            exact ih started running
      | unroll t =>
          obtain ⟨β, body, k, waits, rfl⟩ := Machine.next_unroll moved
          by_cases same : caller = t
          · subst same
            obtain ⟨script, program, -⟩ := Operation.program_of_owner owner
            rcases ih started waits with h | ⟨b, h⟩ | ⟨r, h⟩
            · rw [program] at h
              cases h
            · cases h
            · cases r <;> cases h
          · rw [Config.put_of_ne same] at running
            exact ih started running
      | finish t =>
          obtain ⟨r, -, rfl⟩ := Machine.next_finish moved
          by_cases same : caller = t
          · subst same
            rw [Config.put_self] at running
            cases running
          · rw [Config.put_of_ne same] at running
            exact ih started running
      | start t event =>
          obtain ⟨p', s, free, begun, rfl⟩ := Machine.next_start moved
          cases event with
          | elapse => cases begun
          | call op' =>
              simp only [leaseMachine, Option.ite_none_right_eq_some] at begun
              obtain ⟨-, same⟩ := begun
              cases same
              by_cases same : caller = t
              · subst same
                rw [Config.put_self] at running
                cases running
                rw [Config.put_state] at started
                simp only [Function.update_self, Option.some.injEq] at started
                exact .inl (by rw [started])
              · rw [Config.put_of_ne same] at running
                rw [Config.put_state] at started
                exact ih (by simpa [Function.update_of_ne same] using started) running
      | tick event =>
          obtain ⟨s, ticked, rfl⟩ := Machine.next_tick moved
          cases event with
          | call => cases ticked
          | elapse => cases ticked; exact ih started running

/-- A step executes a command that some caller awaits, or leaves leases to time. -/
theorem lease_step {a : Action Nat Fate LeaseEvent} (moved : leaseMachine.next a c = some d) :
    (∃ caller cmd, c.Awaits caller (.redis cmd) ∧ d.state = c.state.execute cmd) ∨
      d.state.spent = c.state.spent ∧ ∀ subreddit token,
        d.state.holder subreddit = some token → c.state.holder subreddit = some token := by
  cases a with
  | call t fate =>
      obtain ⟨e, k, r, s, waits, answered, rfl⟩ := Machine.next_call moved
      rcases leases_answer_effect answered with rfl | ⟨cmd, rfl, rfl⟩ | ⟨fresh, -, rfl⟩
      · exact .inr ⟨rfl, fun _ _ held => held⟩
      · exact .inl ⟨t, cmd, ⟨k, waits⟩, rfl⟩
      · exact .inr ⟨rfl, fun _ _ held => held⟩
  | unroll t =>
      obtain ⟨β, body, k, -, rfl⟩ := Machine.next_unroll moved
      exact .inr ⟨rfl, fun _ _ held => held⟩
  | finish t =>
      obtain ⟨r, -, rfl⟩ := Machine.next_finish moved
      exact .inr ⟨rfl, fun _ _ held => held⟩
  | start t event =>
      obtain ⟨p, s, -, begun, rfl⟩ := Machine.next_start moved
      cases event with
      | elapse => cases begun
      | call op' =>
          simp only [leaseMachine, Option.ite_none_right_eq_some] at begun
          obtain ⟨-, same⟩ := begun
          cases same
          exact .inr ⟨rfl, fun _ _ held => held⟩
  | tick event =>
      obtain ⟨s, ticked, rfl⟩ := Machine.next_tick moved
      cases event with
      | call => cases ticked
      | elapse =>
          cases ticked
          refine .inr ⟨rfl, fun subreddit token held => ?_⟩
          obtain ⟨e, after, same⟩ := Option.map_eq_some_iff.mp held
          exact Option.map_eq_some_iff.mpr ⟨e, Store.entry_elapse after, same⟩

theorem spent_stays {c₁ : Config Effect Effect.Answer PyExc Leases Nat} {token : String}
    (spent : c₁.state.spent token = true) (later : leaseMachine.Reaches c₁ c) :
    c.state.spent token = true := by
  induction later with
  | refl => exact spent
  | step _ _ moved ih =>
      rcases lease_step moved with ⟨caller, cmd, -, same⟩ | ⟨same, -⟩
      · simp [same, Leases.execute, ih]
      · rw [same]
        exact ih

/-- A token that a lease stopped holding never holds it again. -/
theorem lost_stays_lost {c₁ : Config Effect Effect.Answer PyExc Leases Nat}
    (orderly : Orderly leaseMachine leaseDiscipline (fun _ _ _ => True) c₁) {subreddit token : String}
    (spent : c₁.state.spent token = true) (lost : c₁.state.holder subreddit ≠ some token)
    (later : leaseMachine.Reaches c₁ c) : c.state.holder subreddit ≠ some token := by
  induction later with
  | refl => exact lost
  | step before _ moved ih =>
      rcases lease_step moved with ⟨caller, cmd, waits, same⟩ | ⟨-, kept⟩
      · obtain ⟨op, -, lawful⟩ := (leases_sound.reaches orderly before).pledged waits cmd rfl
        intro held
        rcases lawful.holder_after (same ▸ held) with earlier | offered
        · exact ih earlier
        · simpa [(lawful.offers_minted offered).2] using spent_stays spent before
      · exact fun held => ih (kept _ _ held)

/-- One step of an operation: a lease that changes was free and is being acquired, or is held
under the very token of a refresh or release; a refresh or release that returns `True` found
its token stored; and it never does once the lease has stopped holding the token. -/
theorem lease_token_safety (start : s₀.Consistent)
    (reached : leaseMachine.Reaches (Config.initial s₀) c)
    (started : c.state.operation caller = some op) {fate : Fate}
    (moved : leaseMachine.next (.call caller fate) c = some d) :
    (∀ subreddit, d.state.lock subreddit ≠ c.state.lock subreddit →
      (∃ instanceId ttl, op = .acquireLock subreddit instanceId ttl ∧
        c.state.lock subreddit = none) ∨
      ∃ token, op.owner = some (subreddit, token) ∧ c.state.holder subreddit = some token) ∧
    ∀ subreddit token, op.owner = some (subreddit, token) →
      (d.Awaits caller (.reply true) → c.state.holder subreddit = some token) ∧
      ∀ c₁ c₂, leaseMachine.Reaches (Config.initial s₀) c₁ →
        c₁.state.holder subreddit = some token → leaseMachine.Reaches c₁ c₂ →
        c₂.state.holder subreddit ≠ some token → leaseMachine.Reaches c₂ c →
        ¬ d.Awaits caller (.reply true) := by
  have orderly := leases_orderly start reached
  obtain ⟨e, k, r, s, waits, answered, rfl⟩ := Machine.next_call moved
  have granted : ∀ subreddit token, op.owner = some (subreddit, token) →
      (c.put caller (some (k r)) s).Awaits caller (.reply true) →
      c.state.holder subreddit = some token := by
    rintro subreddit token owner ⟨k', returned⟩
    rw [Config.put_self] at returned
    exact ((owner_stage reached owner started waits).answer owner answered).2 k'
      (Option.some.inj returned)
  refine ⟨fun subreddit changed => ?_, fun subreddit token owner => ⟨granted _ _ owner, ?_⟩⟩
  · rcases leases_answer_effect answered with rfl | ⟨cmd, rfl, rfl⟩ | ⟨token, -, rfl⟩
    · exact absurd rfl changed
    · obtain ⟨op', started', lawful⟩ := orderly.pledged ⟨k, waits⟩ cmd rfl
      rw [started] at started'
      cases started'
      exact lawful.lock_changed changed
    · exact absurd rfl changed
  · intro c₁ c₂ reached₁ held₁ later₁ lost later₂ returned
    have orderly₁ := leases_orderly start reached₁
    have spent := spent_stays (orderly₁.inv.held _ _ held₁) later₁
    exact lost_stays_lost (leases_sound.reaches orderly₁ later₁) spent lost later₂
      (granted _ _ owner returned)

/-- A refresh by the owner returns `True`, and finds its token stored. -/
theorem lease_refreshed_by_owner :
    ∃ c d, leaseMachine.Reaches (Config.initial {}) c ∧
      leaseMachine.next (.call 1 .answered) c = some d ∧ d.Awaits 1 (.reply true) ∧
        c.state.holder "news" = some "i:u" := by
  have run : (leaseMachine.exec [.start 0 (.call (.acquireLock "news" "i" 60)),
      .call 0 (.named "u"), .call 0 .answered, .start 1 (.call (.refreshLock "news" "i:u" 60))]
      (Config.initial {})).map (fun c => (c.state.operation 1,
        (leaseMachine.next (.call 1 .answered) c).map fun d => d.awaited 1)) =
      some (some (.refreshLock "news" "i:u" 60), some (some (.reply true))) := rfl
  obtain ⟨c, reached, seen⟩ := Machine.Reaches.of_exec_map run
  obtain ⟨started, after⟩ := Prod.ext_iff.mp seen
  obtain ⟨d, moved, waits⟩ := Option.map_eq_some_iff.mp after
  have returned : d.Awaits 1 (.reply true) := Config.awaits_iff.mpr waits
  have empty : Leases.Consistent {} := ⟨fun _ _ held => (by cases held), fun _ spent => by cases spent⟩
  exact ⟨c, d, reached, moved, returned,
    ((lease_token_safety empty reached started moved).2 _ _ rfl).1 returned⟩

end runs
end RedditKafka
