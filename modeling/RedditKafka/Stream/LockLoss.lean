import RedditKafka.Stream.WorkerEffects
import RedditKafka.Stream.WorkerFootprint

/-!
# Loss of the lease while comments are processed

The stream task and the lock refresher of one worker, interleaved at every
effect. The flag that the refresher sets is tested before the cancellation
point of a turn, and the comment is handed to the producer behind it. A
cancellation by `run` may surface at every await that can be cancelled.
-/
namespace RedditKafka
open Async

/-- The world, and how far the stream task is with the comment given last. -/
structure Duo where
  world : World := {}
  /-- The comment yielded last, until it is handed over or dropped. -/
  taken : Option Comment := none
  /-- The stop flag was clear when it was tested last. -/
  tested : Bool := false

namespace Duo

/-- What an answered effect of the stream task says about the comment in hand. -/
def note : (c : WorkerEff) → Except PyExc c.Answer → Duo → Duo
  | .nextComment, .ok (.item comment), s => { s with taken := comment, tested := false }
  | .stopIsSet, .ok stopped, s => { s with tested := !stopped }
  | .nextComment, .ok .exhausted, s | .getCheckpoint, _, s | .produce _ _ _, _, s
  | .serialize _, .ok none, s | _, .error _, s => { s with taken := none, tested := false }
  | _, .ok _, s => s

/-- Behind the test of the flag, with a comment that the session does not skip and whose
message is valid: only the serializer, an exception or a cancellation can keep it from the
producer. -/
def inHand (w : StreamWorker) (s : Duo) : Bool :=
  s.tested && s.taken.any fun comment =>
    !StreamWorker.alreadyProcessed comment s.world.sessionCheckpoint &&
      (w.messageOf comment "").build.isOk

end Duo

/-- The two tasks of a worker. Only the refresher sets the stop flag. -/
def duoMachine (o : Outside) :
    Machine WorkerEff WorkerEff.Answer PyExc Duo Child Choice Event where
  answer child c choice s := (o.answer c choice s.world).map fun answer =>
    (answer.1, { (if child = .stream then s.note c answer.1 else s) with world := answer.2 })
  start _ _ _ := none
  finish _ _ s := s
  tick event s :=
    if event = .stop then none
    else (World.tick event s.world).map fun world => { s with world := world }

/-- `run` has created its two tasks. -/
def duoConfig (w : StreamWorker) (s : World) :
    Config WorkerEff WorkerEff.Answer PyExc Duo Child where
  state := { world := s.newHistory.begin }
  threads
    | .stream => some w.streamLoop
    | .lock => some w.lockRefreshLoop

/-- The stop flag is set while no comment is between its test and the producer. -/
def emptyHanded (w : StreamWorker) (_ : Child) (c : WorkerEff) (s : Duo) : Bool :=
  match c with
  | .setStop => !s.inHand w
  | _ => true

/-- The two tasks as a discipline: with the flag set no comment is in hand, and whoever calls
`produce` has one. -/
def duoDiscipline (w : StreamWorker) : Discipline WorkerEff Duo Child where
  inv s := s.world.stopEvent = true → s.inHand w = false
  keeps
    | .stream, s, s' => s'.taken = s.taken ∧ s'.tested = s.tested ∧
        s'.world.sessionCheckpoint = s.world.sessionCheckpoint
    | .lock, _, _ => True
  keeps_refl child s := by cases child <;> simp
  keeps_trans child a b c first second := by
    cases child with
    | stream =>
        exact ⟨second.1.trans first.1, second.2.1.trans first.2.1, second.2.2.trans first.2.2⟩
    | lock => trivial
  ok child c s := emptyHanded w child c s = true
  pledge
    | .stream, .produce _ _ _, s => s.inHand w = true
    | .lock, .produce _ _ _, _ => False
    | _, _, _ => True

namespace Duo

variable {o : Outside} {w : StreamWorker} {child : Child} {c : WorkerEff} {choice : Choice}
  {r : Except PyExc c.Answer} {s s' : Duo}

theorem inHand_eq_true :
    s.inHand w = true ↔ s.tested = true ∧ ∃ comment, s.taken = some comment ∧
      StreamWorker.alreadyProcessed comment s.world.sessionCheckpoint = false ∧
      (w.messageOf comment "").build.isOk = true := by
  simp [inHand, Option.any_eq_true]

/-- Whether a message is valid does not depend on its time. -/
theorem build_isOk {comment : Comment} {now : String} {m : RedditCommentMessage}
    (built : (w.messageOf comment now).build = .ok m) :
    (w.messageOf comment "").build.isOk = true := by
  unfold RedditCommentMessage.build at built ⊢
  split at built
  · rename_i valid
    simp only [StreamWorker.messageOf] at valid ⊢
    rw [valid]
    rfl
  · cases built

/-- Only a test of the flag can make the comment one in hand. -/
theorem note_cases :
    (s.note c r).tested = false ∨ (s.note c r = s ∧ c ≠ .getCheckpoint) ∨ c = .stopIsSet := by
  cases r with
  | error e => cases c <;> exact .inl rfl
  | ok a =>
      cases c with
      | stopIsSet => exact .inr (.inr rfl)
      | nextComment => cases a <;> exact .inl rfl
      | getCheckpoint | produce => exact .inl rfl
      | serialize =>
          cases a with
          | none => exact .inl rfl
          | some payload => exact .inr (.inl ⟨rfl, fun same => by cases same⟩)
      | _ => exact .inr (.inl ⟨rfl, fun same => by cases same⟩)

/-- Every effect keeps the comment in hand and the flag apart. -/
theorem answer_inv (hs : (duoDiscipline w).inv s)
    (possible : match child with
      | .stream => c ≠ .setStop
      | .lock => c ≠ .getCheckpoint)
    (allowed : emptyHanded w child c s = true)
    (answered : (duoMachine o).answer child c choice s = some (r, s')) :
    (duoDiscipline w).inv s' := by
  obtain ⟨⟨r', world⟩, given, same⟩ := Option.map_eq_some_iff.mp answered
  obtain ⟨flag, session, -⟩ := Outside.answer_frame given
  cases same
  intro stopped
  cases child with
  | lock =>
      have hand : inHand w { s with world := world } = s.inHand w := by
        simp only [inHand, session possible]
      rw [if_neg (by decide)]
      by_cases sets : c = .setStop
      · subst sets
        simpa [hand, emptyHanded] using allowed
      · exact hand.trans (hs ((flag sets).symm.trans stopped))
  | stream =>
      have before : s.world.stopEvent = true := (flag possible).symm.trans stopped
      rw [if_pos rfl]
      rcases note_cases (s := s) (r := r') with clear | ⟨same, reads⟩ | rfl
      · simp [inHand, clear]
      · have hand : inHand w { s with world := world } = s.inHand w := by
          simp only [inHand, session reads]
        rw [same]
        exact hand.trans (hs before)
      · obtain ⟨rfl, -⟩ := Outside.answer_own (c := .stopIsSet) rfl rfl given
        simp [inHand, note, before]

end Duo

section programs

variable {o : Outside} {w : StreamWorker} {s : Duo} {α : Type}

abbrev DuoSafe (o : Outside) (w : StreamWorker) (child : Child) (p : Coroutine α)
    (Q : Except PyExc α → Duo → Prop) (s : Duo) : Prop :=
  Safe (duoMachine o) (duoDiscipline w) child p Q s

/-- Effects that neither set the flag, nor call the producer, nor begin a session. -/
def WorkerEff.harmless : WorkerEff → Bool
  | .setStop | .produce _ _ _ | .getCheckpoint => false
  | _ => true

theorem WorkerEff.harmless_of_inert {c : WorkerEff} (h : c.inert = true) : c.harmless = true := by
  cases c <;> first | rfl | cases h

namespace DuoSafe

variable {β : Type} {k : Checkpoint}

/-- One effect of the stream task, in front of the rest of its program. -/
theorem await {c : WorkerEff} {f : c.Answer → Coroutine β} {Q : Except PyExc β → Duo → Prop}
    (flag : c ≠ .setStop)
    (pledged : ∀ s₁, (duoDiscipline w).keeps .stream s s₁ → (duoDiscipline w).pledge .stream c s₁)
    (rest : ∀ s₁ choice r world, (duoDiscipline w).keeps .stream s s₁ →
      o.answer c choice s₁.world = some (r, world) →
      (duoDiscipline w).inv { s₁.note c r with world := world } →
      DuoSafe o w .stream (Prog.andThen f r) Q { s₁.note c r with world := world }) :
    DuoSafe o w .stream (RedditKafka.await c >>= f) Q s := by
  refine Safe.await fun s₁ kept hs₁ => ⟨pledged s₁ kept, fun allowed choice r s₂ answered => ?_⟩
  have hs₂ := Duo.answer_inv hs₁ flag allowed answered
  obtain ⟨⟨r', world⟩, given, same⟩ := Option.map_eq_some_iff.mp answered
  cases same
  refine ⟨hs₂, fun other ne => ?_, rest s₁ choice r' world kept given hs₂⟩
  cases other with
  | stream => exact absurd rfl ne
  | lock => trivial

theorem harmless {p : Coroutine α} (uses : p.Uses (·.harmless = true))
    (start : s.world.sessionCheckpoint = k) :
    DuoSafe o w .stream p (fun _ s' => s'.world.sessionCheckpoint = k) s := by
  refine Safe.of_uses (D := duoDiscipline w) uses (fun s => s.world.sessionCheckpoint = k) start
    (fun a b kept _ same => kept.2.2.trans same) fun c s₁ quiet hs₁ session => ?_
  have flag : c ≠ .setStop := by
    rintro rfl
    cases quiet
  have reads : c ≠ .getCheckpoint := by
    rintro rfl
    cases quiet
  refine ⟨?_, fun allowed choice r s₂ answered =>
    ⟨Duo.answer_inv hs₁ flag allowed answered, fun other ne => ?_, ?_⟩⟩
  · cases c <;> trivial
  · cases other with
    | stream => exact absurd rfl ne
    | lock => trivial
  · obtain ⟨⟨r', world⟩, given, same⟩ := Option.map_eq_some_iff.mp answered
    cases same
    exact ((Outside.answer_frame given).2.1 reads).trans session

end DuoSafe

/-- The comment that is handed over is one in hand. -/
theorem publish_duo {comment : Comment} {k : Checkpoint} (session : s.world.sessionCheckpoint = k)
    (taken : s.taken = some comment) (tested : s.tested = true)
    (unread : StreamWorker.alreadyProcessed comment k = false) :
    DuoSafe o w .stream (w.publish comment) (fun _ s' => s'.world.sessionCheckpoint = k) s := by
  refine DuoSafe.await (fun same => by cases same) (fun _ _ => trivial)
    fun s₁ choice r world kept answered _ => ?_
  obtain ⟨now, rfl, rfl⟩ := Outside.answer_nowIso answered
  have session₁ := kept.2.2.trans session
  cases built : (w.messageOf comment now).build with
  | error e =>
      rw [Prog.andThen, built]
      exact session₁
  | ok m =>
      rw [Prog.andThen, built]
      refine DuoSafe.await (fun same => by cases same) (fun _ _ => trivial)
        fun s₂ choice r world kept₂ answered hs₃ => ?_
      have session₂ := kept₂.2.2.trans session₁
      obtain ⟨rfl, ⟨payload, rfl, -⟩ | ⟨e, rfl, -⟩⟩ := Outside.answer_serialize answered
      · cases payload with
        | none => exact session₂
        | some payload =>
            refine Safe.exceptException hs₃ (P := fun _ s' => s'.world.sessionCheckpoint = k) ?_
              (fun _ _ _ done => done) (fun _ _ _ _ done => done) fun e s' _ _ done => by exact done
            refine DuoSafe.await (fun same => by cases same) (fun s₃ kept₃ => ?_)
              fun s₃ choice r world kept₃ answered _ => ?_
            · refine Duo.inHand_eq_true.mpr ⟨?_, comment, ?_, ?_, Duo.build_isOk built⟩
              · exact (kept₃.2.1.trans (kept₂.2.1.trans kept.2.1)).trans tested
              · exact (kept₃.1.trans (kept₂.1.trans kept.1)).trans taken
              · rw [kept₃.2.2]
                exact session₂ ▸ unread
            · have session₃ : world.sessionCheckpoint = k :=
                ((Outside.answer_frame answered).2.1 fun same => by cases same).trans
                  (kept₃.2.2.trans session₂)
              cases r with
              | ok _ => exact DuoSafe.harmless (await_uses (by rfl)) session₃
              | error e => exact session₃
      · exact session₂

theorem processComment_duo {comment : Comment} {k : Checkpoint} (hs : (duoDiscipline w).inv s)
    (session : s.world.sessionCheckpoint = k) (taken : s.taken = some comment)
    (tested : s.tested = true) :
    DuoSafe o w .stream (w.processComment comment k) (fun _ s' => s'.world.sessionCheckpoint = k)
      s := by
  unfold StreamWorker.processComment
  by_cases skipped : StreamWorker.alreadyProcessed comment k = true
  · rw [if_pos skipped]
    exact session
  rw [if_neg skipped]
  refine Safe.exceptException hs (P := fun _ s' => s'.world.sessionCheckpoint = k) ?_
    (fun _ _ _ done => done) (fun _ _ _ _ done => done) fun e s' _ _ done => ?_
  · refine Safe.bind hs (publish_duo session taken tested (by simpa using skipped))
      (fun _ s' _ session => ?_) fun _ _ _ done => done
    refine DuoSafe.harmless ((w.countComment_uses comment).mono fun c batch => ?_) session
    cases c <;> first | rfl | cases batch
  · split
    · exact done
    · exact DuoSafe.harmless (await_uses (by rfl)) done

theorem eachComment_duo {k : Checkpoint} (session : s.world.sessionCheckpoint = k) :
    DuoSafe o w .stream (w.eachComment k) (fun _ s' => s'.world.sessionCheckpoint = k) s := by
  refine DuoSafe.await (fun same => by cases same) (fun _ _ => trivial)
    fun s₁ choice r world kept answered _ => ?_
  have session₁ : world.sessionCheckpoint = k :=
    ((Outside.answer_frame answered).2.1 fun same => by cases same).trans (kept.2.2.trans session)
  cases r with
  | error e => exact session₁
  | ok yielded =>
      cases yielded with
      | exhausted => exact session₁
      | item comment =>
          refine DuoSafe.await (fun same => by cases same) (fun _ _ => trivial)
            fun s₂ choice r world₂ kept₂ answered _ => ?_
          obtain ⟨rfl, rfl⟩ := Outside.answer_own (c := .stopIsSet) rfl rfl answered
          have session₂ := kept₂.2.2.trans session₁
          by_cases stopped : s₂.world.stopEvent = true
          · simp only [Prog.andThen, if_pos stopped]
            exact session₂
          simp only [Prog.andThen, if_neg stopped]
          refine DuoSafe.await (fun same => by cases same) (fun _ _ => trivial)
            fun s₃ choice r world kept₃ answered _ => ?_
          obtain ⟨rfl, rfl | ⟨e, rfl, -⟩⟩ := Outside.answer_sleep answered
          · have session₃ := kept₃.2.2.trans session₂
            cases comment with
            | none => exact session₃
            | some comment =>
                refine DuoSafe.await (fun same => by cases same) (fun _ _ => trivial)
                  fun s₄ choice r world kept₄ answered hs₅ => ?_
                obtain ⟨rfl, rfl⟩ := Outside.answer_own (c := .breakerRecordSuccess) rfl rfl answered
                refine Safe.bind hs₅ (processComment_duo hs₅ (kept₄.2.2.trans session₃) ?_ ?_)
                  (fun _ _ _ done => done) fun _ _ _ done => done
                · exact kept₄.1.trans (kept₃.1.trans kept₂.1)
                · refine kept₄.2.1.trans (kept₃.2.1.trans ?_)
                  simpa [Duo.note] using stopped
          · exact kept₃.2.2.trans session₂

/-- A session, between whose comments nothing is in hand. -/
theorem fetchAndProcessComments_duo :
    DuoSafe o w .stream w.fetchAndProcessComments (fun _ _ => True) s := by
  refine DuoSafe.await (fun same => by cases same) (fun _ _ => trivial)
    fun s₁ choice r world kept answered _ => ?_
  cases r with
  | error e => trivial
  | ok _ =>
      refine DuoSafe.await (fun same => by cases same) (fun _ _ => trivial)
        fun s₂ choice r world kept₂ answered hs₂ => ?_
      obtain ⟨rfl, rfl⟩ | ⟨e, rfl, -⟩ := Outside.answer_getCheckpoint answered
      · refine Safe.exceptException hs₂ (P := fun _ _ => True) ?_ (fun _ _ _ _ => trivial)
          (fun _ _ _ _ _ => trivial) fun e s' _ _ _ => ?_
        · refine DuoSafe.await (fun same => by cases same) (fun _ _ => trivial)
            fun s₃ choice r world kept₃ answered hs₃ => ?_
          cases r with
          | error e => trivial
          | ok _ =>
              have session : world.sessionCheckpoint = s₂.world.checkpoint :=
                ((Outside.answer_frame answered).2.1 fun same => by cases same).trans kept₃.2.2
              refine Safe.forever (fun s => s.world.sessionCheckpoint = s₂.world.checkpoint) session
                (fun _ _ kept _ same => kept.2.2.trans same) fun s₄ hs₄ session => ?_
              refine (eachComment_duo session).mono hs₄ fun r s' _ after => ?_
              rcases r with e | _ | _
              · trivial
              · exact after
              · trivial
        · refine (DuoSafe.harmless ((StreamWorker.handleFetchException_uses e).mono ?_) rfl).mono ‹_›
            fun _ _ _ _ => trivial
          rintro c ⟨status, rfl⟩
          rfl
      · trivial

theorem streamLoop_duo : DuoSafe o w .stream w.streamLoop (fun _ _ => True) s := by
  refine Safe.forever (fun _ => True) trivial (fun _ _ _ _ _ => trivial) fun s₁ _ _ => ?_
  refine DuoSafe.await (fun same => by cases same) (fun _ _ => trivial)
    fun s₂ choice r world kept answered hs₃ => ?_
  obtain ⟨rfl, rfl⟩ := Outside.answer_own (c := .stopIsSet) rfl rfl answered
  simp only [Prog.andThen]
  split
  · trivial
  refine Safe.bind hs₃ (P := fun _ _ => True) ?_ (fun _ _ _ _ => trivial) fun _ _ _ _ => trivial
  refine Safe.exceptException hs₃ (P := fun _ _ => True) ?_ (fun _ _ _ _ => trivial)
    (fun _ _ _ _ _ => trivial) fun e s' hs' _ _ => ?_
  · refine DuoSafe.await (fun same => by cases same) (fun _ _ => trivial)
      fun s₄ choice r world kept₄ answered hs₅ => ?_
    cases r with
    | error e => trivial
    | ok _ =>
        refine Safe.exceptException hs₅ (P := fun _ _ => True) ?_ (fun _ _ _ _ => trivial)
          (fun _ _ _ _ _ => trivial) fun e s' hs' _ _ => ?_
        · refine Safe.bind hs₅ fetchAndProcessComments_duo (fun _ s' hs' _ => ?_)
            fun _ _ _ _ => trivial
          exact (DuoSafe.harmless (p := do
            await .breakerRecordSuccess
            return ()) ((await_uses (by rfl)).bind fun _ => trivial) rfl).mono hs' fun _ _ _ _ => trivial
        · exact (DuoSafe.harmless (p := do
            await (.breakerRecordFailure e)
            Prog.raise e) ((await_uses (by rfl)).bind fun _ => by trivial) rfl).mono hs'
              fun _ _ _ _ => trivial
  · refine (DuoSafe.harmless ((StreamWorker.handleError_uses e).mono ?_) rfl).mono hs'
      fun _ _ _ _ => trivial
    rintro c (inert | ⟨_, _, _, rfl⟩)
    · exact WorkerEff.harmless_of_inert inert
    · rfl

/-- The refresher never calls the producer, and sets the flag as the discipline asks for. -/
theorem lockRefreshLoop_duo : DuoSafe o w .lock w.lockRefreshLoop (fun _ _ => True) s := by
  refine Safe.of_uses w.lockRefreshLoop_uses (fun _ => True) trivial (fun _ _ _ _ _ => trivial) ?_
  intro c s₁ used hs₁ _
  have reads : c ≠ .getCheckpoint := by
    rintro rfl
    cases used
  refine ⟨?_, fun allowed choice r s₂ answered =>
    ⟨Duo.answer_inv hs₁ reads allowed answered, fun other ne => ?_, trivial⟩⟩
  · cases c <;> trivial
  · obtain ⟨⟨r', world⟩, given, same⟩ := Option.map_eq_some_iff.mp answered
    cases same
    cases other with
    | stream => exact ⟨rfl, rfl, (Outside.answer_frame given).2.1 reads⟩
    | lock => exact absurd rfl ne

theorem duo_sound : Sound (duoMachine o) (duoDiscipline w) fun _ _ _ => True where
  post_stable _ _ _ _ _ _ _ := trivial
  start _ _ _ _ _ _ started := by cases started
  finish child _ _ hs _ := ⟨hs, fun other _ => (duoDiscipline w).keeps_refl other _⟩
  tick event s s' hs ticked := by
    simp only [duoMachine, Option.ite_none_left_eq_some, Option.map_eq_some_iff] at ticked
    obtain ⟨other, world, moved, same⟩ := ticked
    cases same
    have session := (World.tick_still moved).sessionCheckpoint
    have flag : world.stopEvent = s.world.stopEvent := by
      cases event with
      | begin => cases moved
      | report message error =>
          simp only [World.tick] at moved
          split at moved <;> cases moved
          rfl
      | stop => exact absurd rfl other
      | post | retain | clock => cases moved; rfl
    refine ⟨fun stopped => ?_, fun child => ?_⟩
    · have before := hs (flag.symm.trans stopped)
      simpa only [Duo.inHand, session] using before
    · cases child with
      | stream => exact ⟨rfl, rfl, session⟩
      | lock => trivial

end programs

/-- Once the flag is set, nothing is handed to the producer any more: in every run in which no
comment is in hand when the refresher sets it. -/
theorem no_produce_after_lock_loss {o : Outside} {w : StreamWorker} {s₀ : World}
    {c : Config WorkerEff WorkerEff.Answer PyExc Duo Child}
    (reached : (duoMachine o).ReachesUnder (fun child e s => emptyHanded w child e s = true)
      (duoConfig w s₀) c) (lost : c.state.world.stopEvent = true) (child : Child)
    (topic key : String) (payload : ByteArray) : ¬ c.Awaits child (.produce topic payload key) := by
  intro waits
  have start : Orderly (duoMachine o) (duoDiscipline w) (fun _ _ _ => True) (duoConfig w s₀) := by
    refine ⟨fun stopped => (by cases stopped), fun child p running => ?_⟩
    cases child with
    | stream =>
        cases running
        exact streamLoop_duo
    | lock =>
        cases running
        exact lockRefreshLoop_duo
  have orderly := duo_sound.reaches start reached
  have pledged := orderly.pledged waits
  cases child with
  | stream =>
      have held : c.state.inHand w = true := pledged
      exact absurd (orderly.inv lost) (by simp [held])
  | lock => exact pledged

/-- Both tasks up to the first comment, with its flag test: the refresher sleeps. -/
def firstComment : List (Action Child Choice Event) :=
  [.unroll .lock, .unroll .stream, .call .stream .done, .call .stream (.later 0),
    .call .stream .done, .call .stream .done, .call .stream .done, .unroll .stream,
    .call .stream (.comment (some ⟨"t1", some "a", "text"⟩)), .call .stream .done]

/-- The flag is set at the cancellation point, and the comment is published behind it. -/
theorem produce_after_lock_loss :
    ∃ c d, (duoMachine {}).Reaches (duoConfig newsWorker {}) c ∧
      c.state.world.stopEvent = true ∧ (duoMachine {}).Reaches c d ∧
      ∃ topic payload key, d.Awaits .stream (.produce topic payload key) := by
  have run : ((duoMachine {}).exec (firstComment ++
      [.call .lock .done, .call .lock (.flag false), .call .lock .done])
      (duoConfig newsWorker {})).map (fun c => (c.state.world.stopEvent,
        ((duoMachine {}).exec [.call .stream .done, .call .stream .done, .call .stream (.text "t"),
          .call .stream (.payload (some ⟨#[]⟩))] c).map fun d => d.awaited .stream)) =
      some (true, some (some (.produce "reddit-comments" ⟨#[]⟩ "news"))) := rfl
  obtain ⟨c, reached, seen⟩ := Machine.Reaches.of_exec_map run
  simp only [Prod.mk.injEq] at seen
  obtain ⟨lost, later⟩ := seen
  obtain ⟨d, reached', waits⟩ := Machine.Reaches.of_exec_map later
  exact ⟨c, d, reached, lost, reached', _, _, _, Config.awaits_iff.mpr waits⟩

/-- The lease is lost between two comments, and the second one is not published. -/
theorem lock_loss_between_comments :
    ∃ c, (duoMachine {}).ReachesUnder (fun child e s => emptyHanded newsWorker child e s = true)
        (duoConfig newsWorker {}) c ∧
      c.state.world.stopEvent = true ∧ c.state.world.published = [0] ∧
      ¬ c.Awaits .stream (.produce "reddit-comments" ⟨#[]⟩ "news") := by
  have run : ((duoMachine {}).execUnder (emptyHanded newsWorker) (firstComment ++
      [.call .stream .done, .call .stream .done, .call .stream (.text "t"),
        .call .stream (.payload (some ⟨#[]⟩)), .call .stream .done, .call .stream .done,
        .call .stream .done, .call .stream .done, .unroll .stream,
        .call .stream (.comment (some ⟨"t2", some "a", "text"⟩)),
        .call .lock .done, .call .lock (.flag false), .call .lock .done])
      (duoConfig newsWorker {})).map (fun c => (c.state.world.stopEvent, c.state.world.published)) =
      some (true, [0]) := rfl
  obtain ⟨c, reached, seen⟩ := Machine.ReachesUnder.of_execUnder_map run
  simp only [Prod.mk.injEq] at seen
  exact ⟨c, reached, seen.1, seen.2, no_produce_after_lock_loss reached seen.1 _ _ _ _⟩

end RedditKafka
