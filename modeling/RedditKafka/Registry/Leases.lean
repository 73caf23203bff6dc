import RedditKafka.Async.Safety
import RedditKafka.Registry.Footprint

/-!
# Leases under every interleaving

Any number of callers issue operations of the lock manager, of the registry and
of the cleanup task with any arguments, and time passes between their commands.
A call may fail before or after its effect.
-/
namespace RedditKafka
open Async Redis StreamRegistry DistributedLockManager DeadStreamCleanup

/-- A call of a public method, with its arguments. -/
inductive Operation where
  | acquireLock (subreddit instanceId : String) (ttl : Int)
  | refreshLock (subreddit ownerToken : String) (ttl : Int)
  | releaseLock (subreddit ownerToken : String)
  | isLocked (subreddit : String)
  | getLockHolder (subreddit : String)
  | createStream (subreddit config : String) (instanceId : Option String)
  | getStream (streamId : String)
  | getStreamBySubreddit (subreddit : String)
  | listStreams
  | updateStatus (streamId status : String) (instanceId : Option String)
  | heartbeat (streamId instanceId : String)
  | requestStop (streamId : String)
  | isStopRequested (streamId : String)
  | deleteStream (streamId : String) (expectedStatus expectedUpdatedAt : Option String)
      (purgeCheckpoint : Bool)
  | setCheckpoint (streamId : String) (lastCommentId lastProcessedAt : Option String)
  | getCheckpoint (streamId : String)
  | cleanup

namespace Operation

def program : Operation → Program Unit
  | acquireLock subreddit instanceId ttl => ignoring (DistributedLockManager.acquireLock subreddit instanceId ttl)
  | refreshLock subreddit ownerToken ttl => do
      let success ← DistributedLockManager.refreshLock subreddit ownerToken ttl
      Prog.perform (Effect.reply success)
  | releaseLock subreddit ownerToken => do
      let deleted ← DistributedLockManager.releaseLock subreddit ownerToken
      Prog.perform (Effect.reply deleted)
  | isLocked subreddit => ignoring (DistributedLockManager.isLocked subreddit)
  | getLockHolder subreddit => ignoring (DistributedLockManager.getLockHolder subreddit)
  | createStream subreddit config instanceId =>
      ignoring (StreamRegistry.createStream subreddit config instanceId)
  | getStream streamId => ignoring (StreamRegistry.getStream streamId)
  | getStreamBySubreddit subreddit => ignoring (StreamRegistry.getStreamBySubreddit subreddit)
  | listStreams => ignoring StreamRegistry.listStreams
  | updateStatus streamId status instanceId => StreamRegistry.updateStatus streamId status instanceId
  | heartbeat streamId instanceId => ignoring (StreamRegistry.heartbeat streamId instanceId)
  | requestStop streamId => StreamRegistry.requestStop streamId
  | isStopRequested streamId => ignoring (StreamRegistry.isStopRequested streamId)
  | deleteStream streamId expectedStatus expectedUpdatedAt purgeCheckpoint =>
      ignoring (StreamRegistry.deleteStream streamId expectedStatus expectedUpdatedAt purgeCheckpoint)
  | setCheckpoint streamId lastCommentId lastProcessedAt =>
      StreamRegistry.setCheckpoint streamId lastCommentId lastProcessedAt
  | getCheckpoint streamId => ignoring (StreamRegistry.getCheckpoint streamId)
  | cleanup => DeadStreamCleanup.cleanup

/-- The subreddit and the token of a refresh or a release. -/
def owner : Operation → Option (String × String)
  | refreshLock subreddit ownerToken _ => some (subreddit, ownerToken)
  | releaseLock subreddit ownerToken => some (subreddit, ownerToken)
  | _ => none

end Operation

structure Leases where
  redis : Store := {}
  /-- The operation that a caller has started; a caller starts one. -/
  operation : Nat → Option Operation := fun _ => none
  /-- The caller for which a token was generated. -/
  minted : String → Option Nat := fun _ => none
  /-- The token has been sent in a `SET`. -/
  spent : String → Bool := fun _ => false

/-- The environment's part of one answer. -/
inductive Fate where
  | answered
  | named (text : String)
  | failed (e : PyExc)
  | failedAfter (e : PyExc)
  deriving DecidableEq, Repr

/-- The token that a command offers for a lease. -/
def RedisCmd.offers : RedisCmd → Option String
  | .setNx _ value (some _) => some value
  | _ => none

namespace Leases

/-- The lease on a subreddit: its token and its deadline. -/
def lock (s : Leases) (subreddit : String) : Option Entry := s.redis.entry (lockKey subreddit)

/-- The token that holds the lease on a subreddit. -/
def holder (s : Leases) (subreddit : String) : Option String :=
  (s.lock subreddit).map Entry.value

def execute (s : Leases) (c : RedisCmd) : Leases :=
  { s with redis := (c.run s.redis).2, spent := fun token => s.spent token || c.offers = some token }

def answer (caller : Nat) : (c : Effect) → Fate → Leases → Option (Except PyExc c.Answer × Leases)
  | .redis c, .answered, s => some ((c.run s.redis).1, s.execute c)
  | .redis _, .failed e, s => some (.error e, s)
  | .redis c, .failedAfter e, s => some (.error e, s.execute c)
  | .persist, .answered, s => some (.ok (), s)
  | .persist, .failed e, s => some (.error e, s)
  | .nowIso, .named t, s => some (.ok t, s)
  | .uuid4, .named t, s => some (.ok t, s)
  | .ownerToken instanceId, .named t, s =>
      -- Every token is one that was never used before.
      let token := instanceId ++ ":" ++ t
      if s.minted token = none then
        some (.ok token, { s with minted := Function.update s.minted token (some caller) })
      else none
  | .reply _, .answered, s => some (.ok (), s)
  | _, _, _ => none

end Leases

inductive LeaseEvent where
  | call (operation : Operation)
  | elapse (milliseconds : Nat)

/-- Callers of the lock manager and the registry, and the passing of time. -/
def leaseMachine : Machine Effect Effect.Answer PyExc Leases Nat Fate LeaseEvent where
  answer := Leases.answer
  start caller event s :=
    match event with
    | .call operation =>
        if (s.operation caller).isNone then
          some (operation.program,
            { s with operation := Function.update s.operation caller (some operation) })
        else none
    | .elapse _ => none
  finish _ _ s := s
  tick event s :=
    match event with
    | .call _ => none
    | .elapse n => some { s with redis := s.redis.elapse n }

/-- Every lease that is held has been offered, and offered tokens have been generated. -/
structure Leases.Consistent (s : Leases) : Prop where
  held : ∀ subreddit token, s.holder subreddit = some token → s.spent token = true
  generated : ∀ token, s.spent token = true → (s.minted token).isSome

/-- The operations that offer a token, change a lease by a script, or leave leases alone. -/
inductive Lawful (s : Leases) (caller : Nat) : Operation → RedisCmd → Prop
  | registry {op : Operation} {c : RedisCmd} : RegistryCommand (fun _ _ => True) c → Lawful s caller op c
  | refresh (subreddit token : String) (ttl : Int) :
      Lawful s caller (.refreshLock subreddit token ttl)
        (.eval (.refreshIfOwner (lockKey subreddit) token ttl))
  | release (subreddit token : String) :
      Lawful s caller (.releaseLock subreddit token) (.eval (.deleteIfOwner (lockKey subreddit) token))
  | acquire (subreddit instanceId token : String) (ttl : Int) :
      s.minted token = some caller → s.spent token = false →
      Lawful s caller (.acquireLock subreddit instanceId ttl)
        (.setNx (lockKey subreddit) token (some ttl))

namespace Lawful

variable {s : Leases} {caller : Nat} {op : Operation} {c : RedisCmd}

/-- A lease that changes was free, or held under the token of the refresh or release. -/
theorem lock_changed (h : Lawful s caller op c) {subreddit : String}
    (changed : (s.execute c).lock subreddit ≠ s.lock subreddit) :
    (∃ instanceId ttl, op = .acquireLock subreddit instanceId ttl ∧ s.lock subreddit = none) ∨
      ∃ token, op.owner = some (subreddit, token) ∧ s.holder subreddit = some token := by
  cases h with
  | registry spares => exact absurd (spares.lock_kept _ _) changed
  | refresh name token ttl =>
      right
      simp only [Leases.lock, Leases.execute, RedisCmd.run, Script.run] at changed
      split at changed
      · rename_i owned
        by_cases same : subreddit = name
        · subst same
          exact ⟨token, rfl, owned⟩
        · exact absurd (Store.entry_expire_of_ne _ (by simpa using same)) changed
      · exact absurd rfl changed
  | release name token =>
      right
      simp only [Leases.lock, Leases.execute, RedisCmd.run, Script.run] at changed
      split at changed
      · rename_i owned
        by_cases same : subreddit = name
        · subst same
          exact ⟨token, rfl, owned⟩
        · exact absurd (by simp [same]) changed
      · exact absurd rfl changed
  | acquire name instanceId token ttl minted unspent =>
      left
      simp only [Leases.lock, Leases.execute, RedisCmd.run] at changed
      split at changed
      · exact absurd rfl changed
      split at changed
      · exact absurd rfl changed
      · rename_i free
        by_cases same : subreddit = name
        · subst same
          exact ⟨instanceId, ttl, rfl, by simpa [Store.get, Leases.lock] using free⟩
        · exact absurd (by simp [Store.entry_setEx, same]) changed

/-- The holder of a lease after the command held it before, or is the offered token. -/
theorem holder_after (h : Lawful s caller op c) {subreddit token : String}
    (held : (s.execute c).holder subreddit = some token) :
    s.holder subreddit = some token ∨ c.offers = some token := by
  by_cases changed : (s.execute c).lock subreddit = s.lock subreddit
  · left
    simpa only [Leases.holder, changed] using held
  cases h with
  | registry spares => exact absurd (spares.lock_kept _ _) changed
  | refresh name token' ttl =>
      simp only [Leases.lock, Leases.holder, Leases.execute, RedisCmd.run, Script.run] at changed held
      split at changed
      · rename_i owned
        rw [if_pos owned] at held
        by_cases same : subreddit = name
        · subst same
          rcases @Store.get_expire s.redis (lockKey subreddit) ttl with kept | gone
          · exact .inl (kept.symm.trans held)
          · exact absurd (gone.symm.trans held) (by simp)
        · exact absurd (Store.entry_expire_of_ne _ (by simpa using same)) changed
      · exact absurd rfl changed
  | release name token' =>
      simp only [Leases.lock, Leases.holder, Leases.execute, RedisCmd.run, Script.run] at changed held
      split at changed
      · rename_i owned
        rw [if_pos owned] at held
        by_cases same : subreddit = name
        · subst same
          simp at held
        · exact absurd (by simp [same]) changed
      · exact absurd rfl changed
  | acquire name instanceId token' ttl minted unspent =>
      right
      simp only [Leases.lock, Leases.holder, Leases.execute, RedisCmd.run] at changed held
      split at changed
      · exact absurd rfl changed
      split at changed
      · exact absurd rfl changed
      · rename_i positive free
        rw [if_neg positive, if_neg free] at held
        by_cases same : subreddit = name
        · subst same
          simpa [Store.entry_setEx, RedisCmd.offers] using held
        · exact absurd (by simp [Store.entry_setEx, same]) changed

theorem offers_minted (h : Lawful s caller op c) {token : String} (offered : c.offers = some token) :
    s.minted token = some caller ∧ s.spent token = false := by
  cases h with
  | registry spares => cases spares <;> cases offered
  | refresh | release => cases offered
  | acquire name instanceId token' ttl minted unspent =>
      cases offered
      exact ⟨minted, unspent⟩

theorem consistent (h : Lawful s caller op c) (hs : s.Consistent) : (s.execute c).Consistent where
  held subreddit token held := by
    rcases h.holder_after held with before | offered
    · simp [Leases.execute, hs.held _ _ before]
    · simp [Leases.execute, offered]
  generated token spent := by
    simp only [Leases.execute, Bool.or_eq_true, decide_eq_true_eq] at spent
    rcases spent with before | offered
    · exact hs.generated token before
    · simp [Leases.execute, (h.offers_minted offered).1]

end Lawful
end RedditKafka
