import RedditKafka.Redis.Store
import RedditKafka.Stream.Worker

/-!
# Keys, commands and scripts

The key layout of `StreamRegistry` and `DistributedLockManager`, the Redis
commands that the service issues, and its four Lua scripts. A command and a
script each run as one step of the server.
-/
namespace RedditKafka
open Async Redis

/-- The layouts of keys, by what they hold. -/
inductive Layout where
  | metadata
  | subreddit
  | checkpoint
  | identity
  | stopRequest
  | lock
  | streamsAll
  | streamsInstance
  deriving DecidableEq, Repr

/-- What a key of the layout starts with. -/
def Layout.start : Layout → String
  | metadata => "stream:meta:"
  | subreddit => "stream:subreddit:"
  | checkpoint => "stream:checkpoint:"
  | identity => "stream:identity:"
  | stopRequest => "stream:stop-request:"
  | lock => "stream:lock:"
  | streamsAll => "streams:all"
  | streamsInstance => "streams:instance:"

def Layout.key (l : Layout) (name : String) : String := l.start ++ name

/-- No layout starts with another one. -/
theorem Layout.start_disjoint {l l' : Layout} (h : l.start.toList <+: l'.start.toList) : l = l' := by
  revert h
  cases l <;> cases l' <;> decide

/-- Keys are disjoint and injective, whatever characters a name contains. -/
@[simp] theorem Layout.key_inj {l l' : Layout} {name name' : String} :
    l.key name = l'.key name' ↔ l = l' ∧ name = name' := by
  constructor
  · intro same
    have chars : l.start.toList ++ name.toList = l'.start.toList ++ name'.toList := by
      simpa [Layout.key] using congrArg String.toList same
    have equal : l = l' := by
      rcases List.append_eq_append_iff.mp chars with ⟨rest, more, -⟩ | ⟨rest, more, -⟩
      · exact start_disjoint ⟨rest, more.symm⟩
      · exact (start_disjoint ⟨rest, more.symm⟩).symm
    subst equal
    exact ⟨rfl, String.toList_inj.mp (List.append_cancel_left chars)⟩
  · rintro ⟨rfl, rfl⟩
    rfl

abbrev metaKey (streamId : String) : String := Layout.metadata.key streamId
abbrev subredditKey (subreddit : String) : String := Layout.subreddit.key subreddit
abbrev checkpointKey (streamId : String) : String := Layout.checkpoint.key streamId
abbrev identityKey (subreddit : String) : String := Layout.identity.key subreddit
abbrev stopRequestKey (streamId : String) : String := Layout.stopRequest.key streamId
abbrev lockKey (subreddit : String) : String := Layout.lock.key subreddit
abbrev allKey : String := Layout.streamsAll.key ""
abbrev instanceKey (instanceId : String) : String := Layout.streamsInstance.key instanceId

/-- The Lua scripts, with the keys and arguments of one call in their order. -/
inductive Script where
  | deleteStreamIfUnchanged
      (metaKey checkpointKey stopRequestKey subredditKey allKey identityKey : String)
      (streamId expectedStatus expectedUpdatedAt purge : String)
  | heartbeatIfActive (metaKey instanceKey : String) (instanceId now streamId : String)
  | refreshIfOwner (key : String) (ownerToken : String) (ttl : Int)
  | deleteIfOwner (key : String) (ownerToken : String)
  deriving DecidableEq

namespace Script

/-- The script ran to its end; a reply of 1 is `true`. -/
def run : Script → Store → Bool × Store
  | .deleteStreamIfUnchanged metaKey checkpointKey stopRequestKey subredditKey allKey identityKey
      streamId expectedStatus expectedUpdatedAt purge, s =>
      if !s.has metaKey then (false, s)
      else if expectedStatus ≠ "" ∧ s.hget metaKey "status" ≠ some expectedStatus then (false, s)
      else if expectedUpdatedAt ≠ "" ∧ s.hget metaKey "updated_at" ≠ some expectedUpdatedAt then
        (false, s)
      else
        let s := if s.get subredditKey = some streamId then s.del subredditKey else s
        let s := s.set identityKey streamId
        let s := (s.del metaKey).del stopRequestKey
        let s := s.srem allKey [streamId]
        (true, if purge = "1" then (s.del checkpointKey).del identityKey else s)
  | .heartbeatIfActive metaKey instanceKey instanceId now streamId, s =>
      if s.hget metaKey "instance_id" ≠ some instanceId then (false, s)
      else if s.hget metaKey "status" ≠ some "active" then (false, s)
      else (true, (s.hset metaKey [("updated_at", now)]).sadd instanceKey streamId)
  | .refreshIfOwner key ownerToken ttl, s =>
      if s.get key = some ownerToken then s.expire key ttl else (false, s)
  | .deleteIfOwner key ownerToken, s =>
      if s.get key = some ownerToken then (true, s.del key) else (false, s)

end Script

inductive RedisCmd where
  | get (key : String)
  | set (key value : String)
  /-- `SET` with `NX`, and with `EX` where a time to live is given. -/
  | setNx (key value : String) (ex : Option Int)
  | keyExists (key : String)
  | hgetall (key : String)
  /-- A pipeline of `HGETALL`, which runs as one transaction. -/
  | hgetallEach (keys : List String)
  | hset (key : String) (mapping : List (String × String))
  | sadd (key member : String)
  | srem (key : String) (members : List String)
  | smembers (key : String)
  | eval (script : Script)
  deriving DecidableEq

namespace RedisCmd

abbrev Reply : RedisCmd → Type
  | .get _ => Option String
  | .setNx _ _ _ => Bool
  | .keyExists _ => Bool
  | .hgetall _ => Hash
  | .hgetallEach _ => List Hash
  | .smembers _ => List String
  | .eval _ => Bool
  | _ => Unit

def invalidExpire : PyExc := ⟨"ResponseError", [.redisError, .exception], "invalid expire time"⟩

def run : (c : RedisCmd) → Store → Except PyExc c.Reply × Store
  | .get key, s => (.ok (s.get key), s)
  | .set key value, s => (.ok (), s.set key value)
  | .setNx key value none, s =>
      if (s.get key).isSome then (.ok false, s) else (.ok true, s.set key value)
  | .setNx key value (some ttl), s =>
      if ttl ≤ 0 then (.error invalidExpire, s)
      else if (s.get key).isSome then (.ok false, s)
      else (.ok true, s.setEx key value ttl.toNat)
  | .keyExists key, s => (.ok (s.has key), s)
  | .hgetall key, s => (.ok (s.hashes key), s)
  | .hgetallEach keys, s => (.ok (keys.map s.hashes), s)
  | .hset key mapping, s => (.ok (), s.hset key mapping)
  | .sadd key member, s => (.ok (), s.sadd key member)
  | .srem key members, s => (.ok (), s.srem key members)
  | .smembers key, s => (.ok (s.sets key), s)
  | .eval script, s => (.ok (script.run s).1, (script.run s).2)

end RedisCmd

end RedditKafka
