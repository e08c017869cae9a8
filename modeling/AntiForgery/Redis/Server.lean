import AntiForgery.Redis.Client
import AntiForgery.Store.Plain

/-!
# What a Redis server does

The four commands that a store sends, as a server is documented to carry them out: a key that is set
for a number of seconds is there strictly before they have passed.
-/

namespace AntiForgery
namespace Redis

/-- The keys that a server holds, and when they end. -/
abbrev Keys := Store.Plain

namespace Keys

/-- The reply to a command that went well. -/
def okReply : List UInt8 := Reply.encodeLine 0x2B "OK"

/-- The reply to a command that is no command of the four. -/
def errorReply : List UInt8 := Reply.encodeLine 0x2D "ERR syntax error"

/-- How many keys there are under a name at a reading of the clock: one or none. -/
def count (keys : Keys) (now : Nat) (key : String) : Nat :=
  if keys.isLive key now then 1 else 0

/-- The keys after one is set for a number of seconds that is written out. -/
def set? (keys : Keys) (now : Nat) (key seconds : String) : Option Keys :=
  match Integer.parse seconds with
  | .error _ => none
  | .ok value => if 1 ≤ value then some (keys.put key (now + 1000 * value.toInt.toNat)) else none

/-- Carries out a command at a reading of the clock: the bytes of the reply, and the keys then. -/
def execute (keys : Keys) (now : Nat) (words : List String) : List UInt8 × Keys :=
  match words with
  | ["SETEX", key, seconds, _] =>
      match keys.set? now key seconds with
      | none => (errorReply, keys)
      | some keys => (okReply, keys)
  | ["EXISTS", key] => (Reply.encodeInteger (keys.count now key), keys)
  | ["SET", key, _, "NX", "EX", seconds] =>
      if keys.isLive key now then (Reply.encodeNull, keys)
      else
        match keys.set? now key seconds with
        | none => (errorReply, keys)
        | some keys => (okReply, keys)
  | ["DEL", key] => (Reply.encodeInteger (keys.count now key), keys.erase key)
  | _ => (errorReply, keys)

end Keys

end Redis
end AntiForgery
