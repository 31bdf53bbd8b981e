import Shardwire.Backoff
import Shardwire.Settings
import Shardwire.Wire.Payload

/-
What all shards of a manager have in common: how they introduce themselves, and how patient they are.

Times are in milliseconds.
-/

namespace Shardwire

structure ShardProfile where
  token : String
  intents : Intents
  /-- where new sessions are opened -/
  gatewayUrl : String
  properties : ClientProperties
  largeThreshold : Option UInt32
  /-- sent with every identify -/
  presence : Option Presence
  /-- time for a handshake -/
  identifyTimeout : Nat
  reconnectBase : Nat
  reconnectMax : Nat
  /-- reconnects in a row before a shard gives up -/
  reconnectLimit : Nat
  /-- time after which a ready shard counts as stable and its backoff starts over -/
  stableAfter : Nat

namespace ShardProfile

/-- how long a shard has to be ready unless said otherwise -/
def defaultStableAfter : Nat := 60000

def ofSettings (s : Settings) : ShardProfile where
  token := s.bot.token
  intents := s.bot.intents
  gatewayUrl := s.bot.gatewayUrl
  properties := ClientProperties.default
  largeThreshold := s.bot.largeThreshold
  presence := none
  identifyTimeout := s.timeouts.identify.toNat * 1000
  reconnectBase := s.reconnect.base.toNat
  reconnectMax := s.reconnect.max.toNat
  reconnectLimit := s.reconnect.attempts.toNat
  stableAfter := defaultStableAfter

/-- backoff of a new shard -/
def backoff (p : ShardProfile) : Backoff := Backoff.fresh p.reconnectBase p.reconnectMax p.reconnectLimit

end ShardProfile

end Shardwire
