import Shardwire.ShardAddress
import Shardwire.Wire.CloseCode
import Shardwire.Wire.OpCode

/-
Faults of shards and of the manager.

Each fault names its cause; `message` is the one place that words it, `code` its short name. A fatal fault stops a shard
for good. A caller's fault rejects a request and says nothing about the connection.
-/

namespace Shardwire

/-- how a connection was lost -/
inductive Loss where
  | connectTimedOut
  | handshakeTimedOut
  | heartbeatMissed
  | reconnectRequested
  | dropped
  | socketClosed
  | closed (code : Option Nat)
  | described (text : String)
  deriving DecidableEq, Repr

def Loss.message : Loss → String
  | .connectTimedOut => "connect timed out"
  | .handshakeTimedOut => "handshake timed out"
  | .heartbeatMissed => "heartbeat not acknowledged"
  | .reconnectRequested => "reconnect requested"
  | .dropped => "connection dropped"
  | .socketClosed => "socket closed"
  | .closed (some code) => s!"closed with code {code}"
  | .closed none => "closed without a code"
  | .described text => text

/-- why shards cannot be spread the way they were asked for -/
inductive ShardingFault where
  | noShards
  | noConcurrency
  | needsEndpoint
  | noBucket (id : Nat)
  /-- the gateway refused the shard's address -/
  | refused
  | described (text : String)
  deriving DecidableEq, Repr

def ShardingFault.message : ShardingFault → String
  | .noShards => "shard count must be at least 1"
  | .noConcurrency => "max_concurrency must be at least 1"
  | .needsEndpoint => "automatic shard count needs the gateway bot endpoint"
  | .noBucket id => s!"no identify bucket {id}"
  | .refused => CloseCode.invalidShard.description
  | .described text => text

inductive Fault where
  | authenticationFailed
  | shardingRequired
  | invalidSharding (cause : ShardingFault)
  | refused (code : CloseCode)
  | sessionInvalidated
  | connectionLost (loss : Loss)
  | rateLimited
  | retriesExhausted (shard : UInt32) (attempts : Nat)
  | invalidPayload (reason : String)
  | shardNotReady (shard : UInt32)
  | unknownShard (shard : UInt32)
  | invalidCommand (op : OpCode)
  | startupFailed (failed : List UInt32)
  | notEnoughSessions (remaining required : UInt32)
  | alreadyStarted
  | transport (reason : String)
  | json (fault : Json.Fault)
  /-- an answer of status 400 or above, a body that cannot be decoded, or no answer -/
  | http (status : Option Nat) (undecodable : Bool)
  | shardAddress (fault : ShardAddress.Fault)
  deriving DecidableEq, Repr

namespace Fault

def code : Fault → String
  | .authenticationFailed => "AUTHENTICATION_FAILED"
  | .shardingRequired => "SHARDING_REQUIRED"
  | .invalidSharding _ => "INVALID_SHARD_CONFIG"
  | .refused _ => "REFUSED"
  | .sessionInvalidated => "SESSION_INVALIDATED"
  | .connectionLost _ => "CONNECTION_LOST"
  | .rateLimited => "RATE_LIMITED"
  | .retriesExhausted _ _ => "RETRIES_EXHAUSTED"
  | .invalidPayload _ => "INVALID_PAYLOAD"
  | .shardNotReady _ => "SHARD_NOT_READY"
  | .unknownShard _ => "UNKNOWN_SHARD"
  | .invalidCommand _ => "INVALID_COMMAND"
  | .startupFailed _ => "STARTUP_FAILED"
  | .notEnoughSessions _ _ => "NOT_ENOUGH_SESSIONS"
  | .alreadyStarted => "ALREADY_STARTED"
  | .transport _ => "TRANSPORT_ERROR"
  | .json _ => "JSON_ERROR"
  | .http _ _ => "HTTP_ERROR"
  | .shardAddress _ => "SHARD_INFO_ERROR"

def message : Fault → String
  | .authenticationFailed => "Authentication failed: the gateway rejected the token"
  | .shardingRequired => "Sharding required: too many guilds for the configured shard count"
  | .invalidSharding cause => "Invalid shard configuration: " ++ cause.message
  | .refused code => "Gateway refused the session: " ++ code.toText
  | .sessionInvalidated => "Session invalidated by the gateway"
  | .connectionLost loss => "Connection lost: " ++ loss.message
  | .rateLimited => "Rate limited by the gateway"
  | .retriesExhausted shard attempts => s!"Gave up on shard {shard.toNat} after {attempts} reconnect attempts"
  | .invalidPayload reason => "Invalid payload: " ++ reason
  | .shardNotReady shard => s!"Shard {shard.toNat} is not ready"
  | .unknownShard shard => s!"Unknown shard: {shard.toNat}"
  | .invalidCommand op => s!"Op code {op.toText} cannot be sent by callers"
  | .startupFailed failed =>
    "Shards failed to become ready: [" ++ String.intercalate ", " (failed.map fun s => toString s.toNat) ++ "]"
  | .notEnoughSessions remaining required =>
    s!"Not enough session starts remaining: {remaining.toNat} left, {required.toNat} required"
  | .alreadyStarted => "Gateway manager already started"
  | .transport reason => "Transport error: " ++ reason
  | .json fault => "JSON error: " ++ fault.message?.getD "invalid"
  | .http (some status) _ => s!"HTTP error: status {status}"
  | .http none true => "HTTP error: undecodable body"
  | .http none false => "HTTP error: no answer"
  | .shardAddress fault => "Shard info error: " ++ fault.message

/-- whether a shard that meets it stops for good -/
def isFatal : Fault → Bool
  | .authenticationFailed | .shardingRequired | .invalidSharding _ | .refused _ | .retriesExhausted _ _ => true
  | _ => false

/-- whether it rejects a caller's request -/
def isCaller : Fault → Bool
  | .shardNotReady _ | .unknownShard _ | .invalidCommand _ | .alreadyStarted => true
  | _ => false

/-- the fault a close code stands for -/
def ofCloseCode : CloseCode → Fault
  | .authenticationFailed => .authenticationFailed
  | .shardingRequired => .shardingRequired
  | .invalidShard => .invalidSharding .refused
  | .rateLimited => .rateLimited
  | .invalidSequence | .sessionTimeout => .sessionInvalidated
  | c => .refused c

/-- the close code that stands for a fault -/
def closeCode? : Fault → Option CloseCode
  | .authenticationFailed => some .authenticationFailed
  | .shardingRequired => some .shardingRequired
  | .invalidSharding _ => some .invalidShard
  | .refused code => some code
  | .rateLimited => some .rateLimited
  | _ => none

/-- Every close code that a shard does not reconnect after stands for a fatal fault. -/
theorem isFatal_ofCloseCode (c : CloseCode) (h : c.reaction = .fatal) : (ofCloseCode c).isFatal = true := by
  cases c <;> simp_all [CloseCode.reaction, ofCloseCode, isFatal]

end Fault

end Shardwire
