import Shardwire.Json.Decode

/-
Close codes: why the gateway ends a connection, and what the shard does about it.

After some codes the session goes on and is resumed on the next connection, after some it is gone and the shard
identifies anew, and after the rest the settings have to change first, so the shard stops. A normal closure ends the
session; a code the gateway does not define, or none at all, is taken for a lost connection.
-/

namespace Shardwire

/-- how a shard goes on after its connection was closed -/
inductive Reaction where
  | resume
  | reidentify
  | fatal
  deriving DecidableEq, Repr

def Reaction.name : Reaction → String
  | .resume => "Resume"
  | .reidentify => "Reidentify"
  | .fatal => "Fatal"

inductive CloseCode where
  | unknownError
  | unknownOpcode
  | decodeError
  | notAuthenticated
  | authenticationFailed
  | alreadyAuthenticated
  | invalidSequence
  | rateLimited
  | sessionTimeout
  | invalidShard
  | shardingRequired
  | invalidApiVersion
  | invalidIntents
  | disallowedIntents
  deriving DecidableEq, Repr

namespace CloseCode

/-- closure on shutdown; it ends the session -/
def normal : Nat := 1000

/-- the other side goes away; it ends the session too -/
def goingAway : Nat := 1001

def number : CloseCode → Nat
  | .unknownError => 4000
  | .unknownOpcode => 4001
  | .decodeError => 4002
  | .notAuthenticated => 4003
  | .authenticationFailed => 4004
  | .alreadyAuthenticated => 4005
  | .invalidSequence => 4007
  | .rateLimited => 4008
  | .sessionTimeout => 4009
  | .invalidShard => 4010
  | .shardingRequired => 4011
  | .invalidApiVersion => 4012
  | .invalidIntents => 4013
  | .disallowedIntents => 4014

def name : CloseCode → String
  | .unknownError => "UnknownError"
  | .unknownOpcode => "UnknownOpcode"
  | .decodeError => "DecodeError"
  | .notAuthenticated => "NotAuthenticated"
  | .authenticationFailed => "AuthenticationFailed"
  | .alreadyAuthenticated => "AlreadyAuthenticated"
  | .invalidSequence => "InvalidSequence"
  | .rateLimited => "RateLimited"
  | .sessionTimeout => "SessionTimeout"
  | .invalidShard => "InvalidShard"
  | .shardingRequired => "ShardingRequired"
  | .invalidApiVersion => "InvalidApiVersion"
  | .invalidIntents => "InvalidIntents"
  | .disallowedIntents => "DisallowedIntents"

def description : CloseCode → String
  | .unknownError => "Unknown error occurred"
  | .unknownOpcode => "Invalid opcode sent"
  | .decodeError => "Invalid payload encoding"
  | .notAuthenticated => "Not authenticated"
  | .authenticationFailed => "Authentication failed"
  | .alreadyAuthenticated => "Already authenticated"
  | .invalidSequence => "Invalid sequence number"
  | .rateLimited => "Rate limited"
  | .sessionTimeout => "Session timeout"
  | .invalidShard => "Invalid shard configuration"
  | .shardingRequired => "Sharding required"
  | .invalidApiVersion => "Invalid API version"
  | .invalidIntents => "Invalid intents"
  | .disallowedIntents => "Disallowed intents"

/-- all close codes, in ascending order of their numbers -/
def all : List CloseCode :=
  [.unknownError, .unknownOpcode, .decodeError, .notAuthenticated, .authenticationFailed, .alreadyAuthenticated,
   .invalidSequence, .rateLimited, .sessionTimeout, .invalidShard, .shardingRequired, .invalidApiVersion,
   .invalidIntents, .disallowedIntents]

def ofNumber? (n : Nat) : Option CloseCode := all.find? fun c => c.number == n

def reaction : CloseCode → Reaction
  | .unknownError | .unknownOpcode | .decodeError | .notAuthenticated | .alreadyAuthenticated | .rateLimited => .resume
  | .invalidSequence | .sessionTimeout => .reidentify
  | .authenticationFailed | .invalidShard | .shardingRequired | .invalidApiVersion | .invalidIntents
  | .disallowedIntents => .fatal

/-- reaction to a raw code, or to a closure without one -/
def classify : Option Nat → Reaction
  | none => .resume
  | some n =>
    if n = normal ∨ n = goingAway then .reidentify
    else match ofNumber? n with
      | some c => c.reaction
      | none => .resume

def shouldReconnect (c : CloseCode) : Bool := c.reaction ≠ .fatal

def toText (c : CloseCode) : String := s!"{c.name} ({c.number}): {c.description}"

def toJson (c : CloseCode) : Json := .str c.name

def decoder : Json.Decoder CloseCode := Json.Decoder.variant (all.map fun c => (c.name, c))

/-- Reading the number of a close code gives it back. -/
theorem ofNumber?_number (c : CloseCode) : ofNumber? c.number = some c := by cases c <;> rfl

end CloseCode

end Shardwire
