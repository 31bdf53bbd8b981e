import Shardwire.Json.Decode

/-
Status of a shard's connection.

A connection goes from `connecting` through `awaitingHello` and `identifying` to `ready`; a missed heartbeat makes it
`zombied`, a close frame on its way `closing`. A shard without connection is `disconnected`, or `failed` for good.
-/

namespace Shardwire

inductive Status where
  | disconnected
  | connecting
  | awaitingHello
  | identifying
  | ready
  | zombied
  | closing
  | failed
  deriving DecidableEq, Repr, Inhabited

namespace Status

def name : Status → String
  | .disconnected => "Disconnected"
  | .connecting => "Connecting"
  | .awaitingHello => "AwaitingHello"
  | .identifying => "Identifying"
  | .ready => "Ready"
  | .zombied => "Zombied"
  | .closing => "Closing"
  | .failed => "Failed"

def all : List Status :=
  [.disconnected, .connecting, .awaitingHello, .identifying, .ready, .zombied, .closing, .failed]

def ofName? (name : String) : Option Status := all.find? fun s => s.name == name

/-- whether commands can be sent -/
def isReady (s : Status) : Bool := s == .ready

/-- whether it is never left -/
def isTerminal (s : Status) : Bool := s == .failed

/-- whether a connection is open -/
def isConnected : Status → Bool
  | .awaitingHello | .identifying | .ready | .zombied | .closing => true
  | _ => false

/-- whether whoever waits for the handshake has an answer -/
def isSettled (s : Status) : Bool := s.isReady || s.isTerminal

def toJson (s : Status) : Json := .str s.name

def decoder : Json.Decoder Status := Json.Decoder.variant (all.map fun s => (s.name, s))

end Status

end Shardwire
