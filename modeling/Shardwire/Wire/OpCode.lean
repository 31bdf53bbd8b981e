import Shardwire.Json.Decode

/-
Op codes: what a message of the gateway is about.

Each op code has a number below 256 and a side, or both sides, that sends it. Only two of them may be sent by callers;
the others belong to the life of a session and are sent by the shard itself.
-/

namespace Shardwire

inductive OpCode where
  | dispatch
  | heartbeat
  | identify
  | presenceUpdate
  | resume
  | reconnect
  | requestGuildMembers
  | invalidSession
  | hello
  | heartbeatAck
  deriving DecidableEq, Repr

namespace OpCode

def number : OpCode → Nat
  | .dispatch => 0
  | .heartbeat => 1
  | .identify => 2
  | .presenceUpdate => 3
  | .resume => 6
  | .reconnect => 7
  | .requestGuildMembers => 8
  | .invalidSession => 9
  | .hello => 10
  | .heartbeatAck => 11

def name : OpCode → String
  | .dispatch => "Dispatch"
  | .heartbeat => "Heartbeat"
  | .identify => "Identify"
  | .presenceUpdate => "PresenceUpdate"
  | .resume => "Resume"
  | .reconnect => "Reconnect"
  | .requestGuildMembers => "RequestGuildMembers"
  | .invalidSession => "InvalidSession"
  | .hello => "Hello"
  | .heartbeatAck => "HeartbeatAck"

/-- all op codes, in ascending order of their numbers -/
def all : List OpCode :=
  [.dispatch, .heartbeat, .identify, .presenceUpdate, .resume, .reconnect, .requestGuildMembers, .invalidSession,
   .hello, .heartbeatAck]

def ofNumber? (n : Nat) : Option OpCode := all.find? fun op => op.number == n

/-- whether clients send it -/
def isClient : OpCode → Bool
  | .heartbeat | .identify | .presenceUpdate | .resume | .requestGuildMembers => true
  | _ => false

/-- whether the gateway sends it -/
def isServer : OpCode → Bool
  | .dispatch | .heartbeat | .reconnect | .invalidSession | .hello | .heartbeatAck => true
  | _ => false

/-- whether callers may send it through a shard -/
def isCommand : OpCode → Bool
  | .presenceUpdate | .requestGuildMembers => true
  | _ => false

/-- whether it is the client's part of a handshake -/
def isHandshake : OpCode → Bool
  | .identify | .resume => true
  | _ => false

def toText (op : OpCode) : String := s!"{op.name} ({op.number})"

def toJson (op : OpCode) : Json := .int op.number

def decoder : Json.Decoder OpCode := fun src o => do
  let n ← Json.Decoder.unsigned (UInt8.size - 1) src o
  match ofNumber? n with
  | some op => .ok op
  | none => .error (.rejected s!"invalid op code: {n}")

/-- Reading the number of an op code gives it back. -/
theorem ofNumber?_number (op : OpCode) : ofNumber? op.number = some op := by cases op <;> rfl

end OpCode

end Shardwire
