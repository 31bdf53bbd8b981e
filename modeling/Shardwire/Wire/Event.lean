import Shardwire.Fault
import Shardwire.Wire.EventKind
import Shardwire.Wire.Message

/-
Events: messages told apart by their op codes.

A dispatched event needs a name and a sequence number, a Hello an interval; every other message is an event as it is.
-/

namespace Shardwire

/-- a dispatched event -/
structure Dispatch where
  name : String
  seq : UInt64
  /-- delivered untouched -/
  data : Json

/-- the kind of a dispatched event, if the client knows it -/
def Dispatch.kind? (d : Dispatch) : Option EventKind := EventKind.ofName? d.name

inductive Event where
  | dispatch (d : Dispatch)
  /-- a request for a heartbeat, or a heartbeat -/
  | heartbeat (seq : Option UInt64)
  | identify (data : Json)
  | presenceUpdate (data : Json)
  | resume (data : Json)
  | reconnect
  | requestGuildMembers (data : Json)
  | invalidSession (resumable : Bool)
  | hello (p : Hello)
  | heartbeatAck

namespace Event

def op : Event → OpCode
  | .dispatch _ => .dispatch
  | .heartbeat _ => .heartbeat
  | .identify _ => .identify
  | .presenceUpdate _ => .presenceUpdate
  | .resume _ => .resume
  | .reconnect => .reconnect
  | .requestGuildMembers _ => .requestGuildMembers
  | .invalidSession _ => .invalidSession
  | .hello _ => .hello
  | .heartbeatAck => .heartbeatAck

def ofMessage (m : Message) : Except Fault Event :=
  match m.op with
  | .dispatch =>
    match m.name, m.seq with
    | some name, some seq => .ok (.dispatch ⟨name, seq, m.data⟩)
    | _, _ => .error (.invalidPayload "dispatch without event name or sequence")
  | .heartbeat => .ok (.heartbeat m.data.word?)
  | .identify => .ok (.identify m.data)
  | .presenceUpdate => .ok (.presenceUpdate m.data)
  | .resume => .ok (.resume m.data)
  | .reconnect => .ok .reconnect
  | .requestGuildMembers => .ok (.requestGuildMembers m.data)
  | .invalidSession => .ok (.invalidSession (m.data.bool?.getD false))
  | .hello =>
    match Json.decodeValue Hello.decoder m.data with
    | .ok p => .ok (.hello p)
    | .error f => .error (.json f)
  | .heartbeatAck => .ok .heartbeatAck

def decode (s : String) : Except Fault Event :=
  match Message.decode s with
  | .ok m => ofMessage m
  | .error f => .error (.json f)

def toMessage : Event → Message
  | .dispatch d => .dispatch d.name d.seq d.data
  | .heartbeat seq => .heartbeat seq
  | .identify data => .plain .identify data
  | .presenceUpdate data => .plain .presenceUpdate data
  | .resume data => .plain .resume data
  | .reconnect => .reconnect
  | .requestGuildMembers data => .plain .requestGuildMembers data
  | .invalidSession resumable => .invalidSession resumable
  | .hello p => .hello p
  | .heartbeatAck => .heartbeatAck

/-- the dispatched event, if it is one -/
def dispatch? : Event → Option Dispatch
  | .dispatch d => some d
  | _ => none

end Event

end Shardwire
