import Shardwire.Json.Printer
import Shardwire.Wire.OpCode
import Shardwire.Wire.Payload

/-
Messages: the envelope of everything that goes over a connection.

A message has an op code, for dispatched events a name and a sequence number, and data of any shape. Name and sequence
number are left out of the text where there are none; the data is always written.
-/

namespace Shardwire

open Json (Decoder Record Field)

structure Message where
  op : OpCode
  /-- name of a dispatched event -/
  name : Option String
  /-- sequence number of a dispatched event -/
  seq : Option UInt64
  data : Json

namespace Message

/-- a message without name and sequence number -/
def plain (op : OpCode) (data : Json) : Message := ⟨op, none, none, data⟩

/-! ## What the client sends -/

def heartbeat (seq : Option UInt64) : Message := plain .heartbeat (.ofOption .word seq)

def identify (p : Identify) : Message := plain .identify p.toJson.canonical

def presenceUpdate (p : Presence) : Message := plain .presenceUpdate p.toJson.canonical

def resume (p : Resume) : Message := plain .resume p.toJson.canonical

def requestGuildMembers (data : Json) : Message := plain .requestGuildMembers data

/-! ## What the gateway sends -/

def dispatch (name : String) (seq : UInt64) (data : Json) : Message := ⟨.dispatch, some name, some seq, data⟩

def hello (p : Hello) : Message := plain .hello p.toJson.canonical

def heartbeatAck : Message := plain .heartbeatAck .null

def reconnect : Message := plain .reconnect .null

def invalidSession (resumable : Bool) : Message := plain .invalidSession (.bool resumable)

/-! ## Payloads -/

/-- the payload of a message of the wanted op code -/
def payload? {α : Type} (m : Message) (op : OpCode) (d : Decoder α) : Option α :=
  if m.op = op then (Json.decodeValue d m.data).toOption else none

def hello? (m : Message) : Option Hello := m.payload? .hello Hello.decoder

def identify? (m : Message) : Option Identify := m.payload? .identify Identify.decoder

def resume? (m : Message) : Option Resume := m.payload? .resume Resume.decoder

def presence? (m : Message) : Option Presence := m.payload? .presenceUpdate Presence.decoder

def ready? (m : Message) : Option Ready :=
  if m.name = some "READY" then m.payload? .dispatch Ready.decoder else none

/-- the sequence number of a heartbeat, if it is one -/
def heartbeat? (m : Message) : Option (Option UInt64) :=
  if m.op = .heartbeat then some m.data.word? else none

/-- the flag of an invalid session; without a flag it cannot be resumed -/
def invalidSession? (m : Message) : Option Bool :=
  if m.op = .invalidSession then some (m.data.bool?.getD false) else none

/-! ## Text -/

def toJson (m : Message) : Json :=
  .obj ([("op", m.op.toJson)] ++ Json.memberOf "t" Json.str m.name ++ Json.memberOf "s" Json.word m.seq ++
    [("d", m.data)])

def encode (m : Message) : String := m.toJson.render

def decoder : Decoder Message := fun src o => do
  let r ← Record.read
    [.required "op" OpCode.decoder, .defaulted "t" (Decoder.option Decoder.string),
     .defaulted "s" (Decoder.option Decoder.uint64), .defaulted "d" Decoder.value] src o
  return { op := ← r.required "op" OpCode.decoder
           name := ← r.defaulted "t" none (Decoder.option Decoder.string)
           seq := ← r.defaulted "s" none (Decoder.option Decoder.uint64)
           data := ← r.defaulted "d" .null Decoder.value }

def decode (s : String) : Except Json.Fault Message := Json.decodeText decoder s

/-- the message in short -/
def describe (m : Message) : String :=
  let event := match m.name with
    | none => ""
    | some name => ", t=" ++ name ++ match m.seq with
      | none => ""
      | some seq => s!", s={seq.toNat}"
  "GatewayMessage(op=" ++ m.op.toText ++ event ++ ")"

end Message

end Shardwire
