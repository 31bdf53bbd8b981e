import Shardwire.Intents
import Shardwire.ShardAddress

/-
Payloads: the data of the messages a session is opened and kept with.

Every payload is written field by field in the order it is declared in; an absent field is left out where the gateway
wants it so, and null elsewhere. It is read from an object or an array (see `Json.Decode`).
-/

namespace Shardwire

open Json (Decoder Record Field)

/-- first payload on a new connection -/
structure Hello where
  /-- milliseconds between two heartbeats -/
  interval : UInt64
  deriving DecidableEq, Repr

namespace Hello

/-- the interval the gateway currently announces -/
def default : Hello := ⟨41250⟩

def toJson (p : Hello) : Json := .obj [("heartbeat_interval", .word p.interval)]

def decoder : Decoder Hello := fun src o => do
  let r ← Record.read [.required "heartbeat_interval" Decoder.uint64] src o
  return { interval := ← r.required "heartbeat_interval" Decoder.uint64 }

end Hello

/-- what the client says about itself -/
structure ClientProperties where
  os : String
  browser : String
  device : String
  deriving DecidableEq, Repr

namespace ClientProperties

/-- the name this library goes by -/
def library : String := "rucord"

def default : ClientProperties := ⟨"linux", library, library⟩

def toJson (p : ClientProperties) : Json :=
  .obj [("os", .str p.os), ("browser", .str p.browser), ("device", .str p.device)]

def decoder : Decoder ClientProperties := fun src o => do
  let r ← Record.read
    [.required "os" Decoder.string, .required "browser" Decoder.string, .required "device" Decoder.string] src o
  return { os := ← r.required "os" Decoder.string
           browser := ← r.required "browser" Decoder.string
           device := ← r.required "device" Decoder.string }

end ClientProperties

inductive PresenceStatus where
  | online
  | dnd
  | idle
  | invisible
  | offline
  deriving DecidableEq, Repr

namespace PresenceStatus

def name : PresenceStatus → String
  | .online => "online"
  | .dnd => "dnd"
  | .idle => "idle"
  | .invisible => "invisible"
  | .offline => "offline"

def all : List PresenceStatus := [.online, .dnd, .idle, .invisible, .offline]

def toJson (s : PresenceStatus) : Json := .str s.name

def decoder : Decoder PresenceStatus := Decoder.variant (all.map fun s => (s.name, s))

end PresenceStatus

/-- what others see of the bot -/
structure Presence where
  /-- Unix time in milliseconds at which the client went idle -/
  since : Option UInt64
  /-- passed through untouched -/
  activities : List Json
  status : PresenceStatus
  afk : Bool

namespace Presence

/-- a status and nothing else -/
def ofStatus (status : PresenceStatus) : Presence := ⟨none, [], status, false⟩

def toJson (p : Presence) : Json :=
  .obj [("since", .ofOption .word p.since), ("activities", .arr p.activities), ("status", p.status.toJson),
    ("afk", .bool p.afk)]

def decoder : Decoder Presence := fun src o => do
  let r ← Record.read
    [.optional "since" Decoder.uint64, .defaulted "activities" (Decoder.list Decoder.value),
     .required "status" PresenceStatus.decoder, .defaulted "afk" Decoder.bool] src o
  return { since := ← r.optional "since" Decoder.uint64
           activities := ← r.defaulted "activities" [] (Decoder.list Decoder.value)
           status := ← r.required "status" PresenceStatus.decoder
           afk := ← r.defaulted "afk" false Decoder.bool }

end Presence

/-- a member that is left out if there is nothing to say -/
def Json.memberOf {α : Type} (name : String) (f : α → Json) : Option α → List (String × Json)
  | none => []
  | some a => [(name, f a)]

/-- opens a session -/
structure Identify where
  token : String
  properties : ClientProperties
  intents : Intents
  shard : Option ShardAddress
  /-- member count above which a guild comes without its offline members -/
  largeThreshold : Option UInt32
  presence : Option Presence

namespace Identify

def toJson (p : Identify) : Json :=
  .obj ([("token", .str p.token), ("properties", p.properties.toJson), ("intents", p.intents.toJson)] ++
    Json.memberOf "shard" ShardAddress.toJson p.shard ++
    Json.memberOf "large_threshold" (fun n => .int n.toNat) p.largeThreshold ++
    Json.memberOf "presence" Presence.toJson p.presence)

def decoder : Decoder Identify := fun src o => do
  let r ← Record.read
    [.required "token" Decoder.string, .required "properties" ClientProperties.decoder,
     .required "intents" Intents.decoder, .defaulted "shard" (Decoder.option ShardAddress.decoder),
     .defaulted "large_threshold" (Decoder.option Decoder.uint32),
     .defaulted "presence" (Decoder.option Presence.decoder)] src o
  return { token := ← r.required "token" Decoder.string
           properties := ← r.required "properties" ClientProperties.decoder
           intents := ← r.required "intents" Intents.decoder
           shard := ← r.defaulted "shard" none (Decoder.option ShardAddress.decoder)
           largeThreshold := ← r.defaulted "large_threshold" none (Decoder.option Decoder.uint32)
           presence := ← r.defaulted "presence" none (Decoder.option Presence.decoder) }

end Identify

/-- takes a session up again -/
structure Resume where
  token : String
  sessionId : String
  /-- sequence number of the last event received -/
  seq : UInt64
  deriving DecidableEq, Repr

namespace Resume

def toJson (p : Resume) : Json :=
  .obj [("token", .str p.token), ("session_id", .str p.sessionId), ("seq", .word p.seq)]

def decoder : Decoder Resume := fun src o => do
  let r ← Record.read
    [.required "token" Decoder.string, .required "session_id" Decoder.string, .required "seq" Decoder.uint64] src o
  return { token := ← r.required "token" Decoder.string
           sessionId := ← r.required "session_id" Decoder.string
           seq := ← r.required "seq" Decoder.uint64 }

end Resume

/-- data of the event that ends an identify; only what the client needs is typed -/
structure Ready where
  version : UInt8
  sessionId : String
  /-- where to resume this session -/
  resumeUrl : Option String
  shard : Option ShardAddress
  user : Json
  guilds : List Json

namespace Ready

def toJson (p : Ready) : Json :=
  .obj [("v", .int p.version.toNat), ("session_id", .str p.sessionId),
    ("resume_gateway_url", .ofOption .str p.resumeUrl), ("shard", .ofOption ShardAddress.toJson p.shard),
    ("user", p.user), ("guilds", .arr p.guilds)]

def decoder : Decoder Ready := fun src o => do
  let r ← Record.read
    [.defaulted "v" Decoder.uint8, .required "session_id" Decoder.string,
     .defaulted "resume_gateway_url" (Decoder.option Decoder.string),
     .defaulted "shard" (Decoder.option ShardAddress.decoder), .defaulted "user" Decoder.value,
     .defaulted "guilds" (Decoder.list Decoder.value)] src o
  return { version := ← r.defaulted "v" 0 Decoder.uint8
           sessionId := ← r.required "session_id" Decoder.string
           resumeUrl := ← r.defaulted "resume_gateway_url" none (Decoder.option Decoder.string)
           shard := ← r.defaulted "shard" none (Decoder.option ShardAddress.decoder)
           user := ← r.defaulted "user" .null Decoder.value
           guilds := ← r.defaulted "guilds" [] (Decoder.list Decoder.value) }

end Ready

end Shardwire
