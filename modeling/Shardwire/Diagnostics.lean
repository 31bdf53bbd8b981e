import Shardwire.Json.Printer
import Shardwire.ShardProfile
import Shardwire.Text.Quoted
import Shardwire.Text.Record

/-
Payloads and settings as they stand in diagnostics.

Nothing here shows a token: each description is built without reading it.
-/

namespace Shardwire

open Text

/-- what stands for a token -/
def redacted : String := quote "[REDACTED]"

/-- a JSON value with the kind of each part -/
def Json.describe : Json → String
  | .null => "Null"
  | .bool b => s!"Bool({b})"
  | .int n => "Number(" ++ (Json.int n).render ++ ")"
  | .float x => "Number(" ++ (Json.float x).render ++ ")"
  | .str s => "String(" ++ quote s ++ ")"
  | .arr items => "Array " ++ listed (describeItems items)
  | .obj members => "Object \x7b" ++ String.intercalate ", " (describeMembers members) ++ "\x7d"
where
  describeItems : List Json → List String
    | [] => []
    | v :: rest => v.describe :: describeItems rest
  describeMembers : List (String × Json) → List String
    | [] => []
    | (k, v) :: rest => field (quote k, v.describe) :: describeMembers rest

def ShardAddress.describe (a : ShardAddress) : String :=
  closedRecord "ShardInfo" [("id", toString a.id.toNat), ("total", toString a.total.toNat)]

def ClientProperties.describe (p : ClientProperties) : String :=
  closedRecord "IdentifyProperties" [("os", quote p.os), ("browser", quote p.browser), ("device", quote p.device)]

def PresenceStatus.describe : PresenceStatus → String
  | .online => "Online"
  | .dnd => "Dnd"
  | .idle => "Idle"
  | .invisible => "Invisible"
  | .offline => "Offline"

def Presence.describe (p : Presence) : String :=
  closedRecord "PresenceUpdatePayload"
    [("since", optional (p.since.map fun n => toString n.toNat)), ("activities", listed (p.activities.map Json.describe)),
     ("status", p.status.describe), ("afk", toString p.afk)]

def Identify.describe (p : Identify) : String :=
  closedRecord "IdentifyPayload"
    [("token", redacted), ("properties", p.properties.describe), ("intents", p.intents.describe),
     ("shard", optional (p.shard.map ShardAddress.describe)),
     ("large_threshold", optional (p.largeThreshold.map fun n => toString n.toNat)),
     ("presence", optional (p.presence.map Presence.describe))]

def Resume.describe (p : Resume) : String :=
  closedRecord "ResumePayload"
    [("token", redacted), ("session_id", quote p.sessionId), ("seq", toString p.seq.toNat)]

def ShardCount.describe : ShardCount → String
  | .auto => "Auto"
  | .fixed n => s!"Fixed({n.toNat})"

def Settings.Bot.describe (b : Settings.Bot) : String :=
  closedRecord "DiscordConfig"
    [("token", quote "<redacted>"), ("intents", b.intents.describe), ("shard_count", b.shardCount.describe),
     ("max_concurrency", toString b.maxConcurrency.toNat), ("gateway_url", quote b.gatewayUrl),
     ("api_base", quote b.apiBase), ("large_threshold", optional (b.largeThreshold.map fun n => toString n.toNat))]

def Environment.describe : Environment → String
  | .development => "Development"
  | .staging => "Staging"
  | .production => "Production"

def Settings.App.describe (a : Settings.App) : String :=
  closedRecord "AppSettings" [("name", quote a.name), ("env", a.environment.describe)]

def Settings.Reconnect.describe (r : Settings.Reconnect) : String :=
  closedRecord "ReconnectConfig"
    [("base_delay_ms", toString r.base.toNat), ("max_delay_ms", toString r.max.toNat),
     ("max_attempts", toString r.attempts.toNat)]

def Settings.Timeouts.describe (t : Settings.Timeouts) : String :=
  closedRecord "TimeoutConfig"
    [("startup_secs", toString t.startup.toNat), ("identify_secs", toString t.identify.toNat)]

def Settings.describe (s : Settings) : String :=
  closedRecord "AppConfig"
    [("app", s.app.describe), ("discord", s.bot.describe), ("reconnect", s.reconnect.describe),
     ("timeouts", s.timeouts.describe)]

def ShardProfile.describe (p : ShardProfile) : String :=
  openRecord "ShardConfig"
    [("token", redacted), ("intents", p.intents.describe), ("gateway_url", quote p.gatewayUrl),
     ("large_threshold", optional (p.largeThreshold.map fun n => toString n.toNat)),
     ("identify_timeout", duration p.identifyTimeout), ("reconnect_base", duration p.reconnectBase),
     ("reconnect_max", duration p.reconnectMax), ("max_reconnect_attempts", toString p.reconnectLimit)]

end Shardwire
