import Shardwire.Diagnostics
import Shardwire.Manager
import Shardwire.Wire.Event
import Shardwire.Wire.Frame

/-
Values of the library as JSON, for those who watch it from outside.

A report lists what a value says about itself. What is absent is null. Texts that go over a connection are reported as
texts, exactly as they are written.
-/

namespace Shardwire.Report

def nat (n : Nat) : Json := .int n

def word32 (n : UInt32) : Json := .int n.toNat

def option {α : Type} (f : α → Json) (o : Option α) : Json := Json.ofOption f o

/-- a value as the text it is written as -/
def text (v : Json) : Json := .str v.render

/-! ## Faults -/

def jsonFault (f : Json.Fault) : Json :=
  let category := match f.flaw with
    | .malformed => "syntax"
    | .truncated => "eof"
    | .mismatch => "data"
  .obj ([("error", .str "JSON_ERROR"), ("category", .str category)] ++ Json.memberOf "message" Json.str f.message?)

def fault : Fault → Json
  | .json f => jsonFault f
  | .http status undecodable =>
    .obj [("error", .str "HTTP_ERROR"), ("status", option nat status), ("decode", .bool undecodable)]
  | f => .obj [("error", .str f.code), ("message", .str f.message)]

/-- what a fault means -/
def faultDetails (f : Fault) : Json :=
  .obj [("code", .str f.code), ("message", .str f.message), ("fatal", .bool f.isFatal), ("caller", .bool f.isCaller),
    ("close_code", option (fun c => nat c.number) f.closeCode?)]

/-! ## Wire -/

def intents (i : Intents) : Json :=
  .obj [("bits", .word i.bits), ("names", .arr (i.names.map .str)), ("privileged", .bool i.isPrivileged),
    ("display", .str i.toText), ("json", text i.toJson), ("empty", .bool i.isEmpty), ("all", .bool i.isAll),
    ("is_default", .bool (i == Intents.default)), ("non_privileged", .word (i.inter Intents.nonPrivileged).bits)]

def opCode (op : OpCode) : Json :=
  .obj [("value", nat op.number), ("name", .str op.name), ("display", .str op.toText), ("client", .bool op.isClient),
    ("server", .bool op.isServer), ("user", .bool op.isCommand), ("json", text op.toJson)]

def closeCode (c : CloseCode) : Json :=
  .obj [("value", nat c.number), ("name", .str c.name), ("description", .str c.description), ("display", .str c.toText),
    ("action", .str c.reaction.name), ("reconnect", .bool c.shouldReconnect), ("json", text c.toJson),
    ("error", faultDetails (.ofCloseCode c))]

def eventKind (k : EventKind) : Json :=
  .obj [("str", .str k.name), ("display", .str k.name), ("string", .str k.name), ("json", text k.toJson),
    ("session_start", .bool k.startsSession)]

def closure (c : Closure) : Json := .arr [nat c.code, .str c.reason]

def frame : Frame → Json
  | .text s => .obj [("text", .str s)]
  | .close c => .obj [("close", option closure c)]

/-- a message with its payload, whichever it has -/
def message (m : Message) : Json :=
  .obj [("json", .str m.encode), ("display", .str m.describe), ("hello", option (fun p => text p.toJson) m.hello?),
    ("identify", option (fun p => text p.toJson) m.identify?), ("resume", option (fun p => text p.toJson) m.resume?),
    ("presence", option (fun p => text p.toJson) m.presence?), ("ready", option (fun p => text p.toJson) m.ready?),
    ("heartbeat", option (fun seq => .obj [("seq", option .word seq)]) m.heartbeat?),
    ("invalid_session", option .bool m.invalidSession?)]

def dispatch (d : Dispatch) : Json :=
  .obj [("name", .str d.name), ("seq", .word d.seq), ("data", text d.data),
    ("kind", option (fun k => .str k.name) d.kind?), ("is_ready", .bool (d.kind? == some .ready))]

/-- an event of a shard -/
def event (shard : Nat) (e : Event) : Json :=
  let detail := match e with
    | .heartbeat seq => .obj [("seq", option .word seq)]
    | .invalidSession resumable => .obj [("resumable", .bool resumable)]
    | .hello p => .obj [("interval", .word p.interval)]
    | _ => .null
  .obj [("event", .str e.op.name), ("detail", detail), ("dispatch", option dispatch e.dispatch?), ("shard", nat shard),
    ("name", option (fun d => .str d.name) e.dispatch?), ("seq", option (fun d => .word d.seq) e.dispatch?),
    ("message", .str e.toMessage.encode)]

def status (s : Status) : Json :=
  .obj [("display", .str s.name), ("ready", .bool s.isReady), ("terminal", .bool s.isTerminal),
    ("connected", .bool s.isConnected), ("json", text s.toJson)]

/-- a session, with the address to dial when there is another for new sessions -/
def session (s : Session) (default : String) : Json :=
  .obj [("id", .str s.id), ("resume_url", option .str s.resumeUrl), ("url", .str (s.urlOr default)),
    ("endpoint", .str (endpoint (s.urlOr default)))]

/-! ## Settings -/

def settings (s : Settings) : Json :=
  .obj [
    ("app", .obj [("name", .str s.app.name), ("env", .str s.app.environment.name),
      ("production", .bool (s.app.environment == .production)),
      ("development", .bool (s.app.environment == .development))]),
    ("discord", .obj [("token", .str s.bot.token), ("intents", .word s.bot.intents.bits),
      ("shard_count", .str s.bot.shardCount.toText), ("max_concurrency", word32 s.bot.maxConcurrency),
      ("gateway_url", .str s.bot.gatewayUrl), ("api_base", .str s.bot.apiBase),
      ("large_threshold", option word32 s.bot.largeThreshold)]),
    ("reconnect", .obj [("base_ms", .word s.reconnect.base), ("max_ms", .word s.reconnect.max),
      ("max_attempts", word32 s.reconnect.attempts), ("is_default", .bool (s.reconnect == Settings.Reconnect.default))]),
    ("timeouts", .obj [("startup_secs", .word s.timeouts.startup), ("identify_secs", .word s.timeouts.identify),
      ("is_default", .bool (s.timeouts == Settings.Timeouts.default))])]

def logSettings (l : LogSettings) : Json :=
  .obj [("level", .str l.level), ("json", .bool l.json), ("span_events", .bool l.spanEvents),
    ("file_line", .bool l.fileLine), ("thread_names", .bool l.threadNames), ("thread_ids", .bool l.threadIds)]

def profile (p : ShardProfile) : Json :=
  .obj [("token", .str p.token), ("intents", .word p.intents.bits), ("gateway_url", .str p.gatewayUrl),
    ("large_threshold", option word32 p.largeThreshold), ("presence", .bool p.presence.isSome),
    ("browser", .str p.properties.browser), ("device", .str p.properties.device),
    ("identify_timeout", nat p.identifyTimeout), ("reconnect_base", nat p.reconnectBase),
    ("reconnect_max", nat p.reconnectMax), ("max_reconnect_attempts", nat p.reconnectLimit),
    ("stable_after", nat p.stableAfter), ("backoff_max_attempts", nat p.backoff.limit),
    ("backoff_attempts", nat p.backoff.attempts)]

/-- a manager that uses a limiter of some window -/
def manager (m : Manager) (window : Nat) : Json :=
  .obj [("config", profile m.profile), ("started", .bool m.started), ("count", nat m.count),
    ("ready", nat m.readyCount), ("window", nat window), ("debug", .str m.describe)]

end Shardwire.Report
