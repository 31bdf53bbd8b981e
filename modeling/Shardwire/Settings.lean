import Shardwire.Intents
import Shardwire.Text.Quoted

/-
Settings, read from named variables.

A lookup says for each variable whether it is set, and to which text. Blanks around a number do not count. A variable
that is not set has a default; the token has none. The variables are checked in a fixed order and the first one at fault
decides. An unknown environment name stands for development.
-/

namespace Shardwire

/-- where the program runs -/
inductive Environment where
  | development
  | staging
  | production
  deriving DecidableEq, Repr, Inhabited

namespace Environment

def name : Environment → String
  | .development => "development"
  | .staging => "staging"
  | .production => "production"

def all : List Environment := [.development, .staging, .production]

/-- the environment of a name, in capital or small letters -/
def ofText? (s : String) : Option Environment :=
  all.find? fun e => e.name == String.ofList (s.toList.map Char.toLower)

def decoder : Json.Decoder Environment := Json.Decoder.variant (all.map fun e => (e.name, e))

end Environment

/-- how many shards to run -/
inductive ShardCount where
  /-- as many as the gateway recommends -/
  | auto
  | fixed (n : UInt32)
  deriving DecidableEq, Repr

namespace ShardCount

def toText : ShardCount → String
  | .auto => "auto"
  | .fixed n => toString n.toNat

/-- `auto` in capital or small letters, or a number from 1; nothing if neither -/
def ofTrimmed? (s : String) : Option ShardCount :=
  if s.toList.map Char.toLower = "auto".toList then some .auto
  else match Text.readUInt32 s with
    | .ok n => if n = 0 then none else some (.fixed n)
    | .error _ => none

end ShardCount

/-- the variables, in the order they are checked in; those without a check come last -/
inductive Variable where
  | token
  | intents
  | shardCount
  | maxConcurrency
  | largeThreshold
  | reconnectBase
  | reconnectMax
  | reconnectAttempts
  | startupTimeout
  | identifyTimeout
  | appName
  | appEnv
  | gatewayUrl
  | apiBase
  deriving DecidableEq, Repr

def Variable.name : Variable → String
  | .token => "DISCORD_TOKEN"
  | .intents => "DISCORD_INTENTS"
  | .shardCount => "DISCORD_SHARD_COUNT"
  | .maxConcurrency => "DISCORD_MAX_CONCURRENCY"
  | .largeThreshold => "GATEWAY_LARGE_THRESHOLD"
  | .reconnectBase => "GATEWAY_RECONNECT_BASE_MS"
  | .reconnectMax => "GATEWAY_RECONNECT_MAX_MS"
  | .reconnectAttempts => "GATEWAY_MAX_RECONNECT_ATTEMPTS"
  | .startupTimeout => "GATEWAY_STARTUP_TIMEOUT_SECS"
  | .identifyTimeout => "GATEWAY_IDENTIFY_TIMEOUT_SECS"
  | .appName => "APP_NAME"
  | .appEnv => "APP_ENV"
  | .gatewayUrl => "DISCORD_GATEWAY_URL"
  | .apiBase => "DISCORD_API_BASE"

/-- what is set -/
abbrev Lookup := Variable → Option String

namespace Settings

/-- why the text of a variable is refused -/
inductive Cause where
  | integer (fault : Text.IntegerFault)
  | zero
  /-- the trimmed text is no shard count -/
  | shardCount (text : String)
  deriving DecidableEq, Repr

def Cause.message : Cause → String
  | .integer fault => fault.message
  | .zero => "must be at least 1"
  | .shardCount text => "expected \"auto\" or an integer >= 1, got " ++ Text.quote text

inductive Fault where
  | missing (v : Variable)
  | invalid (v : Variable) (cause : Cause)
  deriving DecidableEq, Repr

def Fault.message : Fault → String
  | .missing v => "Missing required environment variable: " ++ v.name
  | .invalid v cause => "Invalid value for " ++ v.name ++ ": " ++ cause.message

/-- what the program is called and where it runs -/
structure App where
  name : String
  environment : Environment
  deriving DecidableEq, Repr

def App.defaultName : String := "rucord"

open Json in
def App.decoder : Decoder App := fun src o => do
  let r ← Record.read [.defaulted "name" Decoder.string, .defaulted "env" Environment.decoder] src o
  return { name := ← r.defaulted "name" App.defaultName Decoder.string
           environment := ← r.defaulted "env" default Environment.decoder }

/-- credentials and sharding -/
structure Bot where
  /-- without the word in front -/
  token : String
  intents : Intents
  shardCount : ShardCount
  maxConcurrency : UInt32
  gatewayUrl : String
  apiBase : String
  largeThreshold : Option UInt32
  deriving DecidableEq

def defaultGatewayUrl : String := "wss://gateway.discord.gg"

def defaultApiBase : String := "https://discord.com/api/v10"

/-- delays between reconnects, in milliseconds, and how many there may be in a row -/
structure Reconnect where
  base : UInt64
  max : UInt64
  attempts : UInt32
  deriving DecidableEq, Repr

def Reconnect.default : Reconnect := ⟨1000, 60000, 10⟩

/-- in seconds -/
structure Timeouts where
  startup : UInt64
  identify : UInt64
  deriving DecidableEq, Repr

def Timeouts.default : Timeouts := ⟨300, 30⟩

end Settings

structure Settings where
  app : Settings.App
  bot : Settings.Bot
  reconnect : Settings.Reconnect
  timeouts : Settings.Timeouts
  deriving DecidableEq

namespace Settings

/-- a token without blanks around it and without the word that may stand in front, any number of times -/
def normalizeToken (s : String) : String :=
  Text.dropLeading "Bot " (Text.trim s)

/-- the token, if one is left -/
def readToken (lookup : Lookup) : Except Fault String :=
  match (lookup .token).map normalizeToken with
  | none => .error (.missing .token)
  | some token => if token.isEmpty then .error (.missing .token) else .ok token

/-- a number in a variable, or its default -/
def readNumber {α : Type} (read : String → Except Text.IntegerFault α) (lookup : Lookup) (v : Variable)
    (default : α) : Except Fault α :=
  match lookup v with
  | none => .ok default
  | some raw => (read (Text.trim raw)).mapError fun f => .invalid v (.integer f)

def readShardCount (lookup : Lookup) : Except Fault ShardCount :=
  match lookup .shardCount with
  | none => .ok .auto
  | some raw =>
    match ShardCount.ofTrimmed? (Text.trim raw) with
    | some count => .ok count
    | none => .error (.invalid .shardCount (.shardCount (Text.trim raw)))

def readMaxConcurrency (lookup : Lookup) : Except Fault UInt32 := do
  let n ← readNumber Text.readUInt32 lookup .maxConcurrency 1
  if n = 0 then .error (.invalid .maxConcurrency .zero) else .ok n

/-- settings from what is set -/
def ofLookup (lookup : Lookup) : Except Fault Settings := do
  let token ← readToken lookup
  let intents ← readNumber (fun s => (Text.readUInt64 s).map Intents.ofBits) lookup .intents Intents.default
  let shardCount ← readShardCount lookup
  let maxConcurrency ← readMaxConcurrency lookup
  let largeThreshold ← readNumber (fun s => (Text.readUInt32 s).map some) lookup .largeThreshold none
  let base ← readNumber Text.readUInt64 lookup .reconnectBase Reconnect.default.base
  let max ← readNumber Text.readUInt64 lookup .reconnectMax Reconnect.default.max
  let attempts ← readNumber Text.readUInt32 lookup .reconnectAttempts Reconnect.default.attempts
  let startup ← readNumber Text.readUInt64 lookup .startupTimeout Timeouts.default.startup
  let identify ← readNumber Text.readUInt64 lookup .identifyTimeout Timeouts.default.identify
  return {
    app := {
      name := (lookup .appName).getD App.defaultName
      environment := ((lookup .appEnv).bind Environment.ofText?).getD default }
    bot := {
      token, intents, shardCount, maxConcurrency, largeThreshold
      gatewayUrl := (lookup .gatewayUrl).getD defaultGatewayUrl
      apiBase := (lookup .apiBase).getD defaultApiBase }
    reconnect := ⟨base, max, attempts⟩
    timeouts := ⟨startup, identify⟩ }

end Settings

/-! ## Logging -/

/-- what is logged, and how -/
structure LogSettings where
  level : String
  json : Bool
  spanEvents : Bool
  fileLine : Bool
  threadNames : Bool
  threadIds : Bool
  deriving DecidableEq, Repr

namespace LogSettings

def default : LogSettings := ⟨"INFO", false, false, true, false, false⟩

def development : LogSettings := ⟨"DEBUG", false, true, true, true, false⟩

def production : LogSettings := ⟨"INFO", true, false, false, false, false⟩

def ofEnvironment : Environment → LogSettings
  | .development => development
  | .staging => default
  | .production => production

end LogSettings

end Shardwire
