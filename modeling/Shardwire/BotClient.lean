import Shardwire.BotInfo
import Shardwire.Fault
import Shardwire.Text.Blank
import Shardwire.Text.Quoted
import Shardwire.Text.Record

/-
The client of the bot endpoint, with its cache.

A successful answer is kept until the session budget it reports is full again; while it is kept no request is sent,
unless a fresh answer is asked for. A failed request leaves the cache as it was. The answer of the endpoint is an input:
`fetch` says whether it was asked for.
-/

namespace Shardwire

/-- what a request comes back with -/
inductive HttpAnswer where
  | response (status : Nat) (body : String)
  | unreachable
  deriving DecidableEq, Repr

/-- a successful answer and when it goes stale -/
structure BotClient.Kept where
  info : BotInfo
  expiresAt : Nat
  deriving DecidableEq, Repr

structure BotClient where
  base : String
  token : String
  kept : Option BotClient.Kept
  deriving DecidableEq, Repr

namespace BotClient

def new (base token : String) : BotClient := ⟨base, token, none⟩

def url (c : BotClient) : String := Text.dropTrailing '/' c.base ++ "/gateway/bot"

/-- first line of a request, with the path of the endpoint -/
def requestLine (path : String) : String := "GET " ++ path ++ " HTTP/1.1"

def userAgent : String := "DiscordBot (https://github.com/rucord/rucord, 0.1.0)"

def authorization (c : BotClient) : String := "Bot " ++ c.token

/-- the client as it stands in diagnostics, without the token -/
def describe (c : BotClient) : String :=
  Text.openRecord "GatewayBotClient" [("api_base", Text.quote c.base), ("token", Text.quote "[REDACTED]")]

/-- the kept answer, unless it has gone stale -/
def cached (c : BotClient) (now : Nat) : Option BotInfo :=
  match c.kept with
  | some k => if now < k.expiresAt then some k.info else none
  | none => none

def invalidate (c : BotClient) : BotClient := { c with kept := none }

def read : HttpAnswer → Except Fault BotInfo
  | .unreachable => .error (.http none false)
  | .response status body =>
    if 400 ≤ status ∧ status < 600 then .error (.http (some status) false)
    else
      match Json.decodeText BotInfo.decoder body with
      | .ok info => .ok info
      | .error _ => .error (.http none true)

/-- the result of asking, whether a request was sent, and the client afterwards -/
structure Fetched where
  result : Except Fault BotInfo
  requested : Bool
  client : BotClient

/-- asks the endpoint -/
def fetchFresh (c : BotClient) (answer : HttpAnswer) (now : Nat) : Fetched :=
  match read answer with
  | .ok info => ⟨.ok info, true, { c with kept := some ⟨info, now + info.limit.resetAfter.toNat⟩ }⟩
  | .error f => ⟨.error f, true, c⟩

/-- asks the endpoint unless an answer is kept -/
def fetch (c : BotClient) (answer : HttpAnswer) (now : Nat) : Fetched :=
  match c.cached now with
  | some info => ⟨.ok info, false, c⟩
  | none => c.fetchFresh answer now

end BotClient

end Shardwire
