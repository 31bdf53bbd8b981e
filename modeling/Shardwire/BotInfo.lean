import Shardwire.Json.Decode

/-
What the gateway recommends to a bot: where to connect, how many shards to run, and how many sessions may be started.
-/

namespace Shardwire

/-- budget of session starts -/
structure SessionStartLimit where
  total : UInt32
  remaining : UInt32
  /-- milliseconds until the budget is full again -/
  resetAfter : UInt64
  /-- shards that may identify at a time -/
  maxConcurrency : UInt32
  deriving DecidableEq, Repr

namespace SessionStartLimit

/-- whether the budget allows that many sessions -/
def canStart (l : SessionStartLimit) (shards : UInt32) : Bool := shards ≤ l.remaining

def toJson (l : SessionStartLimit) : Json :=
  .obj [("total", .int l.total.toNat), ("remaining", .int l.remaining.toNat), ("reset_after", .word l.resetAfter),
    ("max_concurrency", .int l.maxConcurrency.toNat)]

open Json in
def decoder : Decoder SessionStartLimit := fun src o => do
  let r ← Record.read
    [.required "total" Decoder.uint32, .required "remaining" Decoder.uint32,
     .required "reset_after" Decoder.uint64, .required "max_concurrency" Decoder.uint32] src o
  return { total := ← r.required "total" Decoder.uint32
           remaining := ← r.required "remaining" Decoder.uint32
           resetAfter := ← r.required "reset_after" Decoder.uint64
           maxConcurrency := ← r.required "max_concurrency" Decoder.uint32 }

end SessionStartLimit

/-- recommendations to a bot -/
structure BotInfo where
  url : String
  shards : UInt32
  limit : SessionStartLimit
  deriving DecidableEq, Repr

namespace BotInfo

def toJson (i : BotInfo) : Json :=
  .obj [("url", .str i.url), ("shards", .int i.shards.toNat), ("session_start_limit", i.limit.toJson)]

open Json in
def decoder : Decoder BotInfo := fun src o => do
  let r ← Record.read
    [.required "url" Decoder.string, .required "shards" Decoder.uint32,
     .required "session_start_limit" SessionStartLimit.decoder] src o
  return { url := ← r.required "url" Decoder.string
           shards := ← r.required "shards" Decoder.uint32
           limit := ← r.required "session_start_limit" SessionStartLimit.decoder }

end BotInfo

end Shardwire
