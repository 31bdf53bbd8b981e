import Shardwire.BotClient

/-
A rehearsal of the bot client against an endpoint that answers, or cannot be reached.
-/

namespace Shardwire.Rehearsal.Bot

inductive Step where
  | fetch (answer : HttpAnswer)
  | fetchFresh (answer : HttpAnswer)
  | invalidate
  | advance (ms : Nat)

structure Entry where
  time : Nat
  cached : Option BotInfo
  /-- the result of asking, and whether a request reached the endpoint -/
  fetched : Option (Except Fault BotInfo × Bool)

/-- whether the endpoint sees a request -/
def reached (f : BotClient.Fetched) : HttpAnswer → Bool
  | .unreachable => false
  | .response _ _ => f.requested

def play (now : Nat) (c : BotClient) : List Step → List Entry
  | [] => []
  | .fetch answer :: rest =>
    let f := c.fetch answer now
    ⟨now, f.client.cached now, some (f.result, reached f answer)⟩ :: play now f.client rest
  | .fetchFresh answer :: rest =>
    let f := c.fetchFresh answer now
    ⟨now, f.client.cached now, some (f.result, reached f answer)⟩ :: play now f.client rest
  | .invalidate :: rest => ⟨now, c.invalidate.cached now, none⟩ :: play now c.invalidate rest
  | .advance ms :: rest => ⟨now + ms, c.cached (now + ms), none⟩ :: play (now + ms) c rest

end Shardwire.Rehearsal.Bot
