import Shardwire.Manager
import Shardwire.Shard.Clock

/-
A manager on a clock that ends.

A start works out at once when it runs out of time. A clock shows no reading from `Instant.limit` on. If the start would
run out of time there, it breaks off: the manager counts as started, no shard is spawned, and nobody is told. A shard
breaks off in the same way where the time of a connection or of a handshake would end there (`Shard.stepClocked`); it
stays in the registry, and whoever waits for it to come up has an answer.
-/

namespace Shardwire

/-- a shard begins on a clock that ends -/
def Shard.launchClocked (profile : ShardProfile) (address : ShardAddress) (now : Nat) : Turn :=
  (fresh profile address now).stepClocked now .timeout

namespace Manager

/-- whether a start that begins now runs out of time when no clock could show it -/
def outlasts (now : Nat) (m : Manager) : Bool := Instant.limit ≤ now + m.startupTimeout

/-- a start that is accepted breaks off if it would outlast the clock -/
def startClocked (now : Nat) (m : Manager) (t : Turn) : Turn :=
  if !m.started && t.manager.started && m.outlasts now then ⟨{ t.manager with startup := none }, []⟩ else t

/-- a shard that a lane spawns begins on a clock that ends -/
def spawnClocked (now : Nat) (m : Manager) (t : Turn) : Turn :=
  match t.manager.tasks.drop m.tasks.length with
  | [k] =>
    let l := Shard.launchClocked k.shard.profile k.shard.address now
    ⟨{ t.manager with tasks := m.tasks ++ [{ k with shard := l.shard }] }, l.acts.map (.shard k.shard.id)⟩
  | _ => t

/-- something happens to a shard -/
def stepShardClocked (id : UInt32) (x : Shard.Stimulus) (now : Nat) (m : Manager) : Turn :=
  match m.task? id with
  | none => ⟨m, []⟩
  | some task => (task.shard.clocked now x).foldl (fun t y => t.next (stepShard id y now)) ⟨m, []⟩

/-- a step on a clock that ends; what callers ask of shards begins no handshake -/
def stepClocked (now : Nat) (x : Stimulus) (m : Manager) : Turn :=
  match x with
  | .start _ _ | .connect _ => startClocked now m (m.step now x)
  | .lane _ => spawnClocked now m (m.step now x)
  | .shard id y => stepShardClocked id y now m
  | .submit _ _ _ | .shutdown | .farewell => m.step now x

end Manager

end Shardwire
