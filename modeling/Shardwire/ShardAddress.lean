import Shardwire.Json.Decode

/-
Shards of one session.

A shard is addressed by its id and the number of all shards; the id is below the number. Guilds are spread over the
shards by the upper 42 bits of their id. Shards whose ids agree modulo the identify concurrency share a bucket.
-/

namespace Shardwire

/-- a shard among all shards of a session -/
structure ShardAddress where
  id : UInt32
  total : UInt32
  id_lt : id < total
  deriving DecidableEq

namespace ShardAddress

inductive Fault where
  | noShards
  | outOfRange (id total : UInt32)
  deriving DecidableEq, Repr

def Fault.message : Fault → String
  | .noShards => "shard count must be at least 1"
  | .outOfRange id total => s!"shard id {id.toNat} is out of range for {total.toNat} shards"

def make (id total : UInt32) : Except Fault ShardAddress :=
  if h : id < total then .ok ⟨id, total, h⟩
  else if total = 0 then .error .noShards
  else .error (.outOfRange id total)

theorem make_of_lt {id total : UInt32} (h : id < total) : make id total = .ok ⟨id, total, h⟩ := dif_pos h

theorem make_eq_ok {id total : UInt32} {s : ShardAddress} : make id total = .ok s ↔ s.id = id ∧ s.total = total := by
  constructor
  · intro h
    unfold make at h
    split at h
    · cases h
      exact ⟨rfl, rfl⟩
    · split at h <;> cases h
  · rintro ⟨rfl, rfl⟩
    exact make_of_lt s.id_lt

/-- identify bucket of a shard; without concurrency there is one bucket -/
def bucket (s : ShardAddress) (maxConcurrency : UInt32) : UInt32 :=
  if maxConcurrency = 0 then 0 else s.id % maxConcurrency

/-- the shard responsible for a guild; there is none among no shards -/
def forGuild? (guild : UInt64) (total : UInt32) : Option UInt32 :=
  if total = 0 then none else some (((guild >>> 22) % total.toUInt64).toUInt32)

def toText (s : ShardAddress) : String := s!"[{s.id.toNat}, {s.total.toNat}]"

def toJson (s : ShardAddress) : Json := .arr [.int s.id.toNat, .int s.total.toNat]

def decoder : Json.Decoder ShardAddress := fun src o => do
  let (id, total) ← Json.Decoder.pair Json.Decoder.uint32 src o
  (make id total).mapError fun f => .rejected f.message

end ShardAddress

end Shardwire
