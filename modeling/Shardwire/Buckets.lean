import Shardwire.Fault

/-
Buckets: shards that identify one after another.

With identify concurrency `m`, the shards whose ids agree modulo `m` share a bucket, and buckets are independent of each
other. `n` shards fill `min n m` buckets, numbered from 0, with the ids of each in ascending order.
-/

namespace Shardwire

/-- shards that identify through the same bucket -/
structure Bucket where
  id : UInt32
  /-- in ascending order -/
  shards : List UInt32
  deriving DecidableEq, Repr

def Bucket.contains (b : Bucket) (shard : UInt32) : Bool := b.shards.contains shard

/-- all buckets of one session -/
structure Buckets where
  maxConcurrency : UInt32
  buckets : List Bucket
  deriving DecidableEq, Repr

namespace Buckets

/-- every `m`-th number from `start` on that is below `n` -/
def stride (start m n : Nat) : List UInt32 :=
  (List.range ((n - start + m - 1) / m)).map fun i => UInt32.ofNat (start + i * m)

/-- the shards `0, …, shards - 1`, spread over their buckets -/
def partition (shards maxConcurrency : UInt32) : Except Fault Buckets :=
  if shards = 0 then .error (.invalidSharding .noShards)
  else if maxConcurrency = 0 then .error (.invalidSharding .noConcurrency)
  else
    let m := maxConcurrency.toNat
    let n := shards.toNat
    .ok ⟨maxConcurrency, (List.range (min m n)).map fun b => ⟨UInt32.ofNat b, stride b m n⟩⟩

/-- the bucket a shard identifies through, if the shard is one of the session -/
def bucketFor? (s : Buckets) (shard : UInt32) : Option Bucket :=
  match s.buckets[(shard % s.maxConcurrency).toNat]? with
  | some b => if b.contains shard then some b else none
  | none => none

/-- the bucket of a number -/
def slot (s : Buckets) (id : UInt32) : Except Fault Bucket :=
  match s.buckets[id.toNat]? with
  | some b => .ok b
  | none => .error (.invalidSharding (.noBucket id.toNat))

end Buckets

end Shardwire
