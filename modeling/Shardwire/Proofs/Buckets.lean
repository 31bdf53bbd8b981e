import Mathlib.Logic.ExistsUnique
import Shardwire.Buckets
import Shardwire.ShardAddress

/-
How shards are spread over buckets.

Buckets are built by stepping through the shards, and looked up by a remainder. `mem_share` ties the two: what is met
when every `m`-th shard is taken from `b` on is what leaves the remainder `b`. So the two agree on every shard, also
where there are fewer shards than buckets could be, and on every number that is no shard (`Spread`).

`partition_spreads`: no shards, or no concurrency, is all that is refused; all else is spread.
-/

namespace Shardwire

namespace Buckets

/-! ## Every `m`-th shard -/

section Stride

variable {start m n : Nat}

theorem lt_stride_length (hm : 0 < m) {i : Nat} : i < (n - start + m - 1) / m ↔ start + i * m < n := by
  rw [Nat.lt_iff_add_one_le, Nat.le_div_iff_mul_le hm, Nat.succ_mul]
  omega

theorem stride_getElem? (hm : 0 < m) (hn : n < UInt32.size) {i : Nat} {id : UInt32}
    (h : (stride start m n)[i]? = some id) : id.toNat = start + i * m ∧ start + i * m < n := by
  rw [stride, List.getElem?_map, Option.map_eq_some_iff] at h
  obtain ⟨k, hk, rfl⟩ := h
  obtain ⟨hi, rfl⟩ := List.getElem?_eq_some_iff.1 hk
  rw [List.length_range, lt_stride_length hm] at hi
  rw [List.getElem_range]
  exact ⟨UInt32.toNat_ofNat_of_lt' (Nat.lt_trans hi hn), hi⟩

/-- A bucket holds the ids below `n` with its remainder. -/
theorem mem_stride_iff (hs : start < m) (hn : n < UInt32.size) {id : UInt32} :
    id ∈ stride start m n ↔ id.toNat < n ∧ id.toNat % m = start := by
  have hm : 0 < m := Nat.zero_lt_of_lt hs
  constructor
  · intro h
    obtain ⟨i, hi⟩ := List.mem_iff_getElem?.1 h
    obtain ⟨eq, lt⟩ := stride_getElem? hm hn hi
    refine ⟨eq ▸ lt, ?_⟩
    rw [eq, Nat.add_mul_mod_self_right, Nat.mod_eq_of_lt hs]
  · rintro ⟨hlt, hmod⟩
    have split : start + id.toNat / m * m = id.toNat := by
      rw [← hmod, Nat.mul_comm]
      exact Nat.mod_add_div id.toNat m
    refine List.mem_map.2 ⟨id.toNat / m, List.mem_range.2 ((lt_stride_length hm).2 (by omega)), ?_⟩
    rw [split, UInt32.ofNat_toNat]

theorem stride_ascends (hm : 0 < m) (hn : n < UInt32.size) : (stride start m n).Pairwise (· < ·) := by
  rw [List.pairwise_iff_getElem]
  intro i j hi hj hij
  obtain ⟨ei, -⟩ := stride_getElem? hm hn (List.getElem?_eq_getElem hi)
  obtain ⟨ej, -⟩ := stride_getElem? hm hn (List.getElem?_eq_getElem hj)
  have := Nat.mul_lt_mul_of_pos_right hij hm
  rw [UInt32.lt_iff_toNat_lt]
  omega

end Stride

/-- the shards of a bucket -/
def share (shards maxConcurrency bucket : UInt32) : List UInt32 :=
  stride bucket.toNat maxConcurrency.toNat shards.toNat

section Share

variable {n c b : UInt32}

theorem mem_share (hb : b < c) {id : UInt32} : id ∈ share n c b ↔ id < n ∧ id % c = b := by
  rw [share, mem_stride_iff (UInt32.lt_iff_toNat_lt.1 hb) n.toNat_lt, UInt32.lt_iff_toNat_lt, ← UInt32.toNat_inj,
    UInt32.toNat_mod]

theorem share_ascends (hb : b < c) : (share n c b).Pairwise (· < ·) :=
  stride_ascends (Nat.zero_lt_of_lt (UInt32.lt_iff_toNat_lt.1 hb)) n.toNat_lt

/-- The first shard of a bucket is that of its number, every other one follows the one before it in the bucket. -/
theorem share_next (hb : b < c) {done rest : List UInt32} {id : UInt32} (h : done ++ id :: rest = share n c b) :
    (done = [] ∧ id = b) ∨ ∃ p, done.getLast? = some p ∧ p.toNat + c.toNat = id.toNat := by
  have hc : 0 < c.toNat := Nat.zero_lt_of_lt (UInt32.lt_iff_toNat_lt.1 hb)
  have here : (share n c b)[done.length]? = some id := by rw [← h]; simp
  obtain ⟨eq, -⟩ := stride_getElem? hc n.toNat_lt here
  rcases List.eq_nil_or_concat done with rfl | ⟨init, p, rfl⟩
  · exact .inl ⟨rfl, UInt32.toNat_inj.1 (by simpa using eq)⟩
  · have before : (share n c b)[init.length]? = some p := by rw [← h]; simp
    obtain ⟨eq', -⟩ := stride_getElem? hc n.toNat_lt before
    refine .inr ⟨p, by simp, ?_⟩
    rw [eq, eq', List.concat_eq_append, List.length_append, List.length_singleton, Nat.succ_mul]
    omega

end Share

/-! ## All buckets -/

section Partition

variable {n c : UInt32} {set : Buckets}

theorem partition_ok (hn : n ≠ 0) (hc : c ≠ 0) : ∃ set, partition n c = .ok set := by simp [partition, hn, hc]

theorem partition_eq (h : partition n c = .ok set) :
    n ≠ 0 ∧ c ≠ 0 ∧ set = ⟨c, (List.range (min c.toNat n.toNat)).map fun b =>
      ⟨UInt32.ofNat b, share n c (UInt32.ofNat b)⟩⟩ := by
  unfold partition at h
  split at h
  · cases h
  · next hn =>
    split at h
    · cases h
    · next hc =>
      cases h
      refine ⟨hn, hc, congrArg _ (List.map_congr_left fun b hb => ?_)⟩
      have below : b < UInt32.size :=
        Nat.lt_trans (Nat.lt_min.1 (List.mem_range.1 hb)).1 c.toNat_lt
      rw [share, UInt32.toNat_ofNat_of_lt' below]

/-- A bucket stands at the place of its number, and the places are those of the shards below the concurrency. -/
theorem partition_getElem? (h : partition n c = .ok set) {i : Nat} {b : Bucket} :
    set.buckets[i]? = some b ↔ b.id.toNat = i ∧ b.id < c ∧ b.id < n ∧ b.shards = share n c b.id := by
  obtain ⟨-, -, rfl⟩ := partition_eq h
  rw [List.getElem?_map, Option.map_eq_some_iff]
  constructor
  · rintro ⟨k, hk, rfl⟩
    obtain ⟨hi, rfl⟩ := List.getElem?_eq_some_iff.1 hk
    rw [List.length_range, Nat.lt_min] at hi
    rw [List.getElem_range]
    have number : (UInt32.ofNat i).toNat = i := UInt32.toNat_ofNat_of_lt' (Nat.lt_trans hi.1 c.toNat_lt)
    simpa only [UInt32.lt_iff_toNat_lt, number, true_and, and_true] using hi
  · rintro ⟨rfl, hc, hn, hb⟩
    refine ⟨b.id.toNat, List.getElem?_range (Nat.lt_min.2 ⟨hc, hn⟩), ?_⟩
    rw [UInt32.ofNat_toNat, ← hb]

theorem partition_mem (h : partition n c = .ok set) {b : Bucket} :
    b ∈ set.buckets ↔ b.id < c ∧ b.id < n ∧ b.shards = share n c b.id := by
  simp only [List.mem_iff_getElem?, partition_getElem? h, exists_eq_left']

/-- Shards of a bucket agree modulo the concurrency. -/
theorem partition_remainder (h : partition n c = .ok set) : ∀ b ∈ set.buckets, ∀ id ∈ b.shards, id % c = b.id := by
  intro b hb id hid
  obtain ⟨below, -, shards⟩ := (partition_mem h).1 hb
  rw [shards] at hid
  exact ((mem_share below).1 hid).2

theorem mod_lt (hc : c ≠ 0) (s : UInt32) : s % c < c :=
  UInt32.mod_lt s (UInt32.pos_iff_ne_zero.2 hc)

/-- A remainder is no more than what it is taken of. -/
theorem mod_le (s c : UInt32) : s % c ≤ s := by
  rw [UInt32.le_iff_toNat_le, UInt32.toNat_mod]
  exact Nat.mod_le s.toNat c.toNat

/-- The bucket of a shard's remainder is one of them. -/
theorem partition_mem_mod (h : partition n c = .ok set) {s : UInt32} (hs : s < n) :
    ⟨s % c, share n c (s % c)⟩ ∈ set.buckets := by
  obtain ⟨-, hc, -⟩ := partition_eq h
  exact (partition_mem h).2 ⟨mod_lt hc s, UInt32.lt_of_le_of_lt (mod_le s c) hs, rfl⟩

/-- Every bucket with shards has a number of its own, below the concurrency. -/
theorem partition_buckets (h : partition n c = .ok set) :
    set.buckets ≠ [] ∧ (∀ b ∈ set.buckets, b.id < c ∧ b.shards = share n c b.id) ∧
      (set.buckets.Pairwise fun a b => a.id ≠ b.id) ∧ ∀ b < c, (∀ k ∈ set.buckets, k.id ≠ b) → share n c b = [] := by
  obtain ⟨hn, hc, -⟩ := partition_eq h
  refine ⟨?nonempty, ?shares, ?apart, ?absent⟩
  case nonempty => exact List.ne_nil_of_mem (partition_mem_mod h (UInt32.pos_iff_ne_zero.2 hn))
  case shares =>
    intro b hb
    obtain ⟨below, -, shards⟩ := (partition_mem h).1 hb
    exact ⟨below, shards⟩
  case apart =>
    rw [List.pairwise_iff_getElem]
    intro i j hi hj hij he
    have here := ((partition_getElem? h).1 (List.getElem?_eq_getElem hi)).1
    have there := ((partition_getElem? h).1 (List.getElem?_eq_getElem hj)).1
    rw [← here, ← there, he] at hij
    exact Nat.lt_irrefl _ hij
  case absent =>
    intro b hb none
    refine List.eq_nil_iff_forall_not_mem.2 fun id hid => ?_
    obtain ⟨hlt, hmod⟩ := (mem_share hb).1 hid
    exact none _ (partition_mem_mod h hlt) hmod

/-! ## Spread -/

/-- shards `0, …, n - 1` over buckets, up to `m` of them -/
structure Spread (n m : UInt32) (set : Buckets) : Prop where
  ids : set.buckets.map (·.id.toNat) = List.range (min n.toNat m.toNat)
  filled : ∀ b ∈ set.buckets, b.shards ≠ []
  ascends : ∀ b ∈ set.buckets, b.shards.Pairwise (· < ·)
  shards : ∀ b ∈ set.buckets, ∀ s, s ∈ b.shards ↔ s < n ∧ s % m = b.id
  placed : ∀ s < n, ∃! b, b ∈ set.buckets ∧ s ∈ b.shards
  found : ∀ s b, set.bucketFor? s = some b → b ∈ set.buckets ∧ b.contains s = true ∧
    ∃ address, ShardAddress.make s n = .ok address ∧ address.bucket m = b.id
  known : ∀ s, (set.bucketFor? s).isSome = true ↔ s < n
  slots : ∀ i b, set.slot i = .ok b ↔ b ∈ set.buckets ∧ b.id = i
  noSlot : ∀ i, (∃ f, set.slot i = .error f) ↔ ∀ b ∈ set.buckets, b.id ≠ i

theorem slot_eq_ok (h : partition n c = .ok set) (i : UInt32) (b : Bucket) :
    set.slot i = .ok b ↔ b ∈ set.buckets ∧ b.id = i := by
  have place : set.slot i = .ok b ↔ set.buckets[i.toNat]? = some b := by
    unfold slot
    cases set.buckets[i.toNat]? <;> simp
  rw [place, partition_getElem? h, partition_mem h, UInt32.toNat_inj, and_comm]

theorem slot_eq_error (h : partition n c = .ok set) (i : UInt32) :
    (∃ f, set.slot i = .error f) ↔ ∀ b ∈ set.buckets, b.id ≠ i := by
  constructor
  · rintro ⟨f, hf⟩ b hb hi
    cases hf.symm.trans ((slot_eq_ok h i b).2 ⟨hb, hi⟩)
  · intro none
    cases hs : set.slot i with
    | error f => exact ⟨f, rfl⟩
    | ok b =>
      obtain ⟨hb, hi⟩ := (slot_eq_ok h i b).1 hs
      cases none b hb hi

/-- A shard is found in the bucket of its remainder, and nothing else is found. -/
theorem bucketFor?_eq_some (h : partition n c = .ok set) (s : UInt32) (b : Bucket) :
    set.bucketFor? s = some b ↔ b ∈ set.buckets ∧ s ∈ b.shards := by
  obtain ⟨-, hc, eq⟩ := partition_eq h
  have concurrency : set.maxConcurrency = c := congrArg maxConcurrency eq
  have contains (b : Bucket) : b.contains s = true ↔ s ∈ b.shards := List.contains_iff_mem
  rw [bucketFor?, concurrency]
  constructor
  · intro found
    split at found
    · next b' hb' =>
      split at found
      · next inside =>
        cases found
        exact ⟨List.mem_of_getElem? hb', (contains b).1 inside⟩
      · cases found
    · cases found
  · rintro ⟨hb, hs⟩
    have number : s % c = b.id := partition_remainder h b hb s hs
    have place : set.buckets[(s % c).toNat]? = some b :=
      (partition_getElem? h).2 ⟨number ▸ rfl, (partition_mem h).1 hb⟩
    rw [place]
    exact if_pos ((contains b).2 hs)

theorem spread_of_partition (h : partition n c = .ok set) : Spread n c set where
  ids := by
    obtain ⟨-, -, rfl⟩ := partition_eq h
    rw [List.map_map, Nat.min_comm]
    refine (List.map_congr_left fun b hb => ?_).trans (List.map_id _)
    exact UInt32.toNat_ofNat_of_lt' (Nat.lt_trans (Nat.lt_min.1 (List.mem_range.1 hb)).2 c.toNat_lt)
  filled b hb := by
    -- its first shard is that of its number
    obtain ⟨hc, hn, shards⟩ := (partition_mem h).1 hb
    rw [shards]
    exact List.ne_nil_of_mem ((mem_share hc).2 ⟨hn, UInt32.mod_eq_of_lt hc⟩)
  ascends b hb := by
    obtain ⟨hc, -, shards⟩ := (partition_mem h).1 hb
    rw [shards]
    exact share_ascends hc
  shards b hb s := by
    obtain ⟨hc, -, shards⟩ := (partition_mem h).1 hb
    rw [shards, mem_share hc]
  placed s hs := by
    obtain ⟨-, hc, -⟩ := partition_eq h
    refine ⟨_, ⟨partition_mem_mod h hs, (mem_share (mod_lt hc s)).2 ⟨hs, rfl⟩⟩, ?_⟩
    rintro b ⟨hb, inside⟩
    have number : s % c = b.id := partition_remainder h b hb s inside
    obtain ⟨-, -, shards⟩ := (partition_mem h).1 hb
    rw [number, ← shards]
  found s b hb := by
    obtain ⟨mem, inside⟩ := (bucketFor?_eq_some h s b).1 hb
    obtain ⟨-, hc, -⟩ := partition_eq h
    obtain ⟨below, -, shards⟩ := (partition_mem h).1 mem
    obtain ⟨hs, number⟩ := (mem_share below).1 (shards ▸ inside)
    exact ⟨mem, List.contains_iff_mem.2 inside, _, ShardAddress.make_of_lt hs, (if_neg hc).trans number⟩
  known s := by
    obtain ⟨-, hc, -⟩ := partition_eq h
    rw [Option.isSome_iff_exists]
    constructor
    · rintro ⟨b, hb⟩
      obtain ⟨mem, inside⟩ := (bucketFor?_eq_some h s b).1 hb
      obtain ⟨below, -, shards⟩ := (partition_mem h).1 mem
      exact ((mem_share below).1 (shards ▸ inside)).1
    · intro hs
      exact ⟨_, (bucketFor?_eq_some h s _).2
        ⟨partition_mem_mod h hs, (mem_share (mod_lt hc s)).2 ⟨hs, rfl⟩⟩⟩
  slots := slot_eq_ok h
  noSlot := slot_eq_error h

/-- Shards are spread unless there are none, or no concurrency. Then `min n m` buckets are numbered from 0 on, each with
the shards of its remainder in ascending order; every shard is in one of them only, that one is found for it, and none
is for any other number; a slot can be waited for in the buckets, and nowhere else. -/
theorem partition_spreads (n m : UInt32) :
    ((∃ f, partition n m = .error f) ↔ n = 0 ∨ m = 0) ∧ ∀ set, partition n m = .ok set → Spread n m set := by
  refine ⟨⟨?refused, ?refuses⟩, fun set => spread_of_partition⟩
  case refused =>
    rintro ⟨f, hf⟩
    refine Decidable.byContradiction fun accepted => ?_
    obtain ⟨hn, hm⟩ := not_or.1 accepted
    obtain ⟨set, hset⟩ := partition_ok hn hm
    cases hf.symm.trans hset
  case refuses =>
    rintro (rfl | rfl)
    · exact ⟨_, rfl⟩
    · by_cases hn : n = 0
      · exact ⟨_, if_pos hn⟩
      · exact ⟨_, (if_neg hn).trans (if_pos rfl)⟩

/-- Three shards leave most of the numbers without a bucket. -/
theorem partition_spreads_few :
    partition 3 4294967295 = .ok ⟨4294967295, [⟨0, [0]⟩, ⟨1, [1]⟩, ⟨2, [2]⟩]⟩ ∧
      Spread 3 4294967295 ⟨4294967295, [⟨0, [0]⟩, ⟨1, [1]⟩, ⟨2, [2]⟩]⟩ :=
  have partitioned : partition 3 4294967295 = .ok ⟨4294967295, [⟨0, [0]⟩, ⟨1, [1]⟩, ⟨2, [2]⟩]⟩ := rfl
  ⟨partitioned, (partition_spreads 3 4294967295).2 _ partitioned⟩

end Partition

end Buckets

end Shardwire
