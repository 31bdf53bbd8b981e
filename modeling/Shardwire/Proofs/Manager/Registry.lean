import Mathlib.Data.List.Find
import Shardwire.Proofs.Manager.Lineup

/-
The registry of a manager.

While every shard that was spawned is in the registry, its ids are those that were spawned, in ascending order, and
callers see the status of each. The registry is empty when no shard is in it.
-/

namespace Shardwire.Manager

variable {m : Manager}

theorem ids_eq_nil : m.ids = [] ↔ ∀ t ∈ m.tasks, t.listed = false := by
  rw [ids, ← List.length_eq_zero_iff, List.length_mergeSort]
  simp [listed]

section Registry

variable (distinct : m.spawned.Nodup) (listed : ∀ t ∈ m.tasks, t.listed = true)
include listed

theorem ids_perm : m.ids.Perm m.spawned := by
  have all : m.tasks.filter (·.listed) = m.tasks := List.filter_eq_self.2 listed
  rw [ids, Manager.listed, all, List.map_map]
  exact List.mergeSort_perm _ _

include distinct

theorem ids_ascend : m.ids.Pairwise (· < ·) := by
  have sorted : m.ids.Pairwise fun a b => decide (a ≤ b) = true :=
    List.pairwise_mergeSort (fun a b c => by simpa using UInt32.le_trans)
      (fun a b => by simpa using UInt32.le_total a b) _
  have apart : m.ids.Pairwise (· ≠ ·) := (ids_perm listed).nodup_iff.2 distinct
  exact (sorted.and apart).imp fun {a b} h => UInt32.lt_of_le_of_ne (of_decide_eq_true h.1) h.2

theorem shard?_of_mem {t : Task} (ht : t ∈ m.tasks) : m.shard? t.shard.id = some t.shard := by
  have same : (m.tasks.find? fun k => k.listed && k.shard.id == t.shard.id) = m.task? t.shard.id :=
    List.find?_congr fun k hk => by rw [listed k hk, Bool.true_and]
  rw [shard?, same, task?_of_mem distinct ht]
  rfl

theorem status?_of_mem {t : Task} (ht : t ∈ m.tasks) : m.status? t.shard.id = some t.shard.status := by
  rw [status?, shard?_of_mem distinct listed ht]
  rfl

end Registry

end Shardwire.Manager
