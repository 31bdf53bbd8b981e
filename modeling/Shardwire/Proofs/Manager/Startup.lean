import Shardwire.Proofs.Manager.Registry
import Shardwire.Proofs.Manager.Rising

/-
What the caller of a start is told.

`Rising` is what holds from the start on, as long as nobody asks the manager to stop; this module draws the conclusions.
`Lineup.verdict`: once a start is over, its caller is told exactly which shards are not ready. `reports_failed_iff`:
before time is up, a start may also report shards that came up and lost their connection while others were still on
their way.
-/

namespace Shardwire

namespace Manager

variable {n c : UInt32} {deadline : Nat} {m : Manager}

/-! ## What a start says -/

section Verdict

variable (distinct : m.spawned.Nodup) (listed : ∀ t ∈ m.tasks, t.listed = true)
include distinct listed

/-- A start names the shards that callers do not see as ready. -/
theorem verdict_eq : m.verdict =
    match m.ids.filter fun id => m.status? id ≠ some .ready with
    | [] => none
    | failed => some (.startupFailed failed) := by
  have same : (m.ids.filter fun id => ((m.shard? id).map fun s => !s.status.isReady).getD false) =
      m.ids.filter fun id => m.status? id ≠ some .ready := by
    refine List.filter_congr fun id hid => ?_
    obtain ⟨t, ht, rfl⟩ := List.mem_map.1 ((ids_perm listed).mem_iff.1 hid)
    rw [shard?_of_mem distinct listed ht, status?_of_mem distinct listed ht]
    simp [Status.isReady, beq_eq_decide]
  rw [← same]
  rfl

end Verdict

/-- every shard is in the registry; a start that succeeded left all of them ready, and one that failed names those that
are not -/
def Complete (shards : UInt32) (m : Manager) (fault : Option Fault) : Prop :=
  m.ids = (List.range shards.toNat).map UInt32.ofNat ∧
    ((fault = none ∧ ∀ id < shards, m.status? id = some .ready) ∨
      ∃ failed, failed ≠ [] ∧ fault = some (.startupFailed failed) ∧ failed.Pairwise (· < ·) ∧
        ∀ id, id ∈ failed ↔ id < shards ∧ m.status? id ≠ some .ready)

theorem Lineup.ids (h : Lineup n c deadline m) (finished : m.startup = none) (listed : ∀ t ∈ m.tasks, t.listed = true) :
    m.ids = (List.range n.toNat).map UInt32.ofNat := by
  have number {i : Nat} (hi : i ∈ List.range n.toNat) : (UInt32.ofNat i).toNat = i :=
    UInt32.toNat_ofNat_of_lt' (Nat.lt_trans (List.mem_range.1 hi) n.toNat_lt)
  have ascend : ((List.range n.toNat).map UInt32.ofNat).Pairwise (· < ·) := by
    refine List.pairwise_map.2 (List.Pairwise.imp_of_mem ?_ List.pairwise_lt_range)
    intro i j hi hj hij
    rw [UInt32.lt_iff_toNat_lt, number hi, number hj]
    exact hij
  have mem (id : UInt32) : id ∈ m.ids ↔ id ∈ (List.range n.toNat).map UInt32.ofNat := by
    rw [(ids_perm listed).mem_iff, h.complete finished, List.mem_map]
    constructor
    · intro hid
      exact ⟨id.toNat, List.mem_range.2 (UInt32.lt_iff_toNat_lt.1 hid), UInt32.ofNat_toNat⟩
    · rintro ⟨i, hi, rfl⟩
      rw [UInt32.lt_iff_toNat_lt, number hi]
      exact List.mem_range.1 hi
  have ascend' := ids_ascend h.distinct listed
  have apart {l : List UInt32} (hl : l.Pairwise (· < ·)) : l.Nodup := hl.imp fun lt => UInt32.ne_of_lt lt
  refine List.Perm.eq_of_pairwise (fun a b _ _ hab hba => absurd hba (UInt32.lt_asymm hab)) ascend' ascend ?_
  exact (List.perm_ext_iff_of_nodup (apart ascend') (apart ascend)).2 mem

/-- What a start that is over says is right. -/
theorem Lineup.verdict (h : Lineup n c deadline m) (finished : m.startup = none)
    (listed : ∀ t ∈ m.tasks, t.listed = true) : Complete n m m.verdict := by
  have perm := ids_perm listed
  refine ⟨h.ids finished listed, ?_⟩
  rw [verdict_eq h.distinct listed]
  split
  · next none =>
    refine .inl ⟨rfl, fun id hid => ?_⟩
    have := List.filter_eq_nil_iff.1 none id (perm.mem_iff.2 ((h.complete finished id).2 hid))
    simpa using this
  · next failed some_failed =>
    refine .inr ⟨_, some_failed, rfl, (ids_ascend h.distinct listed).sublist List.filter_sublist, fun id => ?_⟩
    rw [List.mem_filter, perm.mem_iff, h.complete finished, decide_eq_true_iff]

end Manager

open Manager (Stimulus)

namespace Chronicle

variable {n c : UInt32} {deadline : Nat} {r : Chronicle}

/-! ## The end of a start -/

/-- the start under way is over with a move, and this is what its caller is told -/
def Returns (r : Chronicle) (v : Move) (fault : Option Fault) : Prop :=
  r.manager.startup ≠ none ∧ (r.step v).manager.startup = none ∧
    (r.step v).acts = r.acts ++ [(r.now, .started fault)]

theorem returns_of_over (h : r.manager.Lineup n c deadline) {v : Move} (before : r.manager.startup ≠ none)
    (after : (r.step v).manager.startup = none) : r.Returns v r.manager.verdict := by
  cases v with
  | tick time => exact absurd after before
  | happen x =>
    obtain ⟨s, l, -, -, -, eq⟩ := h.ends before after
    exact ⟨before, after, by simp [step, eq]⟩

theorem Rising.returns (h : Rising n c deadline r) {v : Move} (calm : v.isCalm = true)
    (before : r.manager.startup ≠ none) (after : (r.step v).manager.startup = none) :
    ∃ fault, r.Returns v fault ∧ (r.step v).manager.Complete n fault := by
  have h' := step_rising h calm
  have complete := h'.lineup.verdict after fun t ht => (h'.tasks t ht).1
  have same : (r.step v).manager.verdict = r.manager.verdict := by
    cases v with
    | tick time => rfl
    | happen x =>
      obtain ⟨s, l, -, -, -, eq⟩ := h.lineup.ends before after
      rw [step, eq]
      rfl
  exact ⟨_, returns_of_over h.lineup before after, same ▸ complete⟩

theorem run_started (start : Nat) (m : Manager) (before : List Move) {after : List Move} {x : Stimulus} (hn : n ≠ 0)
    (hc : c ≠ 0) (unstarted : ((opening start m).run before).manager.started = false)
    (starts : x.Starts ((opening start m).run before).now ((opening start m).run before).manager n c)
    (calm : ∀ v ∈ after, v.isCalm = true) :
    Rising n c (((opening start m).run before).now + ((opening start m).run before).manager.startupTimeout)
      ((opening start m).run (before ++ .happen x :: after)) := by
  rw [run_append, run_cons]
  exact run_rising ((dormant_of_unstarted unstarted).starts hn hc starts) calm

/-- shard 2 waits until shard 0 is ready; shard 1 is turned away for good -/
def mixedStart : List Move :=
  [.happen (.lane 0), .happen (.lane 1)] ++ introduced 0 ++ introduced 1 ++
  [.happen (.lane 0), .happen (.shard 0 (.text readyText 0)), .happen (.lane 0),
    .happen (.shard 1 (.closed (some ⟨4004, ""⟩))), .happen (.lane 1), .tick 5000] ++ introduced 2 ++
  [.happen (.shard 2 (.text readyText 0)), .happen (.lane 0)]

/-! ## What a start reports before time is up -/

theorem Returns.now {v : Move} {fault : Option Fault} (h : r.Returns v fault) : (r.step v).now = r.now := by
  cases v with
  | tick time => exact absurd h.2.1 h.1
  | happen x => rfl

theorem Returns.unique {v : Move} {fault fault' : Option Fault} (h : r.Returns v fault) (h' : r.Returns v fault') :
    fault = fault' := by
  simpa using List.append_cancel_left (h.2.2.symm.trans h'.2.2)

/-- Before time is up, a shard that is not ready is reported; it has failed, or was ready and is not so any more. -/
theorem Rising.reported (h : Rising n c deadline r) {v : Move} (calm : v.isCalm = true) {failed : List UInt32}
    (returns : r.Returns v (some (.startupFailed failed))) (early : r.now < deadline) :
    (∀ id ∈ failed, id < n) ∧ ∀ id < n, ∃ st, (r.step v).manager.status? id = some st ∧
      (id ∈ failed ↔ st ≠ .ready) ∧ (st = .ready ∨ st = .failed ∨ r.WasReady id) := by
  have h' := step_rising h calm
  obtain ⟨fault, told, complete⟩ := h.returns calm returns.1 returns.2.1
  obtain ⟨-, ⟨none, -⟩ | ⟨failed', -, eq, -, mem⟩⟩ := told.unique returns ▸ complete
  · cases none
  cases eq
  refine ⟨fun id hid => ((mem id).1 hid).1, fun id hid => ?_⟩
  obtain ⟨t, ht, rfl⟩ := List.mem_map.1 ((h'.lineup.complete returns.2.1 id).2 hid)
  have status := Manager.status?_of_mem h'.lineup.distinct (fun t ht => (h'.tasks t ht).1) ht
  refine ⟨_, status, by simp [mem, status, hid], .inr ?_⟩
  rcases h'.awaited t ht with ⟨l, hl, -⟩ | late | failed | ⟨time, said⟩
  · rw [Manager.lanes_of_none returns.2.1] at hl
    cases hl
  · rw [returns.now] at late
    exact absurd late (Nat.not_le_of_lt early)
  · exact .inl failed
  · rw [returns.2.2] at said
    exact .inr ⟨time, by simpa using said⟩

/-- A start that fails before time is up reports shards that have failed, and shards that were ready and lost their
connection since. So it reports nobody but failed shards exactly if every shard that was ready is so still, or has
failed. -/
theorem reports_failed_iff (start : Nat) (m : Manager) (before after : List Move) (x : Stimulus)
    (shards maxConcurrency : UInt32) (hs : shards ≠ 0) (hc : maxConcurrency ≠ 0)
    (unstarted : ((opening start m).run before).manager.started = false)
    (starts : x.Starts ((opening start m).run before).now ((opening start m).run before).manager shards maxConcurrency)
    (calm : ∀ v ∈ after, v.isCalm = true) (v : Move) (calm' : v.isCalm = true) (failed : List UInt32)
    (returns : ((opening start m).run (before ++ .happen x :: after)).Returns v (some (.startupFailed failed)))
    (early : ((opening start m).run (before ++ .happen x :: after)).now <
      ((opening start m).run before).now + ((opening start m).run before).manager.startupTimeout) :
    let r := (opening start m).run (before ++ .happen x :: after)
    let shown := (r.step v).manager.status?
    (∀ id ∈ failed, shown id ≠ some .ready ∧ (shown id = some .failed ∨ r.WasReady id)) ∧
      ((∀ id ∈ failed, shown id = some .failed) ↔
        ∀ id < shards, r.WasReady id → shown id = some .ready ∨ shown id = some .failed) := by
  obtain ⟨below, reported⟩ := (run_started start m before hs hc unstarted starts calm).reported calm' returns early
  refine ⟨fun id hid => ?_, fun all id lt _ => ?_, fun settled id hid => ?_⟩
  · obtain ⟨st, eq, mem, cause⟩ := reported id (below id hid)
    have unready := mem.1 hid
    refine ⟨fun ready => unready (Option.some.inj (eq.symm.trans ready)), ?_⟩
    exact (cause.resolve_left unready).imp_left fun failed => eq.trans (congrArg some failed)
  · obtain ⟨st, eq, mem, -⟩ := reported id lt
    by_cases ready : st = .ready
    · exact .inl (eq.trans (congrArg some ready))
    · exact .inr (all id (mem.2 ready))
  · obtain ⟨st, eq, mem, cause⟩ := reported id (below id hid)
    have unready := mem.1 hid
    rcases cause.resolve_left unready with failed | ready
    · exact eq.trans (congrArg some failed)
    · refine (settled id (below id hid) ready).resolve_left fun is_ready => unready ?_
      exact Option.some.inj (eq.symm.trans is_ready)

/-- what the caller is told, from the shards in the registry -/
theorem returns_failed (h : r.manager.Lineup n c deadline) {v : Move} (ids : List UInt32) {first : UInt32}
    {rest : List UInt32} (under : r.manager.startup.isSome = true)
    (finished : (r.step v).manager.startup.isNone = true) (listed : r.manager.listed.map (·.id) = ids)
    (ascend : ids.Pairwise fun a b => decide (a ≤ b) = true)
    (unready : ids.filter (fun id => ((r.manager.shard? id).map fun s => !s.status.isReady).getD false) =
      first :: rest) : r.Returns v (some (.startupFailed (first :: rest))) := by
  have sorted : r.manager.ids = ids := by
    rw [Manager.ids, listed]
    exact List.mergeSort_of_pairwise ascend
  have told : r.manager.verdict = some (.startupFailed (first :: rest)) := by rw [Manager.verdict, sorted, unready]
  exact told ▸ returns_of_over h (Option.isSome_iff_ne_none.1 under) (Option.isNone_iff_eq_none.1 finished)

/-- shards 0 and 2 are ready, shard 1 has failed, and only the lane of shard 2 is left -/
theorem reports_failed_iff_mixed :
    let after := mixedStart.dropLast
    let r := (opening 0 (.new (.usual "t"))).run (.happen (.start 3 2) :: after)
    let shown := (r.step (.happen (.lane 0))).manager.status?
    (3 : UInt32) ≠ 0 ∧ (2 : UInt32) ≠ 0 ∧ (∀ v ∈ after, v.isCalm = true) ∧
      r.Returns (.happen (.lane 0)) (some (.startupFailed [1])) ∧ r.now < Manager.defaultStartupTimeout ∧
      shown 1 = some .failed ∧
      (∀ id ∈ [1], shown id ≠ some .ready ∧ (shown id = some .failed ∨ r.WasReady id)) ∧
      ((∀ id ∈ [1], shown id = some .failed) ↔
        ∀ id < 3, r.WasReady id → shown id = some .ready ∨ shown id = some .failed) := by
  intro after r shown
  have three : (3 : UInt32) ≠ 0 := by decide
  have two : (2 : UInt32) ≠ 0 := by decide
  have calm : ∀ v ∈ after, v.isCalm = true := by decide +kernel
  have lineup : r.manager.Lineup 3 2 Manager.defaultStartupTimeout :=
    (run_started 0 (.new (.usual "t")) [] three two rfl (.start 3 2) calm).lineup
  have facts : r.manager.startup.isSome = true ∧ (r.step (.happen (.lane 0))).manager.startup.isNone = true ∧
      r.manager.listed.map (·.id) = [0, 1, 2] ∧
      [0, 1, 2].filter (fun id => ((r.manager.shard? id).map fun s => !s.status.isReady).getD false) = [1] ∧
      r.now < Manager.defaultStartupTimeout ∧ shown 1 = some .failed := by decide +kernel
  obtain ⟨under, finished, listed, unready, early, failed⟩ := facts
  have returns := returns_failed lineup [0, 1, 2] under finished listed (by decide) unready
  exact ⟨three, two, calm, returns, early, failed,
    reports_failed_iff 0 (.new (.usual "t")) [] after (.start 3 2) 3 2 three two rfl (.start 3 2) calm
      (.happen (.lane 0)) rfl [1] returns early⟩

/-- shard 0 comes up and is dropped again while shard 1 waits for its permit -/
def droppedStart : List Move :=
  [.happen (.lane 0)] ++ introduced 0 ++ [.happen (.shard 0 (.text readyText 0)), .happen (.lane 0),
    .happen (.shard 1 .opened), .happen (.shard 1 (.text helloText 0)), .tick 4500, .happen (.shard 0 .dropped),
    .tick 5000, .happen (.shard 1 .granted), .happen (.shard 1 (.text readyText 0))]

/-- The start fails long before time is up, on account of a shard that waits to connect again. -/
theorem reports_reconnecting :
    let r := (opening 0 (.new (.usual "t"))).run (.happen (.start 2 1) :: droppedStart)
    (∀ v ∈ droppedStart, v.isCalm = true) ∧ r.Returns (.happen (.lane 0)) (some (.startupFailed [0])) ∧
      r.now < Manager.defaultStartupTimeout ∧
      (r.step (.happen (.lane 0))).manager.status? 0 = some .disconnected := by
  intro r
  have calm : ∀ v ∈ droppedStart, v.isCalm = true := by decide +kernel
  have lineup : r.manager.Lineup 2 1 Manager.defaultStartupTimeout :=
    (run_started 0 (.new (.usual "t")) [] (by decide) (by decide) rfl (.start 2 1) calm).lineup
  have facts : r.manager.startup.isSome = true ∧ (r.step (.happen (.lane 0))).manager.startup.isNone = true ∧
      r.manager.listed.map (·.id) = [0, 1] ∧
      [0, 1].filter (fun id => ((r.manager.shard? id).map fun s => !s.status.isReady).getD false) = [0] ∧
      r.now < Manager.defaultStartupTimeout ∧
      (r.step (.happen (.lane 0))).manager.status? 0 = some .disconnected := by decide +kernel
  obtain ⟨under, finished, listed, unready, early, shown⟩ := facts
  exact ⟨calm, returns_failed lineup [0, 1] under finished listed (by decide) unready, early, shown⟩

end Chronicle

end Shardwire
