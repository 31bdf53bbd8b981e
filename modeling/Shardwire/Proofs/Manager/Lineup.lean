import Mathlib.Data.List.Nodup
import Shardwire.Proofs.Manager.Roster
import Shardwire.Proofs.Shard.Ending

/-
Which shards a manager has spawned.

Every lane spawns the shards of its bucket one after another, in ascending order: what was spawned of a bucket, followed
by what its lane has left, is always the whole bucket, and a bucket without a lane is complete. This is `Lineup`; every
step keeps it, from the start on and whether or not the manager is asked to stop (`step_lineup`). So no shard is spawned
twice (`Lineup.distinct`), a start never meets a shard without an address, and once it is over exactly the shards below
the number asked for are there (`Lineup.complete`).
-/

namespace Shardwire

namespace Manager

/-- ids of the shards that were spawned, in that order -/
def spawned (m : Manager) : List UInt32 := m.tasks.map (·.shard.id)

theorem spawned_append (m : Manager) (t : Task) (startup : Option Startup) :
    spawned { m with tasks := m.tasks ++ [t], startup := startup } = m.spawned ++ [t.shard.id] := by
  simp [spawned]

theorem launch_id {id total : UInt32} {address : ShardAddress} (made : ShardAddress.make id total = .ok address)
    (profile : ShardProfile) (now : Nat) : (Shard.launch profile address now).shard.id = id := by
  rw [launch_eq]
  exact (ShardAddress.make_eq_ok.1 made).1

/-- those of a bucket -/
def spawnedIn (m : Manager) (maxConcurrency bucket : UInt32) : List UInt32 :=
  m.spawned.filter fun id => id % maxConcurrency = bucket

/-- the lanes of the start under way -/
def lanes (m : Manager) : List Lane :=
  match m.startup with
  | some s => s.lanes
  | none => []

theorem lanes_of_some {m : Manager} {s : Startup} (h : m.startup = some s) : m.lanes = s.lanes := by simp [lanes, h]

theorem lanes_of_none {m : Manager} (h : m.startup = none) : m.lanes = [] := by simp [lanes, h]

variable {n c : UInt32} {deadline : Nat} {m m' : Manager}

/-! ## What happens to shards leaves the lineup alone -/

/-- `m'` has spawned the shards that `m` has, and its start is as far -/
structure Level (m m' : Manager) : Prop where
  started : m'.started = m.started
  startup : m'.startup = m.startup
  spawned : m'.spawned = m.spawned

/-- `t'` is the shard of `t` later on -/
structure Task.Onward (t t' : Task) : Prop where
  id : t'.shard.id = t.shard.id
  listed : t'.listed = t.listed
  ended : t.shard.isEnded = true → t'.shard.isEnded = true

/-- `m'` is `m` but for what its shards are up to -/
structure Alike (m m' : Manager) : Prop extends Level m m' where
  farewells : m'.farewells = m.farewells
  ownsLimiter : m'.ownsLimiter = m.ownsLimiter
  tasks : ∀ t' ∈ m'.tasks, ∃ t ∈ m.tasks, t.Onward t'

theorem Task.Onward.refl (t : Task) : t.Onward t := ⟨rfl, rfl, fun h => h⟩

theorem Task.Onward.trans {t t' t'' : Task} (h : t.Onward t') (h' : t'.Onward t'') : t.Onward t'' :=
  ⟨h'.id.trans h.id, h'.listed.trans h.listed, fun ended => h'.ended (h.ended ended)⟩

theorem Alike.refl (m : Manager) : Alike m m := ⟨⟨rfl, rfl, rfl⟩, rfl, rfl, fun t ht => ⟨t, ht, .refl t⟩⟩

theorem Level.trans {m'' : Manager} (h : Level m m') (h' : Level m' m'') : Level m m'' :=
  ⟨h'.started.trans h.started, h'.startup.trans h.startup, h'.spawned.trans h.spawned⟩

theorem Alike.trans {m'' : Manager} (h : Alike m m') (h' : Alike m' m'') : Alike m m'' where
  toLevel := h.toLevel.trans h'.toLevel
  farewells := h'.farewells.trans h.farewells
  ownsLimiter := h'.ownsLimiter.trans h.ownsLimiter
  tasks := by
    intro t'' ht''
    obtain ⟨t', ht', onward'⟩ := h'.tasks t'' ht''
    obtain ⟨t, ht, onward⟩ := h.tasks t' ht'
    exact ⟨t, ht, onward.trans onward'⟩

/-- There is one task for a shard. -/
theorem task_unique (distinct : m.spawned.Nodup) {t u : Task} (ht : t ∈ m.tasks) (hu : u ∈ m.tasks)
    (h : t.shard.id = u.shard.id) : t = u :=
  List.inj_on_of_nodup_map distinct ht hu h

theorem task?_of_mem (distinct : m.spawned.Nodup) {t : Task} (ht : t ∈ m.tasks) : m.task? t.shard.id = some t := by
  cases hf : m.task? t.shard.id with
  | none => exact absurd (beq_self_eq_true t.shard.id) (by simpa using List.find?_eq_none.1 hf t ht)
  | some u =>
    obtain ⟨hu, own⟩ := task?_mem hf
    rw [task_unique distinct hu ht own]

/-- Only the task of the shard changes. -/
theorem mem_update (distinct : m.spawned.Nodup) {id : UInt32} {t t' : Task} {s : Shard} (found : m.task? id = some t)
    (h : t' ∈ (m.update id s).tasks) : t' ∈ m.tasks ∨ t' = { t with shard := s } := by
  obtain ⟨mem, own⟩ := task?_mem found
  obtain ⟨k, hk, rfl⟩ := List.mem_map.1 h
  split
  · next hid => exact .inr (by rw [task_unique distinct hk mem (hid.trans own.symm)])
  · exact .inl hk

/-- A shard that takes the place of itself changes nothing. -/
theorem update_self (distinct : m.spawned.Nodup) {id : UInt32} {t : Task} (found : m.task? id = some t) :
    m.update id t.shard = m := by
  obtain ⟨mem, own⟩ := task?_mem found
  have same : (m.tasks.map fun k => if k.shard.id = id then { k with shard := t.shard } else k) = m.tasks := by
    refine (List.map_congr_left fun k hk => ?_).trans (List.map_id m.tasks)
    split
    · next hi => rw [task_unique distinct hk mem (hi.trans own.symm)]; rfl
    · rfl
  rw [update, same]

/-- A shard that takes the place of another of its id is found there. -/
theorem task?_update {id : UInt32} {t : Task} (found : m.task? id = some t) {s : Shard} (same : s.id = id)
    (k : UInt32) : (m.update id s).task? k = if k = id then some { t with shard := s } else m.task? k := by
  have key (j : Task) : ((if j.shard.id = id then { j with shard := s } else j).shard.id == k) = (j.shard.id == k) := by
    split
    · next hj => rw [hj, same]
    · rfl
  simp only [task?, update, List.find?_map, Function.comp_def, key]
  split
  · next hk =>
    subst hk
    rw [task?] at found
    rw [found]
    simp [(task?_mem found).2]
  · next hk =>
    cases hf : m.tasks.find? fun j => j.shard.id == k with
    | none => rfl
    | some j =>
      have own : j.shard.id = k := (task?_mem hf).2
      simp [own, hk]

theorem update_alike (distinct : m.spawned.Nodup) {id : UInt32} {t : Task} (found : m.task? id = some t) (now : Nat)
    (y : Shard.Stimulus) : Alike m (m.update id (t.shard.step now y).shard) := by
  obtain ⟨mem, own⟩ := task?_mem found
  refine ⟨⟨rfl, rfl, ?spawned⟩, rfl, rfl, fun t' ht' => ?task⟩
  case spawned =>
    simp only [Manager.spawned, update, List.map_map]
    refine List.map_congr_left fun k _ => ?_
    simp only [Function.comp_apply]
    split
    · next hk => rw [hk]; exact (Shard.step_id now y t.shard).trans own
    · rfl
  case task =>
    rcases mem_update distinct found ht' with same | rfl
    · exact ⟨t', same, .refl t'⟩
    · exact ⟨t, mem, Shard.step_id now y t.shard, rfl, fun he => (Shard.step_ended now y he).1⟩

theorem stepShard_alike (distinct : m.spawned.Nodup) (id : UInt32) (y : Shard.Stimulus) (now : Nat) :
    Alike m (stepShard id y now m).manager := by
  unfold stepShard
  split
  · exact .refl m
  · next t found => exact update_alike distinct found now y

theorem stepShards_alike (distinct : m.spawned.Nodup) (ids : List UInt32) (y : Shard.Stimulus) (now : Nat) :
    Alike m (ids.foldl (fun m id => (stepShard id y now m).manager) m) := by
  refine List.foldlRecOn ids _ (motive := Alike m) (.refl m) fun m' h id _ => h.trans ?_
  exact stepShard_alike (h.spawned ▸ distinct) id y now

theorem stepShard_acts (id : UInt32) (y : Shard.Stimulus) (now : Nat) (m : Manager) :
    ∀ a ∈ (stepShard id y now m).acts, ∃ b, a = .shard id b := by
  unfold stepShard
  split
  · simp
  · intro a ha
    obtain ⟨b, -, rfl⟩ := List.mem_map.1 ha
    exact ⟨b, rfl⟩

/-- The registry is emptied, and the shards that were in it are asked to stop. -/
theorem shutdown_eq (distinct : m.spawned.Nodup) (now : Nat) :
    ∃ m₁, Alike m m₁ ∧ shutdown now m =
      ⟨{ m₁ with
          tasks := m₁.tasks.map fun t => { t with listed := false }
          farewells := m.farewells ++ [⟨m.ids, now + grace⟩] }, []⟩ := by
  have h := stepShards_alike distinct m.ids .stop now
  refine ⟨_, h, ?_⟩
  rw [← h.farewells]
  rfl

theorem shutdown_level (distinct : m.spawned.Nodup) (now : Nat) : Level m (shutdown now m).manager := by
  obtain ⟨m₁, same, eq⟩ := shutdown_eq distinct now
  rw [eq]
  exact same.toLevel.trans ⟨rfl, rfl, by simp [Manager.spawned, Function.comp_def]⟩

/-- Nobody leaves, the first shutdown is over, or its shards are given time or stopped by force. -/
theorem takeLeave_cases (distinct : m.spawned.Nodup) (now : Nat) :
    (m.farewells = [] ∧ takeLeave now m = ⟨m, []⟩) ∨ ∃ f rest, m.farewells = f :: rest ∧
      ((f.shards.all m.hasEnded = true ∧
          takeLeave now m = ⟨{ m with farewells := rest }, if m.ownsLimiter then [.clear, .stopped] else [.stopped]⟩) ∨
        (f.shards.all m.hasEnded = false ∧ Alike m (takeLeave now m).manager ∧
          ∀ a ∈ (takeLeave now m).acts, ∃ id b, a = .shard id b)) := by
  cases hf : m.farewells with
  | nil => exact .inl ⟨rfl, takeLeave_eq hf now⟩
  | cons f rest =>
    refine .inr ⟨f, rest, rfl, ?_⟩
    simp only [takeLeave, hf]
    split
    · next all => exact .inl ⟨all, rfl⟩
    · next some_left =>
      refine .inr ⟨Bool.eq_false_iff.2 some_left, ?_⟩
      split
      · refine List.foldlRecOn f.shards _
          (motive := fun (t : Turn) => Alike m t.manager ∧ ∀ a ∈ t.acts, ∃ id b, a = Act.shard id b)
          ⟨.refl m, by simp⟩ ?_
        rintro t ⟨same, acts⟩ id -
        refine ⟨same.trans (stepShard_alike (same.spawned ▸ distinct) id .abort now), fun a ha => ?_⟩
        rcases List.mem_append.1 ha with ha | ha
        · exact acts a ha
        · exact ⟨id, stepShard_acts id .abort now t.manager a ha⟩
      · exact ⟨.refl m, by simp⟩

theorem takeLeave_level (distinct : m.spawned.Nodup) (now : Nat) : Level m (takeLeave now m).manager := by
  rcases takeLeave_cases distinct now with ⟨-, eq⟩ | ⟨f, rest, -, ⟨-, eq⟩ | ⟨-, same, -⟩⟩
  · rw [eq]
    exact ⟨rfl, rfl, rfl⟩
  · rw [eq]
    exact ⟨rfl, rfl, rfl⟩
  · exact same.toLevel

/-! ## Lanes spawn whole buckets in order -/

/-- a manager that was started with so many shards, of which so many may identify at a time -/
structure Lineup (shards maxConcurrency : UInt32) (deadline : Nat) (m : Manager) : Prop where
  started : m.started = true
  positive : 0 < maxConcurrency
  startup : ∀ s ∈ m.startup, s.total = shards ∧ s.deadline = deadline ∧ s.lanes ≠ []
  apart : m.lanes.Pairwise fun k l => k.bucket ≠ l.bucket
  bucket : ∀ l ∈ m.lanes, l.bucket < maxConcurrency
  current : ∀ l ∈ m.lanes, l.current = (m.spawnedIn maxConcurrency l.bucket).getLast?
  left : ∀ l ∈ m.lanes,
    m.spawnedIn maxConcurrency l.bucket ++ l.queue = Buckets.share shards maxConcurrency l.bucket
  through : ∀ b < maxConcurrency, (∀ l ∈ m.lanes, l.bucket ≠ b) →
    m.spawnedIn maxConcurrency b = Buckets.share shards maxConcurrency b

/-- a manager that was not started yet, whether or not it was asked to stop -/
structure Blank (m : Manager) : Prop where
  started : m.started = false
  tasks : m.tasks = []
  startup : m.startup = none

theorem Blank.spawned (h : Blank m) : m.spawned = [] := by simp [Manager.spawned, h.tasks]

theorem Blank.lineup (h : Blank m) {set : Buckets} (spread : Buckets.partition n c = .ok set) (profile : ShardProfile)
    (bot : Option BotClient) (deadline : Nat) :
    Lineup n c deadline
      { m with
        bot := bot
        started := true
        startup := some
          { deadline := deadline, total := n, profile := profile, lanes := set.buckets.map Lane.ofBucket } } := by
  obtain ⟨-, positive, -⟩ := Buckets.partition_eq spread
  obtain ⟨nonempty, shares, apart, absent⟩ := Buckets.partition_buckets spread
  have none (b : UInt32) : spawnedIn { m with bot := bot, started := true } c b = [] := by
    simp [spawnedIn, Manager.spawned, h.tasks]
  refine ⟨rfl, UInt32.pos_iff_ne_zero.2 positive, ?_, List.pairwise_map.2 apart, ?_, ?_, ?_, ?_⟩
  case refine_1 =>
    intro s hs
    cases hs
    exact ⟨rfl, rfl, by simpa using nonempty⟩
  case refine_2 | refine_3 | refine_4 =>
    intro l hl
    obtain ⟨b, hb, rfl⟩ := List.mem_map.1 hl
    first
    | exact (shares b hb).1
    | exact (congrArg List.getLast? (none b.id)).symm
    | exact (congrArg (· ++ b.shards) (none b.id)).trans (shares b hb).2
  case refine_5 =>
    intro b hb others
    exact (none b).trans (absent b hb fun k hk => others _ (List.mem_map_of_mem hk)).symm

theorem Level.blank (e : Level m m') (h : Blank m) : Blank m' :=
  ⟨e.started.trans h.started, List.map_eq_nil_iff.1 (e.spawned.trans h.spawned), e.startup.trans h.startup⟩

theorem Level.lineup (e : Level m m') (h : Lineup n c deadline m) : Lineup n c deadline m' := by
  have lanes : m'.lanes = m.lanes := by rw [Manager.lanes, Manager.lanes, e.startup]
  have part (b : UInt32) : m'.spawnedIn c b = m.spawnedIn c b := by rw [spawnedIn, spawnedIn, e.spawned]
  constructor
  case started => exact e.started.trans h.started
  case positive => exact h.positive
  case startup => rw [e.startup]; exact h.startup
  all_goals rw [lanes]
  case apart => exact h.apart
  case bucket => exact h.bucket
  case current => intro l hl; rw [part]; exact h.current l hl
  case left => intro l hl; rw [part]; exact h.left l hl
  case through => intro b hb others; rw [part]; exact h.through b hb others

/-- What was spawned of a bucket is the first part of it. -/
theorem Lineup.begins (h : Lineup n c deadline m) {b : UInt32} (hb : b < c) :
    m.spawnedIn c b <+: Buckets.share n c b := by
  by_cases hl : ∃ l ∈ m.lanes, l.bucket = b
  · obtain ⟨l, hl, rfl⟩ := hl
    exact ⟨l.queue, h.left l hl⟩
  · exact h.through b hb (fun l hm he => hl ⟨l, hm, he⟩) ▸ List.prefix_refl _

theorem Lineup.mod_lt (h : Lineup n c deadline m) (id : UInt32) : id % c < c := UInt32.mod_lt id h.positive

theorem Lineup.mem_share (h : Lineup n c deadline m) {id : UInt32} (hid : id ∈ m.spawned) :
    id ∈ Buckets.share n c (id % c) :=
  (h.begins (h.mod_lt id)).subset (List.mem_filter.2 ⟨hid, by simp⟩)

theorem Lineup.below (h : Lineup n c deadline m) {id : UInt32} (hid : id ∈ m.spawned) : id < n :=
  ((Buckets.mem_share (h.mod_lt id)).1 (h.mem_share hid)).1

/-- Shards of one bucket were spawned in ascending order. -/
theorem Lineup.ascends (h : Lineup n c deadline m) : m.spawned.Pairwise fun i j => i % c = j % c → i < j := by
  have parts (b : UInt32) : (m.spawned.filter fun id => id % c = b).Pairwise (· < ·) := by
    by_cases hb : b < c
    · exact (Buckets.share_ascends hb).sublist (h.begins hb).sublist
    · rw [List.filter_eq_nil_iff.2 fun id _ hid => hb (by simpa using of_decide_eq_true hid ▸ h.mod_lt id)]
      exact .nil
  generalize m.spawned = ids at parts
  induction ids with
  | nil => exact .nil
  | cons id ids ih =>
    refine List.pairwise_cons.2 ⟨fun j hj same => ?_, ih fun b => (parts b).sublist ?_⟩
    · have part := parts (id % c)
      rw [List.filter_cons_of_pos (by simp)] at part
      exact (List.pairwise_cons.1 part).1 j (List.mem_filter.2 ⟨hj, by simp [same]⟩)
    · exact (List.sublist_cons_self id ids).filter _

/-- No shard was spawned twice. -/
theorem Lineup.distinct (h : Lineup n c deadline m) : m.spawned.Nodup :=
  h.ascends.imp fun {i j} lt he => by
    subst he
    exact UInt32.lt_irrefl i (lt rfl)

/-- There is one lane for a bucket. -/
theorem Lineup.lane_unique (h : Lineup n c deadline m) {k l : Lane} (hk : k ∈ m.lanes) (hl : l ∈ m.lanes)
    (same : k.bucket = l.bucket) : k = l :=
  List.inj_on_of_nodup_map (List.pairwise_map.2 h.apart) hk hl same

/-- A lane has a shard left that is one of the session, and follows the one it waits for. -/
theorem Lineup.next (h : Lineup n c deadline m) {l : Lane} (hl : l ∈ m.lanes) {id : UInt32} {rest : List UInt32}
    (hq : l.queue = id :: rest) :
    id < n ∧ id % c = l.bucket ∧
      ((l.current = none ∧ id < c) ∨ ∃ p ∈ m.spawned, l.current = some p ∧ p.toNat + c.toNat = id.toNat) := by
  have left := h.left l hl
  rw [hq] at left
  obtain ⟨lt, own⟩ := (Buckets.mem_share (h.bucket l hl)).1 (left ▸ List.mem_append_right _ List.mem_cons_self)
  refine ⟨lt, own, ?_⟩
  rcases Buckets.share_next (h.bucket l hl) left with ⟨none, rfl⟩ | ⟨p, hp, eq⟩
  · exact .inl ⟨by rw [h.current l hl, none]; rfl, h.bucket l hl⟩
  · exact .inr ⟨p, (List.mem_filter.1 (List.mem_of_getLast? hp)).1, (h.current l hl).trans hp, eq⟩

/-! ## No shard is left -/

/-- whether it was started and has no shard left to spawn -/
def isExhausted (m : Manager) : Bool := m.started && m.lanes.all (·.queue.isEmpty)

theorem isExhausted_iff : m.isExhausted = true ↔ m.started = true ∧ ∀ l ∈ m.lanes, l.queue = [] := by
  simp [isExhausted]

theorem Lineup.exhausted_iff (h : Lineup n c deadline m) : m.isExhausted = true ↔ ∀ id < n, id ∈ m.spawned := by
  rw [isExhausted_iff, and_iff_right h.started]
  constructor
  · intro none id lt
    have all : m.spawnedIn c (id % c) = Buckets.share n c (id % c) := by
      by_cases lane : ∃ l ∈ m.lanes, l.bucket = id % c
      · obtain ⟨l, hl, own⟩ := lane
        rw [← own, ← h.left l hl, none l hl, List.append_nil]
      · exact h.through _ (h.mod_lt id) fun l hl own => lane ⟨l, hl, own⟩
    have mem := (Buckets.mem_share (h.mod_lt id)).2 ⟨lt, rfl⟩
    rw [← all] at mem
    exact (List.mem_filter.1 mem).1
  · intro all l hl
    cases next : l.queue with
    | nil => rfl
    | cons id rest =>
      -- a shard that is left was not spawned
      obtain ⟨lt, own, -⟩ := h.next hl next
      have apart := Buckets.share_ascends (n := n) (h.bucket l hl)
      rw [← h.left l hl, next] at apart
      have mem : id ∈ m.spawnedIn c l.bucket := List.mem_filter.2 ⟨all id lt, by simp [own]⟩
      exact absurd ((List.pairwise_append.1 apart).2.2 id mem id List.mem_cons_self) (UInt32.lt_irrefl id)

/-- Once the start is over, exactly the shards below the number were spawned. -/
theorem Lineup.complete (h : Lineup n c deadline m) (finished : m.startup = none) (id : UInt32) :
    id ∈ m.spawned ↔ id < n := by
  have none : m.isExhausted = true := isExhausted_iff.2 ⟨h.started, by simp [lanes_of_none finished]⟩
  exact ⟨h.below, h.exhausted_iff.1 none id⟩

theorem Lineup.unexhausted (h : Lineup n c deadline m) (left : m.isExhausted = false) :
    ∃ s l id rest, m.startup = some s ∧ l ∈ s.lanes ∧ l.queue = id :: rest := by
  by_contra none
  refine Bool.eq_false_iff.1 left (isExhausted_iff.2 ⟨h.started, fun l hl => ?_⟩)
  cases startup : m.startup with
  | none =>
    rw [lanes_of_none startup] at hl
    cases hl
  | some s =>
    cases next : l.queue with
    | nil => rfl
    | cons id rest => exact absurd ⟨s, l, id, rest, startup, lanes_of_some startup ▸ hl, next⟩ none

/-! ## Every step keeps the lineup -/

/-- Whatever is left in a lane has an address. -/
theorem Lineup.addressed (h : Lineup n c deadline m) {s : Startup} {l : Lane} {id : UInt32} {rest : List UInt32}
    {f : ShardAddress.Fault} (startup : m.startup = some s) (lane : l ∈ s.lanes) (next : l.queue = id :: rest) :
    ShardAddress.make id s.total ≠ .error f := by
  have lt := (h.next (lanes_of_some startup ▸ lane) next).1
  rw [(h.startup s startup).1, ShardAddress.make_of_lt lt]
  exact nofun

/-- A lane spawns the next shard of its bucket. -/
theorem Lineup.spawns (h : Lineup n c deadline m) {s : Startup} {l : Lane} {id : UInt32} {rest : List UInt32}
    (startup : m.startup = some s) (lane : l ∈ s.lanes) (next : l.queue = id :: rest)
    (started : m'.started = m.started)
    (startup' : m'.startup = some
      { s with lanes := s.lanes.map fun k => if k.bucket = l.bucket then l.spawn id rest else k })
    (spawned : m'.spawned = m.spawned ++ [id]) : Lineup n c deadline m' := by
  have lanes := lanes_of_some startup
  have lanes' := lanes_of_some startup'
  dsimp only at lanes'
  have mem : l ∈ m.lanes := lanes ▸ lane
  obtain ⟨-, own, -⟩ := h.next mem next
  -- the bucket of the lane has one shard more, every other bucket is as it was
  have grown : m'.spawnedIn c l.bucket = m.spawnedIn c l.bucket ++ [id] := by
    simp [spawnedIn, spawned, own]
  have same {b : UInt32} (hb : b ≠ l.bucket) : m'.spawnedIn c b = m.spawnedIn c b := by
    simp [spawnedIn, spawned, own, Ne.symm hb]
  have keeps (k : Lane) : (if k.bucket = l.bucket then l.spawn id rest else k).bucket = k.bucket := by
    split
    · next hk => exact hk.symm
    · rfl
  constructor
  case started => exact started.trans h.started
  case positive => exact h.positive
  case startup =>
    rw [startup']
    rintro s' ⟨⟩
    obtain ⟨total, time, nonempty⟩ := h.startup s startup
    exact ⟨total, time, by simpa using nonempty⟩
  all_goals rw [lanes']
  case apart =>
    refine List.pairwise_map.2 ((lanes ▸ h.apart).imp fun {k k'} hk => ?_)
    rw [keeps, keeps]
    exact hk
  case through =>
    intro b hb others
    have others' : ∀ k ∈ m.lanes, k.bucket ≠ b := fun k hk => keeps k ▸ others _ (List.mem_map_of_mem (lanes ▸ hk))
    rw [same (others' l mem).symm]
    exact h.through b hb others'
  all_goals
    intro k' hk'
    obtain ⟨k, hk, rfl⟩ := List.mem_map.1 hk'
    rw [← lanes] at hk
  case bucket => rw [keeps]; exact h.bucket k hk
  case current =>
    split
    · rw [Lane.spawn, grown]
      simp
    · next hb => rw [same hb]; exact h.current k hk
  case left =>
    split
    · rw [Lane.spawn, grown, List.append_assoc, List.singleton_append, ← next]
      exact h.left l mem
    · next hb => rw [same hb]; exact h.left k hk

/-- A lane that has nothing left goes away. -/
theorem Lineup.closes (h : Lineup n c deadline m) {l : Lane} (lane : l ∈ m.lanes) (through : l.queue = [])
    (started : m'.started = m.started)
    (startup : ∀ s' ∈ m'.startup, s'.total = n ∧ s'.deadline = deadline ∧ s'.lanes ≠ [])
    (lanes : m'.lanes = m.lanes.filter fun k => k.bucket ≠ l.bucket) (spawned : m'.spawned = m.spawned) :
    Lineup n c deadline m' := by
  have part (b : UInt32) : m'.spawnedIn c b = m.spawnedIn c b := by rw [spawnedIn, spawnedIn, spawned]
  have stays {k : Lane} (hk : k ∈ m'.lanes) : k ∈ m.lanes := (List.mem_filter.1 (lanes ▸ hk)).1
  constructor
  case started => exact started.trans h.started
  case positive => exact h.positive
  case startup => exact startup
  case apart => exact lanes ▸ h.apart.sublist List.filter_sublist
  case bucket => exact fun k hk => h.bucket k (stays hk)
  case current => exact fun k hk => part k.bucket ▸ h.current k (stays hk)
  case left => exact fun k hk => part k.bucket ▸ h.left k (stays hk)
  case through =>
    intro b hb others
    rw [part]
    by_cases hl : b = l.bucket
    · -- all of this bucket was spawned
      have left := h.left l lane
      rw [through, List.append_nil] at left
      rw [hl, left]
    · refine h.through b hb fun k hk he => others k ?_ he
      rw [lanes]
      exact List.mem_filter.2 ⟨hk, by simpa [he] using hl⟩

/-- Every step keeps the lineup. -/
theorem step_lineup (now : Nat) (x : Stimulus) (h : Lineup n c deadline m) :
    Lineup n c deadline (m.step now x).manager := by
  have ho := step_outcome now x m
  generalize m.step now x = t at ho ⊢
  cases ho with
  | rests bot replies =>
    have same : Level m { m with bot := bot } := ⟨rfl, rfl, rfl⟩
    exact same.lineup h
  | starts bot unstarted spread => rw [h.started] at unstarted; cases unstarted
  | spawns startup lane free next made =>
    refine h.spawns startup lane next rfl rfl ?_
    rw [spawned_append, launch_id made]
  | closes startup lane free through others =>
    obtain ⟨total, time, -⟩ := h.startup _ startup
    have lanes := lanes_of_some startup
    refine h.closes (lanes ▸ lane) through rfl ?_ (by rw [lanes]; rfl) rfl
    rintro s' ⟨⟩
    exact ⟨total, time, others⟩
  | @ends s l startup lane free through last =>
    have lanes := lanes_of_some startup
    refine h.closes (lanes ▸ lane) through rfl nofun ?_ rfl
    rw [lanes]
    exact (List.filter_eq_nil_iff.2 fun k hk => by simp [last k hk]).symm
  | strays startup lane next unmade => exact (h.addressed startup lane next unmade).elim
  | steps brings found => exact (update_alike h.distinct found now _).lineup h
  | leaves => exact (shutdown_level h.distinct now).lineup h
  | parts => exact (takeLeave_level h.distinct now).lineup h

/-- A step spawns at most one shard: the next of a lane that need not wait. -/
theorem step_spawned (now : Nat) (x : Stimulus) (h : Lineup n c deadline m) :
    (m.step now x).manager.spawned = m.spawned ∨ ∃ s l id rest, m.startup = some s ∧ l ∈ s.lanes ∧
      m.mayAdvance s l now = true ∧ l.queue = id :: rest ∧
      (m.step now x).manager.spawned = m.spawned ++ [id] := by
  have ho := step_outcome now x m
  generalize m.step now x = t at ho ⊢
  cases ho with
  | rests | starts | closes | ends | strays => exact .inl rfl
  | spawns startup lane free next made =>
    refine .inr ⟨_, _, _, _, startup, lane, free, next, ?_⟩
    rw [spawned_append, launch_id made]
  | steps brings found => exact .inl (update_alike h.distinct found now _).spawned
  | leaves => exact .inl (shutdown_level h.distinct now).spawned
  | parts => exact .inl (takeLeave_level h.distinct now).spawned

/-- A start is over when the last lane is through. -/
theorem Lineup.ends (h : Lineup n c deadline m) {now : Nat} {x : Stimulus} (before : m.startup ≠ none)
    (after : (m.step now x).manager.startup = none) :
    ∃ s l, m.startup = some s ∧ l ∈ s.lanes ∧ m.mayAdvance s l now = true ∧
      m.step now x = ⟨{ m with startup := none }, [.started m.verdict]⟩ := by
  have ho := step_outcome now x m
  generalize m.step now x = t at ho after ⊢
  cases ho with
  | rests => exact absurd after before
  | starts | spawns | closes => cases after
  | ends startup lane free through last => exact ⟨_, _, startup, lane, free, rfl⟩
  | strays startup lane next unmade => exact (h.addressed startup lane next unmade).elim
  | steps brings found => exact absurd after before
  | leaves => exact absurd ((shutdown_level h.distinct now).startup.symm.trans after) before
  | parts => exact absurd ((takeLeave_level h.distinct now).startup.symm.trans after) before

/-- A manager that was not started yet stays so until a start is accepted. -/
theorem step_blank (now : Nat) (x : Stimulus) (h : Blank m) :
    Blank (m.step now x).manager ∨ ∃ n c deadline, Lineup n c deadline (m.step now x).manager := by
  have distinct : m.spawned.Nodup := h.spawned ▸ .nil
  have ho := step_outcome now x m
  generalize m.step now x = t at ho ⊢
  cases ho with
  | rests bot replies => exact .inl ⟨h.started, h.tasks, h.startup⟩
  | starts bot unstarted spread => exact .inr ⟨_, _, _, h.lineup spread _ bot _⟩
  | spawns startup | closes startup | ends startup | strays startup => rw [h.startup] at startup; cases startup
  | steps brings found => exact .inl ((update_alike distinct found now _).blank h)
  | leaves => exact .inl ((shutdown_level distinct now).blank h)
  | parts => exact .inl ((takeLeave_level distinct now).blank h)

/-- A start of a manager that was not started yet is accepted. -/
theorem Blank.starts (h : Blank m) {x : Stimulus} {now : Nat} (hn : n ≠ 0) (hc : c ≠ 0) (hx : x.Starts now m n c) :
    Lineup n c (now + m.startupTimeout) (m.step now x).manager ∧ (m.step now x).manager.tasks = [] ∧
      (m.step now x).manager.farewells = m.farewells ∧ (m.step now x).acts = [] := by
  obtain ⟨set, spread⟩ := Buckets.partition_ok hn hc
  obtain ⟨profile, bot, eq⟩ := hx.step_eq
  have first : Manager.started { m with bot := bot } = false := h.started
  rw [eq, start_eq first spread]
  exact ⟨h.lineup spread profile bot _, h.tasks, rfl, rfl⟩

/-! ## A lane goes on -/

theorem Lineup.free_late (h : Lineup n c deadline m) {now : Nat} (late : deadline ≤ now) {s : Startup}
    (startup : m.startup = some s) (l : Lane) : m.mayAdvance s l now = true := by
  unfold mayAdvance
  split
  · rfl
  · simp [(h.startup s startup).2.1, late]

theorem Lineup.look_free (h : Lineup n c deadline m) {now : Nat} {s : Startup} {l : Lane}
    (startup : m.startup = some s) (lane : l ∈ s.lanes) (free : m.mayAdvance s l now = true) :
    look l.bucket now m = advance s l now m := by
  have lanes := lanes_of_some startup
  cases hf : s.lanes.find? fun k => k.bucket == l.bucket with
  | none => exact absurd (beq_self_eq_true l.bucket) (List.find?_eq_none.1 hf l lane)
  | some k =>
    have same : k.bucket = l.bucket := by simpa using List.find?_some hf
    cases h.lane_unique (lanes ▸ List.mem_of_find?_eq_some hf) (lanes ▸ lane) same
    simp [look, startup, hf, free]

theorem Lineup.look_spawns (h : Lineup n c deadline m) {now : Nat} {s : Startup} {l : Lane} {id : UInt32}
    {rest : List UInt32} (startup : m.startup = some s) (lane : l ∈ s.lanes) (free : m.mayAdvance s l now = true)
    (next : l.queue = id :: rest) : (look l.bucket now m).manager.spawned = m.spawned ++ [id] := by
  rw [h.look_free startup lane free, advance]
  have lt := (h.next (lanes_of_some startup ▸ lane) next).1
  simp [next, (h.startup s startup).1, ShardAddress.make_of_lt lt, spawned, launch_eq, Shard.id, Shard.fresh]

/-! ## Before the start and after it -/

/-- a manager that was not started yet, or has a lineup -/
def Formed (m : Manager) : Prop := m.Blank ∨ ∃ n c deadline, m.Lineup n c deadline

theorem Formed.distinct (h : m.Formed) : m.spawned.Nodup := by
  rcases h with blank | ⟨n, c, deadline, lineup⟩
  · exact blank.spawned ▸ .nil
  · exact lineup.distinct

theorem Formed.step (h : m.Formed) (now : Nat) (x : Stimulus) : (m.step now x).manager.Formed := by
  rcases h with blank | ⟨n, c, deadline, lineup⟩
  · exact step_blank now x blank
  · exact .inr ⟨n, c, deadline, step_lineup now x lineup⟩

theorem Formed.grows (h : m.Formed) (now : Nat) (x : Stimulus) : m.spawned <+: (m.step now x).manager.spawned := by
  rcases h with blank | ⟨n, c, deadline, lineup⟩
  · exact blank.spawned ▸ List.nil_prefix
  · rcases step_spawned now x lineup with same | ⟨_, _, id, _, -, -, -, -, grown⟩
    · exact ⟨[], (List.append_nil _).trans same.symm⟩
    · exact ⟨[id], grown.symm⟩

end Manager

end Shardwire
