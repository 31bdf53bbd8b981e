import Shardwire.Proofs.Keyed
import Shardwire.Proofs.Manager.Registry

/-
One bucket of a manager.

`only` is what a manager is to the shards of one bucket: those shards, the lane that spawns them, and their part of the
shutdowns under way. Whatever happens to a manager happens to this part if it concerns the bucket (`step_part`), and
leaves it as it is otherwise (`step_apart`): buckets have nothing in common but the moments at which a shutdown begins
and ends.
-/

namespace Shardwire.Manager

variable {n c b : UInt32} {deadline now : Nat} {m : Manager}

/-- the lane of one bucket, if it is not through -/
def Startup.only (s : Startup) (bucket : UInt32) : Option Startup :=
  match s.lanes.filter fun l => l.bucket = bucket with
  | [] => none
  | lanes => some { s with lanes := lanes }

/-- shards of a bucket among others -/
def Farewell.only (f : Farewell) (maxConcurrency bucket : UInt32) : Farewell :=
  { f with shards := f.shards.filter fun id => id % maxConcurrency = bucket }

/-- what a manager is to the shards of one bucket -/
def only (m : Manager) (maxConcurrency bucket : UInt32) : Manager :=
  { m with
    bot := none
    tasks := m.tasks.filter fun t => t.shard.id % maxConcurrency = bucket
    startup := m.startup.bind fun s => s.only bucket
    farewells := m.farewells.map fun f => f.only maxConcurrency bucket }

/-- whether it is more than an answer to whoever called the manager -/
def Act.isFelt : Act → Bool
  | .shard _ _ | .clear => true
  | _ => false

/-- whether it is felt by a bucket -/
def Act.reaches (maxConcurrency bucket : UInt32) : Act → Bool
  | .shard id _ => id % maxConcurrency = bucket
  | .clear => true
  | _ => false

/-- `t'` is what `t` is to the shards of one bucket -/
structure Turn.Part (maxConcurrency bucket : UInt32) (t t' : Turn) : Prop where
  manager : t'.manager = t.manager.only maxConcurrency bucket
  acts : t'.acts.filter Act.isFelt = t.acts.filter (Act.reaches maxConcurrency bucket)

theorem Turn.Part.next {t t' : Turn} (h : t.Part c b t') {f f' : Manager → Turn}
    (hf : (f t.manager).Part c b (f' t'.manager)) : (t.next f).Part c b (t'.next f') where
  manager := hf.manager
  acts := by simp only [Turn.next, List.filter_append, h.acts, hf.acts]

/-- Nothing that reaches the bucket happens. -/
theorem Turn.Part.aside {m' : Manager} (same : m'.only c b = m.only c b) {acts : List Act}
    (away : ∀ a ∈ acts, a.reaches c b = false) : Turn.Part c b ⟨m', acts⟩ ⟨m.only c b, []⟩ where
  manager := same.symm
  acts := (List.filter_eq_nil_iff.2 fun a ha => by simp [away a ha]).symm

/-- something happens to several shards, one after another -/
def each (ids : List UInt32) (y : Shard.Stimulus) (now : Nat) (t : Turn) : Turn :=
  ids.foldl (fun t id => t.next (stepShard id y now)) t

theorem each_manager (ids : List UInt32) (y : Shard.Stimulus) (now : Nat) (t : Turn) :
    (each ids y now t).manager = ids.foldl (fun m id => (stepShard id y now m).manager) t.manager := by
  induction ids generalizing t with
  | nil => rfl
  | cons id ids ih => exact ih _

/-! ## Stopping -/

/-- the first shutdown has something to do for a bucket: it is over, or late for a shard of the bucket -/
def partsFrom (c b : UInt32) (now : Nat) (m : Manager) : Bool :=
  match m.farewells with
  | [] => false
  | f :: _ => f.shards.all m.hasEnded || (f.deadline ≤ now && !(f.only c b).shards.all m.hasEnded)

/-- whether a stimulus concerns a bucket; a shutdown concerns all of them -/
def concerns (maxConcurrency bucket : UInt32) (now : Nat) (m : Manager) : Stimulus → Bool
  | .start _ _ | .connect _ => false
  | .submit id _ _ | .shard id _ => id % maxConcurrency = bucket
  | .lane k => k = bucket
  | .shutdown => true
  | .farewell => m.partsFrom maxConcurrency bucket now

/-- every shard was spawned for the bucket of its id -/
def Housed (maxConcurrency : UInt32) (m : Manager) : Prop :=
  ∀ t ∈ m.tasks, t.bucket = t.shard.id % maxConcurrency

theorem Housed.updated (h : Housed c m) {id : UInt32} {s : Shard} (same : s.id = id) : Housed c (m.update id s) := by
  intro t ht
  obtain ⟨k, hk, rfl⟩ := List.mem_map.1 ht
  split
  · next own => exact (h k hk).trans (by rw [own, same])
  · exact h k hk

theorem Housed.stepped (h : Housed c m) (id : UInt32) (y : Shard.Stimulus) (now : Nat) :
    Housed c (stepShard id y now m).manager := by
  cases found : m.task? id with
  | none => rw [stepShard_none found]; exact h
  | some t =>
    rw [stepShard_eq found]
    exact h.updated ((Shard.step_id now y t.shard).trans (task?_mem found).2)

theorem Housed.each {t : Turn} (h : Housed c t.manager) (ids : List UInt32) (y : Shard.Stimulus) (now : Nat) :
    Housed c (each ids y now t).manager :=
  List.foldlRecOn ids _ (motive := fun (t : Turn) => Housed c t.manager) h fun _ ht id _ => ht.stepped id y now

/-- Every step leaves shards with the buckets of their ids. -/
theorem Lineup.step_housed (h : Lineup n c deadline m) (housed : Housed c m) (now : Nat) (x : Stimulus) :
    Housed c (m.step now x).manager := by
  have ho := step_outcome now x m
  generalize m.step now x = t at ho ⊢
  cases ho with
  | rests | starts | closes | ends | strays => exact housed
  | @spawns s l id rest address startup lane free next made =>
    obtain ⟨-, own, -⟩ := h.next (lanes_of_some startup ▸ lane) next
    intro t ht
    rcases List.mem_append.1 ht with ht | ht
    · exact housed t ht
    · rw [List.mem_singleton.1 ht, launch_id made, own]
  | @steps _ id y task brings found => exact stepShard_eq found y now ▸ housed.stepped id y now
  | leaves =>
    have stopped := Housed.each (t := ⟨m, []⟩) housed m.ids .stop now
    rw [each_manager] at stopped
    intro t ht
    obtain ⟨k, hk, rfl⟩ := List.mem_map.1 ht
    exact stopped k hk
  | parts =>
    unfold takeLeave
    split
    · exact housed
    · split
      · exact housed
      · split
        · exact Housed.each (t := ⟨m, []⟩) housed _ .abort now
        · exact housed

end Shardwire.Manager
