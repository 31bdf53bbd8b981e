import Shardwire.Proofs.Manager.Chronicle
import Shardwire.Proofs.Manager.Registry

/-
What a shutdown leaves behind.

A shutdown asks the shards to stop that are there when it is called, and is over once they have ended. It says nothing
to a start that is under way, or to one that is yet to come. Runs are followed through three stages: nobody asked the
manager to stop yet (`Attended`), it was asked to when it had spawned certain shards (`Called`), and that shutdown is
over (`Returned`). Whatever the interleaving, the shards that were asked stay out of the registry, have ended and do no
more than answer callers. What breaks the silence is a shard spawned since the call: `shutdown_final_iff` says when
there can be one.
-/

namespace Shardwire

namespace Manager

variable {m : Manager}

/-- A shard after a step was there before, or it is new. -/
theorem Formed.tasks (h : m.Formed) (now : Nat) {x : Stimulus} (hx : x ≠ .shutdown) :
    ∀ t' ∈ (m.step now x).manager.tasks,
      (∃ t ∈ m.tasks, t.Onward t') ∨ (t'.listed = true ∧ t'.shard.id ∉ m.spawned) := by
  have distinct := (h.step now x).distinct
  have ho := step_outcome now x m
  generalize m.step now x = t at ho distinct ⊢
  have same (t' : Task) (ht' : t' ∈ m.tasks) :
      (∃ t ∈ m.tasks, t.Onward t') ∨ (t'.listed = true ∧ t'.shard.id ∉ m.spawned) := .inl ⟨t', ht', .refl t'⟩
  cases ho with
  | rests | starts | closes | ends | strays => exact same
  | spawns =>
    intro t' ht'
    rcases List.mem_append.1 ht' with old | new
    · exact same t' old
    · cases List.mem_singleton.1 new
      rw [spawned_append] at distinct
      exact .inr ⟨rfl, fun mem => (List.nodup_append.1 distinct).2.2 _ mem _ (List.mem_singleton.2 rfl) rfl⟩
  | steps brings found => exact fun t' ht' => .inl ((update_alike h.distinct found now _).tasks t' ht')
  | leaves => exact absurd rfl hx
  | parts =>
    rcases takeLeave_cases h.distinct now with ⟨-, eq⟩ | ⟨f, rest, -, ⟨-, eq⟩ | ⟨-, alike, -⟩⟩
    · rw [eq]
      exact same
    · rw [eq]
      exact same
    · exact fun t' ht' => .inl (alike.tasks t' ht')

/-- A shutdown is over, and the limiter cleared if it is the manager's own, only when its shards have ended. -/
theorem Formed.farewells (h : m.Formed) (now : Nat) {x : Stimulus} (hx : x ≠ .shutdown) :
    ((m.step now x).manager.farewells = m.farewells ∧ .stopped ∉ (m.step now x).acts ∧ .clear ∉ (m.step now x).acts) ∨
      ∃ f rest, m.farewells = f :: rest ∧ f.shards.all m.hasEnded = true ∧
        m.step now x = ⟨{ m with farewells := rest }, if m.ownsLimiter then [.clear, .stopped] else [.stopped]⟩ := by
  have ho := step_outcome now x m
  generalize m.step now x = t at ho ⊢
  cases ho with
  | rests bot replies =>
    refine .inl ⟨rfl, fun mem => ?_, fun mem => ?_⟩
    all_goals cases replies _ mem
  | starts | spawns | closes | ends | strays | steps => exact .inl ⟨rfl, by simp, by simp⟩
  | leaves => exact absurd rfl hx
  | parts =>
    rcases takeLeave_cases h.distinct now with ⟨-, eq⟩ | ⟨f, rest, hf, ⟨all, eq⟩ | ⟨-, alike, acts⟩⟩
    · exact .inl (by simp [eq])
    · exact .inr ⟨f, rest, hf, all, eq⟩
    · refine .inl ⟨alike.farewells, fun mem => ?_, fun mem => ?_⟩
      all_goals
        obtain ⟨id, b, e⟩ := acts _ mem
        cases e

/-- Shards that have ended do nothing but answer callers. -/
theorem Formed.quiet (h : m.Formed) (now : Nat) {x : Stimulus} (hx : x ≠ .shutdown) (nobody : m.farewells = []) :
    ∀ id a, .shard id a ∈ (m.step now x).acts → id ∈ (m.step now x).manager.spawned ∧
      ((∀ t ∈ m.tasks, t.shard.id = id → t.shard.isEnded = true) → id ∈ m.spawned → a.isAnswer = true) := by
  intro id a mem
  have distinct := (h.step now x).distinct
  have grows := h.grows now x
  have ho := step_outcome now x m
  generalize m.step now x = t at ho mem distinct grows ⊢
  cases ho with
  | rests bot replies => cases replies _ mem
  | starts | closes | ends | strays => simp at mem
  | @spawns s l id' rest address startup lane free next made =>
    obtain ⟨b, -, e⟩ := List.mem_map.1 mem
    cases e
    rw [spawned_append, launch_id made] at distinct ⊢
    refine ⟨List.mem_append_right _ (List.mem_singleton.2 rfl), fun _ old => ?_⟩
    exact absurd rfl ((List.nodup_append.1 distinct).2.2 id old id (List.mem_singleton.2 rfl))
  | @steps _ id' y task brings found =>
    obtain ⟨b, hb, e⟩ := List.mem_map.1 mem
    cases e
    obtain ⟨ht, own⟩ := task?_mem found
    refine ⟨grows.subset (List.mem_map.2 ⟨task, ht, own⟩), fun finished _ => ?_⟩
    exact (Shard.step_ended now y (finished task ht own)).2.2 a hb
  | leaves => exact absurd rfl hx
  | parts =>
    rw [takeLeave_eq nobody] at mem
    cases mem

/-! ## A shutdown comes to its end -/

theorem Alike.hasEnded (distinct : m.spawned.Nodup) {m' : Manager} (h : Alike m m') {id : UInt32}
    (ended : m.hasEnded id = true) : m'.hasEnded id = true := by
  unfold Manager.hasEnded at ended ⊢
  cases found : m'.task? id with
  | none => rfl
  | some t' =>
    obtain ⟨ht', rfl⟩ := task?_mem found
    obtain ⟨t, ht, own, -, finished⟩ := h.tasks t' ht'
    rw [own, task?_of_mem distinct ht] at ended
    exact finished ended

theorem abort_hasEnded (now : Nat) (id : UInt32) (m : Manager) :
    (stepShard id .abort now m).manager.hasEnded id = true := by
  unfold Manager.hasEnded
  cases found : (stepShard id .abort now m).manager.task? id with
  | none => rfl
  | some t' =>
    obtain ⟨mem, own⟩ := task?_mem found
    unfold stepShard at mem
    split at mem
    · next absent =>
      exact absurd (by simpa using own) (List.find?_eq_none.1 absent t' mem)
    · next t there =>
      obtain ⟨k, -, rfl⟩ := List.mem_map.1 mem
      by_cases same : k.shard.id = id
      · rw [if_pos same]
        exact Shard.abort_ends t.shard
      · rw [if_neg same] at own
        exact absurd own same

/-- When time is up, the shards that are left are stopped by force. -/
theorem aborts_hasEnded (now : Nat) (ids : List UInt32) (t : Turn) (distinct : t.manager.spawned.Nodup) :
    let t' := ids.foldl (fun t id => t.next (stepShard id .abort now)) t
    Alike t.manager t'.manager ∧ ∀ id ∈ ids, t'.manager.hasEnded id = true := by
  induction ids generalizing t with
  | nil => exact ⟨.refl _, by simp⟩
  | cons id ids ih =>
    have first := stepShard_alike distinct id .abort now
    obtain ⟨rest, ended⟩ := ih (t.next (stepShard id .abort now)) (first.spawned ▸ distinct)
    refine ⟨first.trans rest, fun i hi => ?_⟩
    rcases List.mem_cons.1 hi with rfl | hi
    · exact rest.hasEnded (first.spawned ▸ distinct) (abort_hasEnded now i t.manager)
    · exact ended i hi

/-- A shutdown is over at the second look after its deadline. -/
theorem takeLeave_stops (distinct : m.spawned.Nodup) {now : Nat} {f : Farewell} (one : m.farewells = [f])
    (late : f.deadline ≤ now) :
    .stopped ∈ (takeLeave now m).acts ∨ .stopped ∈ (takeLeave now (takeLeave now m).manager).acts := by
  have stops {m : Manager} (one : m.farewells = [f]) (all : f.shards.all m.hasEnded = true) :
      .stopped ∈ (takeLeave now m).acts := by
    simp only [takeLeave, one, all, if_true]
    split <;> simp
  by_cases all : f.shards.all m.hasEnded = true
  · exact .inl (stops one all)
  · obtain ⟨alike, ended⟩ := aborts_hasEnded now f.shards ⟨m, []⟩ distinct
    have aborted : takeLeave now m = f.shards.foldl (fun t id => t.next (stepShard id .abort now)) ⟨m, []⟩ := by
      simp [takeLeave, one, all, late]
    rw [aborted]
    exact .inr (stops (alike.farewells.trans one) (List.all_eq_true.2 ended))

/-- whether a shutdown is over -/
def Act.isStopped : Act → Bool
  | .stopped => true
  | _ => false

/-- whether it reaches out to the gateway: asks for a connection, or identifies -/
def Act.reachesOut : Act → Bool
  | .shard _ (.dial _) => true
  | a => a.identifies

theorem reachesOut_of_isAnswer {id : UInt32} {a : Shard.Act} (h : a.isAnswer = true) :
    (Act.shard id a).reachesOut = false := by
  cases a <;> first | rfl | cases h

end Manager

open Manager (Stimulus)

namespace Chronicle

variable {r : Chronicle} {old : List UInt32}

/-- whether it asks the manager to stop -/
def Move.isShutdown : Move → Bool
  | .happen .shutdown => true
  | _ => false

theorem Move.ne_shutdown {x : Stimulus} (h : (Move.happen x).isShutdown = false) : x ≠ .shutdown := by
  rintro rfl
  cases h

/-! ## A start that has spawned all its shards -/

/-- Nothing is spawned once all shards are. -/
theorem run_exhausted {n c : UInt32} {deadline : Nat} (h : r.manager.Lineup n c deadline)
    (all : r.manager.isExhausted = true) (moves : List Move) :
    (r.run moves).manager.spawned = r.manager.spawned := by
  induction moves generalizing r with
  | nil => rfl
  | cons v moves ih =>
    have same : (r.step v).manager.spawned = r.manager.spawned := by
      cases v with
      | tick time => rfl
      | happen x =>
        rcases Manager.step_spawned r.now x h with same | ⟨s, l, id, rest, startup, lane, -, next, -⟩
        · exact same
        · -- a lane with a shard left
          have none := (Manager.isExhausted_iff.1 all).2 l (Manager.lanes_of_some startup ▸ lane)
          rw [none] at next
          cases next
    have h' := step_lineup h v
    have all' : (r.step v).manager.isExhausted = true := by
      rw [h'.exhausted_iff, same]
      exact h.exhausted_iff.1 all
    exact (ih h' all').trans same

/-- A lane with a shard left spawns it once time is up. -/
theorem lane_goes_on {n c : UInt32} {deadline : Nat} (h : r.manager.Lineup n c deadline)
    (left : r.manager.isExhausted = false) :
    ∃ b, (r.run [.tick deadline, .happen (.lane b)]).manager.spawned ≠ r.manager.spawned := by
  obtain ⟨s, l, id, rest, startup, lane, next⟩ := h.unexhausted left
  refine ⟨l.bucket, fun same => ?_⟩
  have free := h.free_late (Nat.le_max_right r.now deadline) startup l
  have grown : (r.run [.tick deadline, .happen (.lane l.bucket)]).manager.spawned = r.manager.spawned ++ [id] :=
    h.look_spawns startup lane free next
  rw [same] at grown
  simpa using congrArg List.length grown

/-- While a shard is left, or nothing was started, more can be spawned. -/
theorem goes_on (h : r.manager.Formed) (left : r.manager.isExhausted = false) :
    ∃ later, (∀ v ∈ later, v.isShutdown = false) ∧ (r.run later).manager.spawned ≠ r.manager.spawned := by
  rcases h with blank | ⟨n, c, deadline, lineup⟩
  · -- the start comes only now
    have asks : Stimulus.Starts r.now r.manager (.start 1 1) 1 1 := .start 1 1
    obtain ⟨lineup, tasks, -⟩ := blank.starts (by decide) (by decide) asks
    let r' := r.step (.happen (.start 1 1))
    have none : r'.manager.spawned = [] := congrArg (List.map fun t : Manager.Task => t.shard.id) tasks
    have left' : r'.manager.isExhausted = false := by
      refine Bool.eq_false_iff.2 fun all => ?_
      have mem := lineup.exhausted_iff.1 all 0 (by decide)
      exact List.not_mem_nil (none ▸ mem)
    obtain ⟨b, grown⟩ := lane_goes_on (r := r') lineup left'
    refine ⟨[.happen (.start 1 1), .tick (r.now + r.manager.startupTimeout), .happen (.lane b)],
      by simp [Move.isShutdown], fun same => grown ?_⟩
    exact same.trans (blank.spawned.trans none.symm)
  · obtain ⟨b, grown⟩ := lane_goes_on lineup left
    exact ⟨[.tick deadline, .happen (.lane b)], by simp [Move.isShutdown], grown⟩

/-- whether a shutdown is over -/
def hasStopped (r : Chronicle) : Bool := r.acts.any fun e => e.2.isStopped

theorem hasStopped_iff : r.hasStopped = true ↔ ∃ time, (time, .stopped) ∈ r.acts := by
  rw [hasStopped, List.any_eq_true]
  constructor
  · rintro ⟨⟨time, a⟩, mem, stopped⟩
    cases a <;> first | exact ⟨time, mem⟩ | cases stopped
  · rintro ⟨time, mem⟩
    exact ⟨_, mem, rfl⟩

/-! ## Before the call -/

/-- a manager that nobody asked to stop -/
structure Attended (r : Chronicle) : Prop where
  formed : r.manager.Formed
  listed : ∀ t ∈ r.manager.tasks, t.listed = true
  farewells : r.manager.farewells = []
  unstopped : ∀ time, (time, .stopped) ∉ r.acts

theorem step_attended (h : Attended r) {v : Move} (hv : v.isShutdown = false) : Attended (r.step v) := by
  cases v with
  | tick time => exact ⟨h.formed, h.listed, h.farewells, h.unstopped⟩
  | happen x =>
    have hx := Move.ne_shutdown hv
    rcases h.formed.farewells r.now hx with ⟨same, unstopped, -⟩ | ⟨f, rest, hf, -⟩
    · refine ⟨step_formed h.formed _, fun t' ht' => ?_, same.trans h.farewells, fun time mem => ?_⟩
      · rcases h.formed.tasks r.now hx t' ht' with ⟨t, ht, -, listed, -⟩ | ⟨listed, -⟩
        · exact listed.trans (h.listed t ht)
        · exact listed
      · exact (mem_entered mem).elim (h.unstopped time) unstopped
    · rw [h.farewells] at hf
      cases hf

theorem attended_opening (start : Nat) (m : Manager) : Attended (opening start m) :=
  ⟨.inl (blank_opening start m), by simp [opening], rfl, by simp [opening]⟩

theorem run_attended (h : Attended r) {moves : List Move} (hm : ∀ v ∈ moves, v.isShutdown = false) :
    Attended (r.run moves) :=
  run_keeps (P := Attended) (fun _ _ hv hr => step_attended hr hv) hm h

/-! ## From the call on -/

/-- a manager that was asked to stop once, when it had spawned the shards `old` -/
structure Called (old : List UInt32) (r : Chronicle) : Prop where
  formed : r.manager.Formed
  grown : old <+: r.manager.spawned
  listed : ∀ t ∈ r.manager.tasks, t.listed = true ↔ t.shard.id ∉ old
  /-- the shutdown is under way, or it is over and its shards have ended -/
  leaving : ((∀ time, (time, .stopped) ∉ r.acts) ∧ ∃ f, r.manager.farewells = [f] ∧ ∀ id ∈ old, id ∈ f.shards) ∨
    (r.manager.farewells = [] ∧ ∀ t ∈ r.manager.tasks, t.shard.id ∈ old → t.shard.isEnded = true)

/-- Every shard that was spawned is asked to stop. -/
theorem Attended.leaving (h : Attended r) :
    let called := r.step (.happen .shutdown)
    (∀ time, (time, .stopped) ∉ called.acts) ∧
      ∃ f, called.manager.farewells = [f] ∧ ∀ id ∈ r.manager.spawned, id ∈ f.shards := by
  obtain ⟨m₁, -, eq⟩ := Manager.shutdown_eq h.formed.distinct r.now
  have whole : r.manager.step r.now .shutdown = _ := eq
  simp only [step, whole]
  refine ⟨fun time mem => h.unstopped time (by simpa using mem), ⟨r.manager.ids, r.now + Manager.grace⟩, ?_, ?_⟩
  · rw [h.farewells, List.nil_append]
  · exact fun id hid => (Manager.ids_perm h.listed).mem_iff.2 hid

theorem Attended.called (h : Attended r) : Called r.manager.spawned (r.step (.happen .shutdown)) := by
  obtain ⟨m₁, -, eq⟩ := Manager.shutdown_eq h.formed.distinct r.now
  have whole : r.manager.step r.now .shutdown = _ := eq
  have spawned := (Manager.shutdown_level h.formed.distinct r.now).spawned
  refine ⟨step_formed h.formed _, step_grows h.formed _, fun t ht => ?_, .inl h.leaving⟩
  have old : t.shard.id ∈ r.manager.spawned := spawned ▸ List.mem_map_of_mem ht
  simp only [step, whole] at ht
  obtain ⟨k, -, rfl⟩ := List.mem_map.1 ht
  simpa using old

/-- A shutdown may be over before anything else happens. -/
theorem Attended.stops (h : Attended r) :
    ∃ during, (∀ v ∈ during, v.isShutdown = false) ∧
      let left := (r.step (.happen .shutdown)).run during
      left.hasStopped = true ∧ r.manager.Level left.manager := by
  obtain ⟨-, f, hf, -⟩ := h.leaving
  have called := Manager.shutdown_level h.formed.distinct r.now
  have distinct : (r.step (.happen .shutdown)).manager.spawned.Nodup := (step_formed h.formed _).distinct
  generalize hr : r.step (.happen .shutdown) = r₁ at hf distinct ⊢
  have level : r.manager.Level r₁.manager := hr ▸ called
  have first := Manager.takeLeave_level distinct (max r₁.now f.deadline)
  have second := Manager.takeLeave_level (first.spawned ▸ distinct) (max r₁.now f.deadline)
  refine ⟨[.tick f.deadline, .happen .farewell, .happen .farewell], by simp [Move.isShutdown],
    hasStopped_iff.2 ⟨max r₁.now f.deadline, ?_⟩, (level.trans first).trans second⟩
  rcases Manager.takeLeave_stops distinct hf (Nat.le_max_right r₁.now f.deadline) with mem | mem
  · exact List.mem_append_left _ (List.mem_append_right _ (List.mem_map_of_mem mem))
  · exact List.mem_append_right _ (List.mem_map_of_mem mem)

theorem step_called (h : Called old r) {v : Move} (hv : v.isShutdown = false) : Called old (r.step v) := by
  have formed := step_formed h.formed v
  have grown := h.grown.trans (step_grows h.formed v)
  cases v with
  | tick time => exact ⟨formed, grown, h.listed, h.leaving⟩
  | happen x =>
    have hx := Move.ne_shutdown hv
    have tasks := h.formed.tasks r.now hx
    refine ⟨formed, grown, fun t' ht' => ?_, ?_⟩
    · rcases tasks t' ht' with ⟨t, ht, id, listed, -⟩ | ⟨listed, new⟩
      · rw [id, listed]
        exact h.listed t ht
      · exact iff_of_true listed fun mem => new (h.grown.subset mem)
    rcases h.formed.farewells r.now hx with ⟨same, unstopped, -⟩ | ⟨f, rest, hf, all, eq⟩
    · rcases h.leaving with ⟨before, f, hf, mem⟩ | ⟨nobody, finished⟩
      · exact .inl ⟨fun time said => (mem_entered said).elim (before time) unstopped, f, same.trans hf, mem⟩
      · refine .inr ⟨same.trans nobody, fun t' ht' hid => ?_⟩
        rcases tasks t' ht' with ⟨t, ht, id, -, ended⟩ | ⟨-, new⟩
        · exact ended (finished t ht (id ▸ hid))
        · exact absurd (h.grown.subset hid) new
    · -- the shutdown is over
      rcases h.leaving with ⟨-, f', hf', mem⟩ | ⟨nobody, -⟩
      · rw [hf'] at hf
        cases hf
        refine .inr ⟨by simp only [step, eq], fun t ht hid => ?_⟩
        simp only [step, eq] at ht
        have ended := List.all_eq_true.1 all _ (mem _ hid)
        rw [Manager.hasEnded, Manager.task?_of_mem h.formed.distinct ht] at ended
        exact ended
      · rw [nobody] at hf
        cases hf

theorem run_called (h : Called old r) {moves : List Move} (hm : ∀ v ∈ moves, v.isShutdown = false) :
    Called old (r.run moves) :=
  run_keeps (P := Called old) (fun _ _ hv hr => step_called hr hv) hm h

/-! ## Once it has returned -/

/-- a manager whose shutdown is over since the first `k` acts -/
structure Returned (old : List UInt32) (k : Nat) (r : Chronicle) : Prop extends Called old r where
  nobody : r.manager.farewells = []
  finished : ∀ t ∈ r.manager.tasks, t.shard.id ∈ old → t.shard.isEnded = true
  length : k ≤ r.acts.length
  /-- shards that were asked to stop have done nothing but answer since -/
  since : ∀ time id a, (time, .shard id a) ∈ r.acts.drop k →
    id ∈ r.manager.spawned ∧ (id ∈ old → a.isAnswer = true)

theorem Called.returned (h : Called old r) {time : Nat} (said : (time, .stopped) ∈ r.acts) :
    Returned old r.acts.length r := by
  rcases h.leaving with ⟨before, -⟩ | ⟨nobody, finished⟩
  · exact absurd said (before time)
  · exact ⟨h, nobody, finished, Nat.le_refl _, by simp⟩

theorem step_returned {k : Nat} (h : Returned old k r) {v : Move} (hv : v.isShutdown = false) :
    Returned old k (r.step v) := by
  have called := step_called h.toCalled hv
  have length := Nat.le_trans h.length (step_onward r v).acts.length_le
  cases v with
  | tick time => exact ⟨called, h.nobody, h.finished, length, h.since⟩
  | happen x =>
    have hx := Move.ne_shutdown hv
    have nobody : (r.step (.happen x)).manager.farewells = [] := by
      rcases h.formed.farewells r.now hx with ⟨same, -⟩ | ⟨f, rest, hf, -⟩
      · exact same.trans h.nobody
      · rw [h.nobody] at hf
        cases hf
    refine ⟨called, nobody, fun t' ht' hid => ?_, length, fun time id a mem => ?_⟩
    · rcases h.formed.tasks r.now hx t' ht' with ⟨t, ht, id, -, ended⟩ | ⟨-, new⟩
      · exact ended (h.finished t ht (id ▸ hid))
      · exact absurd (h.grown.subset hid) new
    · simp only [step, List.drop_append_of_le_length h.length] at mem
      rcases mem_entered mem with mem | mem
      · obtain ⟨spawned, answers⟩ := h.since time id a mem
        exact ⟨(step_grows h.formed (.happen x)).subset spawned, answers⟩
      · obtain ⟨spawned, answers⟩ := h.formed.quiet r.now hx h.nobody id a mem
        exact ⟨spawned, fun hid => answers (fun t ht own => h.finished t ht (own ▸ hid)) (h.grown.subset hid)⟩

theorem run_returned {k : Nat} (h : Returned old k r) {moves : List Move} (hm : ∀ v ∈ moves, v.isShutdown = false) :
    Returned old k (r.run moves) :=
  run_keeps (P := Returned old k) (fun _ _ hv hr => step_returned hr hv) hm h

/-- no shard is in the registry or runs, and the gateway was left alone since `left` -/
structure Final (left last : Chronicle) : Prop where
  registry : last.manager.ids = []
  tasks : ∀ t ∈ last.manager.tasks, t.shard.isEnded = true
  quiet : ∀ e ∈ last.acts.drop left.acts.length, e.2.reachesOut = false

theorem Returned.final_iff {left : Chronicle} (h : Returned old left.acts.length r) :
    Final left r ↔ r.manager.spawned = old := by
  constructor
  · intro final
    have empty := Manager.ids_eq_nil.1 final.registry
    have inside : ∀ id ∈ r.manager.spawned, id ∈ old := by
      intro id hid
      obtain ⟨t, ht, rfl⟩ := List.mem_map.1 hid
      have unlisted := empty t ht
      by_contra new
      rw [(h.listed t ht).2 new] at unlisted
      cases unlisted
    obtain ⟨more, eq⟩ := h.grown
    have distinct := h.formed.distinct
    rw [← eq] at inside distinct
    have none : more = [] := List.eq_nil_iff_forall_not_mem.2 fun id hid =>
      (List.nodup_append.1 distinct).2.2 id (inside id (List.mem_append_right _ hid)) id hid rfl
    rw [← eq, none, List.append_nil]
  · intro same
    have all {t : Manager.Task} (ht : t ∈ r.manager.tasks) : t.shard.id ∈ old := same ▸ List.mem_map_of_mem ht
    refine ⟨Manager.ids_eq_nil.2 fun t ht => ?_, fun t ht => h.finished t ht (all ht), fun e he => ?_⟩
    · by_contra listed
      exact (h.listed t ht).1 (Bool.eq_true_of_not_eq_false listed) (all ht)
    · obtain ⟨time, a⟩ := e
      cases a with
      | shard id a =>
        obtain ⟨spawned, answers⟩ := h.since time id a he
        exact Manager.reachesOut_of_isAnswer (answers (same ▸ spawned))
      | _ => rfl

/-- Whenever a manager is asked to stop: once the shutdown is over, nothing is left of it for exactly as long as the start
spawns no further shard. The start can still do so exactly if it had a shard left when the call came, or was yet to
come. -/
theorem shutdown_final_iff (start : Nat) (m : Manager) (before : List Move)
    (alone : ∀ v ∈ before, v.isShutdown = false) :
    let called := (opening start m).run before
    let left (during : List Move) := (called.step (.happen .shutdown)).run during
    (∀ during later, (∀ v ∈ during ++ later, v.isShutdown = false) → (left during).hasStopped = true →
        (Final (left during) ((left during).run later) ↔
          ((left during).run later).manager.spawned = called.manager.spawned)) ∧
      ((∀ during later, (∀ v ∈ during ++ later, v.isShutdown = false) → (left during).hasStopped = true →
          Final (left during) ((left during).run later)) ↔
        called.manager.isExhausted = true) := by
  intro called left
  have attended : Attended called := run_attended (attended_opening start m) alone
  have final_iff (during later : List Move) (hm : ∀ v ∈ during ++ later, v.isShutdown = false)
      (said : (left during).hasStopped = true) :
      Final (left during) ((left during).run later) ↔
        ((left during).run later).manager.spawned = called.manager.spawned := by
    obtain ⟨time, said⟩ := hasStopped_iff.1 said
    have leaves := run_called attended.called fun v hv => hm v (List.mem_append_left later hv)
    exact (run_returned (leaves.returned said) fun v hv => hm v (List.mem_append_right during hv)).final_iff
  refine ⟨final_iff, fun final => ?_, fun all during later hm said => (final_iff during later hm said).2 ?_⟩
  · -- if more could be spawned, it could be spawned once the shutdown is over
    by_contra unexhausted
    obtain ⟨during, calm, said, level⟩ := attended.stops
    have unexhausted' : (left during).manager.isExhausted = false := by
      rw [← Bool.not_eq_true, Manager.isExhausted, level.started, Manager.lanes, level.startup]
      exact unexhausted
    have formed : (left during).manager.Formed := run_formed (step_formed attended.formed _) during
    obtain ⟨later, calm', grown⟩ := goes_on formed unexhausted'
    have hm : ∀ v ∈ during ++ later, v.isShutdown = false :=
      fun v hv => (List.mem_append.1 hv).elim (calm v) (calm' v)
    exact grown (((final_iff during later hm said).1 (final during later hm said)).trans level.spawned.symm)
  · obtain ⟨started, -⟩ := Manager.isExhausted_iff.1 all
    rcases attended.formed with blank | ⟨n, c, deadline, lineup⟩
    · rw [blank.started] at started
      cases started
    · have same := run_exhausted lineup all (.happen .shutdown :: during ++ later)
      rw [List.cons_append, run_cons, run_append] at same
      exact same

/-- a start of one shard that is over -/
def oneShard : List Move :=
  [.happen (.start 1 1), .happen (.lane 0)] ++ introduced 0 ++
  [.happen (.shard 0 (.text readyText 0)), .happen (.lane 0)]

theorem shutdown_final_iff_oneShard :
    let called := (opening 0 (.new (.usual "t"))).run oneShard
    let left := (called.step (.happen .shutdown)).run [.happen (.shard 0 .take), .happen .farewell]
    (∀ v ∈ oneShard, v.isShutdown = false) ∧ called.manager.isExhausted = true ∧ left.hasStopped = true ∧
      Final left (left.run [.tick 60000, .happen (.start 2 1), .happen (.shard 0 .opened)]) := by
  intro called left
  have facts : (∀ v ∈ oneShard, v.isShutdown = false) ∧ called.manager.isExhausted = true ∧
      left.hasStopped = true := by decide +kernel
  obtain ⟨alone, all, stopped⟩ := facts
  exact ⟨alone, all, stopped,
    (shutdown_final_iff 0 (.new (.usual "t")) oneShard alone).2.2 all _ _ (by decide) stopped⟩

theorem not_final {left last : Chronicle} {id : UInt32} (there : last.manager.ids = [id]) : ¬ Final left last := by
  intro final
  have empty := final.registry
  rw [there] at empty
  cases empty

/-- its dials and Identify frames since `left`; true stands for a frame -/
def reaches (left last : Chronicle) : List Bool :=
  ((last.acts.drop left.acts.length).filter (·.2.reachesOut)).map (·.2.identifies)

/-- A manager is asked to stop while its first shard comes up: once it has, the start spawns the second, which
identifies. And one that was asked to stop before its start starts as if it was not. -/
theorem shutdown_overtaken :
    let during := (opening 0 (.new (.usual "t"))).run [.happen (.start 2 1), .happen (.lane 0), .happen .shutdown,
      .happen (.shard 0 .take), .happen .farewell]
    let before := (opening 0 (.new (.usual "t"))).run [.happen .shutdown, .happen .farewell]
    let last := during.run (.happen (.lane 0) :: introduced 1)
    let last' := before.run ([.happen (.start 1 1), .happen (.lane 0)] ++ introduced 0)
    (during.hasStopped = true ∧ last.manager.ids = [1] ∧ reaches during last = [false, true] ∧ ¬ Final during last) ∧
      before.hasStopped = true ∧ last'.manager.ids = [0] ∧ reaches before last' = [false, true] ∧
        ¬ Final before last' := by
  intro during before last last'
  have facts : during.hasStopped = true ∧ last.manager.ids = [1] ∧ reaches during last = [false, true] ∧
      before.hasStopped = true ∧ last'.manager.ids = [0] ∧ reaches before last' = [false, true] := by decide +kernel
  obtain ⟨stopped, there, reached, stopped', there', reached'⟩ := facts
  exact ⟨⟨stopped, there, reached, not_final there⟩, stopped', there', reached', not_final there'⟩

end Chronicle

end Shardwire
