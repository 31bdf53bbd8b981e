import Shardwire.Proofs.Manager.Clock
import Shardwire.Proofs.Manager.Overflow
import Shardwire.Proofs.Manager.Startup

/-
In which order a start spawns its shards, on a clock that ends.

Here a shard that nobody stopped has only ended if it failed, or broke off because the time for a connection or a
handshake would outlast the clock (`Shard.Unstopped`). `Underway.keepsClocked`: with such shards a manager that nobody
stops stays underway.

`starts_in_order`: every shard is spawned once, in every bucket in ascending order, each after the one before it came
up, failed or broke off, or time was up; the start is over in finite time, and its caller is told exactly which shards
are not ready. A start that would run out of time when the clock has ended spawns none, and is never over. Settings can
lead to either (`starts_out_of_order`).
-/

namespace Shardwire

/-- whether it has ended, and the time of a handshake would outlast the clock -/
def Shard.BrokeOff (now : Nat) (s : Shard) : Prop := s.isEnded = true ∧ s.outlasts now = true

theorem Shard.outlasts_mono {now later : Nat} (le : now ≤ later) {s : Shard} (h : s.outlasts now = true) :
    s.outlasts later = true := by
  simp only [outlasts, decide_eq_true_iff] at h ⊢
  omega

theorem Shard.BrokeOff.step {now : Nat} {s : Shard} (h : s.BrokeOff now) (x : Stimulus) :
    (s.step now x).shard.BrokeOff now :=
  ⟨(step_ended now x h.1).1, by rw [outlasts, step_profile]; exact h.2⟩

/-- whether nobody stopped it, though it may have broken off -/
def Shard.Unstopped (now : Nat) (s : Shard) : Prop := s.Unasked ∨ s.BrokeOff now

namespace Shard.Unstopped

variable {now : Nat} {s : Shard}

theorem later (h : s.Unstopped now) {time : Nat} (le : now ≤ time) : s.Unstopped time :=
  h.imp_right fun broke => ⟨broke.1, outlasts_mono le broke.2⟩

theorem step (h : s.Unstopped now) {y : Stimulus} (hy : y.isStop = false) : (s.step now y).shard.Unstopped now :=
  h.imp (step_unasked now hy) (·.step y)

theorem aborted (beyond : s.outlasts now = true) : (s.step now .abort).shard.Unstopped now :=
  .inr ⟨abort_ends s, by rw [outlasts, step_profile]; exact beyond⟩

end Shard.Unstopped

namespace Manager

variable {n c : UInt32} {deadline now : Nat} {m : Manager}

namespace Underway

variable (h : Underway (Shard.Unstopped now) n c deadline m)
include h

theorem later {time : Nat} (le : now ≤ time) : Underway (Shard.Unstopped time) n c deadline m where
  lineup := h.lineup
  farewells := h.farewells
  tasks := fun t ht => (h.tasks t ht).imp_right (·.later le)

/-- A step that nobody's stop is about leaves it so, on a clock that ends. -/
theorem keepsClocked {x : Stimulus} (calm : x.isCalm = true) :
    (m.stepClocked now x).Keeps (Shard.Unstopped now) n c deadline := by
  have keeps {x : Stimulus} (calm : x.isCalm = true) : (m.step now x).Keeps (Shard.Unstopped now) n c deadline :=
    h.keeps (fun profile address => .inl (Shard.launch_unasked profile address now)) (fun _ _ hy fine => fine.step hy)
      calm
  have ho := stepClocked_outcome now x m
  generalize m.stepClocked now x = t at ho ⊢
  cases ho with
  | keeps => exact keeps calm
  | breaksOff bot unstarted => cases h.lineup.started.symm.trans unstarted
  | miscarries startup lane free next made beyond =>
    refine h.spawns startup lane next ?_ rfl (.inr ⟨rfl, beyond⟩) []
    exact (ShardAddress.make_eq_ok.1 made).1
  | forgoes found beyond => exact h.updated found .abort (.aborted beyond)
  | @quits id y task found beyond =>
    have first : (stepShard id y now m).Keeps (Shard.Unstopped now) n c deadline := keeps (x := .shard id y) calm
    have own : (task.shard.step now y).shard.id = id := (Shard.step_id now y task.shard).trans (task?_mem found).2
    have there : (stepShard id y now m).manager.task? id =
        some { task with shard := (task.shard.step now y).shard } := by
      rw [stepShard_eq found, task?_update found own, if_pos rfl]
    have beyond' : (task.shard.step now y).shard.outlasts now = true := by
      rw [Shard.outlasts, Shard.step_profile]
      exact beyond
    have second := first.underway.updated there .abort (.aborted beyond')
    refine ⟨second.underway, fun i a ha => ?_⟩
    rcases List.mem_append.1 ha with ha | ha
    · have same := (stepShard_alike first.underway.lineup.distinct id .abort now).spawned
      exact same ▸ first.known i a ha
    · exact second.known i a ha

end Underway

/-! ## When time is up -/

/-- A look at a lane takes a shard off it, or the lane away; other lanes stay as they are. -/
theorem Lineup.look_shrinks (h : Lineup n c deadline m) {now : Nat} (late : deadline ≤ now) (b : UInt32) :
    ∀ l' ∈ (look b now m).manager.lanes, ∃ l ∈ m.lanes, l.bucket = l'.bucket ∧
      l'.queue.length + (if l'.bucket = b then 1 else 0) ≤ l.queue.length := by
  intro l' hl'
  by_cases hb : ∃ l ∈ m.lanes, l.bucket = b
  · obtain ⟨l, hl, rfl⟩ := hb
    cases startup : m.startup with
    | none => simp [lanes_of_none startup] at hl
    | some s =>
      have lanes := lanes_of_some startup
      rw [h.look_free startup (lanes ▸ hl) (h.free_late late startup l), advance] at hl'
      split at hl'
      · next id rest hq =>
        split at hl'
        · obtain ⟨k, hk, rfl⟩ := List.mem_map.1 hl'
          by_cases same : k.bucket = l.bucket
          · exact ⟨l, hl, by simp [same], by simp [same, hq]⟩
          · exact ⟨k, lanes ▸ hk, by simp [same], by simp [same]⟩
        · cases hl'
      · split at hl'
        · cases hl'
        · obtain ⟨hk, other⟩ := List.mem_filter.1 hl'
          exact ⟨l', lanes ▸ hk, rfl, by simp_all⟩
  · have idle : (look b now m).manager = m := by
      unfold look
      split
      · rfl
      · next s startup =>
        split
        · rfl
        · next k hk =>
          refine absurd ⟨k, lanes_of_some startup ▸ List.mem_of_find?_eq_some hk, ?_⟩ hb
          simpa using List.find?_some hk
    rw [idle] at hl'
    exact ⟨l', hl', rfl, by simp [show l'.bucket ≠ b from fun he => hb ⟨l', hl', he⟩]⟩

/-- Nothing but lanes moves a start on. -/
theorem Lineup.step_startup (h : Lineup n c deadline m) (now : Nat) {x : Stimulus} (hx : ∀ b, x ≠ .lane b) :
    (m.step now x).manager.startup = m.startup := by
  have ho := step_outcome now x m
  generalize m.step now x = t at ho ⊢
  cases ho with
  | rests | steps => rfl
  | starts bot unstarted spread => rw [h.started] at unstarted; cases unstarted
  | spawns | closes | ends | strays => exact absurd rfl (hx _)
  | leaves => exact (shutdown_level h.distinct now).startup
  | parts => exact (takeLeave_level h.distinct now).startup

/-! ## Before the start -/

/-- Without shards it stays on a clock that ends, unless a start is accepted that does not break off. -/
theorem Vacant.stepClocked (h : m.Vacant) (now : Nat) (x : Stimulus) :
    (Vacant (m.stepClocked now x).manager ∧ (m.started = true → (m.stepClocked now x).manager.started = true) ∧
        ∀ id a, .shard id a ∉ (m.stepClocked now x).acts) ∨
      m.started = false ∧ ∃ n c deadline, Lineup n c deadline (m.stepClocked now x).manager := by
  have nobody {id : UInt32} {t : Task} (found : m.task? id = some t) : False := by
    have mem := (task?_mem found).1
    rw [h.tasks] at mem
    cases mem
  have ho := stepClocked_outcome now x m
  generalize m.stepClocked now x = t at ho ⊢
  cases ho with
  | keeps =>
    rcases h.step now x with ⟨vacant, same, quiet⟩ | lineup
    · exact .inl ⟨vacant, fun started => same.trans started, quiet⟩
    · exact .inr lineup
  | breaksOff bot unstarted => exact .inl ⟨⟨h.tasks, rfl, h.farewells⟩, fun _ => rfl, by simp⟩
  | miscarries startup => cases h.startup.symm.trans startup
  | forgoes found | quits found => exact (nobody found).elim

end Manager

open Manager (Stimulus)

namespace Chronicle

variable {n c : UInt32} {deadline : Nat} {r : Chronicle}

/-! ## Runs on a clock that ends -/

def stepClocked (r : Chronicle) : Move → Chronicle
  | .tick time => { r with now := max r.now time }
  | .happen x =>
    let t := r.manager.stepClocked r.now x
    { r with manager := t.manager, acts := r.acts ++ t.acts.map fun a => (r.now, a) }

def runClocked (r : Chronicle) (moves : List Move) : Chronicle := moves.foldl stepClocked r

theorem runClocked_cons (r : Chronicle) (v : Move) (moves : List Move) :
    r.runClocked (v :: moves) = (r.stepClocked v).runClocked moves := rfl

theorem runClocked_append (r : Chronicle) (xs ys : List Move) :
    r.runClocked (xs ++ ys) = (r.runClocked xs).runClocked ys := by
  simp [runClocked, List.foldl_append]

theorem le_stepClocked_now (r : Chronicle) (v : Move) : r.now ≤ (r.stepClocked v).now := by
  cases v with
  | tick time => exact Nat.le_max_left r.now time
  | happen x => exact Nat.le_refl r.now

theorem stepClocked_lineup (h : r.manager.Lineup n c deadline) (v : Move) :
    (r.stepClocked v).manager.Lineup n c deadline := by
  cases v with
  | tick time => exact h
  | happen x => exact Manager.stepClocked_lineup r.now x h

theorem runClocked_lineup (h : r.manager.Lineup n c deadline) (moves : List Move) :
    (r.runClocked moves).manager.Lineup n c deadline :=
  List.foldlRecOn moves stepClocked (motive := fun r => r.manager.Lineup n c deadline) h
    fun _ h v _ => stepClocked_lineup h v

/-- a manager that nobody stopped since its start; nothing was done for a shard that was not spawned -/
structure Upward (shards maxConcurrency : UInt32) (deadline : Nat) (r : Chronicle) : Prop where
  underway : r.manager.Underway (Shard.Unstopped r.now) shards maxConcurrency deadline
  known : ∀ time id a, (time, .shard id a) ∈ r.acts → id ∈ r.manager.spawned

theorem stepClocked_upward (h : Upward n c deadline r) {v : Move} (calm : v.isCalm = true) :
    Upward n c deadline (r.stepClocked v) := by
  cases v with
  | tick time => exact ⟨h.underway.later (Nat.le_max_left r.now time), h.known⟩
  | happen x =>
    have done := h.underway.keepsClocked (x := x) calm
    refine ⟨done.underway, fun time id a mem => ?_⟩
    rcases mem_entered mem with before | new
    · have mem := h.known time id a before
      rcases Manager.stepClocked_spawned r.now x h.underway.lineup with same | ⟨_, _, _, _, -, -, -, -, grown⟩
      · exact same ▸ mem
      · exact grown ▸ List.mem_append_left _ mem
    · exact done.known id a new

theorem runClocked_upward (h : Upward n c deadline r) {moves : List Move} (calm : ∀ v ∈ moves, v.isCalm = true) :
    Upward n c deadline (r.runClocked moves) :=
  List.foldlRecOn moves stepClocked (motive := Upward n c deadline) h fun _ h v hv => stepClocked_upward h (calm v hv)

/-! ## Before the start -/

theorem stepClocked_void (h : Void r) (v : Move) :
    (Void (r.stepClocked v) ∧ (r.manager.started = true → (r.stepClocked v).manager.started = true)) ∨
      r.manager.started = false ∧ ∃ n c deadline, (r.stepClocked v).manager.Lineup n c deadline := by
  cases v with
  | tick time => exact .inl ⟨⟨h.vacant, h.silent⟩, fun started => started⟩
  | happen x =>
    rcases h.vacant.stepClocked r.now x with ⟨vacant, stays, quiet⟩ | lineup
    · refine .inl ⟨⟨vacant, fun time id a mem => ?_⟩, stays⟩
      exact (mem_entered mem).elim (h.silent time id a) (quiet id a)
    · exact .inr lineup

theorem dormant_of_unstartedClocked {start : Nat} {m : Manager} {moves : List Move}
    (unstarted : ((opening start m).runClocked moves).manager.started = false) :
    Dormant ((opening start m).runClocked moves) := by
  have h : Void ((opening start m).runClocked moves) ∨
      ∃ n c deadline, ((opening start m).runClocked moves).manager.Lineup n c deadline := by
    refine List.foldlRecOn moves stepClocked
      (motive := fun r => Void r ∨ ∃ n c deadline, r.manager.Lineup n c deadline)
      (.inl (dormant_opening start m).toVoid) ?_
    rintro r (void | ⟨n, c, deadline, lineup⟩) v -
    · exact (stepClocked_void void v).imp And.left And.right
    · exact .inr ⟨n, c, deadline, stepClocked_lineup lineup v⟩
  rcases h with void | ⟨n, c, deadline, lineup⟩
  · exact ⟨void, unstarted⟩
  · cases lineup.started.symm.trans unstarted

/-- a start that broke off: no shard is ever spawned, nothing is done for one, and no start is under way -/
structure Fruitless (r : Chronicle) : Prop extends Void r where
  started : r.manager.started = true

theorem runClocked_fruitless (h : Fruitless r) (moves : List Move) : Fruitless (r.runClocked moves) := by
  refine List.foldlRecOn moves stepClocked (motive := Fruitless) h fun r h v _ => ?_
  rcases stepClocked_void h.toVoid v with ⟨void, stays⟩ | ⟨unstarted, -⟩
  · exact ⟨void, stays h.started⟩
  · cases h.started.symm.trans unstarted

/-! ## The end of a start -/

/-- whether the lane of a bucket looks at its shard -/
def Move.looksAt (bucket : UInt32) : Move → Bool
  | .happen (.lane b) => bucket = b
  | _ => false

theorem stepClocked_shrinks (h : r.manager.Lineup n c deadline) (late : deadline ≤ r.now) (v : Move) :
    ∀ l' ∈ (r.stepClocked v).manager.lanes, ∃ l ∈ r.manager.lanes, l.bucket = l'.bucket ∧
      l'.queue.length + (if v.looksAt l'.bucket then 1 else 0) ≤ l.queue.length := by
  have idle (same : (r.stepClocked v).manager.startup = r.manager.startup) (blind : ∀ b, v.looksAt b = false) :
      ∀ l' ∈ (r.stepClocked v).manager.lanes, ∃ l ∈ r.manager.lanes, l.bucket = l'.bucket ∧
        l'.queue.length + (if v.looksAt l'.bucket then 1 else 0) ≤ l.queue.length := by
    intro l' hl'
    rw [Manager.lanes, same] at hl'
    exact ⟨l', hl', rfl, by simp [blind]⟩
  cases v with
  | tick time => exact idle rfl fun _ => rfl
  | happen x =>
    cases x with
    | lane b =>
      have same : (r.stepClocked (.happen (.lane b))).manager.startup =
          (Manager.look b r.now r.manager).manager.startup := Manager.stepClocked_startup r.now (.lane b) h
      rw [Manager.lanes, same, ← Manager.lanes]
      simp only [Move.looksAt, decide_eq_true_iff]
      exact h.look_shrinks late b
    | _ => exact idle ((Manager.stepClocked_startup r.now _ h).trans (h.step_startup r.now (by simp))) fun _ => rfl

theorem runClocked_shrinks (h : r.manager.Lineup n c deadline) (late : deadline ≤ r.now) (moves : List Move) :
    ∀ l' ∈ (r.runClocked moves).manager.lanes, ∃ l ∈ r.manager.lanes, l.bucket = l'.bucket ∧
      l'.queue.length + moves.countP (Move.looksAt l'.bucket) ≤ l.queue.length := by
  induction moves generalizing r with
  | nil => exact fun l' hl' => ⟨l', hl', rfl, by simp⟩
  | cons v moves ih =>
    intro l' hl'
    obtain ⟨k, hk, same, fewer⟩ := ih (stepClocked_lineup h v) (Nat.le_trans late (le_stepClocked_now r v)) l' hl'
    obtain ⟨l, hl, same', fewer'⟩ := stepClocked_shrinks h late v k hk
    refine ⟨l, hl, same'.trans same, ?_⟩
    rw [List.countP_cons]
    rw [same] at fewer'
    omega

/-- A start that ran out of time is over once every lane has looked at what it has left. -/
theorem runClocked_over (h : r.manager.Lineup n c deadline) (late : deadline ≤ r.now) {moves : List Move}
    (enough : ∀ l ∈ r.manager.lanes, l.queue.length < moves.countP (Move.looksAt l.bucket)) :
    (r.runClocked moves).manager.startup = none := by
  have none : (r.runClocked moves).manager.lanes = [] := by
    refine List.eq_nil_iff_forall_not_mem.2 fun l' hl' => ?_
    obtain ⟨l, hl, same, fewer⟩ := runClocked_shrinks h late moves l' hl'
    have := enough l hl
    rw [same] at this
    omega
  cases startup : (r.runClocked moves).manager.startup with
  | none => rfl
  | some s =>
    rw [Manager.lanes_of_some startup] at none
    exact absurd none ((runClocked_lineup h moves).startup s startup).2.2

/-- the start under way is over with a move, and this is what its caller is told -/
def ReturnsClocked (r : Chronicle) (v : Move) (fault : Option Fault) : Prop :=
  r.manager.startup ≠ none ∧ (r.stepClocked v).manager.startup = none ∧
    (r.stepClocked v).acts = r.acts ++ [(r.now, .started fault)]

theorem returnsClocked_of_over (h : r.manager.Lineup n c deadline) {v : Move} (before : r.manager.startup ≠ none)
    (after : (r.stepClocked v).manager.startup = none) : r.ReturnsClocked v r.manager.verdict := by
  cases v with
  | tick time => exact absurd after before
  | happen x => exact ⟨before, after, by simp [stepClocked, h.endsClocked before after]⟩

theorem runClocked_returns (h : r.manager.Lineup n c deadline) {moves : List Move} (before : r.manager.startup ≠ none)
    (after : (r.runClocked moves).manager.startup = none) :
    ∃ xs v ys fault, moves = xs ++ v :: ys ∧ (r.runClocked xs).ReturnsClocked v fault := by
  induction moves generalizing r with
  | nil => exact absurd after before
  | cons v moves ih =>
    by_cases finished : (r.stepClocked v).manager.startup = none
    · exact ⟨[], v, moves, _, rfl, returnsClocked_of_over h before finished⟩
    · obtain ⟨xs, w, ys, fault, eq, returns⟩ := ih (stepClocked_lineup h v) finished after
      exact ⟨v :: xs, w, ys, fault, by rw [eq, List.cons_append], returns⟩

/-! ## A start in order -/

/-- a move spawns nothing, or one shard; the one before it in its bucket was spawned earlier, and is ready, has failed
or broke off unless time is up -/
def SpawnsInTurn (maxConcurrency : UInt32) (deadline : Nat) (r : Chronicle) (v : Move) : Prop :=
  (r.stepClocked v).manager.spawned = r.manager.spawned ∨
    ∃ id, (r.stepClocked v).manager.spawned = r.manager.spawned ++ [id] ∧
      ∀ p : UInt32, p.toNat + maxConcurrency.toNat = id.toNat → p ∈ r.manager.spawned ∧
        (deadline ≤ r.now ∨ r.manager.status? p = some .ready ∨ r.manager.status? p = some .failed ∨
          ∃ s, r.manager.shard? p = some s ∧ s.BrokeOff r.now)

/-- what holds at any moment of a start, and once it is over -/
structure InOrder (shards maxConcurrency : UInt32) (deadline : Nat) (r : Chronicle) : Prop where
  once : r.manager.spawned.Nodup
  below : ∀ id ∈ r.manager.spawned, id < shards
  ascends : r.manager.spawned.Pairwise fun i j => i % maxConcurrency = j % maxConcurrency → i < j
  /-- nothing is dialled, nor anything else done, for a shard that was not spawned -/
  known : ∀ time id a, (time, .shard id a) ∈ r.acts → id ∈ r.manager.spawned
  turns : ∀ v, SpawnsInTurn maxConcurrency deadline r v
  /-- no shard ends without a failure while the time of a handshake would fit -/
  intact : ∀ t ∈ r.manager.tasks, t.shard.outlasts r.now = false → t.shard.isEnded = true → t.shard.status = .failed
  /-- no shard is left out -/
  whole : r.manager.startup = none → ∀ id < shards, id ∈ r.manager.spawned
  /-- the caller is told how the start went, and told right -/
  returns : ∀ v, v.isCalm = true → r.manager.startup ≠ none → (r.stepClocked v).manager.startup = none →
    ∃ fault, r.ReturnsClocked v fault ∧ (r.stepClocked v).manager.Complete shards fault
  /-- once time is up, every lane has to look at no more than it has left -/
  inTime : deadline ≤ r.now → r.manager.startup ≠ none → ∀ looks : List Move,
    (∀ l ∈ r.manager.lanes, l.queue.length < looks.countP (Move.looksAt l.bucket)) →
      ∃ xs v ys fault, looks = xs ++ v :: ys ∧ (r.runClocked xs).ReturnsClocked v fault

/-- Whoever need not wait for a shard any longer has seen it ready, failed or broken off, unless time is up. -/
theorem Upward.seen (h : Upward n c deadline r) {s : Manager.Startup} {l : Manager.Lane} {t : Manager.Task}
    (startup : r.manager.startup = some s) (free : r.manager.mayAdvance s l r.now = true) (ht : t ∈ r.manager.tasks)
    (current : l.current = some t.shard.id) :
    deadline ≤ r.now ∨ t.shard.status = .ready ∨ t.shard.status = .failed ∨ t.shard.BrokeOff r.now := by
  have lineup := h.underway.lineup
  simp only [Manager.mayAdvance, current, Bool.or_eq_true, decide_eq_true_iff] at free
  rcases free with late | settled
  · exact .inl ((lineup.startup s startup).2.1 ▸ late)
  · rw [Manager.task?_of_mem lineup.distinct ht] at settled
    rcases (h.underway.tasks t ht).2 with unasked | broke
    · exact .inr ((unasked.settled_iff.1 settled).imp_right .inl)
    · exact .inr (.inr (.inr broke))

theorem Upward.spawnsInTurn (h : Upward n c deadline r) (v : Move) : SpawnsInTurn c deadline r v := by
  have lineup := h.underway.lineup
  cases v with
  | tick time => exact .inl rfl
  | happen x =>
    rcases Manager.stepClocked_spawned r.now x lineup with same | ⟨s, l, id, rest, startup, lane, free, next, grown⟩
    · exact .inl same
    refine .inr ⟨id, grown, fun p follows => ?_⟩
    rcases (lineup.next (Manager.lanes_of_some startup ▸ lane) next).2.2 with ⟨-, first⟩ | ⟨q, hq, current, follows'⟩
    · -- the first shard of a bucket follows nobody
      rw [UInt32.lt_iff_toNat_lt] at first
      omega
    · obtain rfl : p = q := UInt32.toNat_inj.1 (by omega)
      refine ⟨hq, ?_⟩
      obtain ⟨t, ht, rfl⟩ := List.mem_map.1 hq
      have listed : ∀ t ∈ r.manager.tasks, t.listed = true := fun t ht => (h.underway.tasks t ht).1
      rw [Manager.status?_of_mem lineup.distinct listed ht, Manager.shard?_of_mem lineup.distinct listed ht]
      simpa using h.seen startup free ht current

theorem Upward.returns (h : Upward n c deadline r) {v : Move} (calm : v.isCalm = true)
    (before : r.manager.startup ≠ none) (after : (r.stepClocked v).manager.startup = none) :
    ∃ fault, r.ReturnsClocked v fault ∧ (r.stepClocked v).manager.Complete n fault := by
  have later := (stepClocked_upward h calm).underway
  have complete := later.lineup.verdict after fun t ht => (later.tasks t ht).1
  have same : (r.stepClocked v).manager.verdict = r.manager.verdict := by
    cases v with
    | tick time => rfl
    | happen x =>
      rw [stepClocked, h.underway.lineup.endsClocked before after]
      rfl
  exact ⟨_, returnsClocked_of_over h.underway.lineup before after, same ▸ complete⟩

theorem Upward.inOrder (h : Upward n c deadline r) : InOrder n c deadline r where
  once := h.underway.lineup.distinct
  below := fun _ hid => h.underway.lineup.below hid
  ascends := h.underway.lineup.ascends
  known := h.known
  turns := h.spawnsInTurn
  intact := by
    intro t ht fits ended
    rcases (h.underway.tasks t ht).2 with unasked | broke
    · exact unasked.ended.1 ended
    · cases fits.symm.trans broke.2
  whole := fun finished id hid => (h.underway.lineup.complete finished id).2 hid
  returns := fun _ calm before after => h.returns calm before after
  inTime := fun late under _ enough =>
    runClocked_returns h.underway.lineup under (runClocked_over h.underway.lineup late enough)

/-- A start breaks off if it would outlast the clock, and goes on like any other if it would not. -/
theorem Dormant.startsClocked (h : Dormant r) {x : Stimulus} (hn : n ≠ 0) (hc : c ≠ 0)
    (hx : x.Starts r.now r.manager n c) :
    (r.manager.outlasts r.now = false →
      Upward n c (r.now + r.manager.startupTimeout) (r.stepClocked (.happen x))) ∧
    (r.manager.outlasts r.now = true →
      Fruitless (r.stepClocked (.happen x)) ∧ (r.stepClocked (.happen x)).acts = r.acts) := by
  obtain ⟨lineup, tasks, farewells, acts⟩ := h.blank.starts hn hc hx
  have clocked : r.manager.stepClocked r.now x = Manager.startClocked r.now r.manager (r.manager.step r.now x) := by
    cases hx <;> rfl
  have accepted : (!r.manager.started && (r.manager.step r.now x).manager.started) = true := by
    simp [h.unstarted, lineup.started]
  constructor
  · intro fits
    have plain : r.manager.stepClocked r.now x = r.manager.step r.now x := by
      rw [clocked, Manager.startClocked, fits, Bool.and_false, if_neg Bool.false_ne_true]
    have same : r.stepClocked (.happen x) = r.step (.happen x) := by rw [stepClocked, plain, step]
    have rising := h.starts hn hc hx
    rw [same]
    refine ⟨⟨rising.lineup, rising.farewells, fun t ht => ?_⟩, rising.known⟩
    exact ⟨(rising.tasks t ht).1, .inl (rising.tasks t ht).2⟩
  · intro beyond
    have broken : r.manager.stepClocked r.now x = ⟨{ (r.manager.step r.now x).manager with startup := none }, []⟩ := by
      rw [clocked, Manager.startClocked, accepted, beyond, Bool.and_true, if_pos rfl]
    have quiet : (r.stepClocked (.happen x)).acts = r.acts := by simp [stepClocked, broken]
    refine ⟨⟨⟨⟨?_, ?_, ?_⟩, fun time id a mem => h.silent time id a (quiet ▸ mem)⟩, ?_⟩, quiet⟩
    all_goals simp only [stepClocked, broken]
    · exact tasks
    · exact fun f hf => h.vacant.farewells f (farewells ▸ hf)
    · exact lineup.started

/-- A first start that nobody stops, and that does not outlast the clock, spawns every shard once, and in every bucket
in ascending order, each after the one before it came up, failed or broke off, or time was up. When it is over, all
shards are in the registry, and its caller is told exactly which of them are not ready. A start that would outlast the
clock never spawns a shard, and its caller is told nothing. -/
theorem starts_in_order (start : Nat) (m : Manager) (before after : List Move) (x : Stimulus)
    (shards maxConcurrency : UInt32) (hs : shards ≠ 0) (hc : maxConcurrency ≠ 0)
    (unstarted : ((opening start m).runClocked before).manager.started = false)
    (starts : x.Starts ((opening start m).runClocked before).now ((opening start m).runClocked before).manager
      shards maxConcurrency)
    (calm : ∀ v ∈ after, v.isCalm = true) :
    let first := (opening start m).runClocked before
    let r := (opening start m).runClocked (before ++ .happen x :: after)
    (first.manager.outlasts first.now = false →
      InOrder shards maxConcurrency (first.now + first.manager.startupTimeout) r) ∧
    (first.manager.outlasts first.now = true → Fruitless r ∧ (first.stepClocked (.happen x)).acts = first.acts) := by
  intro first r
  have whole : r = (first.stepClocked (.happen x)).runClocked after := by
    rw [← runClocked_cons, ← runClocked_append]
  obtain ⟨fits, beyond⟩ := (dormant_of_unstartedClocked unstarted).startsClocked hs hc starts
  rw [whole]
  exact ⟨fun within => (runClocked_upward (fits within) calm).inOrder,
    fun outlasts => ⟨runClocked_fruitless (beyond outlasts).1 after, (beyond outlasts).2⟩⟩

theorem starts_in_order_mixed :
    let r := (opening 0 (.new (.usual "t"))).runClocked (.happen (.start 3 2) :: mixedStart)
    (3 : UInt32) ≠ 0 ∧ (2 : UInt32) ≠ 0 ∧ (∀ v ∈ mixedStart, v.isCalm = true) ∧
      r.manager.spawned = [0, 1, 2] ∧ [0, 1, 2].map r.manager.status? = [some .ready, some .failed, some .ready] ∧
      InOrder 3 2 Manager.defaultStartupTimeout r := by
  intro r
  have three : (3 : UInt32) ≠ 0 := by decide
  have two : (2 : UInt32) ≠ 0 := by decide
  have calm : ∀ v ∈ mixedStart, v.isCalm = true := by decide +kernel
  have spawned : r.manager.spawned = [0, 1, 2] := by decide +kernel
  have shown : [0, 1, 2].map r.manager.status? = [some .ready, some .failed, some .ready] := by decide +kernel
  have fits : (opening 0 (.new (.usual "t"))).manager.outlasts 0 = false := by decide +kernel
  exact ⟨three, two, calm, spawned, shown,
    (starts_in_order 0 (.new (.usual "t")) [] mixedStart (.start 3 2) 3 2 three two rfl (.start 3 2) calm).1 fits⟩

/-- a token, and all the time there is for a handshake -/
def unhurried : Lookup := plain.put .identifyTimeout (some "18446744073709551615")

/-- a token, and all the time there is for a start -/
def openEnded : Lookup := plain.put .startupTimeout (some "18446744073709551615")

/-- Shard 1 is spawned at once although shard 0 is neither ready nor has failed and time is not up; neither of them asks
for a connection. With all the time there is for the start, no shard is spawned though its lane looks twice, and nobody
is told. -/
theorem starts_out_of_order :
    (∃ s, Settings.ofLookup unhurried = .ok s ∧
      let r := (opening 0 (.ofSettings s)).runClocked [.happen (.start 2 1), .happen (.lane 0)]
      let r' := r.stepClocked (.happen (.lane 0))
      r.now < Manager.defaultStartupTimeout ∧ r.manager.spawned = [0] ∧ r.manager.status? 0 = some .disconnected ∧
        r'.manager.spawned = [0, 1] ∧ r'.acts.isEmpty = true) ∧
    ∃ s, Settings.ofLookup openEnded = .ok s ∧
      let r := (opening 0 (.ofSettings s)).runClocked [.happen (.start 1 1), .happen (.lane 0), .happen (.lane 0)]
      r.manager.spawned = [] ∧ r.manager.startup.isNone = true ∧ r.acts.isEmpty = true := by
  refine ⟨⟨_, rfl, ?_⟩, _, rfl, ?_⟩
  · decide +kernel
  · decide +kernel

end Chronicle

end Shardwire
