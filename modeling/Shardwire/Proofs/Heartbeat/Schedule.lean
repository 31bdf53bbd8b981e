import Mathlib.Data.List.Range
import Mathlib.Data.Nat.Find
import Shardwire.Heartbeat

/-
When a beater beats.

A metronome is a beater with the pulse of its connection, and with a queue that always has room. It goes through its
surroundings moment by moment: they say which sequence number the session has at every moment, how many acknowledgements
come in, and whether the beater is stopped.

Ticks come when the first delay is over, and then once per interval; an interval of zero counts as one millisecond. A
tick is answered if an acknowledgement comes in strictly between it and the next one. Results, as long as no
acknowledgement comes in at the moment of a tick:
- `step_course`, `run_course`: a metronome that is not stopped waits for its first tick, rests after a tick with all
  ticks before it answered, or has missed the answer to its last one;
- `beats_on_schedule`: it beats at every tick up to the first one that is not answered, reports the connection dead once,
  at the tick after that, and neither beats nor reports anything afterwards. If all ticks are answered it beats for ever.
  Once it is stopped nothing more is queued. How often an acknowledgement comes in makes no difference, and neither do
  those before the first tick.
-/

namespace Shardwire

/-- what surrounds a beater at every moment -/
structure Surroundings where
  /-- sequence number of the session -/
  cell : Nat → Sequence
  /-- how many acknowledgements come in -/
  acks : Nat → Nat
  /-- whether the beater is stopped -/
  stops : Nat → Bool

structure Metronome where
  now : Nat
  /-- nothing once it is stopped -/
  beater : Option Beater
  pulse : Pulse
  /-- heartbeats that were queued, in order, each with its moment -/
  beats : List (Nat × Sequence)
  /-- moments at which the connection was reported dead -/
  signals : List Nat

namespace Metronome

def opening (interval firstDelay start : Nat) : Metronome :=
  ⟨start, some (Beater.start interval firstDelay start), Pulse.fresh, [], []⟩

/-- acknowledgements come in -/
def acked (n : Nat) (m : Metronome) : Metronome :=
  { m with pulse := n.repeat (fun p => p.acked m.now) m.pulse }

/-- a tick, if one is due -/
def tick (seq : Sequence) (m : Metronome) : Metronome :=
  match m.beater with
  | none => m
  | some b =>
    let r := b.beat m.pulse seq .free m.now
    { m with
      beater := some r.beater
      pulse := r.pulse
      beats := m.beats ++ r.sent.toList.map fun seq => (m.now, seq)
      signals := m.signals ++ if b.isRunning && r.beater.phase == .missed then [m.now] else [] }

/-- the beater is stopped -/
def halt (m : Metronome) : Metronome := { m with beater := none }

/-- the moment is over -/
def pass (m : Metronome) : Metronome := { m with now := m.now + 1 }

/-- what happens in one moment -/
def step (e : Surroundings) (m : Metronome) : Metronome :=
  (((if e.stops m.now then m.halt else m).acked (e.acks m.now)).tick (e.cell m.now)).pass

def run (e : Surroundings) (m : Metronome) : Nat → Metronome
  | 0 => m
  | n + 1 => step e (run e m n)

/-! ## Acknowledgements -/

theorem acked_awaiting (n : Nat) (m : Metronome) :
    (m.acked n).pulse.awaiting = (m.pulse.awaiting && n == 0) := by
  cases n with
  | zero => simp [acked, Nat.repeat]
  | succ n => simp [acked, Nat.repeat, Pulse.acked]

/-! ## The course of a metronome -/

section Course

/-- the moment of a tick -/
def tickAt (first period j : Nat) : Nat := first + j * period

/-- an acknowledgement comes in after a tick and before a later moment -/
def AnsweredBy (e : Surroundings) (after before : Nat) : Prop := ∃ t, after < t ∧ t < before ∧ 0 < e.acks t

/-- an acknowledgement comes in strictly between a tick and the next -/
def Answered (e : Surroundings) (first period j : Nat) : Prop :=
  AnsweredBy e (tickAt first period j) (tickAt first period (j + 1))

/-- the heartbeats of the first `n` ticks -/
def beatsOf (e : Surroundings) (first period n : Nat) : List (Nat × Sequence) :=
  (List.range n).map fun j => (tickAt first period j, e.cell (tickAt first period j))

variable {e : Surroundings} {first period : Nat} {m : Metronome}

theorem tickAt_succ (first period j : Nat) : tickAt first period (j + 1) = tickAt first period j + period := by
  unfold tickAt
  rw [Nat.succ_mul]
  omega

theorem beatsOf_succ (e : Surroundings) (first period n : Nat) :
    beatsOf e first period (n + 1) =
      beatsOf e first period n ++ [(tickAt first period n, e.cell (tickAt first period n))] := by
  simp [beatsOf, List.range_succ]

/-- the heartbeats of the first `n` ticks whose moment is over -/
def scheduled (e : Surroundings) (first period n now : Nat) : List (Nat × Sequence) :=
  ((List.range n).filter fun j => tickAt first period j < now).map fun j =>
    (tickAt first period j, e.cell (tickAt first period j))

/-- tick `j` is the first one that is not answered -/
def FirstUnanswered (e : Surroundings) (first period j : Nat) : Prop :=
  (∀ i < j, Answered e first period i) ∧ ¬ Answered e first period j

/-- where a metronome that is not stopped stands -/
inductive Course (e : Surroundings) (first period : Nat) (m : Metronome) : Prop where
  /-- before the first tick -/
  | starting (beater : m.beater = some ⟨period, .starting first⟩) (ahead : m.now ≤ first)
      (calm : m.pulse.awaiting = false) (beats : m.beats = []) (signals : m.signals = [])
  /-- between two ticks, the last one being tick `k` -/
  | resting (k : Nat) (beater : m.beater = some ⟨period, .resting (tickAt first period (k + 1))⟩)
      (behind : tickAt first period k < m.now) (ahead : m.now ≤ tickAt first period (k + 1))
      (answered : ∀ i < k, Answered e first period i)
      (awaiting : m.pulse.awaiting = true ↔ ¬ AnsweredBy e (tickAt first period k) m.now)
      (beats : m.beats = beatsOf e first period (k + 1)) (signals : m.signals = [])
  /-- tick `k` was not answered -/
  | missed (k : Nat) (beater : m.beater = some ⟨period, .missed⟩) (behind : tickAt first period (k + 1) < m.now)
      (answered : ∀ i < k, Answered e first period i) (unanswered : ¬ Answered e first period k)
      (beats : m.beats = beatsOf e first period (k + 1)) (signals : m.signals = [tickAt first period (k + 1)])

/-! ### Ticks -/

theorem tickAt_lt_succ (h : 0 < period) (j : Nat) : tickAt first period j < tickAt first period (j + 1) := by
  rw [tickAt_succ]
  omega

theorem tickAt_le {i j : Nat} (h : i ≤ j) : tickAt first period i ≤ tickAt first period j := by
  have mono := Nat.mul_le_mul_right period h
  unfold tickAt
  omega

theorem tickAt_lt_iff (h : 0 < period) {i j : Nat} : tickAt first period i < tickAt first period j ↔ i < j := by
  constructor
  · intro lt
    by_contra ge
    have le : tickAt first period j ≤ tickAt first period i := tickAt_le (Nat.not_lt.1 ge)
    exact absurd le (Nat.not_le.2 lt)
  · intro lt
    exact Nat.lt_of_lt_of_le (tickAt_lt_succ h i) (tickAt_le lt)

/-- A tick that is not due yet. -/
theorem tick_early {b : Beater} (beater : m.beater = some b) (early : ∀ t ∈ b.due?, m.now < t) (seq : Sequence) :
    m.tick seq = m := by
  obtain ⟨now, _, pulse, beats, signals⟩ := m
  cases beater
  have still : b.beat pulse seq .free now = ⟨b, pulse, none⟩ := by
    unfold Beater.beat
    cases due : b.due? with
    | none => rfl
    | some t => exact if_pos (early t due)
  have quiet : (b.isRunning && b.phase == .missed) = false := by
    obtain ⟨interval, phase⟩ := b
    cases phase <;> rfl
  simp [tick, still, quiet]

/-- A tick that finds the last heartbeat answered. -/
theorem tick_beats {b : Beater} (beater : m.beater = some b) (due : b.due? = some m.now)
    (calm : m.pulse.awaiting = false) (seq : Sequence) :
    m.tick seq =
      { m with
        beater := some ⟨b.interval, .resting (m.now + b.interval)⟩
        pulse := m.pulse.sent m.now
        beats := m.beats ++ [(m.now, seq)] } := by
  have next : b.nextTick m.now = m.now + b.interval := by
    obtain ⟨interval, phase⟩ := b
    cases phase <;> simp_all [Beater.nextTick, Beater.due?, Beater.tolerance]
  simp [tick, beater, Beater.beat, due, calm, next]

/-- A tick that finds it unanswered. -/
theorem tick_misses {b : Beater} (beater : m.beater = some b) (due : b.due? = some m.now)
    (awaiting : m.pulse.awaiting = true) (seq : Sequence) :
    m.tick seq =
      { m with
        beater := some ⟨b.interval, .missed⟩
        signals := m.signals ++ [m.now] } := by
  have running : b.isRunning = true := by
    obtain ⟨interval, phase⟩ := b
    cases phase <;> simp_all [Beater.isRunning, Beater.due?]
  simp [tick, beater, Beater.beat, due, awaiting, running]

/-- An answer within a longer time. -/
theorem answeredBy_succ {after before : Nat} (lt : after < before) :
    AnsweredBy e after (before + 1) ↔ AnsweredBy e after before ∨ 0 < e.acks before := by
  constructor
  · rintro ⟨t, later, sooner, some⟩
    by_cases last : t = before
    · exact .inr (last ▸ some)
    · exact .inl ⟨t, later, by omega, some⟩
  · rintro (⟨t, later, sooner, some⟩ | some)
    · exact ⟨t, later, by omega, some⟩
    · exact ⟨before, lt, by omega, some⟩

/-- What a moment does to a metronome that is not stopped. -/
theorem step_eq (running : e.stops m.now = false) :
    step e m = ((m.acked (e.acks m.now)).tick (e.cell m.now)).pass := by
  simp [step, running]

/-- A beat, the first one or one after an answer. -/
theorem goesOn (positive : 0 < period) {k : Metronome} {b : Beater} {n : Nat} (here : k.now = tickAt first period n)
    (beater : k.beater = some b) (interval : b.interval = period) (due : b.due? = some k.now)
    (calm : k.pulse.awaiting = false) (answered : ∀ i < n, Answered e first period i)
    (beats : k.beats = beatsOf e first period n) (signals : k.signals = []) :
    Course e first period (k.tick (e.cell k.now)).pass := by
  rw [tick_beats beater due calm, interval]
  apply Course.resting n
  case beater => rw [tickAt_succ, ← here]; rfl
  case behind => rw [← here]; exact Nat.lt_succ_self k.now
  case ahead => rw [tickAt_succ, ← here]; exact Nat.add_le_add_left positive k.now
  case answered => exact answered
  case awaiting =>
    apply iff_of_true rfl
    rintro ⟨t, later, sooner, -⟩
    rw [← here] at later
    exact absurd sooner (Nat.not_lt.2 later)
  case beats => rw [beatsOf_succ, ← here, ← beats]; rfl
  case signals => exact signals

/-- The end, without an answer. -/
theorem gives_up {k : Metronome} {n : Nat} (here : k.now = tickAt first period (n + 1))
    (beater : k.beater = some ⟨period, .resting k.now⟩) (awaiting : k.pulse.awaiting = true)
    (answered : ∀ i < n, Answered e first period i) (unanswered : ¬ Answered e first period n)
    (beats : k.beats = beatsOf e first period (n + 1)) (signals : k.signals = []) :
    Course e first period (k.tick (e.cell k.now)).pass := by
  rw [tick_misses beater rfl awaiting]
  apply Course.missed n
  case beater => rfl
  case behind => rw [← here]; exact Nat.lt_succ_self k.now
  case answered => exact answered
  case unanswered => exact unanswered
  case beats => exact beats
  case signals => simp [signals, here, pass]

theorem step_course (positive : 0 < period) (apart : ∀ j, e.acks (tickAt first period j) = 0)
    (running : e.stops m.now = false) (h : Course e first period m) : Course e first period (step e m) := by
  rw [step_eq running]
  have awaits := acked_awaiting (e.acks m.now) m
  cases h with
  | starting beater ahead calm beats signals =>
    have calm' : (m.acked (e.acks m.now)).pulse.awaiting = false := by rw [awaits, calm]; rfl
    by_cases due : m.now = first
    · have here : m.now = tickAt first period 0 := by rw [due, tickAt, Nat.zero_mul, Nat.add_zero]
      exact goesOn (k := m.acked _) positive here beater rfl (congrArg some due.symm) calm' nofun beats signals
    · have before : m.now < first := Nat.lt_of_le_of_ne ahead due
      rw [tick_early (m := m.acked _) beater (by rintro t ⟨⟩; exact before)]
      exact .starting beater before calm' beats signals
  | resting k beater behind ahead answered awaiting beats signals =>
    by_cases due : m.now = tickAt first period (k + 1)
    · -- no acknowledgement comes in at the moment of a tick
      have none : e.acks m.now = 0 := by rw [due]; exact apart (k + 1)
      have same : (m.acked (e.acks m.now)).pulse.awaiting = m.pulse.awaiting := by rw [awaits, none]; simp
      have beater' : (m.acked (e.acks m.now)).beater = some ⟨period, .resting (m.acked (e.acks m.now)).now⟩ := by
        rw [← due] at beater; exact beater
      by_cases waiting : m.pulse.awaiting = true
      · have unanswered : ¬ Answered e first period k := by
          unfold Answered; rw [← due]; exact awaiting.1 waiting
        exact gives_up (k := m.acked _) due beater' (same.trans waiting) answered unanswered beats signals
      · have last : Answered e first period k := by
          unfold Answered; rw [← due]
          by_contra unanswered
          exact waiting (awaiting.2 unanswered)
        have calm : (m.acked (e.acks m.now)).pulse.awaiting = false := same.trans (Bool.eq_false_iff.2 waiting)
        refine goesOn (k := m.acked _) positive due beater' rfl rfl calm (fun i hi => ?_) beats signals
        rcases Nat.lt_succ_iff_lt_or_eq.1 hi with hi | rfl
        · exact answered i hi
        · exact last
    · have before : m.now < tickAt first period (k + 1) := Nat.lt_of_le_of_ne ahead due
      rw [tick_early (m := m.acked _) beater (by rintro t ⟨⟩; exact before)]
      refine .resting k beater (Nat.lt_succ_of_lt behind) before answered ?_ beats signals
      show (m.acked (e.acks m.now)).pulse.awaiting = true ↔ ¬ AnsweredBy e _ (m.now + 1)
      rw [answeredBy_succ behind, awaits, Bool.and_eq_true, awaiting, beq_iff_eq, not_or, Nat.not_lt, Nat.le_zero]
  | missed k beater behind answered unanswered beats signals =>
    rw [tick_early (m := m.acked _) beater nofun]
    exact .missed k beater (Nat.lt_succ_of_lt behind) answered unanswered beats signals

/-! ### Runs -/

theorem step_now (e : Surroundings) (m : Metronome) : (step e m).now = m.now + 1 := by
  have kept (k : Metronome) (seq : Sequence) : (k.tick seq).now = k.now := by
    unfold tick
    split <;> rfl
  unfold step pass
  rw [kept]
  split <;> rfl

theorem run_now (e : Surroundings) (m : Metronome) (n : Nat) : (run e m n).now = m.now + n := by
  induction n with
  | zero => rfl
  | succ n ih => rw [run, step_now, ih, Nat.add_assoc]

theorem run_add (e : Surroundings) (m : Metronome) (n k : Nat) : run e m (n + k) = run e (run e m n) k := by
  induction k with
  | zero => rfl
  | succ k ih => rw [← Nat.add_assoc, run, run, ih]

theorem opening_course (e : Surroundings) (interval firstDelay start : Nat) :
    Course e (start + firstDelay) (max interval 1) (opening interval firstDelay start) :=
  .starting rfl (Nat.le_add_right start firstDelay) rfl rfl rfl

theorem run_course (positive : 0 < period) (apart : ∀ j, e.acks (tickAt first period j) = 0)
    (h : Course e first period m) (n : Nat) (running : ∀ t, m.now ≤ t → t < m.now + n → e.stops t = false) :
    Course e first period (run e m n) := by
  induction n with
  | zero => exact h
  | succ n ih =>
    have before := ih fun t from_start earlier => running t from_start (by omega)
    apply step_course positive apart _ before
    rw [run_now]
    exact running _ (Nat.le_add_right m.now n) (by omega)

/-- The heartbeats of the first ticks, as far as their time has come. -/
theorem ticks_past {n k now : Nat} (le : k ≤ n) (past : ∀ j, tickAt first period j < now ↔ j < k) :
    ((List.range n).filter fun j => tickAt first period j < now) = List.range k := by
  obtain ⟨r, rfl⟩ := Nat.exists_eq_add_of_le le
  rw [List.range_add, List.filter_append]
  have sooner : (List.range k).filter (fun j => tickAt first period j < now) = List.range k := by
    apply List.filter_eq_self.2
    intro j hj
    exact decide_eq_true ((past j).2 (List.mem_range.1 hj))
  have later : ((List.range r).map fun j => k + j).filter (fun j => tickAt first period j < now) = [] := by
    apply List.filter_eq_nil_iff.2
    intro j hj
    obtain ⟨i, -, rfl⟩ := List.mem_map.1 hj
    simp only [decide_eq_true_eq, past]
    omega
  rw [sooner, later, List.append_nil]

theorem Course.scheduled_eq {n k : Nat} (le : k ≤ n) (past : ∀ j, tickAt first period j < m.now ↔ j < k) :
    scheduled e first period n m.now = beatsOf e first period k := by
  rw [scheduled, ticks_past le past, beatsOf]

/-- The ticks before the next one. -/
theorem past_iff (positive : 0 < period) {k now : Nat} (behind : tickAt first period k < now)
    (ahead : now ≤ tickAt first period (k + 1)) (j : Nat) : tickAt first period j < now ↔ j < k + 1 := by
  constructor
  · intro past
    have before : tickAt first period j < tickAt first period (k + 1) := Nat.lt_of_lt_of_le past ahead
    exact (tickAt_lt_iff positive).1 before
  · intro before
    exact Nat.lt_of_le_of_lt (tickAt_le (Nat.le_of_lt_succ before)) behind

theorem past_none (period : Nat) {now : Nat} (ahead : now ≤ first) (j : Nat) : tickAt first period j < now ↔ j < 0 := by
  have least : first ≤ tickAt first period j := Nat.le_add_right first _
  omega

/-- It beats up to the first tick that is not answered, and then reports the connection dead. -/
theorem Course.ends (h : Course e first period m) (positive : 0 < period) {J : Nat}
    (last : FirstUnanswered e first period J) :
    m.beats = scheduled e first period (J + 1) m.now ∧
      m.signals = if tickAt first period (J + 1) < m.now then [tickAt first period (J + 1)] else [] := by
  obtain ⟨before, unanswered⟩ := last
  cases h with
  | starting beater ahead calm beats signals =>
    have past := past_none period ahead
    rw [scheduled_eq (Nat.zero_le _) past, beats, signals, if_neg (by rw [past]; exact Nat.not_lt_zero _)]
    exact ⟨rfl, rfl⟩
  | resting k beater behind ahead answered awaiting beats signals =>
    have le : k ≤ J := by
      by_contra later
      exact unanswered (answered J (Nat.not_le.1 later))
    have past := past_iff positive behind ahead
    rw [scheduled_eq (Nat.succ_le_succ le) past, signals, if_neg (by rw [past]; omega)]
    exact ⟨beats, rfl⟩
  | missed k beater behind answered missing beats signals =>
    have same : k = J := by
      rcases Nat.lt_trichotomy k J with lt | same | gt
      · exact absurd (before k lt) missing
      · exact same
      · exact absurd (answered J gt) unanswered
    subst same
    have all : ((List.range (k + 1)).filter fun j => tickAt first period j < m.now) = List.range (k + 1) := by
      apply List.filter_eq_self.2
      intro j hj
      exact decide_eq_true (Nat.lt_of_le_of_lt (tickAt_le (List.mem_range.1 hj).le) behind)
    rw [scheduled, all, if_pos behind]
    exact ⟨beats, signals⟩

/-- It beats for ever as long as all ticks are answered. -/
theorem Course.endless (h : Course e first period m) (positive : 0 < period) (all : ∀ j, Answered e first period j) :
    m.beats = scheduled e first period m.now m.now ∧ m.signals = [] := by
  cases h with
  | starting beater ahead calm beats signals =>
    rw [scheduled_eq (Nat.zero_le _) (past_none period ahead)]
    exact ⟨beats, signals⟩
  | resting k beater behind ahead answered awaiting beats signals =>
    have le : k ≤ tickAt first period k := by
      calc k = k * 1 := (Nat.mul_one k).symm
        _ ≤ k * period := Nat.mul_le_mul_left k positive
        _ ≤ tickAt first period k := Nat.le_add_left _ first
    rw [scheduled_eq (Nat.succ_le_of_lt (Nat.lt_of_le_of_lt le behind)) (past_iff positive behind ahead)]
    exact ⟨beats, signals⟩
  | missed k beater behind answered missing beats signals => exact absurd (all k) missing

/-- Two metronomes beat alike if the same ticks are answered. -/
theorem Course.alike {e' : Surroundings} {m' : Metronome} (h : Course e first period m)
    (h' : Course e' first period m') (positive : 0 < period) (now : m'.now = m.now) (cell : e'.cell = e.cell)
    (same : ∀ j, Answered e' first period j ↔ Answered e first period j) :
    m'.beats = m.beats ∧ m'.signals = m.signals := by
  have plan (n : Nat) : scheduled e' first period n m'.now = scheduled e first period n m.now := by
    rw [scheduled, scheduled, now, cell]
  by_cases all : ∀ j, Answered e first period j
  · obtain ⟨beats, signals⟩ := h.endless positive all
    obtain ⟨beats', signals'⟩ := h'.endless positive fun j => (same j).2 (all j)
    rw [beats, beats', signals, signals', plan, now]
    exact ⟨rfl, rfl⟩
  · -- the first tick that is not answered
    classical
    have some : ∃ j, ¬ Answered e first period j := not_forall.1 all
    have last : FirstUnanswered e first period (Nat.find some) :=
      ⟨fun i hi => not_not.1 (Nat.find_min some hi), Nat.find_spec some⟩
    have last' : FirstUnanswered e' first period (Nat.find some) :=
      ⟨fun i hi => (same i).2 (last.1 i hi), fun answered => last.2 ((same _).1 answered)⟩
    obtain ⟨beats, signals⟩ := h.ends positive last
    obtain ⟨beats', signals'⟩ := h'.ends positive last'
    rw [beats, beats', signals, signals', plan, now]
    exact ⟨rfl, rfl⟩

/-! ### Stopping -/

/-- What a stopped beater queues, and reports. -/
theorem step_stopped (stopped : m.beater = none ∨ e.stops m.now = true) :
    (step e m).beater = none ∧ (step e m).beats = m.beats ∧ (step e m).signals = m.signals := by
  have gone : (if e.stops m.now then m.halt else m).beater = none := by
    rcases stopped with none | now
    · split
      · rfl
      · exact none
    · rw [if_pos now]
      rfl
  have kept : (if e.stops m.now then m.halt else m).beats = m.beats ∧
      (if e.stops m.now then m.halt else m).signals = m.signals := by
    split <;> exact ⟨rfl, rfl⟩
  have still (k : Metronome) (seq : Sequence) (none : k.beater = none) : k.tick seq = k := by simp [tick, none]
  rw [step, still (acked _ _) _ gone]
  exact ⟨gone, kept⟩

theorem run_gone (gone : m.beater = none) (n : Nat) :
    (run e m n).beater = none ∧ (run e m n).beats = m.beats ∧ (run e m n).signals = m.signals := by
  induction n with
  | zero => exact ⟨gone, rfl, rfl⟩
  | succ n ih =>
    obtain ⟨none, beats, signals⟩ := ih
    obtain ⟨none', beats', signals'⟩ := step_stopped (e := e) (.inl none)
    exact ⟨none', beats'.trans beats, signals'.trans signals⟩

/-- Once it is stopped a beater queues nothing, and reports nothing. -/
theorem run_stopped {k n : Nat} (le : k ≤ n) (stopped : e.stops (m.now + k) = true) :
    (run e m n).beats = (run e m k).beats ∧ (run e m n).signals = (run e m k).signals := by
  obtain ⟨r, rfl⟩ := Nat.exists_eq_add_of_le le
  cases r with
  | zero => exact ⟨rfl, rfl⟩
  | succ r =>
    rw [Nat.add_comm r 1, ← Nat.add_assoc, run_add]
    have now : e.stops (run e m k).now = true := by rw [run_now]; exact stopped
    obtain ⟨none, beats, signals⟩ := step_stopped (.inr now)
    obtain ⟨-, beats', signals'⟩ := run_gone (e := e) none r
    exact ⟨beats'.trans beats, signals'.trans signals⟩

/-- What is the same up to the first stop is the same. -/
theorem run_alike {e' : Surroundings} (stops : e'.stops = e.stops) (n : Nat)
    (same : ∀ k ≤ n, (∀ t, m.now ≤ t → t < m.now + k → e.stops t = false) →
      (run e' m k).beats = (run e m k).beats ∧ (run e' m k).signals = (run e m k).signals) :
    (run e' m n).beats = (run e m n).beats ∧ (run e' m n).signals = (run e m n).signals := by
  induction n with
  | zero => exact ⟨rfl, rfl⟩
  | succ n ih =>
    have before := ih fun k hk => same k (Nat.le_succ_of_le hk)
    by_cases stopped : ∃ t, m.now ≤ t ∧ t < m.now + (n + 1) ∧ e.stops t = true
    · obtain ⟨t, later, sooner, stop⟩ := stopped
      obtain ⟨k, rfl⟩ := Nat.exists_eq_add_of_le later
      have le : k ≤ n := by omega
      obtain ⟨beats, signals⟩ := run_stopped le stop
      obtain ⟨beats', signals'⟩ := run_stopped (e := e') le (by rw [stops]; exact stop)
      obtain ⟨now, now'⟩ := run_stopped (Nat.le_succ_of_le le) stop
      obtain ⟨now2, now2'⟩ := run_stopped (e := e') (Nat.le_succ_of_le le) (by rw [stops]; exact stop)
      rw [now, now', now2, now2', ← beats, ← beats', ← signals, ← signals']
      exact before
    · apply same (n + 1) (Nat.le_refl _)
      intro t later sooner
      by_contra stop
      exact stopped ⟨t, later, sooner, by simpa using stop⟩

end Course

/-- A beater beats at its first delay and then once per interval, with the sequence number of that moment, as long as
every tick is answered; at the first tick behind an unanswered one it reports the connection dead, once, and falls
silent. Nothing is queued once it is stopped. Repeated acknowledgements, and those before the first beat, make no
difference. -/
theorem beats_on_schedule (e : Surroundings) (interval firstDelay start : Nat)
    (apart : ∀ j, e.acks (tickAt (start + firstDelay) (max interval 1) j) = 0) (n : Nat) :
    let first := start + firstDelay
    let period := max interval 1
    let m := run e (opening interval firstDelay start) n
    m.now = start + n ∧
      ((∀ t, start ≤ t → t < start + n → e.stops t = false) →
        (∀ J, FirstUnanswered e first period J →
          m.beats = scheduled e first period (J + 1) m.now ∧
            m.signals = if tickAt first period (J + 1) < m.now then [tickAt first period (J + 1)] else []) ∧
        ((∀ j, Answered e first period j) →
          m.beats = scheduled e first period m.now m.now ∧ m.signals = [])) ∧
      (∀ k ≤ n, e.stops (start + k) = true →
        m.beats = (run e (opening interval firstDelay start) k).beats ∧
          m.signals = (run e (opening interval firstDelay start) k).signals) ∧
      ∀ e' : Surroundings, e'.cell = e.cell → e'.stops = e.stops →
        (∀ t, first ≤ t → (0 < e'.acks t ↔ 0 < e.acks t)) →
        (run e' (opening interval firstDelay start) n).beats = m.beats ∧
          (run e' (opening interval firstDelay start) n).signals = m.signals := by
  intro first period m
  have positive : 0 < period := Nat.le_max_right interval 1
  have courses (e : Surroundings) (apart : ∀ j, e.acks (tickAt first period j) = 0) (k : Nat)
      (running : ∀ t, start ≤ t → t < start + k → e.stops t = false) :
      Course e first period (run e (opening interval firstDelay start) k) :=
    run_course positive apart (opening_course e interval firstDelay start) k running
  refine ⟨run_now e _ n, fun running => ?_, fun k le stop => run_stopped le stop, fun e' cell stops acks => ?_⟩
  case refine_1 =>
    have course := courses e apart n running
    exact ⟨fun J last => course.ends positive last, course.endless positive⟩
  case refine_2 =>
    -- from the first tick on, both see the same acknowledgements
    have answers (a b : Nat) (from_first : first ≤ a) : AnsweredBy e' a b ↔ AnsweredBy e a b := by
      constructor <;> rintro ⟨t, later, sooner, some⟩
      · exact ⟨t, later, sooner, (acks t (by omega)).1 some⟩
      · exact ⟨t, later, sooner, (acks t (by omega)).2 some⟩
    have apart' (j : Nat) : e'.acks (tickAt first period j) = 0 := by
      have none : e.acks (tickAt first period j) = 0 := apart j
      have same := acks (tickAt first period j) (Nat.le_add_right first _)
      omega
    apply run_alike stops n
    intro k _ running
    have course := courses e apart k running
    have course' := courses e' apart' k fun t later sooner => by rw [stops]; exact running t later sooner
    apply course.alike course' positive (by rw [run_now, run_now]) cell
    intro j
    exact answers _ _ (Nat.le_add_right first _)

/-- one acknowledgement after the first of two beats, and a new sequence number between them -/
def quietGateway : Surroundings where
  cell t := if t < 10 then none else some 7
  acks t := if t = 5 then 1 else 0
  stops _ := false

/-- The second beat is not answered, so the third tick reports the connection dead. -/
theorem beats_on_schedule_quiet :
    (∀ j, quietGateway.acks (tickAt 3 10 j) = 0) ∧ FirstUnanswered quietGateway 3 10 1 ∧
      (run quietGateway (opening 10 3 0) 40).beats = [(3, none), (13, some 7)] ∧
      (run quietGateway (opening 10 3 0) 40).signals = [23] := by
  have apart (j : Nat) : quietGateway.acks (tickAt 3 10 j) = 0 := by
    have other : tickAt 3 10 j ≠ 5 := by unfold tickAt; omega
    exact if_neg other
  have last : FirstUnanswered quietGateway 3 10 1 := by
    constructor
    · intro i hi
      rw [Nat.lt_one_iff.1 hi]
      exact ⟨5, by decide, by decide, by decide⟩
    · rintro ⟨t, later, sooner, some⟩
      have five : t = 5 := by
        by_contra other
        exact absurd some (by simp [quietGateway, other])
      rw [five] at later
      exact absurd later (by decide)
  obtain ⟨now, plan, -⟩ := beats_on_schedule quietGateway 10 3 0 apart 40
  obtain ⟨beats, signals⟩ := (plan fun _ _ _ => rfl).1 1 last
  refine ⟨apart, last, beats.trans ?_, signals.trans ?_⟩
  · rw [now]; decide
  · rw [now]; decide

end Metronome

end Shardwire
