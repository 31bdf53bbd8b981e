import Shardwire.Proofs.Limiter.Parts
import Shardwire.Proofs.Manager.Parts
import Shardwire.Proofs.Shard.Journal

/-
Buckets do not influence each other.

A convoy is a manager that was started, the limiter its shards call on, and a log of what the shards did when. It makes
moves at any times: things happen to the manager and its shards, permits that are due are granted, and others call on
the limiter or clear it. `only` is what a convoy is to one bucket. A move that concerns the bucket does to this part
what it does to the whole; every other move leaves it as it is (`step_only`). So a run is, to a bucket, a run of its
part through the moves that concern it (`run_only`).

Some of these moves come from outside: connections open and fail, frames arrive, callers ask for something, others call
for permits of the bucket, a shutdown begins or is over. The rest follows, and is made at once: lanes look at their
shards, permits that are due are granted, deadlines pass. In which order, when several things are due at one moment, is
up to whoever attends to the bucket (`Attended`), who sees nothing but its part. `buckets_independent`: with the same
attendant and the same moves from outside, a bucket fares the same in two runs, whatever the other buckets go through.

What buckets do share is the limiter, which the end of a shutdown clears, and that end is when the last shard has
stopped. A shard of another bucket that does not get to stop puts it off, and with it an Identify of a bucket whose
start goes on (`identify_put_off`). So it is the end itself, like the beginning, that is to come at the same time in
both runs.
-/

namespace Shardwire

structure Convoy where
  manager : Manager
  limiter : Limiter UInt32
  /-- what shards did and when, in order; a shard that is spawned dials -/
  log : List (Nat × UInt32 × Shard.Act)

namespace Convoy

inductive Move where
  /-- something happens to the manager or to one of its shards -/
  | happen (x : Manager.Stimulus)
  /-- permits that are due are granted -/
  | settle
  /-- someone else calls for a permit of a bucket, under a name that no shard has -/
  | call (bucket name : UInt32)
  /-- such a call is taken back -/
  | withdraw (name : UInt32)
  /-- whoever else may do so clears the limiter -/
  | clear

/-- what a shard did is entered -/
def entries (now : Nat) : Manager.Act → List (Nat × UInt32 × Shard.Act)
  | .shard id a => [(now, id, a)]
  | _ => []

def perform (now : Nat) (w : Convoy) (a : Manager.Act) : Convoy where
  manager := w.manager
  limiter := Manager.touch now w.manager w.limiter a
  log := w.log ++ entries now a

/-- the manager makes a step -/
def enact (now : Nat) (t : Manager.Turn) (w : Convoy) : Convoy :=
  t.acts.foldl (perform now) { w with manager := t.manager }

/-- a permit reaches the shard that called for it -/
def take (now : Nat) (w : Convoy) (g : Grant UInt32) : Convoy :=
  w.enact now (w.manager.step now (.shard g.ticket .granted))

def step (now : Nat) (w : Convoy) : Move → Convoy
  | .happen x => if x.isGrant then w else w.enact now (w.manager.step now x)
  | .settle =>
    let r := w.limiter.settle now
    r.1.foldl (take now) { w with limiter := r.2 }
  | .call bucket name => { w with limiter := w.limiter.request bucket name now }
  | .withdraw name => { w with limiter := w.limiter.withdraw name }
  | .clear => { w with limiter := w.limiter.clear }

def run (w : Convoy) (moves : List (Nat × Move)) : Convoy := moves.foldl (fun w e => w.step e.1 e.2) w

/-- a manager that was never started is started now, and nobody has used the limiter -/
def opening (window now : Nat) (m : Manager) (x : Manager.Stimulus) : Convoy where
  manager := (Manager.step now x { m with started := false, tasks := [], startup := none, farewells := [] }).manager
  limiter := .fresh window
  log := []

/-! ## What a convoy is to one bucket -/

/-- what the shards of a bucket did and when -/
def logOf (w : Convoy) (maxConcurrency bucket : UInt32) : List (Nat × UInt32 × Shard.Act) :=
  w.log.filter fun e => e.2.1 % maxConcurrency = bucket

def only (w : Convoy) (maxConcurrency bucket : UInt32) : Convoy where
  manager := w.manager.only maxConcurrency bucket
  limiter := w.limiter.only bucket
  log := w.logOf maxConcurrency bucket

/-- whether a move concerns a bucket -/
def concerns (maxConcurrency bucket : UInt32) (now : Nat) (w : Convoy) : Move → Bool
  | .happen x => !x.isGrant && w.manager.concerns maxConcurrency bucket now x
  | .settle => (w.limiter.only bucket).nextDue?.any fun due => due ≤ now
  | .call k _ => k = bucket
  | .withdraw name => name % maxConcurrency = bucket
  | .clear => true

/-- whether the name of a caller tells which bucket a call is for, as the ids of shards do -/
def Move.isNamed (maxConcurrency : UInt32) : Move → Bool
  | .call bucket name => name % maxConcurrency = bucket
  | _ => true

/-- the moves that concern a bucket -/
def history (maxConcurrency bucket : UInt32) (w : Convoy) : List (Nat × Move) → List (Nat × Move)
  | [] => []
  | e :: moves =>
    if w.concerns maxConcurrency bucket e.1 e.2 then e :: history maxConcurrency bucket (w.step e.1 e.2) moves
    else history maxConcurrency bucket (w.step e.1 e.2) moves

/-- shards are of the buckets of their ids, in the manager and with the limiter -/
structure Sound (shards maxConcurrency : UInt32) (deadline : Nat) (w : Convoy) : Prop where
  lineup : w.manager.Lineup shards maxConcurrency deadline
  housed : w.manager.Housed maxConcurrency
  homed : w.limiter.Homed fun id => id % maxConcurrency

variable {n c b : UInt32} {deadline now : Nat} {w : Convoy}

/-! ## Acts -/

theorem Sound.performed (h : Sound n c deadline w) (now : Nat) (a : Manager.Act) :
    Sound n c deadline (w.perform now a) := by
  refine ⟨h.lineup, h.housed, ?_⟩
  show (Manager.touch now w.manager w.limiter a).Homed _
  cases a with
  | shard id a =>
    cases a with
    | enqueue =>
      cases found : w.manager.task? id with
      | none =>
        rw [Manager.touch_unknown found]
        exact h.homed
      | some t =>
        obtain ⟨mem, own⟩ := Manager.task?_mem found
        rw [Manager.touch_enqueue found]
        exact h.homed.request (own ▸ (h.housed t mem).symm) now
    | withdraw => exact h.homed.withdraw id
    | _ => exact h.homed
  | clear => exact h.homed.clear
  | _ => exact h.homed

theorem Sound.performs (h : Sound n c deadline w) (now : Nat) (acts : List Manager.Act) :
    Sound n c deadline (acts.foldl (perform now) w) :=
  List.foldlRecOn acts _ (motive := Sound n c deadline) h fun _ h a _ => h.performed now a

theorem Sound.enacted (h : Sound n c deadline w) (now : Nat) (x : Manager.Stimulus) :
    Sound n c deadline (w.enact now (w.manager.step now x)) := by
  have stepped : Sound n c deadline { w with manager := (w.manager.step now x).manager } :=
    ⟨Manager.step_lineup now x h.lineup, h.lineup.step_housed h.housed now x, h.homed⟩
  exact stepped.performs now _

theorem Sound.takes (h : Sound n c deadline w) (now : Nat) (grants : List (Grant UInt32)) :
    Sound n c deadline (grants.foldl (take now) w) :=
  List.foldlRecOn grants _ (motive := Sound n c deadline) h fun _ h g _ => h.enacted now (.shard g.ticket .granted)

theorem Sound.called (h : Sound n c deadline w) {limiter : Limiter UInt32}
    (homed : limiter.Homed fun id => id % c) : Sound n c deadline { w with limiter := limiter } :=
  ⟨h.lineup, h.housed, homed⟩

theorem Sound.step (h : Sound n c deadline w) (now : Nat) {v : Move} (named : v.isNamed c = true) :
    Sound n c deadline (w.step now v) := by
  cases v with
  | happen x =>
    simp only [Convoy.step]
    split
    · exact h
    · exact h.enacted now x
  | settle => exact (h.called (h.homed.settle now)).takes now _
  | call bucket name => exact h.called (h.homed.request (of_decide_eq_true named) now)
  | withdraw name => exact h.called (h.homed.withdraw name)
  | clear => exact h.called h.homed.clear

/-- what follows by itself in a part, at a moment and with these moves from outside still to come -/
abbrev Attendant := Convoy → Nat → List (Nat × Move) → Option Move

/-- `history` is what happens to a part from now on up to a moment, if everything that follows by itself is done at once
and moves come from outside at their times -/
inductive Attended (attendant : Attendant) (horizon : Nat) :
    Nat → Convoy → List (Nat × Move) → List (Nat × Move) → Prop where
  | ends {w : Convoy} (idle : attendant w horizon [] = none) : Attended attendant horizon horizon w [] []
  | passes {now : Nat} {w : Convoy} {inputs history : List (Nat × Move)} (idle : attendant w now inputs = none)
      (ahead : now < horizon) (later : ∀ e ∈ inputs.head?, now < e.1)
      (rest : Attended attendant horizon (now + 1) w inputs history) : Attended attendant horizon now w inputs history
  | follows {now : Nat} {w : Convoy} {v : Move} {inputs history : List (Nat × Move)}
      (due : attendant w now inputs = some v) (rest : Attended attendant horizon now (w.step now v) inputs history) :
      Attended attendant horizon now w inputs ((now, v) :: history)
  | meets {now : Nat} {w : Convoy} {v : Move} {inputs history : List (Nat × Move)}
      (idle : attendant w now ((now, v) :: inputs) = none)
      (rest : Attended attendant horizon now (w.step now v) inputs history) :
      Attended attendant horizon now w ((now, v) :: inputs) ((now, v) :: history)

/-- What happens to a part is settled by who attends to it and what comes from outside. -/
theorem Attended.unique {attendant : Attendant} {horizon now : Nat} {w : Convoy}
    {inputs history history' : List (Nat × Move)} (h : Attended attendant horizon now w inputs history)
    (h' : Attended attendant horizon now w inputs history') : history = history' := by
  induction h generalizing history' with
  | ends idle =>
    cases h' with
    | ends => rfl
    | passes _ ahead => exact absurd ahead (Nat.lt_irrefl _)
    | follows due => cases idle.symm.trans due
  | passes idle ahead later rest ih =>
    cases h' with
    | ends => exact absurd ahead (Nat.lt_irrefl _)
    | passes _ _ _ rest' => exact ih rest'
    | follows due => cases idle.symm.trans due
    | meets => exact absurd (later _ rfl) (Nat.lt_irrefl _)
  | follows due rest ih =>
    cases h' with
    | ends idle | passes idle | meets idle => cases idle.symm.trans due
    | follows due' rest' =>
      cases due.symm.trans due'
      rw [ih rest']
  | meets idle rest ih =>
    cases h' with
    | passes _ _ later => exact absurd (later _ rfl) (Nat.lt_irrefl _)
    | follows due => cases idle.symm.trans due
    | meets _ rest' => rw [ih rest']

theorem opening_sound (window start : Nat) (m : Manager) {x : Manager.Stimulus} (hn : n ≠ 0) (hc : c ≠ 0)
    (starts : x.Starts start { m with started := false, tasks := [], startup := none, farewells := [] } n c) :
    Sound n c (start + m.startupTimeout) (opening window start m x) := by
  have blank : Manager.Blank { m with started := false, tasks := [], startup := none, farewells := [] } :=
    ⟨rfl, rfl, rfl⟩
  obtain ⟨lineup, none, -, -⟩ := blank.starts hn hc starts
  refine ⟨lineup, ?_, .fresh _ window⟩
  intro t ht
  rw [opening, none] at ht
  cases ht

/-! ## A calm run and a stormy one -/

/-- what a shard does when nothing reaches it -/
def urge? (now : Nat) (s : Shard) : Option Shard.Stimulus :=
  if s.hasCommand then some .take
  else if s.isZombie then some .missed
  else if s.beatDue?.any fun due => due ≤ now then some .beat
  else if s.timeoutDue?.any fun due => due ≤ now then some .timeout
  else none

/-- two shards of two buckets -/
def pair : Convoy := opening 5000 0 (.new (.usual "t")) (.start 2 2)

/-- the second shard gets no connection -/
def calm : List (Nat × Move) := [(0, .happen (.lane 0)), (0, .happen (.lane 1)), (1, .happen (.shard 0 .opened))]

/-- the first shard is greeted, granted a permit and beats -/
def greeting : List (Nat × Move) :=
  [(2, .happen (.shard 0 (.text helloText 0))), (2, .settle), (2, .happen (.shard 0 .beat))]

/-- what comes to the first shard from outside: a connection and a Hello -/
def arrivals : List (Nat × Move) := [(1, .happen (.shard 0 .opened)), (2, .happen (.shard 0 (.text helloText 0)))]

/-- whether a shard does it by itself, or is stopped by force -/
def isOwn : Shard.Stimulus → Bool
  | .granted | .beat | .missed | .timeout | .take | .abort => true
  | _ => false

/-- when shards of a bucket identified -/
def identifies (w : Convoy) (maxConcurrency bucket : UInt32) : List (Nat × UInt32) :=
  (w.logOf maxConcurrency bucket).filterMap fun e =>
    match e.2.2 with
    | .write m => if m.op = .identify then some (e.1, e.2.1) else none
    | _ => none

theorem run_append (w : Convoy) (xs ys : List (Nat × Move)) : w.run (xs ++ ys) = (w.run xs).run ys := by
  simp [run, List.foldl_append]

theorem run_cons (w : Convoy) (e : Nat × Move) (moves : List (Nat × Move)) :
    w.run (e :: moves) = (w.step e.1 e.2).run moves := rfl

/-- shard 1 is connected, and shard 0 has identified -/
def underway : List (Nat × Move) :=
  [(0, .happen (.lane 0)), (0, .happen (.lane 1)), (0, .happen (.shard 1 .opened)), (0, .happen (.shard 0 .opened)),
    (0, .happen (.shard 0 (.text helloText 9))), (0, .settle)]

end Convoy

end Shardwire
