import Shardwire.Proofs.Limiter.Places
import Shardwire.Proofs.Shard.Stages

/-
The time a handshake takes.

A station is one shard at work with a clock and the limiter it calls on, which others use as well: they call, take calls
back, are granted permits before or after the shard, and clear the limiter. Whatever may happen to the shard happens in
any order, and the other side takes its frames when it likes, or never. What it rests on:
- the clock does not pass a deadline of the shard, unless the shard waits for room: then its timer is not looked at;
- whoever is granted a permit acts on it at once; a shard that waits for room is granted none, nor are those behind it.

`unready` counts the time since the last dial without a ready connection, but for the time a call of the shard waited
for a permit. What of it the shard spent waiting for room is counted in `stalled` instead. Both are kept beside the
shard, which knows nothing of them.

`handshakes_bounded`: `unready` is never more than two timeouts. A connection that is not ready, of a shard that does
not wait for room, has either a deadline or a call that waits on the shard's bucket, and never both; the deadline has
not passed if the shard never waited. The timeout comes when the deadline does, and never while the call waits.

`handshake_stalls`: nothing bounds the time in which a shard waits for room, and no timeout ends it.
-/

namespace Shardwire

namespace Runner

/-- whether it brings a permit -/
def Move.isGrant : Move → Bool
  | .meet x => x.isGrant
  | _ => false

/-- without a connection nothing waits, and a permit never does -/
structure Calm (r : Runner) : Prop where
  tidy : r.Tidy
  ungranted : ∀ x, r.hand = some (.reply x) ∨ r.hand = some (.parting x) → x.isGrant = false

end Runner

structure Station (τ : Type) where
  now : Nat
  runner : Runner
  /-- the bucket the shard identifies through -/
  bucket : UInt32
  /-- what the shard calls for permits under -/
  ticket : τ
  limiter : Limiter τ
  /-- time without a ready connection since the last dial, but for the time a call of the shard waited, and for the time
  the shard waited for room -/
  unready : Nat
  /-- time without a ready connection since the last dial in which the shard waited for room, and no call of it waited -/
  stalled : Nat

namespace Station

open Shard (Stimulus Act Outcome Concludes)

variable {τ : Type} [DecidableEq τ]

inductive Move (τ : Type) where
  /-- time goes on, but not past a deadline of the shard -/
  | tick (time : Nat)
  /-- permits that were due by a time are granted -/
  | settle (time : Nat)
  /-- something happens to the shard or its outbox -/
  | happen (v : Runner.Move)
  /-- someone else calls for a permit -/
  | request (bucket : UInt32) (ticket : τ)
  /-- someone else takes a call back -/
  | withdraw (ticket : τ)
  /-- the limiter is cleared -/
  | clear

/-- the buckets on which the shard queues, once per call -/
def places (f : Station τ) : List UInt32 := f.limiter.places f.ticket

def perform (f : Station τ) : Act → Station τ
  | .dial _ => { f with unready := 0, stalled := 0 }
  | .enqueue => { f with limiter := f.limiter.request f.bucket f.ticket f.now }
  | .withdraw => { f with limiter := f.limiter.withdraw f.ticket }
  | _ => f

/-- goes on as the shard did -/
def follow (t : Runner.Turn) (f : Station τ) : Station τ := { t.acts.foldl perform f with runner := t.runner }

/-- something happens to the shard or its outbox -/
def move (v : Runner.Move) (f : Station τ) : Station τ := f.follow (f.runner.step f.now v)

/-- a permit reaches whoever called for it -/
def take (f : Station τ) (g : Grant τ) : Station τ := if g.ticket = f.ticket then f.move (.meet .granted) else f

/-- permits that were due by a time are granted; nobody takes one before a shard whose turn it is, but which waits -/
def settle (time : Nat) (f : Station τ) : Station τ :=
  let r := f.limiter.settle time
  if f.runner.hand.isSome && r.1.any fun g => g.ticket = f.ticket then f
  else r.1.foldl take { f with limiter := r.2 }

/-- time goes on -/
def pass (time : Nat) (f : Station τ) : Station τ :=
  let counts := f.runner.isUnready && f.places.isEmpty
  { f with
    now := time
    unready := if counts && f.runner.hand.isNone then f.unready + (time - f.now) else f.unready
    stalled := if counts && f.runner.hand.isSome then f.stalled + (time - f.now) else f.stalled }

def step (f : Station τ) : Move τ → Station τ
  | .tick time => if f.now ≤ time && f.runner.timeoutDue?.all fun due => time ≤ due then f.pass time else f
  | .settle time => if time ≤ f.now then f.settle time else f
  | .happen v => if v.isGrant then f else f.move v
  | .request bucket ticket =>
    if ticket = f.ticket then f else { f with limiter := f.limiter.request bucket ticket f.now }
  | .withdraw ticket => if ticket = f.ticket then f else { f with limiter := f.limiter.withdraw ticket }
  | .clear => { f with limiter := f.limiter.clear }

def run (f : Station τ) (moves : List (Move τ)) : Station τ := moves.foldl step f

/-- a shard that is about to ask for its first connection, and a limiter that nobody has used -/
def opening (profile : ShardProfile) (address : ShardAddress) (bucket : UInt32) (ticket : τ) (window now start : Nat) :
    Station τ where
  now := now
  runner := .idle (.fresh profile address start)
  bucket := bucket
  ticket := ticket
  limiter := .fresh window
  unready := 0
  stalled := 0

end Station

/-- Whoever has a permit is among those who were granted one. -/
theorem Grant.any_of_places {τ : Type} [DecidableEq τ] {grants : List (Grant τ)} {ticket : τ} {b : UInt32}
    (h : Grant.places grants ticket = [b]) : grants.any (fun g => g.ticket = ticket) = true := by
  cases own : grants.any fun g => g.ticket = ticket with
  | true => rfl
  | false =>
    have none : grants.filter (fun g => g.ticket = ticket) = [] :=
      List.filter_eq_nil_iff.2 fun g hg => by simpa using List.any_eq_false.1 own g hg
    rw [Grant.places, none] at h
    cases h

namespace Station

open Shard (Stimulus Act Stage Outcome Concludes)

variable {τ : Type} [DecidableEq τ]

/-! ## What a station does -/

theorem perform_with (a : Act) (f : Station τ) (r : Runner) :
    ({ f with runner := r } : Station τ).perform a = { f.perform a with runner := r } := by
  cases a <;> rfl

/-- What acts do, they do beside the shard. -/
theorem performs_with (acts : List Act) (f : Station τ) (r : Runner) :
    acts.foldl perform { f with runner := r } = { acts.foldl perform f with runner := r } := by
  induction acts generalizing f with
  | nil => rfl
  | cons a acts ih => rw [List.foldl_cons, perform_with, ih, List.foldl_cons]

theorem performs_uncalled {acts : List Act} (h : ∀ a ∈ acts, a.isCall = false) (f : Station τ) :
    acts.foldl perform f = f := by
  refine List.foldlRecOn acts perform (motive := (· = f)) rfl fun g hg a ha => ?_
  subst hg
  have := h a ha
  cases a <;> first | rfl | cases this

theorem performs_announced (st : Status) (s : Shard) (a : Act) (f : Station τ) :
    (Shard.announce st s ++ [a]).foldl perform f = f.perform a := by
  have uncalled : ∀ a ∈ Shard.announce st s, a.isCall = false := fun a ha => by
    rw [Shard.eq_of_mem_announce ha]
    rfl
  rw [List.foldl_append, performs_uncalled uncalled]
  rfl

/-- What is shown calls for nothing. -/
theorem performs_shown (acts : List Act) (f : Station τ) :
    (acts.dropWhile Runner.isShown).foldl perform f = acts.foldl perform f := by
  induction acts generalizing f with
  | nil => rfl
  | cons a acts ih =>
    rw [List.dropWhile_cons]
    split
    · next shown =>
      have same : f.perform a = f := by cases a <;> first | rfl | cases shown
      rw [ih, List.foldl_cons, same]
    · rfl

/-- Where a connection ends no call is made; one that was out may be taken back. -/
theorem performs_parting {acts : List Act} (h : ∀ a ∈ acts, a.isParting = true) (f : Station τ) :
    ∃ l, acts.foldl perform f = { f with limiter := l } ∧ (f.limiter.Distinct → l.Distinct) ∧
      (.withdraw ∈ acts ∨ f.places = [] → l.places f.ticket = []) := by
  induction acts generalizing f with
  | nil => exact ⟨f.limiter, rfl, fun hd => hd, fun hp => hp.resolve_left List.not_mem_nil⟩
  | cons a acts ih =>
    have rest : ∀ b ∈ acts, b.isParting = true := fun b hb => h b (List.mem_cons_of_mem a hb)
    by_cases ha : a = .withdraw
    · subst ha
      obtain ⟨l, eq, distinct, places⟩ := ih rest { f with limiter := f.limiter.withdraw f.ticket }
      refine ⟨l, eq, fun hd => distinct (Limiter.distinct_withdraw hd f.ticket), fun _ => places (.inr ?_)⟩
      exact Limiter.places_withdraw_self f.limiter f.ticket
    · have same : f.perform a = f := by
        have := h a List.mem_cons_self
        cases a <;> first | exact absurd rfl ha | rfl | cases this
      obtain ⟨l, eq, distinct, places⟩ := ih rest f
      refine ⟨l, by rw [List.foldl_cons, same, eq], distinct, fun hp => places (hp.imp_left fun hw => ?_)⟩
      exact (List.mem_cons.1 hw).resolve_left fun hw => ha hw.symm

/-- the shard makes a step -/
def strike (x : Stimulus) (f : Station τ) : Station τ :=
  let t := f.runner.shard.step f.now x
  { t.acts.foldl perform f with runner := { f.runner with shard := t.shard } }

theorem performs_ticket (acts : List Act) (f : Station τ) : (acts.foldl perform f).ticket = f.ticket := by
  refine List.foldlRecOn acts perform (motive := fun g => g.ticket = f.ticket) rfl fun g hg a _ => ?_
  cases a <;> exact hg

theorem follow_ticket (t : Runner.Turn) (f : Station τ) : (f.follow t).ticket = f.ticket := performs_ticket t.acts f

/-- what holds of a station, apart from the calls that are out -/
structure Timely (p : ShardProfile) (b : UInt32) (f : Station τ) : Prop where
  profile : f.runner.shard.profile = p
  bucket : f.bucket = b
  distinct : f.limiter.Distinct
  stage : Stage p.identifyTimeout f.now f.unready f.stalled f.runner.extended f.runner.handshake? f.runner.shard.phase

/-- what holds of a station whose runner may still have to let go of what a connection left -/
structure Placed (p : ShardProfile) (b : UInt32) (f : Station τ) : Prop extends Timely p b f where
  /-- the call that is out waits on the bucket, and no other does -/
  places : f.places = if f.runner.shard.isQueued then [b] else []

/-- what holds of a station between two moves -/
structure Sound (p : ShardProfile) (b : UInt32) (f : Station τ) : Prop extends Placed p b f where
  calm : f.runner.Calm

section Sound

variable {p : ShardProfile} {b : UInt32} {f : Station τ} {x : Stimulus} {r : Runner}

/-! ### A step of the shard -/

/-- Whatever ends a connection, or the attempt to get one, leaves no call behind. -/
theorem Timely.parts (h : Timely p b f)
    (places : f.places = if f.runner.shard.isQueued && !x.isGrant then [b] else [])
    (gone : (f.runner.shard.step f.now x).shard.isOffline = true) : Placed p b (f.strike x) := by
  have profile : (f.runner.shard.step f.now x).shard.profile = p :=
    (Shard.step_profile f.now x f.runner.shard).trans h.profile
  obtain ⟨parting, withdraws⟩ := Shard.step_partings gone
  obtain ⟨l, eq, distinct, left⟩ := performs_parting parting f
  have none : l.places f.ticket = [] := by
    refine left ?_
    cases hq : f.runner.shard.isQueued && !x.isGrant with
    | true => exact .inl (withdraws hq)
    | false => exact .inr (by rw [hq] at places; exact places)
  rw [strike, eq]
  refine ⟨⟨profile, h.bucket, distinct h.distinct, .of_isOffline gone h.stage.unready_le⟩, ?_⟩
  rw [Shard.isQueued_of_isOffline gone]
  exact none

/-- With a dial the time starts over. -/
theorem Timely.dials (h : Timely p b f) (unqueued : f.places = []) (blank : f.runner.extended = none)
    (free : f.runner.handshake? = none) (dials : f.runner.shard.step f.now x = Shard.dial f.now f.runner.shard) :
    Placed p b (f.strike x) := by
  rw [strike, dials, Shard.dial_eq, performs_announced]
  refine ⟨⟨h.profile, h.bucket, h.distinct, ?_⟩, unqueued⟩
  have stage : Stage p.identifyTimeout f.now 0 0 none none
      (.dialling f.runner.shard.canResume (f.now + p.identifyTimeout)) := .dialling (.fresh _ _)
  rw [← h.profile, ← blank] at stage
  rw [← h.profile]
  exact free ▸ stage

/-- A connection that goes on calls for a permit once, after Hello. -/
theorem Timely.goesOn (h : Timely p b f)
    (places : f.places = if f.runner.shard.isQueued && !x.isGrant then [b] else [])
    (connected : f.runner.shard.isOffline = false) (here : (f.runner.shard.step f.now x).shard.isOffline = false) :
    Placed p b (f.strike x) := by
  have profile : (f.runner.shard.step f.now x).shard.profile = p :=
    (Shard.step_profile f.now x f.runner.shard).trans h.profile
  have outcome := Shard.step_outcome f.now x f.runner.shard
  have stage := h.stage.goesOn (congrArg (·.identifyTimeout) h.profile) outcome connected here
  rcases outcome.calls connected here with ⟨uncalled, queued⟩ | ⟨-, queued, acts, c, _, online, awaiting⟩
  · rw [strike, performs_uncalled uncalled]
    exact ⟨⟨profile, h.bucket, h.distinct, stage⟩, by rw [queued]; exact places⟩
  · have none : f.places = [] := by
      have greeting := h.stage
      rw [online] at greeting
      obtain ⟨rfl, -⟩ := greeting.of_awaiting awaiting
      simpa [Shard.isQueued, online] using places
    have joined := Limiter.places_request_self h.distinct none f.bucket f.now
    rw [strike, acts, performs_announced]
    refine ⟨⟨profile, h.bucket, Limiter.distinct_request h.distinct f.bucket f.ticket f.now, stage⟩, ?_⟩
    show Limiter.places (f.limiter.request f.bucket f.ticket f.now) f.ticket =
      if (f.runner.shard.step f.now x).shard.isQueued then [b] else []
    rw [queued, joined, h.bucket]
    rfl

/-- The shard makes a step; a permit is there before the shard knows of it. -/
theorem Timely.struck (h : Timely p b f)
    (blank : f.runner.shard.isOnline = false → f.runner.extended = none ∧ f.runner.handshake? = none)
    (places : f.places = if f.runner.shard.isQueued && !x.isGrant then [b] else []) : Placed p b (f.strike x) := by
  cases gone : (f.runner.shard.step f.now x).shard.isOffline with
  | true => exact h.parts places gone
  | false =>
    cases away : f.runner.shard.isOffline with
    | true =>
      have none : f.places = [] := by rw [places, Shard.isQueued_of_isOffline away]; rfl
      obtain ⟨unextended, free⟩ := blank (Shard.isOnline_of_isOffline away)
      exact h.dials none unextended free (Shard.step_dials away gone)
    | false => exact h.goesOn places away gone

/-! ### Steps of a runner -/

omit [DecidableEq τ] in
/-- What a station is about stays the same with a runner that has the same shard and the same handshake to send. -/
theorem Timely.alike (h : Timely p b f) (shard : r.shard = f.runner.shard) (extended : r.extended = f.runner.extended)
    (pending : r.handshake? = f.runner.handshake?) : Timely p b { f with runner := r } := by
  refine ⟨?_, h.bucket, h.distinct, ?_⟩
  · rw [shard]
    exact h.profile
  · rw [shard, extended, pending]
    exact h.stage

theorem Placed.alike (h : Placed p b f) (shard : r.shard = f.runner.shard) (extended : r.extended = f.runner.extended)
    (pending : r.handshake? = f.runner.handshake?) : Placed p b { f with runner := r } :=
  ⟨h.toTimely.alike shard extended pending, by rw [shard]; exact h.places⟩

/-- A shard without a connection lets go of what belonged to it. -/
theorem Placed.followed (h : Placed p b f) (extended : r.extended = f.runner.extended)
    (pending : r.handshake? = f.runner.handshake?) :
    Placed p b { f with runner := r.follow f.runner.shard } := by
  cases online : f.runner.shard.isOnline with
  | true =>
    rw [Runner.follow_online online]
    exact h.alike rfl extended pending
  | false =>
    rw [Runner.follow_offline online]
    exact ⟨⟨h.profile, h.bucket, h.distinct, h.stage.alone online⟩, h.places⟩

/-- The shard makes a step on a clock that ends, and its frames go into the outbox. -/
theorem Timely.performs (h : Timely p b f)
    (blank : f.runner.shard.isOnline = false → f.runner.extended = none ∧ f.runner.handshake? = none)
    (places : f.places = if f.runner.shard.isQueued && !x.isGrant then [b] else []) :
    Placed p b (f.follow (f.runner.perform f.now x)) := by
  have struck : Placed p b (f.strike x) := h.struck blank places
  rcases Shard.clocked_cases f.now x f.runner.shard with
    ⟨-, eq⟩ | ⟨-, rfl, -, -, -, -, eq⟩ | ⟨-, online, goesOn, -, eq⟩
  · rw [follow, Runner.perform, eq]
    exact struck.followed rfl rfl
  · rw [follow, Runner.perform, eq]
    exact (h.struck (x := .abort) blank places).followed rfl rfl
  · have broken : Placed p b ((f.strike x).strike .abort) :=
      struck.struck (fun gone => by cases goesOn.symm.trans gone) (by simpa [Stimulus.isGrant] using struck.places)
    rw [follow, Runner.perform, eq, Shard.Turn.next, List.foldl_append]
    rw [strike, strike, performs_with] at broken
    exact broken.followed rfl rfl

/-- The client's part of a handshake is done, and waits for room. -/
theorem Timely.begins (h : Timely p b f) (free : f.runner.handshake? = none)
    (online : f.runner.shard.isOnline = true) (timed : (f.runner.shard.step f.now x).isTimed = true)
    (places : f.places = if f.runner.shard.isQueued && !x.isGrant then [b] else []) {m : Message}
    (shard : r.shard = (f.runner.shard.step f.now x).shard) (extended : r.extended = f.runner.extended)
    (pending : r.handshake? = some m) :
    Placed p b (f.follow ⟨r, [x], (f.runner.shard.step f.now x).acts.filter fun a => !a.isFrame⟩) := by
  have connected {s : Shard} (hs : s.isOnline = true) : s.isOffline = false :=
    Bool.eq_false_iff.2 fun offline => by cases (Shard.isOnline_of_isOffline offline).symm.trans hs
  have begins := Shard.begins_of_timed timed online
  have stage := h.stage
  rw [free] at stage
  have stage := stage.waits (congrArg (·.identifyTimeout) h.profile) begins m
  rcases (Shard.step_outcome f.now x f.runner.shard).calls (connected online)
    (connected begins.isOnline) with
    ⟨uncalled, queued⟩ | ⟨-, -, acts, -⟩
  · rw [follow, performs_uncalled fun a ha => uncalled a (List.mem_filter.1 ha).1]
    refine ⟨⟨?_, h.bucket, h.distinct, ?_⟩, ?_⟩
    · rw [shard, Shard.step_profile]
      exact h.profile
    · rw [shard, extended, pending]
      exact stage
    · rw [shard, queued]
      exact places
  · rw [Shard.Turn.isTimed, acts, List.getLast?_concat] at timed
    cases timed

omit [DecidableEq τ] in
/-- A handshake that waited was sent. -/
theorem Timely.sends (h : Timely p b f) {m : Message} (waited : f.runner.handshake? = some m)
    (shard : r.shard = f.runner.shard) (pending : r.handshake? = none)
    (extended : r.extended = some (f.now + f.runner.shard.profile.identifyTimeout)) :
    Timely p b { f with runner := r } := by
  refine ⟨by rw [shard]; exact h.profile, h.bucket, h.distinct, ?_⟩
  rw [shard, pending, extended, h.profile]
  exact (waited ▸ h.stage).sent

/-- No permit is dealt with but by a shard that meets it. -/
theorem Sound.deals (h : Sound p b f) {v : Runner.Move} (hv : v.isGrant = false)
    (deals : f.runner.dealt? v = some x) : x.isGrant = false := by
  cases v with
  | meet y =>
    simp only [Runner.dealt?] at deals
    split at deals <;> cases deals
    exact hv
  | serve =>
    simp only [Runner.dealt?] at deals
    split at deals
    · next hand =>
      cases deals
      exact h.calm.ungranted x (.inl hand)
    · next hand =>
      cases deals
      exact h.calm.ungranted x (.inr hand)
    · split at deals <;> cases deals
      rfl
    · cases deals
  | refill =>
    simp only [Runner.dealt?] at deals
    split at deals <;> cases deals
    rfl

omit [DecidableEq τ] in
/-- A runner that has done nothing yet, but may not send what it had to send any more. -/
theorem Timely.eased (h : Timely p b f) (eased : Runner.Eased f.runner r)
    (pending : r.handshake? = f.runner.handshake? ∨ r.hand = none) : Timely p b { f with runner := r } := by
  rcases pending with same | free
  · exact h.alike eased.shard eased.extended same
  · refine ⟨by rw [eased.shard]; exact h.profile, h.bucket, h.distinct, ?_⟩
    rw [eased.shard, eased.extended, Runner.handshake?_of_free free]
    exact h.stage.unsent

/-- Nothing happens to the shard. -/
theorem Sound.rests (h : Sound p b f) (eased : Runner.Eased f.runner r)
    (pending : r.handshake? = f.runner.handshake?)
    (busy : r.hand = f.runner.hand ∨ r.hand = some .command ∧ f.runner.shard.isOnline = true) :
    Sound p b { f with runner := r } := by
  refine ⟨h.toPlaced.alike eased.shard eased.extended pending, h.calm.tidy.eased eased busy, fun x hx => ?_⟩
  rcases busy with same | ⟨commanded, -⟩
  · exact h.calm.ungranted x (hx.imp same.symm.trans same.symm.trans)
  · rcases hx with hx | hx <;> cases commanded.symm.trans hx

/-- The shard makes a step; `f` is as it was before, but for what the runner may have let go of. -/
theorem Timely.steps (h : Timely p b { f with runner := r }) (tidy : r.shard.isOnline = false →
      r.extended = none ∧ r.handshake? = none) (places : f.places = if r.shard.isQueued && !x.isGrant then [b] else [])
    (ungranted : ∀ y, r.hand = some (.reply y) ∨ r.hand = some (.parting y) → y.isGrant = false) :
    Sound p b (f.follow (r.perform f.now x)) := by
  have placed := h.performs tidy places
  rw [follow, performs_with] at placed
  refine ⟨placed, Runner.perform_tidy _ _ _, fun y hy => ?_⟩
  rcases Runner.perform_hand f.now x r with free | same
  · rcases hy with hy | hy <;> cases free.symm.trans hy
  · exact ungranted y (hy.imp same.symm.trans same.symm.trans)

/-- The shard makes a step that no permit asks for. -/
theorem Sound.performs (h : Sound p b f) (eased : Runner.Eased f.runner r)
    (hand : r.hand = none ∨ r.hand = f.runner.hand) (ungranted : x.isGrant = false) :
    Sound p b (f.follow (r.perform f.now x)) := by
  have pending : r.handshake? = f.runner.handshake? ∨ r.hand = none := hand.symm.imp_left fun same => by
    rw [Runner.handshake?, same]
    rfl
  refine (h.eased eased pending).steps (fun offline => ?_) ?_ fun y hy => ?_
  · obtain ⟨free, -, unextended⟩ := h.calm.tidy (eased.shard ▸ offline)
    exact ⟨eased.extended.trans unextended, Runner.handshake?_of_free (hand.elim id fun same => same.trans free)⟩
  · rw [eased.shard, ungranted, Bool.not_false, Bool.and_true]
    exact h.places
  · rcases hand with free | same
    · rcases hy with hy | hy <;> cases free.symm.trans hy
    · exact h.calm.ungranted y (hy.imp same.symm.trans same.symm.trans)

/-- The shard waits for room before it does anything. -/
theorem Sound.postpones (h : Sound p b f) (eased : Runner.Eased f.runner r) (free : f.runner.handshake? = none)
    {now : Nat} {a : Act} (frame : (r.shard.step now x).acts.find? Act.isFrame = some a) {k : Runner.Hand}
    {o : Outbox} (hand : k = .reply x ∨ k = .parting x) (ungranted : x.isGrant = false) :
    Sound p b { f with runner := { r with hand := some k, outbox := o } } := by
  have online := Shard.online_of_frame (List.mem_of_find?_eq_some frame) (List.find?_some frame)
  have blank : Runner.handshake? { r with hand := some k, outbox := o } = f.runner.handshake? := by
    rw [free]
    rcases hand with rfl | rfl <;> rfl
  refine ⟨h.toPlaced.alike eased.shard eased.extended blank, fun offline => ?_, fun y hy => ?_⟩
  · cases online.symm.trans offline
  · rcases hand with rfl | rfl <;> rcases hy with hy | hy <;> cases hy <;> exact ungranted

/-- The client's part of a handshake is done, and waits for room. -/
theorem Timely.waits (h : Timely p b f) (eased : Runner.Eased f.runner r) (hand : r.hand = none)
    {m : Message}
    (frame : (r.shard.step f.now x).acts.find? Act.isFrame = some (.write m))
    (timed : (r.shard.step f.now x).isTimed = true)
    (places : f.places = if f.runner.shard.isQueued && !x.isGrant then [b] else []) {o : Outbox} :
    Sound p b (f.follow ⟨{ r with shard := (r.shard.step f.now x).shard, hand := some (.handshake m), outbox := o },
      [x], (r.shard.step f.now x).acts.filter fun a => !a.isFrame⟩) := by
  have online := Shard.online_of_frame (List.mem_of_find?_eq_some frame) rfl
  have begun := Shard.begins_of_timed timed online
  have placed := (h.eased eased (.inr hand)).begins (Runner.handshake?_of_free hand) online timed
    (by rw [eased.shard]; exact places)
    (r := { r with shard := (r.shard.step f.now x).shard, hand := some (.handshake m), outbox := o }) rfl rfl rfl
  rw [follow, performs_with] at placed
  refine ⟨placed, fun offline => ?_, fun y hy => ?_⟩
  · cases begun.isOnline.symm.trans offline
  · rcases hy with hy | hy <;> cases hy

/-- A beat finds no room. -/
theorem Sound.holds (h : Sound p b f) (frame : (f.runner.shard.step f.now .beat).acts.any Act.isFrame = true)
    {o : Outbox} :
    Sound p b
      (f.follow ⟨{ f.runner with shard := (f.runner.shard.step f.now .beat).shard, outbox := o }, [.beat], []⟩) := by
  obtain ⟨a, ha, framed⟩ := List.any_eq_true.1 frame
  have online := Shard.online_of_frame ha framed
  have struck : Placed p b (f.strike .beat) := by
    refine h.struck (fun offline => ?_) ?_
    · cases online.symm.trans offline
    · rw [show Stimulus.isGrant .beat = false from rfl, Bool.not_false, Bool.and_true]
      exact h.places
  rw [strike, performs_uncalled (Shard.beat_uncalled f.now online)] at struck
  refine ⟨struck.alike rfl rfl rfl, fun offline => ?_, h.calm.ungranted⟩
  cases (Shard.step_beat_online f.now online).symm.trans offline

/-- A handshake that waited is written, and its time begins, on a clock that ends. -/
theorem Sound.writes (h : Sound p b f) {m : Message} (waited : f.runner.handshake? = some m)
    (eased : Runner.Eased f.runner { r with extended := f.runner.extended }) (hand : r.hand = none)
    (extended : r.extended = some (f.now + f.runner.shard.profile.identifyTimeout)) :
    Sound p b (f.follow (if f.runner.shard.outlasts f.now then
      Runner.Turn.next ⟨r, [], [.write m]⟩ (Runner.perform f.now .abort) else ⟨r, [], [.write m]⟩)) := by
  have shard : r.shard = f.runner.shard := eased.shard
  have online : r.shard.isOnline = true :=
    shard ▸ h.calm.tidy.online_of_hand (Runner.hand_of_handshake? waited)
  have timely : Timely p b { f with runner := r } :=
    h.sends waited shard (Runner.handshake?_of_free hand) extended
  have unpromised (y : Stimulus) (hy : r.hand = some (.reply y) ∨ r.hand = some (.parting y)) : y.isGrant = false := by
    rcases hy with hy | hy <;> cases hand.symm.trans hy
  split
  · refine timely.steps (x := .abort) (fun offline => ?_) ?_ unpromised
    · cases online.symm.trans offline
    · rw [shard, show Stimulus.isGrant .abort = false from rfl, Bool.not_false, Bool.and_true]
      exact h.places
  · refine ⟨⟨timely, ?_⟩, fun offline => ?_, unpromised⟩
    · show f.places = if r.shard.isQueued then [b] else []
      rw [shard]
      exact h.places
    · cases online.symm.trans offline

/-- Something happens to the shard or its outbox. -/
theorem Sound.moved (h : Sound p b f) {v : Runner.Move} (hv : v.isGrant = false) : Sound p b (f.move v) := by
  have hc := Runner.step_course f.now v f.runner
  unfold move
  generalize f.runner.step f.now v = t at hc ⊢
  cases hc with
  | rests eased pending busy answers =>
    rw [follow, performs_uncalled (Shard.forall_answers answers fun _ _ => rfl)]
    exact h.rests eased pending busy
  | makes deals eased hand => exact h.performs eased (hand.imp And.left And.right) (h.deals hv deals)
  | parts deals waited eased hand =>
    rw [follow, performs_shown]
    exact h.performs eased (.inl hand) (h.deals hv deals)
  | begins deals eased free hand room frame timed =>
    refine h.toTimely.waits eased hand frame timed ?_
    rw [h.deals hv deals, Bool.not_false, Bool.and_true]
    exact h.places
  | postpones deals eased free hand room frame untimed =>
    exact h.postpones eased free frame (.inl rfl) (h.deals hv deals)
  | prepares deals eased free hand room frame =>
    rw [follow, performs_uncalled fun a ha => Runner.isCall_of_shown (Runner.isShown_of_mem ha)]
    exact h.postpones eased free frame (.inr rfl) (h.deals hv deals)
  | holds room frame => exact h.holds frame
  | sends waited eased hand =>
    rw [follow, performs_uncalled (by simp [Act.isCall])]
    exact h.rests eased (by rw [Runner.handshake?, hand]; rfl) (.inl hand)
  | writes waited eased hand extended => exact h.writes waited eased hand extended

/-! ### Permits -/

/-- A permit reaches a shard that does not wait for room. -/
theorem Timely.granted (h : Timely p b f) (calm : f.runner.Calm) (unqueued : f.places = [])
    (free : f.runner.hand = none) : Sound p b (f.move (.meet .granted)) := by
  have places : f.places = if f.runner.shard.isQueued && !Stimulus.isGrant .granted then [b] else [] := by
    rw [show Stimulus.isGrant .granted = true from rfl, Bool.not_true, Bool.and_false]
    exact unqueued
  have performs : Sound p b (f.follow (f.runner.perform f.now .granted)) := by
    refine Timely.steps h (fun offline => ?_) places calm.ungranted
    exact ⟨(calm.tidy offline).2.2, Runner.handshake?_of_free free⟩
  have dealt : f.runner.step f.now (.meet .granted) = f.runner.deal f.now .granted := by
    simp [Runner.step, Runner.meet, free]
  rw [move, dealt]
  cases room : f.runner.outbox.hasRoom with
  | true =>
    rw [Runner.deal_of_room room]
    exact performs
  | false =>
    cases frame : (f.runner.shard.step f.now .granted).acts.find? Act.isFrame with
    | none =>
      rw [Runner.deal, frame]
      exact performs
    | some a =>
      obtain ⟨m, rfl, timed⟩ := Shard.timed_of_granted frame
      rw [Runner.deal_of_full room frame timed]
      exact h.waits (.refl f.runner) free frame timed places

/-- A permit reaches the shard that called for it, and nobody else's does. -/
theorem Timely.takes (h : Timely p b f) (calm : f.runner.Calm) {grants : List (Grant τ)}
    (granted : Grant.places grants f.ticket = [b] ∧ f.places = [] ∧ f.runner.hand = none ∨
      Grant.places grants f.ticket = [] ∧ f.places = if f.runner.shard.isQueued then [b] else []) :
    Sound p b (grants.foldl take f) := by
  induction grants generalizing f with
  | nil =>
    rcases granted with ⟨one, -⟩ | ⟨-, places⟩
    · cases one
    · exact ⟨⟨h, places⟩, calm⟩
  | cons g grants ih =>
    rw [List.foldl_cons]
    by_cases own : g.ticket = f.ticket
    · have first : Grant.places (g :: grants) f.ticket = g.bucket :: Grant.places grants f.ticket := by
        simp [Grant.places, own]
      rw [first] at granted
      rcases granted with ⟨one, unqueued, free⟩ | ⟨none, -⟩
      · have struck := h.granted calm unqueued free
        rw [take, if_pos own]
        refine ih struck.toTimely struck.calm (.inr ⟨?_, struck.places⟩)
        rw [move, follow_ticket]
        exact (List.cons.inj one).2
      · cases none
    · have same : Grant.places (g :: grants) f.ticket = Grant.places grants f.ticket := by simp [Grant.places, own]
      rw [same] at granted
      rw [take, if_neg own]
      exact ih h calm granted

theorem Sound.settled (h : Sound p b f) (time : Nat) : Sound p b (f.settle time) := by
  have perm := Limiter.places_settle f.limiter time f.ticket
  have timely : Timely p b { f with limiter := (f.limiter.settle time).2 } :=
    ⟨h.profile, h.bucket, Limiter.distinct_settle h.distinct time, h.stage⟩
  have places : f.limiter.places f.ticket = if f.runner.shard.isQueued then [b] else [] := h.places
  rw [places] at perm
  unfold settle
  dsimp only
  split
  · exact h
  · next takes =>
    refine timely.takes h.calm ?_
    cases hq : f.runner.shard.isQueued with
    | false =>
      rw [hq] at perm
      obtain ⟨granted, left⟩ := List.append_eq_nil_iff.1 (List.nil_perm.1 perm)
      exact .inr ⟨granted, by simpa [Station.places, hq] using left⟩
    | true =>
      rw [hq] at perm
      rcases List.append_eq_singleton_iff.1 (List.perm_singleton.1 perm.symm) with ⟨granted, left⟩ | ⟨granted, left⟩
      · exact .inr ⟨granted, by simpa [Station.places, hq] using left⟩
      · refine .inl ⟨granted, left, ?_⟩
        simpa [Grant.any_of_places granted] using takes

/-- A call that waits keeps its place when the limiter is cleared. -/
theorem Sound.cleared (h : Sound p b f) : Sound p b { f with limiter := f.limiter.clear } := by
  refine ⟨⟨⟨h.profile, h.bucket, Limiter.distinct_clear f.limiter, h.stage⟩, ?_⟩, h.calm⟩
  have perm := Limiter.places_clear f.limiter f.ticket
  have places : f.limiter.places f.ticket = if f.runner.shard.isQueued then [b] else [] := h.places
  rw [places] at perm
  show f.limiter.clear.places f.ticket = if f.runner.shard.isQueued then [b] else []
  cases hq : f.runner.shard.isQueued with
  | false =>
    rw [hq] at perm
    exact List.perm_nil.1 perm
  | true =>
    rw [hq] at perm
    exact List.perm_singleton.1 perm

theorem Sound.passed (h : Sound p b f) {time : Nat} (later : f.now ≤ time)
    (due : ∀ d ∈ f.runner.timeoutDue?, time ≤ d) : Sound p b (f.pass time) := by
  have stage := h.stage.passes h.calm.tidy later due
  have counts : (f.runner.isUnready && f.places.isEmpty) = (f.runner.isUnready && !f.runner.shard.isQueued) := by
    rw [h.places]
    cases f.runner.shard.isQueued <;> rfl
  refine ⟨⟨⟨h.profile, h.bucket, h.distinct, ?_⟩, h.places⟩, h.calm⟩
  simp only [pass, counts]
  exact stage

theorem step_sound (h : Sound p b f) (move : Move τ) : Sound p b (f.step move) := by
  cases move with
  | tick time =>
    simp only [step]
    split
    · next ht =>
      obtain ⟨later, due⟩ := Bool.and_eq_true_iff.1 ht
      refine h.passed (of_decide_eq_true later) fun d hd => ?_
      rw [Option.mem_def.1 hd] at due
      exact of_decide_eq_true due
    · exact h
  | settle time =>
    simp only [step]
    split
    · exact h.settled time
    · exact h
  | happen v =>
    simp only [step]
    split
    · exact h
    · next hv => exact h.moved (Bool.eq_false_iff.2 hv)
  | request bucket ticket =>
    simp only [step]
    split
    · exact h
    · next other =>
      refine ⟨⟨⟨h.profile, h.bucket, Limiter.distinct_request h.distinct bucket ticket f.now, h.stage⟩, ?_⟩, h.calm⟩
      exact (Limiter.places_request_other other f.limiter bucket f.now).trans h.places
  | withdraw ticket =>
    simp only [step]
    split
    · exact h
    · next other =>
      refine ⟨⟨⟨h.profile, h.bucket, Limiter.distinct_withdraw h.distinct ticket, h.stage⟩, ?_⟩, h.calm⟩
      exact (Limiter.places_withdraw_other other f.limiter).trans h.places
  | clear => exact h.cleared

theorem run_sound (moves : List (Move τ)) (h : Sound p b f) : Sound p b (f.run moves) :=
  List.foldlRecOn moves step h fun _ hg move _ => step_sound hg move

/-- A shard that is about to start has asked for nothing. -/
theorem opening_sound (p : ShardProfile) (address : ShardAddress) (b : UInt32) (ticket : τ) (window now start : Nat) :
    Sound p b (opening p address b ticket window now start) where
  profile := rfl
  bucket := rfl
  distinct := List.Pairwise.nil
  stage := Stage.of_isOffline rfl (by simp [opening])
  places := rfl
  calm := ⟨fun _ => ⟨rfl, rfl, rfl⟩, fun _ hx => by rcases hx with hx | hx <;> cases hx⟩

end Sound

/-! ## Handshakes in time -/

/-- A handshake that is timed: nothing is waited for but the gateway. -/
structure Timed (timeout : Nat) (f : Station τ) (due : Nat) : Prop where
  timed : f.runner.timeoutDue? = some due
  /-- it may be too late already, if the shard waited for room before -/
  ahead : f.now ≤ due ∨ 0 < f.stalled
  unqueued : f.places = []
  /-- when the deadline comes, it will have been unready for one timeout at least, the time of queueing not counted -/
  least : timeout ≤ f.unready + f.stalled + (due - f.now)
  /-- and for two at most, the time in which the shard waited for room not counted either -/
  most : f.unready + (due - f.now) ≤ 2 * timeout
  /-- before it, the timer does nothing -/
  patient : ∀ t < due,
    (f.runner.step t (.meet .timeout)).runner = f.runner ∧ (f.runner.step t (.meet .timeout)).acts = []
  /-- from then on it closes the connection as soon as there is room, and the shard tries again with the same session -/
  recycles : ∀ t ≥ due,
    let turn := f.runner.step t (.meet .timeout)
    if f.runner.outlet = .full then
      turn.runner.shard = f.runner.shard ∧ turn.runner.hand = some (.parting .timeout)
    else
      Concludes t f.runner.shard .timeout (.recycled "handshake timed out") ⟨turn.runner.shard, turn.acts⟩

/-- A handshake that waits for a permit: it may do so for as long as it takes. -/
structure Queueing (timeout : Nat) (b : UInt32) (f : Station τ) : Prop where
  untimed : f.runner.timeoutDue? = none
  queued : f.places = [b]
  unready : f.unready ≤ timeout
  patient : ∀ t, (f.runner.step t (.meet .timeout)).runner = f.runner ∧ (f.runner.step t (.meet .timeout)).acts = []

/-- A connection that is not ready, of a shard that does not wait for room. -/
theorem Sound.handshake {p : ShardProfile} {b : UInt32} {f : Station τ} (h : Sound p b f) {c : Connection}
    (hc : f.runner.shard.connection? = some c) (free : f.runner.hand = none) (unready : c.status.isReady = false) :
    (∃ due, f.Timed p.identifyTimeout due) ∨ f.Queueing p.identifyTimeout b := by
  obtain ⟨queued, hp⟩ : ∃ queued, f.runner.shard.phase = .online c queued := ⟨_, Shard.online_of_connection? hc⟩
  have due (deadline : Nat) (hd : c.deadline = some deadline) :
      f.runner.timeoutDue? = some (max deadline (f.runner.extended.getD 0)) := by
    simp [Runner.timeoutDue?, free, Shard.timeoutDue?_unready hp unready, hd]
  have timed {limit time : Nat} (ht : f.runner.timeoutDue? = some time) (queued : f.runner.shard.isQueued = false)
      (runs : Shard.Runs p.identifyTimeout limit f.now f.unready f.stalled time) (small : limit ≤ 2 * p.identifyTimeout) :
      f.Timed p.identifyTimeout time := by
    refine ⟨ht, runs.ahead, by simpa [queued] using h.places, runs.least, Nat.le_trans runs.most small, fun t early => ?_,
      fun t late => Runner.timeout_recycles free hp ht late⟩
    refine Runner.timeout_early free hp fun d hd => ?_
    cases ht.symm.trans hd
    exact early
  have stage := h.stage
  generalize hx : f.runner.extended = extended at stage due
  generalize hm : f.runner.handshake? = pending at stage
  generalize hs : f.runner.shard.phase = phase at stage
  cases hp.symm.trans hs
  cases stage with
  | greeting awaiting hd runs =>
    have time := due _ hd
    rw [Option.getD_none, Nat.max_zero] at time
    exact .inl ⟨_, timed time (by simp [Shard.isQueued, hp]) runs (by omega)⟩
  | queueing identifying untimed spent =>
    have none : f.runner.timeoutDue? = none := by
      simp [Runner.timeoutDue?, Shard.timeoutDue?_unready hp unready, untimed]
    refine .inr ⟨none, by simpa [Shard.isQueued, hp] using h.places, spent, fun t => ?_⟩
    refine Runner.timeout_early free hp fun d hd => ?_
    cases none.symm.trans hd
  | sending => cases (Runner.handshake?_of_free free).symm.trans hm
  | answering identifying hd runs =>
    exact .inl ⟨_, timed (due _ hd) (by simp [Shard.isQueued, hp]) runs (Nat.le_refl _)⟩
  | ready ready => cases unready.symm.trans ready

/-- Without a ready connection, a shard that does not wait for room spends no more than two timeouts outside the queue.
A connection that is not ready, of a shard that does not wait for room, has a deadline or a call that waits on the
shard's bucket, and never both; the deadline may have passed only if the shard waited before. -/
theorem handshakes_bounded (profile : ShardProfile) (address : ShardAddress) (bucket : UInt32) (ticket : τ)
    (window now start : Nat) (moves : List (Move τ)) :
    let f := (opening profile address bucket ticket window now start).run moves
    f.unready ≤ 2 * profile.identifyTimeout ∧
      ∀ c, f.runner.shard.connection? = some c → c.status.isReady = false → f.runner.hand = none →
        Xor (∃ due, f.runner.timeoutDue? = some due ∧ (f.now ≤ due ∨ 0 < f.stalled)) (bucket ∈ f.places) ∧
          ((∃ due, f.Timed profile.identifyTimeout due) ∨ f.Queueing profile.identifyTimeout bucket) := by
  intro f
  have sound : Sound profile bucket f := run_sound moves (opening_sound ..)
  refine ⟨sound.stage.unready_le, fun c hc unready free => ?_⟩
  have handshake := sound.handshake hc free unready
  refine ⟨?_, handshake⟩
  rcases handshake with ⟨due, timed⟩ | queueing
  · exact .inl ⟨⟨due, timed.timed, timed.ahead⟩, by simp [timed.unqueued]⟩
  · refine .inr ⟨by simp [queueing.queued], fun ⟨deadline, hd, _⟩ => ?_⟩
    cases queueing.untimed.symm.trans hd

/-- nine others queue before a shard, which is greeted after four seconds -/
def crowd : List (Move Nat) :=
  (List.range 9).map (fun n => .request 0 (n + 1)) ++
  [.happen (.meet .timeout), .tick 2000, .happen (.meet .opened), .tick 4000, .happen (.meet (.text helloText 0)),
    .tick 44999, .settle 44999]

/-- then its turn comes -/
def called : List (Move Nat) := crowd ++ [.tick 45000, .settle 45000, .tick 60000]

/-- Its turn comes after more time than a handshake may take, and only then does that time go on. -/
theorem handshakes_bounded_crowd :
    let f := (opening (.usual "t") .only 0 0 Limiter.gatewayWindow 0 0).run crowd
    let g := (opening (.usual "t") .only 0 0 Limiter.gatewayWindow 0 0).run called
    (f.unready = 4000 ∧ f.Queueing 30000 0) ∧ g.unready = 19000 ∧ g.Timed 30000 75000 := by
  have waits := (handshakes_bounded (.usual "t") .only 0 0 Limiter.gatewayWindow 0 0 crowd).2
  have answers := (handshakes_bounded (.usual "t") .only 0 0 Limiter.gatewayWindow 0 0 called).2
  have early : let f := (opening (.usual "t") .only 0 0 Limiter.gatewayWindow 0 0).run crowd
      f.unready = 4000 ∧ f.runner.hand.isNone = true ∧ f.runner.timeoutDue? = none ∧
        ∃ c ∈ f.runner.shard.connection?, c.status.isReady = false := by decide +kernel
  have late : let g := (opening (.usual "t") .only 0 0 Limiter.gatewayWindow 0 0).run called
      g.unready = 19000 ∧ g.runner.hand.isNone = true ∧ g.runner.timeoutDue? = some 75000 ∧
        ∃ c ∈ g.runner.shard.connection?, c.status.isReady = false := by decide +kernel
  generalize (opening (.usual "t") .only 0 0 Limiter.gatewayWindow 0 0).run crowd = f at waits early ⊢
  generalize (opening (.usual "t") .only 0 0 Limiter.gatewayWindow 0 0).run called = g at answers late ⊢
  obtain ⟨spent, free, untimed, c, hc, unready⟩ := early
  obtain ⟨spent', free', timed', c', hc', unready'⟩ := late
  refine ⟨⟨spent, ?_⟩, spent', ?_⟩
  · rcases waits c hc unready (Option.isNone_iff_eq_none.1 free) with ⟨-, ⟨due, timed⟩ | queueing⟩
    · cases untimed.symm.trans timed.timed
    · exact queueing
  · rcases answers c' hc' unready' (Option.isNone_iff_eq_none.1 free') with ⟨-, ⟨due, timed⟩ | queueing⟩
    · cases timed'.symm.trans timed.timed
      exact timed
    · cases queueing.untimed.symm.trans timed'

/-- more heartbeats are asked for than there is room for, on a connection that no frame is taken from -/
def unread : List (Move Nat) :=
  [.happen (.meet .timeout), .happen (.meet .opened)] ++ List.replicate 129 (.happen (.meet (.text requestText 0))) ++
    [.tick 1000000]

/-- A handshake that neither runs until a deadline ahead nor queues for a permit: the shard waits for room, and the
connection stays open without being ready for as long as nothing is taken from it. -/
theorem handshake_stalls :
    let f := (opening (.usual "t") .only 0 0 Limiter.gatewayWindow 0 0).run unread
    (∃ c ∈ f.runner.shard.connection?, c.status.isReady = false ∧ c.deadline = some 30000) ∧ 30000 < f.now ∧
      f.places = [] ∧ 2 * 30000 < f.unready + f.stalled := by
  decide +kernel

end Station

end Shardwire
