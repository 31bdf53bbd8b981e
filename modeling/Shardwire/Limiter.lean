/-
The identify limiter: one identify per bucket and window.

A caller that wants to identify on a bucket requests a permit under a ticket and waits. Each bucket has a clock with the
time of its last grant and the calls that wait, in order of arrival. The call in front is due when it arrives or a
window after the last grant, whichever is later. `settle` grants whatever is due and gives every grant its due time, no
matter how late it is called. A withdrawn call takes no slot.

`clear` forgets the clocks. Calls that already wait keep the clock they wait on; a later call starts on a new one.

Times are in milliseconds. `settleClock_due`: what is left after settling is not due.
-/

namespace Shardwire

/-- a call that waits for a permit -/
structure Call (τ : Type) where
  ticket : τ
  /-- when it arrived -/
  since : Nat
  deriving DecidableEq, Repr

/-- one bucket's grants -/
structure BucketClock (τ : Type) where
  bucket : UInt32
  /-- time of the last grant -/
  last : Option Nat
  /-- in order of arrival -/
  waiting : List (Call τ)
  deriving DecidableEq, Repr

/-- a permit that was granted -/
structure Grant (τ : Type) where
  bucket : UInt32
  ticket : τ
  time : Nat
  deriving DecidableEq, Repr

structure Limiter (τ : Type) where
  /-- least time between two grants of one bucket -/
  window : Nat
  /-- a clock for every bucket in use -/
  clocks : List (BucketClock τ)
  /-- clocks that were cleared while calls waited on them -/
  retired : List (BucketClock τ)
  deriving DecidableEq, Repr

namespace Limiter

/-- the gateway's window -/
def gatewayWindow : Nat := 5000

def fresh {τ : Type} (window : Nat) : Limiter τ := ⟨window, [], []⟩

/-- when a call is due, given the last grant before it -/
def dueTime (window : Nat) (last : Option Nat) (since : Nat) : Nat :=
  match last with
  | none => since
  | some last => max since (last + window)

/-! ## Clocks -/

/-- grants among waiting calls, the last grant after them, and the calls that go on waiting -/
def grantsDue {τ : Type} (window now : Nat) :
    Option Nat → List (Call τ) → List (τ × Nat) × Option Nat × List (Call τ)
  | last, [] => ([], last, [])
  | last, c :: rest =>
    let time := dueTime window last c.since
    if time ≤ now then
      let r := grantsDue window now (some time) rest
      ((c.ticket, time) :: r.1, r.2)
    else ([], last, c :: rest)

/-- grants whatever is due on a clock -/
def settleClock {τ : Type} (window now : Nat) (c : BucketClock τ) : List (Grant τ) × BucketClock τ :=
  let r := grantsDue window now c.last c.waiting
  (r.1.map fun g => ⟨c.bucket, g.1, g.2⟩, { c with last := r.2.1, waiting := r.2.2 })

/-- when the call in front is due -/
def clockDue? {τ : Type} (window : Nat) (c : BucketClock τ) : Option Nat :=
  c.waiting.head?.map fun call => dueTime window c.last call.since

/-! ## Operations -/

variable {τ : Type}

/-- a call arrives -/
def request (l : Limiter τ) (bucket : UInt32) (ticket : τ) (now : Nat) : Limiter τ :=
  if l.clocks.any fun c => c.bucket == bucket then
    { l with clocks := l.clocks.map fun c =>
        if c.bucket = bucket then { c with waiting := c.waiting ++ [⟨ticket, now⟩] } else c }
  else { l with clocks := l.clocks ++ [⟨bucket, none, [⟨ticket, now⟩]⟩] }

/-- grants whatever is due -/
def settle (l : Limiter τ) (now : Nat) : List (Grant τ) × Limiter τ :=
  let live := l.clocks.map (settleClock l.window now)
  let old := l.retired.map (settleClock l.window now)
  (live.flatMap (·.1) ++ old.flatMap (·.1),
    { l with clocks := live.map (·.2), retired := (old.map (·.2)).filter fun c => !c.waiting.isEmpty })

/-- when the next grant is due -/
def nextDue? (l : Limiter τ) : Option Nat :=
  ((l.clocks ++ l.retired).filterMap (clockDue? l.window)).min?

/-- takes back the call of a ticket -/
def withdraw [DecidableEq τ] (l : Limiter τ) (ticket : τ) : Limiter τ :=
  let leave (c : BucketClock τ) : BucketClock τ :=
    { c with waiting := c.waiting.filter fun call => call.ticket ≠ ticket }
  { l with clocks := l.clocks.map leave, retired := (l.retired.map leave).filter fun c => !c.waiting.isEmpty }

/-- time of a bucket's last grant; unknown while a call waits on the bucket -/
def last? (l : Limiter τ) (bucket : UInt32) : Option Nat :=
  match l.clocks.find? fun c => c.bucket == bucket with
  | some c => if c.waiting.isEmpty then c.last else none
  | none => none

/-- buckets with a clock -/
def count (l : Limiter τ) : Nat := l.clocks.length

/-- forgets the clocks -/
def clear (l : Limiter τ) : Limiter τ :=
  { l with clocks := [], retired := l.retired ++ l.clocks.filter fun c => !c.waiting.isEmpty }

/-! ## Settling -/

theorem grantsDue_rest (window now : Nat) (last : Option Nat) (calls : List (Call τ)) :
    ∀ c ∈ (grantsDue window now last calls).2.2.head?,
      now < dueTime window (grantsDue window now last calls).2.1 c.since := by
  induction calls generalizing last with
  | nil => simp [grantsDue]
  | cons c rest ih =>
    by_cases h : dueTime window last c.since ≤ now
    · simpa [grantsDue, h] using ih (some (dueTime window last c.since))
    · simpa [grantsDue, h] using Nat.lt_of_not_le h

/-- What is left after settling is not due. -/
theorem settleClock_due (window now : Nat) (c : BucketClock τ) :
    ∀ t ∈ clockDue? window (settleClock window now c).2, now < t := by
  intro t ht
  simp only [clockDue?, settleClock, Option.mem_def, Option.map_eq_some_iff] at ht
  obtain ⟨call, hcall, rfl⟩ := ht
  exact grantsDue_rest window now c.last c.waiting call hcall

end Limiter

end Shardwire
