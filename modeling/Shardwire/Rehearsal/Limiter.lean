import Shardwire.Buckets
import Shardwire.Limiter
import Shardwire.Rehearsal.Stage

/-
A rehearsal of the identify limiter: tasks and a caller who wait for permits.
-/

namespace Shardwire.Rehearsal.Limiter

/-- who waits -/
inductive Waiter where
  | caller
  /-- a task, by its number -/
  | task (n : Nat)
  deriving DecidableEq, Repr

inductive Step where
  | acquire (bucket : UInt32)
  /-- gives up after some time -/
  | acquireWithin (bucket : UInt32) (ms : Nat)
  /-- starts a task per bucket that waits for a permit -/
  | spawn (buckets : List UInt32)
  | advance (ms : Nat)
  | last (bucket : UInt32)
  | clear

inductive Reply where
  | nothing
  | granted (g : Grant Waiter)
  | timedOut
  | time (t : Option Nat)

structure World where
  now : Nat
  limiter : Limiter Waiter
  /-- tasks started so far -/
  tasks : Nat
  /-- grants of the present step, in the order they were made in -/
  grants : List (Grant Waiter)

def opening (window : Nat) : World := ⟨0, .fresh window, 0, []⟩

/-- grants what is due now -/
def react? (w : World) : Option World :=
  match w.limiter.settle w.now with
  | ([], _) => none
  | (grants, limiter) => some { w with limiter := limiter, grants := w.grants ++ grants }

def stage : Stage World where
  now := (·.now)
  moveTo := fun t w => { w with now := t }
  react? := react?
  next? := fun w => w.limiter.nextDue?

/-- the caller's grant in the present step -/
def callerGrant? (w : World) : Option (Grant Waiter) := w.grants.find? fun g => g.ticket == .caller

/-- what happened in one step -/
structure Entry where
  time : Nat
  reply : Reply
  /-- grants of tasks, by time and number -/
  grants : List (Nat × Nat × UInt32)
  count : Nat

def taskGrants (w : World) : List (Nat × Nat × UInt32) :=
  (w.grants.filterMap fun g => match g.ticket with
    | .task n => some (g.time, n, g.bucket)
    | .caller => none).mergeSort fun a b => a.1 < b.1 || (a.1 == b.1 && a.2.1 ≤ b.2.1)

def perform (w : World) : Step → Reply × World
  | .acquire bucket =>
    let w := stage.await (fun w => (callerGrant? w).isSome) { w with limiter := w.limiter.request bucket .caller w.now }
    (match callerGrant? w with
      | some g => .granted g
      | none => .nothing, w)
  | .acquireWithin bucket ms =>
    let w := stage.playUntil (fun w => (callerGrant? w).isSome) (w.now + ms)
      { w with limiter := w.limiter.request bucket .caller w.now }
    match callerGrant? w with
    | some g => (.granted g, w)
    | none => (.timedOut, { w with limiter := w.limiter.withdraw .caller })
  | .spawn buckets =>
    (.nothing, stage.settle (buckets.foldl (fun w b =>
      { w with limiter := w.limiter.request b (.task w.tasks) w.now, tasks := w.tasks + 1 }) w))
  | .advance ms => (.nothing, stage.advance ms w)
  | .last bucket => (.time (w.limiter.last? bucket), w)
  | .clear => (.nothing, stage.settle { w with limiter := w.limiter.clear })

def play (w : World) : List Step → List Entry
  | [] => []
  | s :: rest =>
    let r := perform { w with grants := [] } s
    ⟨r.2.now, r.1, taskGrants r.2, r.2.limiter.count⟩ :: play r.2 rest

/-! ## Slots of buckets -/

/-- permits asked for one after another, each after the one before was granted -/
def slots (set : Buckets) (w : World) : List UInt32 → List (Except Fault (UInt32 × Nat))
  | [] => []
  | id :: rest =>
    match set.slot id with
    | .error f => .error f :: slots set w rest
    | .ok b =>
      let r := perform { w with grants := [] } (.acquire b.id)
      match r.1 with
      | .granted g => .ok (g.bucket, g.time) :: slots set r.2 rest
      | _ => slots set r.2 rest

end Shardwire.Rehearsal.Limiter
