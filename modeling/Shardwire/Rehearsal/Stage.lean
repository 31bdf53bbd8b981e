/-
A rehearsal plays a part of the library on a virtual clock.

The clock stands still while things happen that take no time, and then jumps to the moment the next thing is due. Time
is in milliseconds and starts at 0.
-/

namespace Shardwire.Rehearsal

/-- a world with a clock -/
structure Stage (σ : Type) where
  now : σ → Nat
  moveTo : Nat → σ → σ
  /-- the next thing that happens without time passing, if there is one -/
  react? : σ → Option σ
  /-- when something is due next -/
  next? : σ → Option Nat

namespace Stage

variable {σ : Type}

/-- lets things happen until all is quiet, at most `fuel` of them -/
def settleFor (stage : Stage σ) : Nat → σ → σ
  | 0, w => w
  | fuel + 1, w =>
    match stage.react? w with
    | some w' => settleFor stage fuel w'
    | none => w

/-- more than ever happens at one moment of a rehearsal -/
def plenty : Nat := 10000000

/-- lets things happen until all is quiet -/
def settle (stage : Stage σ) (w : σ) : σ := stage.settleFor plenty w

/-- plays up to a moment, or until `stop`; each round of the recursion moves the clock -/
def playFor (stage : Stage σ) (stop : σ → Bool) (target : Nat) : Nat → σ → σ
  | 0, w => w
  | fuel + 1, w =>
    if stop w then w
    else
      match stage.next? w with
      | some t =>
        if t ≤ target then playFor stage stop target fuel (stage.settle (stage.moveTo (max t (stage.now w)) w))
        else stage.moveTo target w
      | none => stage.moveTo target w

/-- plays up to a moment, or until `stop` -/
def playUntil (stage : Stage σ) (stop : σ → Bool) (target : Nat) (w : σ) : σ :=
  let w := stage.settle w
  stage.playFor stop target (target - stage.now w + 2) w

/-- plays for a while -/
def advance (stage : Stage σ) (ms : Nat) (w : σ) : σ := stage.playUntil (fun _ => false) (stage.now w + ms) w

/-- longer than any rehearsal waits -/
def horizon : Nat := Nat.pow 10 18

/-- plays until `stop`, however long it takes -/
def await (stage : Stage σ) (stop : σ → Bool) (w : σ) : σ := stage.playUntil stop (stage.now w + horizon) w

end Stage

end Shardwire.Rehearsal
