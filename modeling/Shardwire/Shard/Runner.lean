import Shardwire.Budget
import Shardwire.Outbox
import Shardwire.Shard.Clock

/-
A shard at work.

`Shard.step` says what a shard does when nothing holds it up. A runner is a shard with all that can: the outbox in front
of its connection, the budget of commands, and the end of the clock.

A shard that has a frame to send while the outbox has no room waits with it in hand, and takes notice of nothing else
until there is room: of no frame, no permit, no deadline and no command. Callers can still leave commands for it, and it
can be stopped by force. A handshake is written when there is room, and its time begins then. Anything else that takes a
frame is dealt with as a whole when there is room, but for what is shown and stopped first: a shard that is to close its
connection is shown as closing, and its heartbeat is over. A command that is sent waits for the budget before it waits
for room.

The heartbeat goes on beside all this. A beat that finds no room waits as well, already recorded as sent and with the
number it was made with, and there is no other until it is out.

When the receiver of the frames is gone, whoever waits for room learns that none will come.
-/

namespace Shardwire

/-- what a shard waits with -/
inductive Runner.Hand where
  /-- the client's part of a handshake -/
  | handshake (m : Message)
  /-- something to be answered with a frame -/
  | reply (x : Shard.Stimulus)
  /-- something to close the connection for -/
  | parting (x : Shard.Stimulus)
  /-- the next command, which the budget does not allow yet -/
  | command

structure Runner where
  shard : Shard
  outbox : Outbox
  /-- what the shard waits with; nothing while it is free -/
  hand : Option Runner.Hand
  /-- whether the heartbeat ended with a beat in hand -/
  muted : Bool
  /-- when the time of a handshake ends that had to wait for room; the shard reckons from when it began to wait -/
  extended : Option Nat
  budget : Budget

namespace Runner

inductive Move where
  /-- something reaches the shard -/
  | meet (x : Shard.Stimulus)
  /-- the other side takes a frame out of the outbox; or, when the receiver is gone, whoever waits learns of it -/
  | serve
  /-- the budget grows by a command -/
  | refill

/-- a runner and what it did -/
structure Turn where
  runner : Runner
  /-- the steps its shard made -/
  steps : List Shard.Stimulus
  acts : List Shard.Act

namespace Turn

def still (r : Runner) : Turn := ⟨r, [], []⟩

def next (t : Turn) (f : Runner → Turn) : Turn :=
  ⟨(f t.runner).runner, t.steps ++ (f t.runner).steps, t.acts ++ (f t.runner).acts⟩

end Turn

/-- a shard without a connection -/
def idle (s : Shard) : Runner := ⟨s, .empty, none, false, none, .gateway⟩

/-- goes on with a shard; everything else belongs to a connection -/
def follow (s : Shard) (r : Runner) : Runner := if s.isOnline then { r with shard := s } else idle s

/-- whether it waits for room to close its connection -/
def isParting (r : Runner) : Bool :=
  match r.hand with
  | some (.parting _) => true
  | _ => false

/-! ## Steps of the shard -/

/-- the shard makes a step, and its frames go into the outbox -/
def perform (now : Nat) (x : Shard.Stimulus) (r : Runner) : Turn :=
  let t := r.shard.stepClocked now x
  ⟨{ r with outbox := r.outbox.put (t.acts.countP Shard.Act.isFrame) }.follow t.shard, r.shard.clocked now x, t.acts⟩

/-- what is shown before a connection is closed -/
def isShown : Shard.Act → Bool
  | .publish _ => true
  | _ => false

/-- the shard waits for room, where its step would send this frame -/
def suspend (now : Nat) (x : Shard.Stimulus) (frame : Shard.Act) (r : Runner) : Turn :=
  let t := r.shard.step now x
  match frame with
  | .close _ =>
    ⟨{ r with hand := some (.parting x), outbox := r.outbox.dropBeats.await .shard }, [], t.acts.takeWhile isShown⟩
  | .write m =>
    if t.isTimed then
      ⟨{ r with shard := t.shard, hand := some (.handshake m), outbox := r.outbox.await .shard }, [x],
        t.acts.filter fun a => !a.isFrame⟩
    else .still { r with hand := some (.reply x), outbox := r.outbox.await .shard }
  | _ => .still r

/-- a free shard deals with something, or waits for room to do so -/
def deal (now : Nat) (x : Shard.Stimulus) (r : Runner) : Turn :=
  match (r.shard.step now x).acts.find? Shard.Act.isFrame with
  | some frame => if r.outbox.hasRoom then r.perform now x else r.suspend now x frame
  | none => r.perform now x

/-- a free shard takes the next command, once the budget allows it if it is to be sent -/
def take (now : Nat) (r : Runner) : Turn :=
  if r.shard.sendsNext then
    match r.budget.take? with
    | some b => { r with budget := b }.deal now .take
    | none => .still { r with hand := some .command }
  else r.deal now .take

/-- the time of a handshake is up, if it is -/
def expire (now : Nat) (r : Runner) : Turn :=
  if r.extended.any fun time => now < time then .still r else r.deal now .timeout

/-- a tick of the heartbeat -/
def beat (now : Nat) (r : Runner) : Turn :=
  if r.muted || r.isParting || r.outbox.holdsBeat then .still r
  else
    let t := r.shard.step now .beat
    if t.acts.any Shard.Act.isFrame && !r.outbox.hasRoom then
      ⟨{ r with shard := t.shard, outbox := r.outbox.await (.beat r.shard.sequence) }, [.beat], []⟩
    else r.perform now .beat

/-- the receiver of the frames goes; a beat that waits is lost, and so are those to come -/
def lose (now : Nat) (r : Runner) : Turn :=
  { r with muted := r.muted || r.outbox.holdsBeat, outbox := r.outbox.dropBeats }.perform now .receiverGone

/-- something reaches the shard -/
def meet (now : Nat) (x : Shard.Stimulus) (r : Runner) : Turn :=
  match x with
  | .submit ticket m =>
    if r.isParting then ⟨r, [], [.answer ticket (some (.shardNotReady r.shard.id))]⟩ else r.perform now (.submit ticket m)
  | .stop => r.perform now .stop
  | .abandon => r.perform now .abandon
  | .abort => r.perform now .abort
  | .receiverGone => r.lose now
  | .beat => r.beat now
  | .take => if r.hand.isSome then .still r else r.take now
  | .timeout => if r.hand.isSome then .still r else r.expire now
  | x => if r.hand.isSome then .still r else r.deal now x

/-! ## Steps of the outbox and the budget -/

/-- a handshake that waited is written, and its time begins -/
def begin (now : Nat) (m : Message) (r : Runner) : Turn :=
  let t : Turn := ⟨{ r with
    outbox := r.outbox.put 1
    extended := some (now + r.shard.profile.identifyTimeout) }, [], [.write m]⟩
  if r.shard.outlasts now then t.next (perform now .abort) else t

/-- the shard goes on with what it waited with -/
def resume (now : Nat) (r : Runner) : Turn :=
  let free := { r with hand := none }
  match r.hand with
  | some (.handshake m) => if r.shard.isWritable then free.begin now m else free.perform now .dropped
  | some (.reply x) => free.perform now x
  | some (.parting x) =>
    let t := free.perform now x
    ⟨t.runner, t.steps, t.acts.dropWhile isShown⟩
  | _ => .still r

/-- whoever waited longest is served -/
def serve (now : Nat) (r : Runner) : Turn :=
  let rest := { r with outbox := r.outbox.taken }
  match r.outbox.waiting with
  | .shard :: _ => rest.resume now
  | .beat seq :: _ => ⟨{ rest with outbox := rest.outbox.put 1 }, [], [.write (.heartbeat seq)]⟩
  | [] => .still rest

/-- the budget grows, and a command may have waited for it -/
def refill (now : Nat) (r : Runner) : Turn :=
  let r := { r with budget := r.budget.refill }
  match r.hand with
  | some .command => { r with hand := none }.take now
  | _ => .still r

def step (now : Nat) (v : Move) (r : Runner) : Turn :=
  match v with
  | .meet x => r.meet now x
  | .serve => r.serve now
  | .refill => r.refill now

/-! ## What is due -/

/-- when the deadline or wait in force ends; a shard that waits for room or for the budget has none -/
def timeoutDue? (r : Runner) : Option Nat :=
  if r.hand.isSome then none else r.shard.timeoutDue?.map fun due => max due (r.extended.getD 0)

/-- when the next heartbeat tick is due -/
def beatDue? (r : Runner) : Option Nat :=
  if r.muted || r.isParting || r.outbox.holdsBeat then none else r.shard.beatDue?

end Runner

end Shardwire
