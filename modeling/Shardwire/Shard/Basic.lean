import Shardwire.Connection
import Shardwire.Fault
import Shardwire.ShardProfile
import Shardwire.Wire.Event

/-
One shard: what it keeps, what can happen to it, and what it does.

A shard lives through one connection after another. Across them it keeps its session with the sequence number of the
last event, its backoff and its mailbox of commands; the phase says where in a connection's life it is. Everything that
reaches it is a stimulus, everything it does to the world around it an act. `Shard.Step` says which acts follow which
stimulus.

Times are in milliseconds; a stimulus comes with the time it happens at, so the shard needs no clock of its own.
-/

namespace Shardwire

/-- what callers ask of a shard -/
inductive Shard.Command where
  /-- send a message and answer the ticket -/
  | send (ticket : Nat) (m : Message)
  /-- close the connection and stop -/
  | stop

inductive Shard.Phase where
  /-- a connection was asked for -/
  | dialling (resume : Bool) (deadline : Nat)
  /-- a connection is open; `queued` while a call for an identify permit is out -/
  | online (c : Connection) (queued : Bool)
  /-- until the next attempt -/
  | waiting (deadline : Nat)
  | ended

structure Shard where
  profile : ShardProfile
  address : ShardAddress
  session : Option Session
  sequence : Sequence
  /-- whether the gateway would take the session up again -/
  resumable : Bool
  backoff : Backoff
  /-- when the last connection became ready, until it ends -/
  readySince : Option Nat
  /-- what callers see -/
  status : Status
  /-- commands that were not taken yet, in order of arrival -/
  mailbox : List Shard.Command
  /-- whether anyone is left who could send commands -/
  attended : Bool
  phase : Shard.Phase

namespace Shard

inductive Stimulus where
  /-- the connection asked for is open -/
  | opened
  /-- the connection asked for was refused -/
  | refused
  /-- a text frame; `draw` is the chance that a first heartbeat delay is taken from -/
  | text (s : String) (draw : Nat)
  /-- a close frame -/
  | closed (closure : Option Closure)
  /-- the connection is gone -/
  | dropped
  /-- the receiver of its frames is gone: none is taken any more -/
  | receiverGone
  /-- the identify permit -/
  | granted
  /-- a tick of the heartbeat -/
  | beat
  /-- the heartbeat's report of a missed acknowledgement -/
  | missed
  /-- a deadline or the end of a wait -/
  | timeout
  /-- a caller wants a message sent -/
  | submit (ticket : Nat) (m : Message)
  /-- a caller wants the shard to stop -/
  | stop
  /-- the last caller is gone -/
  | abandon
  /-- the next command in the mailbox is taken -/
  | take
  /-- the shard is stopped by force -/
  | abort

inductive Act where
  /-- asks for a connection -/
  | dial (url : String)
  /-- sends a message on the connection -/
  | write (m : Message)
  /-- sends a close frame on the connection -/
  | close (c : Closure)
  /-- lets go of the connection -/
  | hangUp
  /-- shows callers a new status -/
  | publish (s : Status)
  /-- hands on an event -/
  | deliver (d : Dispatch)
  /-- reports why it stopped for good -/
  | fail (f : Fault)
  /-- calls for an identify permit of its bucket -/
  | enqueue
  /-- takes that call back -/
  | withdraw
  /-- answers a caller: the message went out, or why it will not -/
  | answer (ticket : Nat) (fault : Option Fault)

/-- whether it sends a frame -/
def Act.isFrame : Act → Bool
  | .write _ | .close _ => true
  | _ => false

/-- a shard and what it did -/
structure Turn where
  shard : Shard
  acts : List Act

namespace Turn

def still (s : Shard) : Turn := ⟨s, []⟩

def next (t : Turn) (f : Shard → Turn) : Turn := ⟨(f t.shard).shard, t.acts ++ (f t.shard).acts⟩

theorem next_next (t : Turn) (f g : Shard → Turn) : (t.next f).next g = t.next fun s => (f s).next g := by
  simp [next, List.append_assoc]

end Turn

def id (s : Shard) : UInt32 := s.address.id

/-- a shard that is about to ask for its first connection -/
def fresh (profile : ShardProfile) (address : ShardAddress) (now : Nat) : Shard where
  profile := profile
  address := address
  session := none
  sequence := none
  resumable := false
  backoff := profile.backoff
  readySince := none
  status := .disconnected
  mailbox := []
  attended := true
  phase := .waiting now

/-- what it would resume with -/
def resume? (s : Shard) : Option Resume :=
  match s.session, s.sequence with
  | some x, some seq => some ⟨s.profile.token, x.id, seq⟩
  | _, _ => none

def canResume (s : Shard) : Bool := s.resumable && s.resume?.isSome

/-- what it would identify with -/
def identity (s : Shard) : Identify where
  token := s.profile.token
  properties := s.profile.properties
  intents := s.profile.intents
  shard := some s.address
  largeThreshold := s.profile.largeThreshold
  presence := s.profile.presence

/-- gives the session up -/
def forget (s : Shard) : Shard := { s with session := none, sequence := none, resumable := false }

/-- where the next connection goes -/
def url (s : Shard) (resume : Bool) : String :=
  match s.session with
  | some x => endpoint (if resume then x.urlOr s.profile.gatewayUrl else s.profile.gatewayUrl)
  | none => endpoint s.profile.gatewayUrl

def isEnded (s : Shard) : Bool :=
  match s.phase with
  | .ended => true
  | _ => false

/-- whether whoever waits for the shard to come up has an answer -/
def isSettled (s : Shard) : Bool := s.status.isSettled || s.isEnded

/-- whether a command, or the end of all callers, waits to be taken -/
def hasCommand (s : Shard) : Bool := !s.isEnded && (!s.mailbox.isEmpty || !s.attended)

/-- when the deadline or wait in force ends -/
def timeoutDue? (s : Shard) : Option Nat :=
  match s.phase with
  | .dialling _ deadline | .waiting deadline => some deadline
  | .online c _ => if c.status.isReady then none else c.deadline
  | .ended => none

/-- when the next heartbeat tick is due -/
def beatDue? (s : Shard) : Option Nat :=
  match s.phase with
  | .online c _ => c.beatDue?
  | _ => none

/-- whether a connection is open -/
def isOnline (s : Shard) : Bool :=
  match s.phase with
  | .online _ _ => true
  | _ => false

/-- whether it has a connection that takes frames -/
def isWritable (s : Shard) : Bool :=
  match s.phase with
  | .online c _ => c.writable
  | _ => false

/-- whether the next command is a message that it would send -/
def sendsNext (s : Shard) : Bool :=
  match s.phase, s.mailbox with
  | .online c _, .send _ _ :: _ => c.status.isReady
  | _, _ => false

/-- whether a missed acknowledgement waits to be reported -/
def isZombie (s : Shard) : Bool :=
  match s.phase with
  | .online c _ => c.isZombie
  | _ => false

end Shard

end Shardwire
