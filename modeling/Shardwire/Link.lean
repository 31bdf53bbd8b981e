import Shardwire.Fault
import Shardwire.Wire.Frame

/-
Links in memory: connections between two ends that need no network.

A link carries frames both ways. What is queued is still delivered after its sender is gone; once the receiver is gone,
nothing can be sent. An exchange holds the links that clients asked for until a listener accepts them; links that wait
when the listener goes away are lost.
-/

namespace Shardwire

/-- one end of a link -/
structure Link.End where
  /-- whether someone holds it -/
  held : Bool
  /-- frames on their way to it -/
  inbound : List Frame
  deriving DecidableEq, Repr

structure Link where
  url : String
  client : Link.End
  server : Link.End
  deriving DecidableEq, Repr

namespace Link

def new (url : String) : Link := ⟨url, ⟨true, []⟩, ⟨true, []⟩⟩

/-- the two sides of a link -/
inductive Side where
  | client
  | server
  deriving DecidableEq, Repr

def near (l : Link) : Side → End
  | .client => l.client
  | .server => l.server

def far (l : Link) : Side → End
  | .client => l.server
  | .server => l.client

def setNear (l : Link) (side : Side) (e : End) : Link :=
  match side with
  | .client => { l with client := e }
  | .server => { l with server := e }

def setFar (l : Link) (side : Side) (e : End) : Link :=
  match side with
  | .client => { l with server := e }
  | .server => { l with client := e }

/-- sends a frame from one side, if the other is there -/
def send (l : Link) (side : Side) (f : Frame) : Bool × Link :=
  let e := l.far side
  if e.held then (true, l.setFar side { e with inbound := e.inbound ++ [f] }) else (false, l)

/-- what a side finds when it looks for a frame -/
inductive Found where
  | frame (f : Frame)
  | empty
  /-- the other side is gone, and nothing is left of it -/
  | ended
  deriving DecidableEq, Repr

def receive (l : Link) (side : Side) : Found × Link :=
  let e := l.near side
  match e.inbound with
  | f :: rest => (.frame f, l.setNear side { e with inbound := rest })
  | [] => (if (l.far side).held then .empty else .ended, l)

/-- a side is let go of; what was on its way to it is lost -/
def release (l : Link) (side : Side) : Link := l.setNear side ⟨false, []⟩

end Link

structure Exchange where
  listening : Bool
  links : List Link
  /-- links that wait for the listener, in order -/
  pending : List Nat
  /-- accepted links, in order -/
  accepted : List Nat
  deriving DecidableEq, Repr

namespace Exchange

def fresh : Exchange := ⟨true, [], [], []⟩

/-- asks for a link; it gets the next number -/
def connect (x : Exchange) (url : String) : Except Fault (Nat × Exchange) :=
  if x.listening then
    let n := x.links.length
    .ok (n, { x with links := x.links ++ [Link.new url], pending := x.pending ++ [n] })
  else .error (.transport "connection refused")

/-- the next link that waits, and its number among the accepted ones -/
def accept (x : Exchange) : Option (Nat × Link) × Exchange :=
  match x.pending with
  | n :: rest =>
    ((x.links[n]?).map fun l => (x.accepted.length, l), { x with pending := rest, accepted := x.accepted ++ [n] })
  | [] => (none, x)

def update (x : Exchange) (n : Nat) (l : Link) : Exchange := { x with links := x.links.set n l }

/-- the listener goes away, with every link it has not accepted -/
def dropListener (x : Exchange) : Exchange :=
  { x with
    listening := false
    pending := []
    links := x.links.zipIdx.map fun p => if x.pending.contains p.2 then p.1.release .server else p.1 }

/-- the link a side knows by a number, if the side still holds it -/
def find? (x : Exchange) (side : Link.Side) (n : Nat) : Option (Nat × Link) :=
  let index := match side with
    | .client => some n
    | .server => x.accepted[n]?
  match index with
  | none => none
  | some i =>
    match x.links[i]? with
    | some l => if (l.near side).held then some (i, l) else none
    | none => none

end Exchange

end Shardwire
